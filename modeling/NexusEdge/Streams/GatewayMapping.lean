import Mathlib.Data.List.Pairwise
import NexusEdge.Base.JsSet
import NexusEdge.Base.Loop
import NexusEdge.Base.Thinning
import NexusEdge.Platform.LinkGraph

/-!
# Gateway–device assignment

Library `Streams`. `getHostGateways`, `getOptimalGatewayDeviceMapping` and `difference`
of `sensor-stream-manager.js:425–518`. The pairwise difference loop thins the family of
remote device lists, so no device is lost and no two remote gateways keep the same one.
-/

namespace NexusEdge.Streams
open NexusEdge.Base NexusEdge.Platform

/-! ### Host gateways -/

/-- One match of the inner loop, `sensor-stream-manager.js:434–447`. -/
def recordMatch (gatewayData : GatewayData) (gatewayDeviceMapping : JsObject (List String))
    (targetDeviceId : String) : JsObject (List String) :=
  match gatewayData.devices.find? (fun device ↦ device.id == targetDeviceId) with
  | some _ =>
    if gatewayDeviceMapping.hasOwn gatewayData.ip then
      gatewayDeviceMapping.modify gatewayData.ip (· ++ [targetDeviceId])
    else gatewayDeviceMapping.set gatewayData.ip [targetDeviceId]
  | none => gatewayDeviceMapping

/-- `getHostGateways`, `sensor-stream-manager.js:425–450`. -/
def getHostGateways (devicesIds : List String) (linkGraph : LinkGraph) : JsObject (List String) :=
  linkGraph.data.ownEntries.foldl
    (fun mapping entry ↦ devicesIds.foldl (recordMatch entry.2) mapping) JsObject.empty

/-! ### Pairwise difference -/

/-- `difference`, `sensor-stream-manager.js:512–518`. -/
def difference (setA setB : JsSet String) : JsSet String := setB.toList.foldl JsSet.delete setA

/-- `[...difference(new Set(devicesA), new Set(devicesB))]`. -/
def exclusiveDevices (devicesA devicesB : List String) : List String :=
  (difference (JsSet.ofList devicesA) (JsSet.ofList devicesB)).toList

/-- Body of the double loop: the shorter list loses what the longer one holds,
`sensor-stream-manager.js:483–489`. -/
def subtractSmaller (gatewayI : String) (mapping : JsObject (List String)) (gatewayJ : String) :
    JsObject (List String) :=
  let devicesI := (mapping.get? gatewayI).getD []
  let devicesJ := (mapping.get? gatewayJ).getD []
  if devicesI.length ≤ devicesJ.length then
    mapping.set gatewayI (exclusiveDevices devicesI devicesJ)
  else mapping.set gatewayJ (exclusiveDevices devicesJ devicesI)

/-- The loop over `i < j`, `sensor-stream-manager.js:481–491`. -/
def pairwiseDifference : List String → JsObject (List String) → JsObject (List String)
  | [], mapping => mapping
  | gatewayI :: rest, mapping =>
    pairwiseDifference rest (rest.foldl (subtractSmaller gatewayI) mapping)

/-- One remote gateway of the first loop, `sensor-stream-manager.js:467–474`. -/
def addRemote (localGatewayIp : String) (localDevices : List String)
    (remote : JsObject (List String)) (entry : String × List String) : JsObject (List String) :=
  if entry.1 ≠ localGatewayIp then
    let exclusive := exclusiveDevices entry.2 localDevices
    if exclusive.length ≠ 0 then remote.set entry.1 exclusive else remote
  else remote

/-- Deletion of one empty gateway, `sensor-stream-manager.js:498–500`. -/
def dropEmpty (mapping : JsObject (List String)) (entry : String × List String) :
    JsObject (List String) :=
  if entry.2.length = 0 then mapping.erase entry.1 else mapping

/-- `getOptimalGatewayDeviceMapping`, `sensor-stream-manager.js:458–504`. -/
def getOptimalGatewayDeviceMapping (localGatewayIp : String)
    (gatewayDeviceMapping : JsObject (List String)) : JsObject (List String) :=
  let localDevices := (gatewayDeviceMapping.get? localGatewayIp).getD []
  let remote := gatewayDeviceMapping.ownEntries.foldl
    (addRemote localGatewayIp localDevices) JsObject.empty
  let combined := (JsObject.empty.set localGatewayIp localDevices).assign
    (pairwiseDifference remote.keys remote)
  combined.ownEntries.foldl dropEmpty combined

/-! ### The assigned devices as a family of sets -/

/-- The devices a mapping lists for each gateway. -/
def assigned (mapping : JsObject (List String)) (gatewayIp : String) : Set String :=
  {d | ∃ devices, mapping.get? gatewayIp = some devices ∧ d ∈ devices}

/-- A device is assigned when the list stored for the gateway contains it. -/
theorem mem_assigned (m : JsObject (List String)) (g d : String) :
    d ∈ assigned m g ↔ ∃ devices, m.get? g = some devices ∧ d ∈ devices := Iff.rfl

/-- The empty mapping assigns nothing. -/
theorem not_mem_assigned_empty (g d : String) : d ∉ assigned JsObject.empty g := by
  rw [mem_assigned]
  rintro ⟨devices, hg, _⟩
  simp at hg

/-- Storing a list replaces the devices of that gateway only. -/
theorem mem_assigned_set (m : JsObject (List String)) (k g d : String) (devices : List String) :
    d ∈ assigned (m.set k devices) g ↔ if g = k then d ∈ devices else d ∈ assigned m g := by
  simp only [mem_assigned, JsObject.get?_set]
  split <;> simp

/-- Reading with an empty default is membership in the assigned set. -/
theorem mem_getD_iff (m : JsObject (List String)) (g d : String) :
    d ∈ (m.get? g).getD [] ↔ d ∈ assigned m g := by
  rw [mem_assigned]
  cases h : m.get? g <;> simp

/-- The spread difference lists exactly the devices of the first list outside the second. -/
theorem mem_exclusiveDevices (devicesA devicesB : List String) (d : String) :
    d ∈ exclusiveDevices devicesA devicesB ↔ d ∈ devicesA ∧ d ∉ devicesB := by
  rw [exclusiveDevices, difference, JsSet.mem_foldl_delete, JsSet.mem_ofList, JsSet.mem_ofList]

/-- The spread difference lists no device twice. -/
theorem nodup_exclusiveDevices (devicesA devicesB : List String) :
    (exclusiveDevices devicesA devicesB).Nodup :=
  (difference (JsSet.ofList devicesA) (JsSet.ofList devicesB)).nodup

/-! ### Host gateways list exactly what the link graph lists -/

private theorem find?_isSome_iff (gatewayData : GatewayData) (d : String) :
    (gatewayData.devices.find? (fun device ↦ device.id == d)).isSome ↔ gatewayData.Hosts d := by
  rw [List.find?_isSome, GatewayData.Hosts]
  simp only [beq_iff_eq]

private theorem recordMatch_of_hosts {gatewayData : GatewayData} {target : String}
    (h : gatewayData.Hosts target) (m : JsObject (List String)) (g d : String) :
    d ∈ assigned (recordMatch gatewayData m target) g ↔
      d ∈ assigned m g ∨ (d = target ∧ g = gatewayData.ip) := by
  obtain ⟨device, hf⟩ := Option.isSome_iff_exists.mp ((find?_isSome_iff gatewayData target).mpr h)
  simp only [recordMatch, hf]
  split
  · next hown =>
    obtain ⟨devices, hv⟩ := (JsObject.hasOwn_iff _ _).mp hown
    simp only [mem_assigned, JsObject.get?_modify]
    by_cases hg : g = gatewayData.ip
    · subst hg
      simp [hv]
    · simp [hg]
  · next hown =>
    rw [mem_assigned_set]
    by_cases hg : g = gatewayData.ip
    · subst hg
      have hn : d ∉ assigned m gatewayData.ip := by
        rintro ⟨devices, hv, _⟩
        exact hown ((JsObject.hasOwn_iff _ _).mpr ⟨devices, hv⟩)
      simp [hn]
    · simp [hg]

private theorem recordMatch_of_not_hosts {gatewayData : GatewayData} {target : String}
    (h : ¬ gatewayData.Hosts target) (m : JsObject (List String)) :
    recordMatch gatewayData m target = m := by
  have hf : gatewayData.devices.find? (fun device ↦ device.id == target) = none := by
    rw [← Option.not_isSome_iff_eq_none, find?_isSome_iff]
    exact h
  simp only [recordMatch, hf]

/-- A match adds the target device to the gateway's list and nothing else. -/
theorem mem_assigned_recordMatch (gatewayData : GatewayData) (m : JsObject (List String))
    (target g d : String) :
    d ∈ assigned (recordMatch gatewayData m target) g ↔
      d ∈ assigned m g ∨ (d = target ∧ g = gatewayData.ip ∧ gatewayData.Hosts d) := by
  by_cases h : gatewayData.Hosts target
  · rw [recordMatch_of_hosts h]
    constructor
    · rintro (hm | ⟨rfl, hg⟩)
      · exact Or.inl hm
      · exact Or.inr ⟨rfl, hg, h⟩
    · rintro (hm | ⟨hd, hg, _⟩)
      · exact Or.inl hm
      · exact Or.inr ⟨hd, hg⟩
  · rw [recordMatch_of_not_hosts h]
    constructor
    · exact Or.inl
    · rintro (hm | ⟨rfl, _, hh⟩)
      · exact hm
      · exact False.elim (h hh)

private theorem mem_assigned_recordMatches (ids : List String) (entry : String × GatewayData)
    (m : JsObject (List String)) (g d : String) :
    d ∈ assigned (ids.foldl (recordMatch entry.2) m) g ↔
      d ∈ assigned m g ∨ (d ∈ ids ∧ g = entry.2.ip ∧ entry.2.Hosts d) := by
  rw [foldl_iff_exists (P := fun m ↦ d ∈ assigned m g)
    (fun s a ↦ mem_assigned_recordMatch entry.2 s a g d)]
  constructor
  · rintro (hm | ⟨a, ha, rfl, hh⟩)
    · exact Or.inl hm
    · exact Or.inr ⟨ha, hh⟩
  · rintro (hm | ⟨hd, hh⟩)
    · exact Or.inl hm
    · exact Or.inr ⟨d, hd, rfl, hh⟩

/-- The host mapping lists exactly the required devices that a gateway with that ip lists. -/
theorem mem_assigned_getHostGateways (ids : List String) (linkGraph : LinkGraph)
    (g d : String) :
    d ∈ assigned (getHostGateways ids linkGraph) g ↔ d ∈ ids ∧ linkGraph.Lists g d := by
  rw [getHostGateways, foldl_iff_exists (P := fun m ↦ d ∈ assigned m g)
    (fun m entry ↦ mem_assigned_recordMatches ids entry m g d)]
  constructor
  · rintro (hm | ⟨⟨id, data⟩, he, hd, hg, hh⟩)
    · exact False.elim (not_mem_assigned_empty g d hm)
    · exact ⟨hd, id, data, (JsObject.mem_ownEntries_iff _ _ _).mp he, hg.symm, hh⟩
  · rintro ⟨hd, id, data, he, hg, hh⟩
    exact Or.inr ⟨(id, data), (JsObject.mem_ownEntries_iff _ _ _).mpr he, hd, hg.symm, hh⟩

private theorem getD_recordMatch (gatewayData : GatewayData) (m : JsObject (List String))
    (target g : String) :
    ((recordMatch gatewayData m target).get? g).getD [] = (m.get? g).getD [] ++
      if gatewayData.ip = g then [target].filter gatewayData.Hosts else [] := by
  by_cases h : gatewayData.Hosts target
  · obtain ⟨device, hf⟩ := Option.isSome_iff_exists.mp ((find?_isSome_iff gatewayData target).mpr h)
    have hfilter : [target].filter gatewayData.Hosts = [target] := by simp [h]
    simp only [recordMatch, hf, hfilter]
    split
    · next hown =>
      obtain ⟨devices, hv⟩ := (JsObject.hasOwn_iff _ _).mp hown
      rw [JsObject.get?_modify]
      by_cases hg : gatewayData.ip = g
      · subst hg
        simp [hv]
      · simp [hg, Ne.symm hg]
    · next hown =>
      have hnone : m.get? gatewayData.ip = none := by simpa [JsObject.hasOwn] using hown
      rw [JsObject.get?_set]
      by_cases hg : gatewayData.ip = g
      · subst hg
        simp [hnone]
      · simp [hg, Ne.symm hg]
  · rw [recordMatch_of_not_hosts h]
    simp [h]

private theorem getD_recordMatches (ids : List String) (gatewayData : GatewayData)
    (m : JsObject (List String)) (g : String) :
    ((ids.foldl (recordMatch gatewayData) m).get? g).getD [] = (m.get? g).getD [] ++
      if gatewayData.ip = g then ids.filter gatewayData.Hosts else [] := by
  induction ids generalizing m with
  | nil => simp
  | cons target ids ih =>
    rw [List.foldl_cons, ih, getD_recordMatch, List.append_assoc]
    split
    · rw [← List.filter_append, List.singleton_append]
    · rfl

/-- The list stored for an ip: for each entry with that ip the required devices it lists, in
the order and as often as they are required. -/
theorem getD_getHostGateways (ids : List String) (linkGraph : LinkGraph) (g : String) :
    ((getHostGateways ids linkGraph).get? g).getD [] = linkGraph.data.ownEntries.flatMap
      fun entry ↦ if entry.2.ip = g then ids.filter entry.2.Hosts else [] := by
  have hfold (l : List (String × GatewayData)) (m : JsObject (List String)) :
      ((l.foldl (fun mapping entry ↦ ids.foldl (recordMatch entry.2) mapping) m).get? g).getD [] =
        (m.get? g).getD [] ++
          l.flatMap fun entry ↦ if entry.2.ip = g then ids.filter entry.2.Hosts else [] := by
    induction l generalizing m with
    | nil => simp
    | cons entry l ih =>
      rw [List.foldl_cons, ih, getD_recordMatches, List.flatMap_cons, List.append_assoc]
  exact hfold linkGraph.data.ownEntries JsObject.empty

/-! ### The double loop thins and separates -/

/-- One comparison subtracts one of the two lists from the other. -/
theorem assigned_subtractSmaller (m : JsObject (List String)) (i j : String) :
    assigned (subtractSmaller i m j) = shrink (assigned m) i j ∨
      assigned (subtractSmaller i m j) = shrink (assigned m) j i := by
  have stored (a b : String) :
      assigned (m.set a (exclusiveDevices ((m.get? a).getD []) ((m.get? b).getD []))) =
        shrink (assigned m) a b := by
    funext k
    ext d
    rw [mem_assigned_set, mem_exclusiveDevices, mem_getD_iff, mem_getD_iff, shrink]
    by_cases hk : k = a
    · subst hk
      rw [if_pos rfl, Function.update_self]
      exact Iff.rfl
    · rw [if_neg hk, Function.update_of_ne hk]
  simp only [subtractSmaller]
  split
  · exact Or.inl (stored i j)
  · exact Or.inr (stored j i)

private theorem subtractSmaller_spec (m : JsObject (List String)) {i j : String} (h : i ≠ j) :
    Thins (assigned m) (assigned (subtractSmaller i m j)) ∧
      Disjoint (assigned (subtractSmaller i m j) i) (assigned (subtractSmaller i m j) j) := by
  rcases assigned_subtractSmaller m i j with he | he
  · rw [he]
    exact ⟨shrink_thins _ h, shrink_disjoint _ h⟩
  · rw [he]
    exact ⟨shrink_thins _ h.symm, (shrink_disjoint _ h.symm).symm⟩

-- Once separated from `i`, a gateway stays separated: later comparisons only thin.
private theorem foldl_subtractSmaller_spec (i : String) (rest : List String) (h : i ∉ rest)
    (m : JsObject (List String)) :
    Thins (assigned m) (assigned (rest.foldl (subtractSmaller i) m)) ∧
      ∀ j ∈ rest, Disjoint (assigned (rest.foldl (subtractSmaller i) m) i)
        (assigned (rest.foldl (subtractSmaller i) m) j) := by
  induction rest generalizing m with
  | nil => exact ⟨Thins.refl _, by simp⟩
  | cons j rest ih =>
    rw [List.mem_cons, not_or] at h
    obtain ⟨ht, hd⟩ := subtractSmaller_spec m h.1
    obtain ⟨hrt, hrd⟩ := ih h.2 (subtractSmaller i m j)
    rw [List.foldl_cons]
    refine ⟨ht.trans hrt, ?_⟩
    intro k hk
    rcases List.mem_cons.mp hk with rfl | hk
    · exact hrt.disjoint hd
    · exact hrd k hk

/-- The double loop loses no device and separates every two of the listed gateways. -/
theorem pairwiseDifference_spec (gateways : List String) (h : gateways.Nodup)
    (m : JsObject (List String)) :
    Thins (assigned m) (assigned (pairwiseDifference gateways m)) ∧
      gateways.Pairwise fun i j ↦ Disjoint (assigned (pairwiseDifference gateways m) i)
        (assigned (pairwiseDifference gateways m) j) := by
  induction gateways generalizing m with
  | nil => exact ⟨Thins.refl _, List.Pairwise.nil⟩
  | cons i rest ih =>
    rw [List.nodup_cons] at h
    obtain ⟨ht, hd⟩ := foldl_subtractSmaller_spec i rest h.1 m
    obtain ⟨hrt, hrd⟩ := ih h.2 (rest.foldl (subtractSmaller i) m)
    rw [pairwiseDifference]
    exact ⟨ht.trans hrt, List.pairwise_cons.mpr ⟨fun j hj ↦ hrt.disjoint (hd j hj), hrd⟩⟩

private theorem get?_subtractSmaller_of_ne (m : JsObject (List String)) {i j k : String}
    (hi : k ≠ i) (hj : k ≠ j) : (subtractSmaller i m j).get? k = m.get? k := by
  simp only [subtractSmaller]
  split
  · rw [JsObject.get?_set_ne _ _ hi]
  · rw [JsObject.get?_set_ne _ _ hj]

/-- The double loop writes only to the listed gateways. -/
theorem get?_pairwiseDifference_of_not_mem (gateways : List String) (m : JsObject (List String))
    {k : String} (hk : k ∉ gateways) : (pairwiseDifference gateways m).get? k = m.get? k := by
  induction gateways generalizing m with
  | nil => rfl
  | cons i rest ih =>
    rw [List.mem_cons, not_or] at hk
    rw [pairwiseDifference, ih _ hk.2]
    refine foldl_invariant (P := fun s : JsObject _ ↦ s.get? k = m.get? k) rest ?_ m rfl
    intro j hj s hs
    have hkj : k ≠ j := fun he ↦ hk.2 (he ▸ hj)
    rw [get?_subtractSmaller_of_ne s hk.1 hkj, hs]

private theorem nodupLists_set {m : JsObject (List String)}
    (hm : ∀ g devices, m.get? g = some devices → devices.Nodup) (k : String)
    {stored : List String} (hs : stored.Nodup) :
    ∀ g devices, (m.set k stored).get? g = some devices → devices.Nodup := by
  intro g devices h
  rw [JsObject.get?_set] at h
  split at h
  · exact Option.some.inj h ▸ hs
  · exact hm g devices h

/-- One comparison leaves no list with a device twice. -/
theorem nodupLists_subtractSmaller {m : JsObject (List String)}
    (hm : ∀ g devices, m.get? g = some devices → devices.Nodup) (i j : String) :
    ∀ g devices, (subtractSmaller i m j).get? g = some devices → devices.Nodup := by
  simp only [subtractSmaller]
  split
  · exact nodupLists_set hm _ (nodup_exclusiveDevices _ _)
  · exact nodupLists_set hm _ (nodup_exclusiveDevices _ _)

private theorem nodupLists_pairwiseDifference (gateways : List String)
    {m : JsObject (List String)} (hm : ∀ g devices, m.get? g = some devices → devices.Nodup) :
    ∀ g devices, (pairwiseDifference gateways m).get? g = some devices → devices.Nodup := by
  induction gateways generalizing m with
  | nil => exact hm
  | cons i rest ih =>
    rw [pairwiseDifference]
    apply ih
    refine foldl_invariant (P := fun s : JsObject (List String) ↦
      ∀ g devices, s.get? g = some devices → devices.Nodup) rest ?_ m hm
    exact fun j _ s hs ↦ nodupLists_subtractSmaller hs i j

/-! ### The assembled mapping -/

private theorem get?_addRemote_of_ne (localGatewayIp : String) (localDevices : List String)
    (m : JsObject (List String)) (entry : String × List String) {g : String} (hg : g ≠ entry.1) :
    (addRemote localGatewayIp localDevices m entry).get? g = m.get? g := by
  simp only [addRemote]
  split
  · split
    · rw [JsObject.get?_set_ne _ _ hg]
    · rfl
  · rfl

-- A gateway that is not the local one gets its devices that the local one does not list.
private theorem mem_assigned_addRemote (localGatewayIp : String) (localDevices : List String)
    {m : JsObject (List String)} {k : String} (hk : m.get? k = none) (devices : List String)
    (g d : String) : d ∈ assigned (addRemote localGatewayIp localDevices m (k, devices)) g ↔
      d ∈ assigned m g ∨ (g = k ∧ g ≠ localGatewayIp ∧ d ∈ devices ∧ d ∉ localDevices) := by
  have hx := mem_exclusiveDevices devices localDevices d
  simp only [addRemote]
  split
  · next hlocal =>
    split
    · rw [mem_assigned_set]
      by_cases hg : g = k
      · subst hg
        have hn : d ∉ assigned m g := by
          rintro ⟨w, hw, _⟩
          rw [hk] at hw
          cases hw
        simp [hn, hlocal, hx]
      · simp [hg]
    · next hempty =>
      rw [not_not, List.length_eq_zero_iff] at hempty
      rw [hempty] at hx
      have hnone : ¬ (d ∈ devices ∧ d ∉ localDevices) := fun h ↦ List.not_mem_nil (hx.mpr h)
      constructor
      · exact Or.inl
      · rintro (hmem | ⟨_, _, h⟩)
        · exact hmem
        · exact False.elim (hnone h)
  · next hlocal =>
    rw [not_not] at hlocal
    constructor
    · exact Or.inl
    · rintro (hmem | ⟨rfl, hne, _⟩)
      · exact hmem
      · exact False.elim (hne hlocal)

-- Every stored key comes from a distinct entry, so a later entry never overwrites it.
private theorem mem_assigned_addRemotes (localGatewayIp : String) (localDevices : List String)
    (l : List (String × List String)) (hl : (l.map Prod.fst).Nodup)
    (m : JsObject (List String)) (hm : ∀ p ∈ l, m.get? p.1 = none) (g d : String) :
    d ∈ assigned (l.foldl (addRemote localGatewayIp localDevices) m) g ↔
      d ∈ assigned m g ∨ (g ≠ localGatewayIp ∧ d ∉ localDevices ∧
        ∃ devices, (g, devices) ∈ l ∧ d ∈ devices) := by
  induction l generalizing m with
  | nil => simp
  | cons p l ih =>
    obtain ⟨k, devices⟩ := p
    rw [List.map_cons, List.nodup_cons] at hl
    have hk : m.get? k = none := hm (k, devices) List.mem_cons_self
    have hfresh : ∀ p ∈ l, (addRemote localGatewayIp localDevices m (k, devices)).get? p.1 =
        none := by
      intro p hp
      have hpk : p.1 ≠ k := fun he ↦ hl.1 (List.mem_map.mpr ⟨p, hp, he⟩)
      rw [get?_addRemote_of_ne _ _ _ _ hpk, hm p (List.mem_cons_of_mem _ hp)]
    rw [List.foldl_cons, ih hl.2 _ hfresh, mem_assigned_addRemote _ _ hk, or_assoc]
    apply or_congr_right
    constructor
    · rintro (⟨rfl, hg, hd, hn⟩ | ⟨hg, hn, w, hw, hd⟩)
      · exact ⟨hg, hn, devices, List.mem_cons_self, hd⟩
      · exact ⟨hg, hn, w, List.mem_cons_of_mem _ hw, hd⟩
    · rintro ⟨hg, hn, w, hw, hd⟩
      rcases List.mem_cons.mp hw with he | hw
      · obtain ⟨rfl, rfl⟩ := Prod.mk.inj he
        exact Or.inl ⟨rfl, hg, hd, hn⟩
      · exact Or.inr ⟨hg, hn, w, hw, hd⟩

private theorem get?_dropEmpties (m : JsObject (List String)) (g : String)
    (devices : List String) :
    (m.ownEntries.foldl dropEmpty m).get? g = some devices ↔
      m.get? g = some devices ∧ devices ≠ [] := by
  have hnone : (m.ownEntries.foldl dropEmpty m).get? g = none ↔
      m.get? g = none ∨ ∃ entry ∈ m.ownEntries, entry.1 = g ∧ entry.2 = [] := by
    apply foldl_iff_exists (P := fun s : JsObject (List String) ↦ s.get? g = none)
    intro s entry
    simp only [dropEmpty, List.length_eq_zero_iff]
    split
    · next he =>
      rw [JsObject.get?_erase]
      by_cases hg : g = entry.1
      · simp [hg, he]
      · simp [hg, Ne.symm hg]
    · next he => simp [he]
  have hkeep : (m.ownEntries.foldl dropEmpty m).get? g = none ∨
      (m.ownEntries.foldl dropEmpty m).get? g = m.get? g := by
    refine foldl_invariant (P := fun s : JsObject _ ↦ s.get? g = none ∨ s.get? g = m.get? g)
      m.ownEntries ?_ m (Or.inr rfl)
    intro entry _ s hs
    simp only [dropEmpty]
    split
    · rw [JsObject.get?_erase]
      split
      · exact Or.inl rfl
      · exact hs
    · exact hs
  constructor
  · intro h
    rcases hkeep with hk | hk
    · rw [hk] at h
      cases h
    · rw [hk] at h
      refine ⟨h, ?_⟩
      rintro rfl
      have hn := hnone.mpr (Or.inr ⟨(g, []), (JsObject.mem_ownEntries_iff _ _ _).mpr h, rfl, rfl⟩)
      rw [hk, h] at hn
      cases hn
  · rintro ⟨h, hne⟩
    rcases hkeep with hk | hk
    · rcases hnone.mp hk with hm | ⟨⟨k, w⟩, hmem, rfl, rfl⟩
      · rw [h] at hm
        cases hm
      · rw [JsObject.mem_ownEntries_iff, h] at hmem
        exact False.elim (hne (Option.some.inj hmem))
    · rw [hk, h]

section Optimal

variable (localGatewayIp : String) (m : JsObject (List String))

/-- `localDevices`, `sensor-stream-manager.js:459`. -/
def localDevices : List String := (m.get? localGatewayIp).getD []

/-- `remoteGatewayDeviceMapping` after the first loop. -/
def remoteDevices : JsObject (List String) :=
  m.ownEntries.foldl (addRemote localGatewayIp (localDevices localGatewayIp m)) JsObject.empty

/-- `remoteGatewayDeviceMapping` after the double loop. -/
def separated : JsObject (List String) :=
  pairwiseDifference (remoteDevices localGatewayIp m).keys (remoteDevices localGatewayIp m)

/-- A remote gateway starts with its devices that the local one does not list. -/
theorem mem_assigned_remoteDevices (g d : String) :
    d ∈ assigned (remoteDevices localGatewayIp m) g ↔
      g ≠ localGatewayIp ∧ d ∈ assigned m g ∧ d ∉ assigned m localGatewayIp := by
  rw [remoteDevices, mem_assigned_addRemotes _ _ _ m.nodup_keys _ (fun _ _ ↦ rfl),
    localDevices, mem_getD_iff]
  have hn := not_mem_assigned_empty g d
  simp only [JsObject.mem_ownEntries_iff, ← mem_assigned]
  constructor
  · rintro (h | ⟨hg, hl, hd⟩)
    · exact False.elim (hn h)
    · exact ⟨hg, hd, hl⟩
  · rintro ⟨hg, hd, hl⟩
    exact Or.inr ⟨hg, hl, hd⟩

private theorem get?_remoteDevices_local :
    (remoteDevices localGatewayIp m).get? localGatewayIp = none := by
  refine foldl_invariant (P := fun s : JsObject _ ↦ s.get? localGatewayIp = none)
    m.ownEntries ?_ _ rfl
  intro entry _ s hs
  simp only [addRemote]
  split
  · next h =>
    split
    · rw [JsObject.get?_set_ne _ _ (Ne.symm h), hs]
    · exact hs
  · exact hs

private theorem get?_separated_local :
    (separated localGatewayIp m).get? localGatewayIp = none := by
  have hk : localGatewayIp ∉ (remoteDevices localGatewayIp m).keys := by
    rw [JsObject.mem_keys_iff, get?_remoteDevices_local]
    rintro ⟨w, hw⟩
    cases hw
  rw [separated, get?_pairwiseDifference_of_not_mem _ _ hk, get?_remoteDevices_local]

/-- The lists of the result. -/
theorem get?_optimal (g : String) (devices : List String) :
    (getOptimalGatewayDeviceMapping localGatewayIp m).get? g = some devices ↔
      (if g = localGatewayIp then devices = localDevices localGatewayIp m
        else (separated localGatewayIp m).get? g = some devices) ∧ devices ≠ [] := by
  simp only [getOptimalGatewayDeviceMapping]
  rw [get?_dropEmpties, JsObject.get?_assign]
  apply and_congr_left'
  change ((separated localGatewayIp m).get? g).or _ = _ ↔ _
  rw [JsObject.get?_set]
  by_cases hg : g = localGatewayIp
  · subst hg
    rw [get?_separated_local, if_pos rfl, if_pos rfl, Option.none_or, Option.some.injEq, eq_comm]
    exact Iff.rfl
  · rw [if_neg hg, if_neg hg, JsObject.get?_empty, Option.or_none]

/-- The local gateway keeps all its devices, every other one its separated share. -/
theorem mem_assigned_optimal (g d : String) :
    d ∈ assigned (getOptimalGatewayDeviceMapping localGatewayIp m) g ↔
      if g = localGatewayIp then d ∈ assigned m localGatewayIp
      else d ∈ assigned (separated localGatewayIp m) g := by
  simp only [mem_assigned, get?_optimal]
  split
  · rw [← mem_assigned, ← mem_getD_iff]
    constructor
    · rintro ⟨devices, ⟨rfl, _⟩, hd⟩
      exact hd
    · intro hd
      exact ⟨_, ⟨rfl, List.ne_nil_of_mem hd⟩, hd⟩
  · constructor
    · rintro ⟨devices, ⟨hg, _⟩, hd⟩
      exact ⟨devices, hg, hd⟩
    · rintro ⟨devices, hg, hd⟩
      exact ⟨devices, ⟨hg, List.ne_nil_of_mem hd⟩, hd⟩

private theorem separated_thins :
    Thins (assigned (remoteDevices localGatewayIp m)) (assigned (separated localGatewayIp m)) :=
  (pairwiseDifference_spec _ (remoteDevices localGatewayIp m).nodup_keys _).1

/-- No two remote gateways are left with one device. -/
theorem separated_unique {g h d : String}
    (hg : d ∈ assigned (separated localGatewayIp m) g)
    (hh : d ∈ assigned (separated localGatewayIp m) h) : g = h := by
  by_contra hne
  have key {k : String} (hk : d ∈ assigned (separated localGatewayIp m) k) :
      k ∈ (remoteDevices localGatewayIp m).keys := by
    obtain ⟨devices, hget, _⟩ := (separated_thins localGatewayIp m).1 k hk
    exact (JsObject.mem_keys_iff _ _).mpr ⟨devices, hget⟩
  have hsymm : Std.Symm fun i j ↦ Disjoint (assigned (separated localGatewayIp m) i)
      (assigned (separated localGatewayIp m) j) := ⟨fun _ _ h ↦ h.symm⟩
  have hpair := (pairwiseDifference_spec _ (remoteDevices localGatewayIp m).nodup_keys
    (remoteDevices localGatewayIp m)).2
  exact Set.disjoint_left.mp (hpair.forall (key hg) (key hh) hne) hg hh

/-- The result assigns a device to at most one gateway. -/
theorem optimal_unique {g h d : String}
    (hg : d ∈ assigned (getOptimalGatewayDeviceMapping localGatewayIp m) g)
    (hh : d ∈ assigned (getOptimalGatewayDeviceMapping localGatewayIp m) h) : g = h := by
  have remote {k : String} (hk : d ∈ assigned (separated localGatewayIp m) k) :
      d ∉ assigned m localGatewayIp :=
    ((mem_assigned_remoteDevices localGatewayIp m k d).mp
      ((separated_thins localGatewayIp m).1 k hk)).2.2
  rw [mem_assigned_optimal] at hg hh
  split at hg
  · next hgl =>
    split at hh
    · next hhl => rw [hgl, hhl]
    · exact False.elim (remote hh hg)
  · split at hh
    · exact False.elim (remote hg hh)
    · exact separated_unique localGatewayIp m hg hh

/-- The result assigns only devices the input lists for that gateway. -/
theorem optimal_subset {g d : String}
    (h : d ∈ assigned (getOptimalGatewayDeviceMapping localGatewayIp m) g) : d ∈ assigned m g := by
  rw [mem_assigned_optimal] at h
  split at h
  · next hg => exact hg ▸ h
  · exact ((mem_assigned_remoteDevices localGatewayIp m g d).mp
      ((separated_thins localGatewayIp m).1 g h)).2.1

/-- A device listed by the local gateway is assigned to it. -/
theorem optimal_local {d : String} (h : d ∈ assigned m localGatewayIp) :
    d ∈ assigned (getOptimalGatewayDeviceMapping localGatewayIp m) localGatewayIp := by
  rw [mem_assigned_optimal, if_pos rfl]
  exact h

/-- No device listed by some gateway is lost. -/
theorem optimal_complete {g d : String} (h : d ∈ assigned m g) :
    ∃ k, d ∈ assigned (getOptimalGatewayDeviceMapping localGatewayIp m) k := by
  by_cases hl : d ∈ assigned m localGatewayIp
  · exact ⟨localGatewayIp, optimal_local localGatewayIp m hl⟩
  · have hg : g ≠ localGatewayIp := fun he ↦ hl (he ▸ h)
    obtain ⟨k, hk⟩ := (separated_thins localGatewayIp m).2 d
      ⟨g, (mem_assigned_remoteDevices localGatewayIp m g d).mpr ⟨hg, h, hl⟩⟩
    have hkl : k ≠ localGatewayIp := by
      rintro rfl
      exact ((mem_assigned_remoteDevices _ m _ d).mp ((separated_thins _ m).1 _ hk)).1 rfl
    exact ⟨k, by rw [mem_assigned_optimal, if_neg hkl]; exact hk⟩

/-- No gateway of the result has an empty list. -/
theorem optimal_ne_nil {g : String} {devices : List String}
    (h : (getOptimalGatewayDeviceMapping localGatewayIp m).get? g = some devices) :
    devices ≠ [] :=
  ((get?_optimal localGatewayIp m g devices).mp h).2

/-- The first loop lists no device twice. -/
theorem nodupLists_remoteDevices : ∀ g devices,
    (remoteDevices localGatewayIp m).get? g = some devices → devices.Nodup := by
  refine foldl_invariant (P := fun s : JsObject (List String) ↦
    ∀ g devices, s.get? g = some devices → devices.Nodup) m.ownEntries ?_ _ ?_
  · intro entry _ s hs
    simp only [addRemote]
    split
    · split
      · exact nodupLists_set hs _ (nodup_exclusiveDevices _ _)
      · exact hs
    · exact hs
  · intro g devices hg
    cases hg

/-- A remote gateway of the result lists no device twice. -/
theorem nodup_optimal_remote {g : String} (hg : g ≠ localGatewayIp) {devices : List String}
    (h : (getOptimalGatewayDeviceMapping localGatewayIp m).get? g = some devices) :
    devices.Nodup := by
  rw [get?_optimal, if_neg hg] at h
  exact nodupLists_pairwiseDifference _ (nodupLists_remoteDevices localGatewayIp m) g devices h.1

end Optimal

/-- The assignment computed from a link graph is sound, assigns every available device to
exactly one gateway, prefers the local gateway, and keeps no gateway without devices. -/
theorem optimal_assignment (localGatewayIp : String) (deviceIds : List String)
    (linkGraph : LinkGraph) :
    let o := getOptimalGatewayDeviceMapping localGatewayIp (getHostGateways deviceIds linkGraph)
    (∀ g d, d ∈ assigned o g → d ∈ deviceIds ∧ linkGraph.Lists g d) ∧
      (∀ d ∈ deviceIds, (∃ g, linkGraph.Lists g d) → ∃! g, d ∈ assigned o g) ∧
      (∀ d ∈ deviceIds, linkGraph.Lists localGatewayIp d →
        ∀ g, d ∈ assigned o g ↔ g = localGatewayIp) ∧
      ∀ g devices, o.get? g = some devices → devices ≠ [] := by
  intro o
  have host (g d : String) := mem_assigned_getHostGateways deviceIds linkGraph g d
  refine ⟨?_, ?_, ?_, fun g devices ↦ optimal_ne_nil localGatewayIp _⟩
  · intro g d hd
    exact (host g d).mp (optimal_subset localGatewayIp _ hd)
  · rintro d hd ⟨g, hg⟩
    obtain ⟨k, hk⟩ := optimal_complete localGatewayIp _ ((host g d).mpr ⟨hd, hg⟩)
    exact ⟨k, hk, fun j hj ↦ optimal_unique localGatewayIp _ hj hk⟩
  · intro d hd hl g
    have hloc := optimal_local localGatewayIp _ ((host localGatewayIp d).mpr ⟨hd, hl⟩)
    constructor
    · exact fun hg ↦ optimal_unique localGatewayIp _ hg hloc
    · rintro rfl
      exact hloc

end NexusEdge.Streams
