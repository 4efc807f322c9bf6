import NexusEdge.Base.Contests
import NexusEdge.Streams.GatewayMapping

/-!
# Gateways that could be spared

Library `Streams`. The pairwise difference of `getOptimalGatewayDeviceMapping`,
`sensor-stream-manager.js:481–491`, is a contest of remote gateways for the devices that they share.
A gateway that shares devices with two others can lose to one of them what it won from the other,
and then be used for devices that gateways in use have, too.
-/

namespace NexusEdge.Streams
open NexusEdge.Base

/-! ### Lists as sets -/

/-- The set of devices that a mapping lists for a gateway. -/
def deviceSet (mapping : JsObject (List String)) (gatewayIp : String) : Finset String :=
  ((mapping.get? gatewayIp).getD []).toFinset

/-- These are the devices assigned to it. -/
theorem mem_deviceSet (mapping : JsObject (List String)) (gatewayIp d : String) :
    d ∈ deviceSet mapping gatewayIp ↔ d ∈ assigned mapping gatewayIp := by
  rw [deviceSet, List.mem_toFinset, mem_getD_iff]

/-- Without repetitions the length of a list counts its devices. -/
theorem card_deviceSet {mapping : JsObject (List String)}
    (hm : ∀ g devices, mapping.get? g = some devices → devices.Nodup) (gatewayIp : String) :
    (deviceSet mapping gatewayIp).card = ((mapping.get? gatewayIp).getD []).length := by
  apply List.toFinset_card_of_nodup
  cases hdevices : mapping.get? gatewayIp with
  | none => exact List.nodup_nil
  | some devices => exact hm gatewayIp devices hdevices

/-- Storing what one gateway has exclusively takes from its set what the other one has. -/
theorem deviceSet_set (mapping : JsObject (List String)) (g h : String) :
    deviceSet (mapping.set g
        (exclusiveDevices ((mapping.get? g).getD []) ((mapping.get? h).getD []))) =
      Function.update (deviceSet mapping) g (deviceSet mapping g \ deviceSet mapping h) := by
  funext k
  ext d
  by_cases hk : k = g
  · subst hk
    rw [Function.update_self, Finset.mem_sdiff, mem_deviceSet, mem_assigned_set, if_pos rfl,
      mem_exclusiveDevices, deviceSet, deviceSet, List.mem_toFinset, List.mem_toFinset]
  · rw [Function.update_of_ne hk, mem_deviceSet, mem_deviceSet, mem_assigned_set, if_neg hk]

/-- A comparison is a contest. -/
theorem deviceSet_subtractSmaller {mapping : JsObject (List String)}
    (hm : ∀ g devices, mapping.get? g = some devices → devices.Nodup) (i j : String) :
    deviceSet (subtractSmaller i mapping j) = contest (deviceSet mapping) i j := by
  simp only [subtractSmaller, contest, card_deviceSet hm]
  split
  · exact deviceSet_set mapping i j
  · exact deviceSet_set mapping j i

/-- The double loop is a sequence of contests. -/
theorem contested_pairwiseDifference {gateways : List String} (h : gateways.Nodup)
    {mapping : JsObject (List String)}
    (hm : ∀ g devices, mapping.get? g = some devices → devices.Nodup) :
    Contested (deviceSet mapping) (deviceSet (pairwiseDifference gateways mapping)) := by
  induction gateways generalizing mapping with
  | nil => exact Relation.ReflTransGen.refl
  | cons i rest ih =>
    obtain ⟨hi, hrest⟩ := List.nodup_cons.mp h
    rw [pairwiseDifference]
    have hinner : ∀ l : List String, i ∉ l → ∀ m : JsObject (List String),
        (∀ g devices, m.get? g = some devices → devices.Nodup) →
        Contested (deviceSet m) (deviceSet (l.foldl (subtractSmaller i) m)) ∧
          ∀ g devices, (l.foldl (subtractSmaller i) m).get? g = some devices → devices.Nodup := by
      intro l
      induction l with
      | nil => exact fun _ m hm ↦ ⟨Relation.ReflTransGen.refl, hm⟩
      | cons j l ihl =>
        intro hil m hm
        rw [List.mem_cons, not_or] at hil
        obtain ⟨hcontested, hnodup⟩ := ihl hil.2 (subtractSmaller i m j)
          (nodupLists_subtractSmaller hm i j)
        rw [List.foldl_cons]
        refine ⟨Relation.ReflTransGen.head ⟨i, j, hil.1, ?_⟩ hcontested, hnodup⟩
        exact deviceSet_subtractSmaller hm i j
    obtain ⟨hcontested, hnodup⟩ := hinner rest hi mapping hm
    exact hcontested.trans (ih hrest hnodup)

/-! ### Redundant gateways -/

/-- Every device assigned to the gateway is listed for another one in use. -/
def Redundant (mapping optimal : JsObject (List String)) (g : String) : Prop :=
  ∀ d ∈ (optimal.get? g).getD [], ∃ h, h ≠ g ∧ optimal.hasOwn h ∧ d ∈ (mapping.get? h).getD []

/-- The devices of a gateway that the local one does not list. -/
def offered (localGatewayIp : String) (mapping : JsObject (List String)) (g : String) :
    List String :=
  exclusiveDevices ((mapping.get? g).getD []) ((mapping.get? localGatewayIp).getD [])

/-- The lists share a device, and each has one that the other one lacks. -/
def partlyOverlap (devicesA devicesB : List String) : Bool :=
  devicesA.any (· ∈ devicesB) && devicesA.any (· ∉ devicesB) && devicesB.any (· ∉ devicesA)

/-- What a remote gateway offers partly overlaps with what at most one other remote one does. -/
def PartlyOverlapsOnce (localGatewayIp : String) (mapping : JsObject (List String)) : Prop :=
  ∀ g ∈ mapping.keys, ∀ h ∈ mapping.keys, ∀ k ∈ mapping.keys,
    g ≠ localGatewayIp → h ≠ localGatewayIp → k ≠ localGatewayIp →
    partlyOverlap (offered localGatewayIp mapping g) (offered localGatewayIp mapping h) →
    partlyOverlap (offered localGatewayIp mapping g) (offered localGatewayIp mapping k) → h = k

instance (localGatewayIp : String) (mapping : JsObject (List String)) :
    Decidable (PartlyOverlapsOnce localGatewayIp mapping) :=
  inferInstanceAs (Decidable (∀ g ∈ mapping.keys, ∀ h ∈ mapping.keys, ∀ k ∈ mapping.keys,
    g ≠ localGatewayIp → h ≠ localGatewayIp → k ≠ localGatewayIp →
    partlyOverlap (offered localGatewayIp mapping g) (offered localGatewayIp mapping h) →
    partlyOverlap (offered localGatewayIp mapping g) (offered localGatewayIp mapping k) → h = k))

section Optimal

variable (localGatewayIp : String) (mapping : JsObject (List String))

/-- The double loop starts with what the remote gateways offer. -/
theorem mem_deviceSet_remoteDevices (g d : String) :
    d ∈ deviceSet (remoteDevices localGatewayIp mapping) g ↔
      g ≠ localGatewayIp ∧ d ∈ offered localGatewayIp mapping g := by
  rw [mem_deviceSet, mem_assigned_remoteDevices, offered, mem_exclusiveDevices, mem_getD_iff,
    mem_getD_iff]

/-- A gateway that offers something is a remote one of the mapping. -/
theorem mem_keys_of_offered {g d : String} (h : d ∈ offered localGatewayIp mapping g) :
    g ∈ mapping.keys := by
  rw [offered, mem_exclusiveDevices, mem_getD_iff] at h
  obtain ⟨⟨devices, hdevices, _⟩, _⟩ := h
  exact (JsObject.mem_keys_iff _ _).mpr ⟨devices, hdevices⟩

/-- Sets that overlap belong to remote gateways whose lists partly overlap. -/
theorem partlyOverlap_of_overlap {g h : String}
    (hoverlap : Overlap (deviceSet (remoteDevices localGatewayIp mapping) g)
      (deviceSet (remoteDevices localGatewayIp mapping) h)) :
    (g ∈ mapping.keys ∧ g ≠ localGatewayIp) ∧ (h ∈ mapping.keys ∧ h ≠ localGatewayIp) ∧
      partlyOverlap (offered localGatewayIp mapping g) (offered localGatewayIp mapping h) := by
  obtain ⟨d, hdg, hdh⟩ := Finset.not_disjoint_iff.mp hoverlap.shared
  obtain ⟨a, hag, hah⟩ := Finset.not_subset.mp hoverlap.left
  obtain ⟨b, hbh, hbg⟩ := Finset.not_subset.mp hoverlap.right
  rw [mem_deviceSet_remoteDevices] at hdg hdh hag hah hbh hbg
  refine ⟨⟨mem_keys_of_offered _ _ hdg.2, hdg.1⟩, ⟨mem_keys_of_offered _ _ hdh.2, hdh.1⟩, ?_⟩
  rw [partlyOverlap, Bool.and_eq_true, Bool.and_eq_true, List.any_eq_true, List.any_eq_true,
    List.any_eq_true]
  refine ⟨⟨⟨d, hdg.2, ?_⟩, ⟨a, hag.2, ?_⟩⟩, ⟨b, hbh.2, ?_⟩⟩
  · exact decide_eq_true hdh.2
  · exact decide_eq_true fun hmem ↦ hah ⟨hdh.1, hmem⟩
  · exact decide_eq_true fun hmem ↦ hbg ⟨hdg.1, hmem⟩

/-- All offers are from a finite set. -/
theorem deviceSet_subset_all (m : JsObject (List String)) (g : String) :
    deviceSet m g ⊆ (m.entries.flatMap Prod.snd).toFinset := by
  intro d hd
  obtain ⟨devices, hdevices, hmem⟩ := (mem_deviceSet m g d).mp hd
  rw [List.mem_toFinset, List.mem_flatMap]
  exact ⟨(g, devices), (JsObject.get?_eq_some_iff m g devices).mp hdevices, hmem⟩

/-- The remote gateways contest what they offer. -/
theorem contested_separated : Contested (deviceSet (remoteDevices localGatewayIp mapping))
    (deviceSet (separated localGatewayIp mapping)) :=
  contested_pairwiseDifference (remoteDevices localGatewayIp mapping).nodup_keys
    (nodupLists_remoteDevices localGatewayIp mapping)

/-- In the end no two of them have a device. -/
theorem disjoint_separated (i j : String) (hij : i ≠ j) :
    Disjoint (deviceSet (separated localGatewayIp mapping) i)
      (deviceSet (separated localGatewayIp mapping) j) := by
  rw [Finset.disjoint_left]
  intro d hi hj
  apply hij
  exact separated_unique localGatewayIp mapping ((mem_deviceSet _ _ _).mp hi)
    ((mem_deviceSet _ _ _).mp hj)

/-- A remote gateway of the result has what it is left with, which is not nothing. -/
theorem separated_of_used {g : String} (hremote : g ≠ localGatewayIp)
    (hused : (getOptimalGatewayDeviceMapping localGatewayIp mapping).hasOwn g) :
    (deviceSet (separated localGatewayIp mapping) g).Nonempty ∧
      ∀ d ∈ deviceSet (separated localGatewayIp mapping) g,
        d ∈ ((getOptimalGatewayDeviceMapping localGatewayIp mapping).get? g).getD [] := by
  obtain ⟨devices, hdevices⟩ := (JsObject.hasOwn_iff _ _).mp hused
  obtain ⟨hstored, hne⟩ := (get?_optimal localGatewayIp mapping g devices).mp hdevices
  rw [if_neg hremote] at hstored
  rw [hdevices, deviceSet, hstored, Option.getD_some]
  constructor
  · obtain ⟨d, hd⟩ := List.exists_mem_of_ne_nil devices hne
    exact ⟨d, List.mem_toFinset.mpr hd⟩
  · exact fun d hd ↦ List.mem_toFinset.mp hd

/-- If what a remote gateway offers partly overlaps with what at most one other offers, no remote
gateway of the result is redundant. -/
theorem not_redundant (honce : PartlyOverlapsOnce localGatewayIp mapping) (g : String)
    (hremote : g ≠ localGatewayIp)
    (hused : (getOptimalGatewayDeviceMapping localGatewayIp mapping).hasOwn g) :
    ¬ Redundant mapping (getOptimalGatewayDeviceMapping localGatewayIp mapping) g := by
  have hcontested := contested_separated localGatewayIp mapping
  have honceSets : OverlapsOnce (deviceSet (remoteDevices localGatewayIp mapping)) := by
    intro i j k hij hik
    obtain ⟨hi, hj, hijPartly⟩ := partlyOverlap_of_overlap localGatewayIp mapping hij
    obtain ⟨_, hk, hikPartly⟩ := partlyOverlap_of_overlap localGatewayIp mapping hik
    exact honce i hi.1 j hj.1 k hk.1 hi.2 hj.2 hk.2 hijPartly hikPartly
  obtain ⟨hnonempty, hassigned⟩ := separated_of_used localGatewayIp mapping hremote hused
  obtain ⟨d, hd, hspared⟩ := hcontested.exists_needed (disjoint_separated localGatewayIp mapping)
    (deviceSet_subset_all (remoteDevices localGatewayIp mapping)) honceSets hnonempty
  have hoffered := (mem_deviceSet_remoteDevices localGatewayIp mapping g d).mp
    (hcontested.subset g hd)
  rw [offered, mem_exclusiveDevices] at hoffered
  intro hredundant
  obtain ⟨h, hne, hown, hlisted⟩ := hredundant d (hassigned d hd)
  by_cases hlocal : h = localGatewayIp
  · rw [hlocal] at hlisted
    exact hoffered.2.2 hlisted
  · apply hspared h hne (separated_of_used localGatewayIp mapping hlocal hown).1
    rw [mem_deviceSet_remoteDevices, offered, mem_exclusiveDevices]
    exact ⟨hlocal, hlisted, hoffered.2.2⟩

end Optimal

/-- The gateways and sensors of `sensor-stream-manager.js:479`. -/
def documentedMapping : JsObject (List String) :=
  ((((JsObject.empty.set "g1" ["s1", "s2", "s3"]).set "g2" ["s3", "s7"]).set "g3" ["s4"]).set "g4"
    ["s4", "s5"]).set "g5" ["s4", "s5", "s6"]

/-- There only the first two gateways partly overlap, and the second one is needed. -/
theorem documented_not_redundant :
    ¬ Redundant documentedMapping (getOptimalGatewayDeviceMapping "g0" documentedMapping) "g2" :=
  not_redundant "g0" documentedMapping (by decide +kernel) "g2" (by decide) (by decide +kernel)

/-- A gateway that shares one sensor with each of two others. -/
def chainMapping : JsObject (List String) :=
  ((JsObject.empty.set "g1" ["s1", "s2"]).set "g2" ["s2", "s3"]).set "g3" ["s3", "s4"]

/-- It is used for a sensor that the first one has, too, which is in use anyway. -/
theorem chain_redundant :
    (getOptimalGatewayDeviceMapping "g0" chainMapping).entries =
        [("g1", ["s1"]), ("g2", ["s2"]), ("g3", ["s3", "s4"])] ∧
      Redundant chainMapping (getOptimalGatewayDeviceMapping "g0" chainMapping) "g2" := by
  have hentries : (getOptimalGatewayDeviceMapping "g0" chainMapping).entries =
      [("g1", ["s1"]), ("g2", ["s2"]), ("g3", ["s3", "s4"])] := by decide +kernel
  refine ⟨hentries, fun d hd ↦ ⟨"g1", by decide, ?_, ?_⟩⟩
  · rw [JsObject.hasOwn, JsObject.get?, hentries]
    rfl
  · rw [JsObject.get?, hentries] at hd
    rw [List.mem_singleton.mp hd]
    decide

end NexusEdge.Streams
