import NexusEdge.Base.JsObject
import NexusEdge.Base.Loop

/-!
# Sensor stream route table

Library `Streams`. `sensorStreamRouteTable` maps a sensor id and a gateway ip to the list
of application topics, `sensor-stream-manager.js:380–395`. Registration appends a topic;
deregistration appends it too and then removes its first occurrence,
`sensor-stream-manager.js:21–54`, so it only permutes the list.
-/

namespace NexusEdge.Streams
open NexusEdge.Base

/-- sensor id → gateway ip → application topics. -/
abbrev RouteTable := JsObject (JsObject (List String))

namespace RouteTable

/-- The topics routed for a sensor at an ip. -/
def topics (table : RouteTable) (sensor ip : String) : List String :=
  ((table.get? sensor).bind fun ipTable ↦ ipTable.get? ip).getD []

/-- `if (!table[id]) { table[id] = {}; }` -/
def ensureSensor (table : RouteTable) (id : String) : RouteTable :=
  if table.hasOwn id then table else table.set id JsObject.empty

/-- `if (!table[id][ip]) { table[id][ip] = []; }` -/
def ensureIp (table : RouteTable) (id ip : String) : RouteTable :=
  table.modify id fun ipTable ↦ if ipTable.hasOwn ip then ipTable else ipTable.set ip []

/-- `table[id][ip]` changed in place. -/
def modifyTopics (table : RouteTable) (id ip : String) (f : List String → List String) :
    RouteTable :=
  table.modify id fun ipTable ↦ ipTable.modify ip f

/-- Body of the loop of `registerToLocalGateway`, `sensor-stream-manager.js:23–29`. -/
def registerSensor (ip topic : String) (table : RouteTable) (id : String) : RouteTable :=
  ((table.ensureSensor id).ensureIp id ip).modifyTopics id ip (· ++ [topic])

/-- `registerToLocalGateway`, `sensor-stream-manager.js:21–31`. -/
def registerToLocalGateway (table : RouteTable) (ip : String) (sensorIds : List String)
    (topic : String) : RouteTable :=
  sensorIds.foldl (registerSensor ip topic) table

/-- `push(topic)`, then `splice(indexOf(topic), 1)`, `sensor-stream-manager.js:44–48`. -/
def pushAndSplice (topic : String) (topics : List String) : List String :=
  let pushed := topics ++ [topic]
  match pushed.idxOf? topic with
  | some index => pushed.eraseIdx index
  | none => pushed

/-- Body of the loop of `deregisterFromLocalGateway`, `sensor-stream-manager.js:41–52`. -/
def deregisterSensor (ip topic : String) (table : RouteTable) (id : String) : RouteTable :=
  match table.get? id with
  | some ipTable =>
    if ipTable.hasOwn ip then table.modifyTopics id ip (pushAndSplice topic) else table
  | none => table

/-- `deregisterFromLocalGateway`, `sensor-stream-manager.js:39–54`. -/
def deregisterFromLocalGateway (table : RouteTable) (ip : String) (sensorIds : List String)
    (topic : String) : RouteTable :=
  sensorIds.foldl (deregisterSensor ip topic) table

/-- How often a topic is routed for a sensor at an ip. -/
def routeCount (table : RouteTable) (sensor ip topic : String) : Nat :=
  (table.topics sensor ip).count topic

/-- Nothing is routed before the first registration. -/
@[simp] theorem topics_empty (sensor ip : String) :
    topics JsObject.empty sensor ip = [] := rfl

/-- Creating the sensor's dictionary routes nothing new. -/
theorem topics_ensureSensor (table : RouteTable) (id sensor ip : String) :
    (table.ensureSensor id).topics sensor ip = table.topics sensor ip := by
  unfold ensureSensor
  split
  · rfl
  · next h =>
    have hnone : table.get? id = none := by simpa [JsObject.hasOwn] using h
    rw [topics, JsObject.get?_set]
    split
    · next hs => rw [topics, hs, hnone]; rfl
    · rfl

/-- Creating the topic list routes nothing new. -/
theorem topics_ensureIp (table : RouteTable) (id ip sensor gateway : String) :
    (table.ensureIp id ip).topics sensor gateway = table.topics sensor gateway := by
  rw [ensureIp, topics, JsObject.get?_modify, topics]
  split
  · next hs =>
    subst hs
    cases ht : table.get? sensor with
    | none => rfl
    | some ipTable =>
      simp only [Option.map_some, Option.bind_some]
      split
      · rfl
      · next h =>
        have hnone : ipTable.get? ip = none := by simpa [JsObject.hasOwn] using h
        rw [JsObject.get?_set]
        split
        · next hg => rw [hg, hnone]; rfl
        · rfl
  · rfl

/-- An in-place change of one list leaves every other list alone. -/
theorem topics_modifyTopics_of_ne (table : RouteTable) (f : List String → List String)
    {id ip sensor gateway : String} (h : ¬ (sensor = id ∧ gateway = ip)) :
    (table.modifyTopics id ip f).topics sensor gateway = table.topics sensor gateway := by
  rw [modifyTopics, topics, JsObject.get?_modify, topics]
  split
  · next hs =>
    subst hs
    have hg : gateway ≠ ip := fun hg ↦ h ⟨rfl, hg⟩
    cases table.get? sensor with
    | none => rfl
    | some ipTable =>
      simp only [Option.map_some, Option.bind_some, JsObject.get?_modify, if_neg hg]
  · rfl

/-- An in-place change of an existing list is read back. -/
theorem topics_modifyTopics_self (table : RouteTable) (f : List String → List String)
    {id ip : String} {ipTable : JsObject (List String)} {ts : List String}
    (ht : table.get? id = some ipTable) (hi : ipTable.get? ip = some ts) :
    (table.modifyTopics id ip f).topics id ip = f (table.topics id ip) := by
  rw [modifyTopics, topics, JsObject.get?_modify, topics, if_pos rfl, ht]
  simp only [Option.map_some, Option.bind_some, JsObject.get?_modify, if_pos, hi, Option.getD_some]

private theorem ensured (table : RouteTable) (id ip : String) :
    ∃ ipTable ts, ((table.ensureSensor id).ensureIp id ip).get? id = some ipTable ∧
      ipTable.get? ip = some ts := by
  obtain ⟨ipTable, ht⟩ : ∃ ipTable, (table.ensureSensor id).get? id = some ipTable := by
    unfold ensureSensor
    split
    · next h => exact (JsObject.hasOwn_iff _ _).mp h
    · exact ⟨_, JsObject.get?_set_self _ _ _⟩
  rw [ensureIp, JsObject.get?_modify, if_pos rfl, ht]
  by_cases h : ipTable.hasOwn ip
  · obtain ⟨ts, hts⟩ := (JsObject.hasOwn_iff _ _).mp h
    exact ⟨ipTable, ts, by simp [h], hts⟩
  · exact ⟨ipTable.set ip [], [], by simp [h], JsObject.get?_set_self _ _ _⟩

/-- Registration appends the topic to the one list it names. -/
theorem topics_registerSensor (table : RouteTable) (ip topic id sensor gateway : String) :
    (registerSensor ip topic table id).topics sensor gateway =
      if sensor = id ∧ gateway = ip then table.topics sensor gateway ++ [topic]
      else table.topics sensor gateway := by
  rw [registerSensor]
  split
  · next h =>
    obtain ⟨rfl, rfl⟩ := h
    obtain ⟨ipTable, ts, ht, hi⟩ := ensured table sensor gateway
    rw [topics_modifyTopics_self _ _ ht hi, topics_ensureIp, topics_ensureSensor]
  · next h => rw [topics_modifyTopics_of_ne _ _ h, topics_ensureIp, topics_ensureSensor]

/-- Registration creates the dictionary of its sensor. -/
theorem hasOwn_registerSensor (table : RouteTable) (ip topic id sensor : String) :
    (registerSensor ip topic table id).hasOwn sensor =
      (decide (sensor = id) || table.hasOwn sensor) := by
  rw [registerSensor, modifyTopics, JsObject.hasOwn_modify, ensureIp, JsObject.hasOwn_modify,
    ensureSensor]
  split
  · next hown =>
    by_cases hsensor : sensor = id
    · rw [hsensor, hown, Bool.or_true]
    · rw [decide_eq_false hsensor, Bool.false_or]
  · rw [JsObject.hasOwn_set]

/-- Pushing a topic and removing its first occurrence only permutes the list. -/
theorem pushAndSplice_perm (topic : String) (ts : List String) :
    (pushAndSplice topic ts).Perm ts := by
  have hm : topic ∈ ts ++ [topic] := List.mem_append_right ts List.mem_cons_self
  have he : pushAndSplice topic ts = (ts ++ [topic]).erase topic := by
    rw [pushAndSplice, List.erase_eq_eraseIdx]
    cases (ts ++ [topic]).idxOf? topic <;> rfl
  have hp : (ts ++ [topic]).Perm (topic :: ts) := List.perm_append_singleton topic ts
  rw [he]
  exact (hp.erase topic).trans (by rw [List.erase_cons_head])

/-- Deregistration of one sensor permutes every list of the table. -/
theorem topics_deregisterSensor_perm (table : RouteTable) (ip topic id sensor gateway : String) :
    ((deregisterSensor ip topic table id).topics sensor gateway).Perm
      (table.topics sensor gateway) := by
  unfold deregisterSensor
  split
  · next ipTable ht =>
    split
    · next hown =>
      by_cases h : sensor = id ∧ gateway = ip
      · obtain ⟨rfl, rfl⟩ := h
        obtain ⟨ts, hi⟩ := (JsObject.hasOwn_iff _ _).mp hown
        rw [topics_modifyTopics_self _ _ ht hi]
        exact pushAndSplice_perm topic _
      · rw [topics_modifyTopics_of_ne _ _ h]
    · exact List.Perm.refl _
  · exact List.Perm.refl _

private theorem routeCount_registerSensor (table : RouteTable) (ip topic id sensor gateway : String)
    (t : String) :
    (registerSensor ip topic table id).routeCount sensor gateway t =
      table.routeCount sensor gateway t +
        if gateway = ip ∧ t = topic then [id].count sensor else 0 := by
  rw [routeCount, topics_registerSensor, routeCount, List.count_singleton]
  by_cases hs : id = sensor
  · by_cases hg : gateway = ip
    · by_cases ht : topic = t
      · simp [hs, hg, ht]
      · simp [hs, hg, ht, Ne.symm ht]
    · simp [hg]
  · simp [hs, Ne.symm hs]

/-- Registration adds one occurrence per listed sensor. -/
theorem routeCount_registerToLocalGateway (table : RouteTable) (ip : String)
    (sensorIds : List String) (topic sensor gateway t : String) :
    (table.registerToLocalGateway ip sensorIds topic).routeCount sensor gateway t =
      table.routeCount sensor gateway t +
        if gateway = ip ∧ t = topic then sensorIds.count sensor else 0 := by
  induction sensorIds generalizing table with
  | nil => simp [registerToLocalGateway]
  | cons id sensorIds ih =>
    have hstep := ih (registerSensor ip topic table id)
    rw [routeCount_registerSensor] at hstep
    rw [registerToLocalGateway, List.foldl_cons]
    refine hstep.trans ?_
    simp only [List.count_cons, List.count_nil]
    split <;> omega

/-- Deregistration changes no count. -/
theorem routeCount_deregisterFromLocalGateway (table : RouteTable) (ip : String)
    (sensorIds : List String) (topic sensor gateway t : String) :
    (table.deregisterFromLocalGateway ip sensorIds topic).routeCount sensor gateway t =
      table.routeCount sensor gateway t := by
  refine foldl_invariant
    (P := fun s : RouteTable ↦ s.routeCount sensor gateway t = table.routeCount sensor gateway t)
    sensorIds ?_ table rfl
  intro id _ s hs
  rw [← hs]
  exact (topics_deregisterSensor_perm s ip topic id sensor gateway).count_eq t

/-! ### Gateways of a table -/

/-- The table has an entry for the sensor and the ip, possibly without topics. -/
def Serves (table : RouteTable) (sensor ip : String) : Prop :=
  ∃ ipTable, table.get? sensor = some ipTable ∧ ipTable.hasOwn ip

/-- The ip and topic pairs routed for a sensor, in the order in which they are enumerated. -/
def routes (table : RouteTable) (sensor : String) : List (String × String) :=
  match table.get? sensor with
  | some ipTable => ipTable.ownEntries.flatMap fun (gatewayIp, topics) ↦
      topics.map fun topic ↦ (gatewayIp, topic)
  | none => []

/-- Topics are routed only to gateways with an entry. -/
theorem serves_of_mem_routes {table : RouteTable} {sensor : String} {route : String × String}
    (h : route ∈ table.routes sensor) : table.Serves sensor route.1 := by
  unfold routes at h
  split at h
  · next ipTable ht =>
    obtain ⟨⟨gatewayIp, topics⟩, hentry, hroute⟩ := List.mem_flatMap.mp h
    obtain ⟨topic, _, rfl⟩ := List.mem_map.mp hroute
    exact ⟨ipTable, ht, (JsObject.hasOwn_iff _ _).mpr
      ⟨topics, (JsObject.mem_ownEntries_iff _ _ _).mp hentry⟩⟩
  · cases h

private theorem serves_modify {table : RouteTable} {id sensor gateway : String} {P : Prop}
    {f : JsObject (List String) → JsObject (List String)}
    (hf : ∀ ipTable : JsObject (List String), (f ipTable).hasOwn gateway →
      ipTable.hasOwn gateway ∨ P)
    (h : Serves (table.modify id f) sensor gateway) : table.Serves sensor gateway ∨ P := by
  obtain ⟨ipTable, ht, hown⟩ := h
  rw [JsObject.get?_modify] at ht
  split at ht
  · next hs =>
    subst hs
    obtain ⟨ipTable', ht', rfl⟩ := Option.map_eq_some_iff.mp ht
    exact (hf ipTable' hown).imp_left fun hown' ↦ ⟨ipTable', ht', hown'⟩
  · exact Or.inl ⟨ipTable, ht, hown⟩

/-- Registration of a sensor adds an entry for the one ip. -/
theorem serves_registerSensor {table : RouteTable} {ip topic id sensor gateway : String}
    (h : (registerSensor ip topic table id).Serves sensor gateway) :
    table.Serves sensor gateway ∨ gateway = ip := by
  have hensured : ((table.ensureSensor id).ensureIp id ip).Serves sensor gateway ∨
      gateway = ip := by
    apply serves_modify (fun ipTable hown ↦ ?_) h
    rw [JsObject.hasOwn_modify] at hown
    exact Or.inl hown
  rcases hensured with hensured | hip
  · have hsensor : (table.ensureSensor id).Serves sensor gateway ∨ gateway = ip := by
      apply serves_modify (fun ipTable hown ↦ ?_) hensured
      split at hown
      · exact Or.inl hown
      · rw [JsObject.hasOwn_set, Bool.or_eq_true, decide_eq_true_eq] at hown
        exact hown.symm
    rcases hsensor with ⟨ipTable, ht, hown⟩ | hip
    · unfold ensureSensor at ht
      split at ht
      · exact Or.inl ⟨ipTable, ht, hown⟩
      · rw [JsObject.get?_set] at ht
        split at ht
        · cases ht
          cases hown
        · exact Or.inl ⟨ipTable, ht, hown⟩
    · exact Or.inr hip
  · exact Or.inr hip

/-- Registration adds entries for the one ip. -/
theorem serves_registerToLocalGateway {table : RouteTable} {ip topic sensor gateway : String}
    {sensorIds : List String}
    (h : (table.registerToLocalGateway ip sensorIds topic).Serves sensor gateway) :
    table.Serves sensor gateway ∨ gateway = ip := by
  induction sensorIds generalizing table with
  | nil => exact Or.inl h
  | cons id sensorIds ih =>
    rcases ih h with hrest | hip
    · exact serves_registerSensor hrest
    · exact Or.inr hip

/-- Deregistration adds no entry. -/
theorem serves_deregisterFromLocalGateway {table : RouteTable} {ip topic sensor gateway : String}
    {sensorIds : List String}
    (h : (table.deregisterFromLocalGateway ip sensorIds topic).Serves sensor gateway) :
    table.Serves sensor gateway := by
  induction sensorIds generalizing table with
  | nil => exact h
  | cons id sensorIds ih =>
    have hrest : (deregisterSensor ip topic table id).Serves sensor gateway := ih h
    unfold deregisterSensor at hrest
    split at hrest
    · split at hrest
      · apply (serves_modify (P := False) (fun ipTable hown ↦ ?_) hrest).resolve_right not_false
        rw [JsObject.hasOwn_modify] at hown
        exact Or.inl hown
      · exact hrest
    · exact hrest

end RouteTable
end NexusEdge.Streams
