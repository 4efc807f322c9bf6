import NexusEdge.Devices.DeviceManager

/-!
# The device cache and the database

Library `Devices`. The cache starts as a copy of the database. Later the database keeps the
first device stored under an id while the cache takes the handler of whichever callback runs
last, so they agree as long as the last callback of a device is by the handler on record.
-/

namespace NexusEdge.Devices
open NexusEdge.Base NexusEdge.Platform

variable {D : Type}

namespace DeviceManager

/-- An `addDevice` for the device is under way. -/
def Registering (s : DeviceManager D) (deviceId : String) : Prop :=
  ∃ r, (r ∈ s.adding ∨ r ∈ s.added) ∧ r.device.id = deviceId

/-- The cache holds the device exactly if the database does, with the same handler. -/
def AgreesOn (s : DeviceManager D) (deviceId : String) : Prop :=
  s.deviceCache.get? deviceId = s.devicesDb.handlerOf deviceId

/-- Cache and database agree on every device without registration under way. -/
def Agrees (s : DeviceManager D) : Prop := ∀ deviceId, ¬ s.Registering deviceId → s.AgreesOn deviceId

/-- A callback that runs when no other registration of its device is under way is by the
handler that the database holds. -/
def CompletesRecorded (s : DeviceManager D) : DeviceEvent D → Prop
  | .complete r => (∀ r' ∈ s.adding ++ s.added.erase r, r'.device.id ≠ r.device.id) →
      s.devicesDb.handlerOf r.device.id = some r.device.handlerId
  | _ => True

/-- Copying the database into a cache. -/
theorem get?_foldl_fetchAll (db : DevicesDb) (cache : JsObject String) (deviceId : String) :
    (db.fetchAll.foldl (fun cache device ↦ cache.set device.id device.handlerId) cache).get?
      deviceId = (db.handlerOf deviceId).or (cache.get? deviceId) := by
  have hcopy : db.fetchAll.foldl (fun cache device ↦ cache.set device.id device.handlerId) cache =
      db.devices.ownEntries.foldl (fun cache p ↦ cache.set p.1 p.2.handlerId) cache := by
    rw [DevicesDb.fetchAll, List.foldl_map]
    apply List.foldl_ext
    intro cache p hp
    rw [db.id_eq ((JsObject.mem_ownEntries_iff _ _ _).mp hp)]
  rw [hcopy, JsObject.get?_foldl_set_ownEntries, DevicesDb.handlerOf]

/-- The cache of a new process is a copy of the database. -/
theorem agreesOn_initial (db : DevicesDb) (deviceId : String) :
    (initial db : DeviceManager D).AgreesOn deviceId := by
  rw [AgreesOn, initial, get?_foldl_fetchAll, JsObject.get?_empty, Option.or_none]

section Agrees

variable {s : DeviceManager D}

-- A call changes neither cache nor database and ends no registration.
private theorem agrees_of_extends {t : DeviceManager D} (hs : s.Agrees)
    (hcache : t.deviceCache = s.deviceCache) (hdb : t.devicesDb = s.devicesDb)
    (h : ∀ deviceId, s.Registering deviceId → t.Registering deviceId) : t.Agrees := by
  intro deviceId hnot
  rw [AgreesOn, hcache, hdb]
  exact hs deviceId fun hr ↦ hnot (h deviceId hr)

private theorem registering_append {s : DeviceManager D} (l : List Registration) {deviceId : String}
    (h : s.Registering deviceId) :
    ∃ r, (r ∈ s.adding ++ l ∨ r ∈ s.added) ∧ r.device.id = deviceId := by
  obtain ⟨r, hr, hid⟩ := h
  exact ⟨r, hr.imp_left (List.mem_append_left l), hid⟩

private theorem agrees_register (config : GatewayConfig) (deviceId deviceType handlerId : String)
    (hs : s.Agrees) : (s.register config deviceId deviceType handlerId).Agrees := by
  unfold register
  split
  · exact hs
  · split
    · exact hs
    · exact agrees_of_extends hs rfl rfl fun _ h ↦ registering_append _ h

private theorem agrees_deliver (config : GatewayConfig) (handlerId deviceId deviceType : String)
    (deviceData : D) (receivedTime : String) (hs : s.Agrees) :
    (s.deliver config handlerId deviceId deviceType deviceData receivedTime).Agrees := by
  unfold deliver
  split
  · exact hs
  · simp only
    split
    · exact agrees_of_extends hs rfl rfl fun _ h ↦ h
    · split
      · exact agrees_of_extends hs rfl rfl fun _ h ↦ registering_append _ h
      · exact agrees_of_extends hs rfl rfl fun _ h ↦ h

-- Storing moves the operation; the device stays under registration.
private theorem agrees_store {r : Registration} (hs : s.Agrees) (h : r ∈ s.adding) :
    (s.store r).Agrees := by
  have hkept : ∀ deviceId, s.Registering deviceId → (s.store r).Registering deviceId := by
    rintro deviceId ⟨r', hr' | hr', hid⟩
    · by_cases heq : r' = r
      · exact ⟨r, Or.inr (List.mem_append_right _ List.mem_cons_self), heq ▸ hid⟩
      · exact ⟨r', Or.inl ((List.mem_erase_of_ne heq).mpr hr'), hid⟩
    · exact ⟨r', Or.inr (List.mem_append_left _ hr'), hid⟩
  intro deviceId hnot
  have hne : deviceId ≠ r.device.id := by
    rintro rfl
    exact hnot (hkept _ ⟨r, Or.inl h, rfl⟩)
  rw [AgreesOn, store, DevicesDb.handlerOf_addDevice_of_ne _ _ hne]
  exact hs deviceId fun hr ↦ hnot (hkept deviceId hr)

/-- What a callback does besides publishing. -/
theorem complete_frame (r : Registration) (s : DeviceManager D) :
    (s.complete r).deviceCache = s.deviceCache.set r.device.id r.device.handlerId ∧
      (s.complete r).devicesDb = s.devicesDb ∧ (s.complete r).adding = s.adding ∧
        (s.complete r).added = s.added.erase r := by
  unfold complete
  simp only
  split <;> exact ⟨rfl, rfl, rfl, rfl⟩

private theorem registering_complete (r : Registration) (s : DeviceManager D) (deviceId : String) :
    (s.complete r).Registering deviceId ↔
      ∃ r' ∈ s.adding ++ s.added.erase r, r'.device.id = deviceId := by
  obtain ⟨_, _, hadding, hadded⟩ := complete_frame r s
  simp only [Registering, hadding, hadded, List.mem_append]

private theorem agrees_complete_iff {r : Registration} (hs : s.Agrees) :
    (s.complete r).Agrees ↔ s.CompletesRecorded (.complete r) := by
  obtain ⟨hcache, hdb, _, _⟩ := complete_frame r s
  constructor
  · intro hagrees hlast
    have hnot : ¬ (s.complete r).Registering r.device.id := by
      rw [registering_complete]
      rintro ⟨r', hr', hid⟩
      exact hlast r' hr' hid
    have h := hagrees r.device.id hnot
    rw [AgreesOn, hcache, hdb, JsObject.get?_set_self] at h
    exact h.symm
  · intro hrecorded deviceId hnot
    rw [registering_complete] at hnot
    rw [AgreesOn, hcache, hdb, JsObject.get?_set]
    split
    · next heq => rw [heq, hrecorded fun r' hr' hid ↦ hnot ⟨r', hr', hid.trans heq.symm⟩]
    · next hne =>
      apply hs deviceId
      rintro ⟨r', hr', hid⟩
      have hne' : r' ≠ r := by
        rintro rfl
        exact hne hid.symm
      refine hnot ⟨r', ?_, hid⟩
      rw [List.mem_append, List.mem_erase_of_ne hne']
      exact hr'

private theorem agrees_step_iff {config : GatewayConfig} {s t : DeviceManager D} {e : DeviceEvent D}
    (hs : s.Agrees) (h : step config s e = some t) : t.Agrees ↔ s.CompletesRecorded e := by
  cases e with
  | register deviceId deviceType handlerId =>
    obtain rfl := Option.some.inj h
    exact iff_of_true (agrees_register config deviceId deviceType handlerId hs) trivial
  | deliver handlerId deviceId deviceType deviceData receivedTime =>
    obtain rfl := Option.some.inj h
    exact iff_of_true
      (agrees_deliver config handlerId deviceId deviceType deviceData receivedTime hs) trivial
  | store r =>
    rw [step] at h
    split at h
    · next hr =>
      obtain rfl := Option.some.inj h
      exact iff_of_true (agrees_store hs hr) trivial
    · cases h
  | complete r =>
    rw [step] at h
    split at h
    · obtain rfl := Option.some.inj h
      exact agrees_complete_iff hs
    · cases h

end Agrees

/-- From start-up on, cache and database agree on every device without registration under
way exactly if every last callback of a device is by the handler on record; so they agree
altogether whenever nothing is under way. -/
theorem cache_agrees_iff (config : GatewayConfig) (db : DevicesDb) (events : List (DeviceEvent D)) :
    (Always (step config) Agrees (initial db) events ↔
      EachStep (step config) CompletesRecorded (initial db) events) ∧
    (EachStep (step config) CompletesRecorded (initial db) events →
      Always (step config) (fun s ↦ s.adding = [] → s.added = [] → ∀ deviceId, s.AgreesOn deviceId)
        (initial db) events) := by
  have hiff : Always (step config) Agrees (initial db) events ↔
      EachStep (step config) CompletesRecorded (initial db) events :=
    always_iff_eachStep (step config) (I := fun _ ↦ True) (fun _ _ _ _ _ ↦ trivial)
      (fun _ _ _ _ hs h ↦ agrees_step_iff hs h) events trivial
      (fun deviceId _ ↦ agreesOn_initial db deviceId)
  refine ⟨hiff, fun hsteps ↦ Always.imp (step config) ?_ (hiff.mpr hsteps)⟩
  intro s hs hadding hadded deviceId
  apply hs deviceId
  rintro ⟨r, hr, _⟩
  rw [hadding, hadded] at hr
  exact hr.elim List.not_mem_nil List.not_mem_nil

/-- A gateway with a handler that registers and one that delivers. -/
def bleGateway : GatewayConfig :=
  ⟨"gateway", (JsObject.empty.set "leviton-lighting-handler" "ble-controller").set
    "lab11-ble-handler" "ble-controller"⟩

/-- Two handlers report one device before its first registration completes. -/
def twoHandlers : List (DeviceEvent String) :=
  let registered : Registration :=
    ⟨⟨"d1", "light", "leviton-lighting-handler", "ble-controller", false⟩, .register⟩
  let delivered : Registration :=
    ⟨⟨"d1", "light", "lab11-ble-handler", "ble-controller", true⟩, .deliver⟩
  [.register "d1" "light" "leviton-lighting-handler",
    .deliver "lab11-ble-handler" "d1" "light" "on" "2020-01-01T00:00:00.000Z",
    .store registered, .store delivered, .complete registered, .complete delivered]

/-- The database keeps the handler of `register`, the cache ends with that of `deliver`. -/
theorem cache_disagrees : ¬ ∀ (config : GatewayConfig) (db : DevicesDb)
    (events : List (DeviceEvent String)) t, run (step config) (initial db) events = some t →
      t.adding = [] → t.added = [] → ∀ deviceId, t.AgreesOn deviceId := by
  intro h
  have hfacts : (run (step bleGateway) (initial DevicesDb.empty) twoHandlers).map
      (fun t ↦ (t.adding, t.added, t.deviceCache.get? "d1", t.devicesDb.handlerOf "d1")) =
        some ([], [], some "lab11-ble-handler", some "leviton-lighting-handler") := by decide
  obtain ⟨t, ht, hfacts⟩ := Option.map_eq_some_iff.mp hfacts
  simp only [Prod.mk.injEq] at hfacts
  obtain ⟨hadding, hadded, hcache, hdb⟩ := hfacts
  have hagrees := h bleGateway DevicesDb.empty twoHandlers t ht hadding hadded "d1"
  rw [AgreesOn, hcache, hdb] at hagrees
  exact absurd hagrees (by decide)

end DeviceManager
end NexusEdge.Devices
