import NexusEdge.Devices.DeviceManager

/-!
# Conservation of readings

Library `Devices`. A device has a buffer exactly while one `addDevice` of `deliver` is under
way for it; `register` never touches the buffer. So the callback finds the buffer it has to
publish, and every reading is published or buffered once, in the order of delivery.
-/

namespace NexusEdge.Devices
open NexusEdge.Base NexusEdge.Platform

variable {D : Type}

/-- The readings of one device, in order. -/
def ofDevice (deviceId : String) (readings : List (Reading D)) : List (Reading D) :=
  readings.filter fun data ↦ data.deviceId = deviceId

namespace DeviceManager

/-- The readings held in the buffer of the device. -/
def buffered (s : DeviceManager D) (deviceId : String) : List (Reading D) :=
  (s.pendingDeviceBuffer.get? deviceId).getD []

/-- The published readings of the device followed by the buffered ones are the delivered
ones. -/
def Conserved (s : DeviceManager D) : Prop :=
  ∀ deviceId, ofDevice deviceId s.published ++ s.buffered deviceId = ofDevice deviceId s.delivered

/-- The operation was started by `deliver` for the device. -/
def BuffersFor (deviceId : String) (r : Registration) : Prop :=
  r.caller = .deliver ∧ r.device.id = deviceId

instance (deviceId : String) (r : Registration) : Decidable (BuffersFor deviceId r) :=
  inferInstanceAs (Decidable (_ ∧ _))

/-- Operations under way that will publish the buffer of the device. -/
def buffering (s : DeviceManager D) (deviceId : String) : Nat :=
  (s.adding ++ s.added).countP fun r ↦ BuffersFor deviceId r

/-- Readings are conserved, and a buffer has exactly one operation that will publish it. -/
structure Valid (s : DeviceManager D) : Prop where
  conserved : s.Conserved
  buffering : ∀ deviceId,
    s.buffering deviceId = if s.pendingDeviceBuffer.hasOwn deviceId then 1 else 0

/-! ### Readings of one device -/

private theorem ofDevice_append (deviceId : String) (l m : List (Reading D)) :
    ofDevice deviceId (l ++ m) = ofDevice deviceId l ++ ofDevice deviceId m :=
  List.filter_append _ _

private theorem ofDevice_singleton (deviceId : String) (data : Reading D) :
    ofDevice deviceId [data] = if data.deviceId = deviceId then [data] else [] := by
  rw [ofDevice, List.filter_cons, List.filter_nil]
  simp

private theorem ofDevice_self {deviceId : String} {l : List (Reading D)}
    (h : ∀ data ∈ l, data.deviceId = deviceId) : ofDevice deviceId l = l := by
  apply List.filter_eq_self.mpr
  intro data hdata
  exact decide_eq_true (h data hdata)

private theorem ofDevice_of_ne {deviceId deviceId' : String} (hne : deviceId' ≠ deviceId)
    {l : List (Reading D)} (h : ∀ data ∈ l, data.deviceId = deviceId) :
    ofDevice deviceId' l = [] := by
  apply List.filter_eq_nil_iff.mpr
  intro data hdata hd
  exact hne ((of_decide_eq_true hd).symm.trans (h data hdata))

private theorem deviceId_of_buffered {s : DeviceManager D} (hs : s.Conserved) {deviceId : String}
    {data : Reading D} (h : data ∈ s.buffered deviceId) : data.deviceId = deviceId := by
  have hm : data ∈ ofDevice deviceId s.delivered := by
    rw [← hs deviceId]
    exact List.mem_append_right _ h
  exact of_decide_eq_true (List.mem_filter.mp hm).2

/-! ### Operations under way -/

private theorem countP_append_singleton (deviceId : String) (l m : List Registration)
    (r : Registration) : (l ++ [r] ++ m).countP (fun r ↦ BuffersFor deviceId r) =
      (l ++ m).countP (fun r ↦ BuffersFor deviceId r) +
        if BuffersFor deviceId r then 1 else 0 := by
  simp only [List.countP_append, List.countP_singleton, decide_eq_true_eq]
  omega

private theorem buffering_store {s : DeviceManager D} {r : Registration} (h : r ∈ s.adding)
    (deviceId : String) : (s.store r).buffering deviceId = s.buffering deviceId := by
  have hperm : (s.adding.erase r ++ (s.added ++ [r])).Perm (s.adding ++ s.added) := by
    rw [← List.append_assoc]
    apply List.perm_append_comm.trans
    exact (List.perm_cons_erase h).symm.append_right s.added
  exact hperm.countP_eq _

private theorem buffering_erase {s : DeviceManager D} {r : Registration} (h : r ∈ s.added)
    (deviceId : String) : s.buffering deviceId =
      (s.adding ++ s.added.erase r).countP (fun r ↦ BuffersFor deviceId r) +
        if BuffersFor deviceId r then 1 else 0 := by
  have hperm : (s.adding ++ s.added).Perm (r :: (s.adding ++ s.added.erase r)) :=
    ((List.perm_cons_erase h).append_left s.adding).trans List.perm_middle
  rw [buffering, hperm.countP_eq, List.countP_cons]
  simp only [decide_eq_true_eq]

/-! ### Buffers -/

section Buffers

variable {buffer : JsObject (List (Reading D))} {data : Reading D} {deviceId : String}

private theorem buffered_push (hdata : data.deviceId = deviceId) (h : buffer.hasOwn deviceId)
    (deviceId' : String) : ((buffer.modify deviceId (· ++ [data])).get? deviceId').getD [] =
      (buffer.get? deviceId').getD [] ++ ofDevice deviceId' [data] := by
  obtain ⟨readings, hreadings⟩ := (JsObject.hasOwn_iff _ _).mp h
  rw [JsObject.get?_modify, ofDevice_singleton, hdata]
  split
  · next heq => rw [heq, hreadings, Option.map_some, Option.getD_some, Option.getD_some, if_pos rfl]
  · next hne => rw [if_neg (Ne.symm hne), List.append_nil]

private theorem buffered_new (hdata : data.deviceId = deviceId) (h : ¬ buffer.hasOwn deviceId)
    (deviceId' : String) : ((buffer.set deviceId [data]).get? deviceId').getD [] =
      (buffer.get? deviceId').getD [] ++ ofDevice deviceId' [data] := by
  rw [JsObject.hasOwn, Option.not_isSome_iff_eq_none] at h
  rw [JsObject.get?_set, ofDevice_singleton, hdata]
  split
  · next heq => rw [heq, h, if_pos rfl, Option.getD_some, Option.getD_none, List.nil_append]
  · next hne => rw [if_neg (Ne.symm hne), List.append_nil]

-- A reading published directly goes past the buffers of other devices only.
private theorem published_direct (hdata : data.deviceId = deviceId) (h : ¬ buffer.hasOwn deviceId)
    (published : List (Reading D)) (deviceId' : String) :
    ofDevice deviceId' (published ++ [data]) ++ (buffer.get? deviceId').getD [] =
      ofDevice deviceId' published ++ (buffer.get? deviceId').getD [] ++
        ofDevice deviceId' [data] := by
  rw [JsObject.hasOwn, Option.not_isSome_iff_eq_none] at h
  rw [ofDevice_append, ofDevice_singleton, hdata]
  split
  · next heq => rw [← heq, h, Option.getD_none, List.append_nil, List.append_nil]
  · rw [List.append_nil, List.append_nil]

end Buffers

/-! ### One event -/

/-- `register` keeps the invariant: it does not touch the readings. -/
theorem valid_register (config : GatewayConfig) (deviceId deviceType handlerId : String)
    {s : DeviceManager D} (hs : s.Valid) : (s.register config deviceId deviceType handlerId).Valid := by
  unfold register
  split
  · exact hs
  · split
    · exact hs
    · refine ⟨hs.conserved, fun deviceId' ↦ ?_⟩
      rw [buffering, countP_append_singleton, if_neg]
      · exact hs.buffering deviceId'
      · rintro ⟨hcaller, _⟩
        cases hcaller

/-- `deliver` keeps the invariant on each of its three paths. -/
theorem valid_deliver (config : GatewayConfig) (handlerId deviceId deviceType : String)
    (deviceData : D) (receivedTime : String) {s : DeviceManager D} (hs : s.Valid) :
    (s.deliver config handlerId deviceId deviceType deviceData receivedTime).Valid := by
  unfold deliver
  split
  · exact hs
  · next controllerId _ =>
    simp only
    split
    · next hpending =>
      constructor
      · intro deviceId'
        rw [ofDevice_append, ← hs.conserved, List.append_assoc, buffered]
        congr 1
        exact buffered_push (by rfl) hpending deviceId'
      · intro deviceId'
        rw [JsObject.hasOwn_modify]
        exact hs.buffering deviceId'
    · next hpending =>
      split
      · constructor
        · intro deviceId'
          rw [ofDevice_append, ← hs.conserved, List.append_assoc, buffered]
          congr 1
          exact buffered_new (by rfl) hpending deviceId'
        · intro deviceId'
          have hcount := hs.buffering deviceId'
          rw [buffering] at hcount
          rw [buffering, countP_append_singleton, JsObject.hasOwn_set, hcount]
          by_cases heq : deviceId' = deviceId
          · simp [heq, hpending, BuffersFor]
          · simp [heq, Ne.symm heq, BuffersFor]
      · constructor
        · intro deviceId'
          rw [ofDevice_append deviceId' s.delivered, ← hs.conserved]
          exact published_direct (by rfl) hpending s.published deviceId'
        · exact hs.buffering

/-- The database does not touch the readings. -/
theorem valid_store {r : Registration} {s : DeviceManager D} (hs : s.Valid) (h : r ∈ s.adding) :
    (s.store r).Valid := by
  refine ⟨hs.conserved, fun deviceId ↦ ?_⟩
  rw [buffering_store h]
  exact hs.buffering deviceId

-- The callback of `deliver` moves the buffer of its device to the published readings.
private theorem conserved_publish {s : DeviceManager D} (hs : s.Conserved) {deviceId : String}
    {readings : List (Reading D)} (h : s.pendingDeviceBuffer.get? deviceId = some readings)
    (deviceId' : String) :
    ofDevice deviceId' (s.published ++ readings) ++
      ((s.pendingDeviceBuffer.erase deviceId).get? deviceId').getD [] =
        ofDevice deviceId' s.delivered := by
  have hreadings : s.buffered deviceId = readings := by rw [buffered, h, Option.getD_some]
  have hown : ∀ data ∈ readings, data.deviceId = deviceId := by
    rw [← hreadings]
    exact fun data hdata ↦ deviceId_of_buffered hs hdata
  rw [ofDevice_append, JsObject.get?_erase, ← hs]
  split
  · next heq =>
    rw [heq, ofDevice_self hown, hreadings, Option.getD_none, List.append_nil]
  · next hne =>
    rw [ofDevice_of_ne hne hown, List.append_nil, buffered]

/-- A callback keeps the invariant: that of `deliver` finds the buffer it has to publish. -/
theorem valid_complete {r : Registration} {s : DeviceManager D} (hs : s.Valid) (h : r ∈ s.added) :
    (s.complete r).Valid := by
  have hcount := fun deviceId ↦ (buffering_erase h deviceId).symm.trans (hs.buffering deviceId)
  unfold complete
  simp only
  split
  · next readings hcaller hreadings =>
    refine ⟨conserved_publish hs.conserved hreadings, fun deviceId ↦ ?_⟩
    have hbefore := hcount deviceId
    rw [JsObject.hasOwn_erase, buffering]
    by_cases heq : deviceId = r.device.id
    · have hown : s.pendingDeviceBuffer.hasOwn deviceId := by
        rw [heq, JsObject.hasOwn, hreadings, Option.isSome_some]
      rw [if_pos ⟨hcaller, heq.symm⟩, if_pos hown] at hbefore
      simp only [heq, ne_eq, not_true_eq_false, decide_false, Bool.false_and, Bool.false_eq_true,
        if_false]
      rw [heq] at hbefore
      omega
    · rw [if_neg fun hr ↦ heq hr.2.symm, Nat.add_zero] at hbefore
      simp only [ne_eq, heq, not_false_eq_true, decide_true, Bool.true_and]
      exact hbefore
  · next hcase =>
    refine ⟨hs.conserved, fun deviceId ↦ ?_⟩
    have hbefore := hcount deviceId
    rw [if_neg, Nat.add_zero] at hbefore
    · exact hbefore
    · rintro ⟨hcaller, hid⟩
      rw [if_pos ⟨hcaller, hid⟩] at hbefore
      split at hbefore
      · next hown =>
        obtain ⟨readings, hreadings⟩ := (JsObject.hasOwn_iff _ _).mp hown
        rw [← hid] at hreadings
        exact hcase readings hcaller hreadings
      · omega

/-- Every event keeps the invariant. -/
theorem valid_step {config : GatewayConfig} {s t : DeviceManager D} {e : DeviceEvent D}
    (hs : s.Valid) (h : step config s e = some t) : t.Valid := by
  cases e with
  | register deviceId deviceType handlerId =>
    obtain rfl := Option.some.inj h
    exact valid_register config deviceId deviceType handlerId hs
  | deliver handlerId deviceId deviceType deviceData receivedTime =>
    obtain rfl := Option.some.inj h
    exact valid_deliver config handlerId deviceId deviceType deviceData receivedTime hs
  | store r =>
    rw [step] at h
    split at h
    · next hr =>
      obtain rfl := Option.some.inj h
      exact valid_store hs hr
    · cases h
  | complete r =>
    rw [step] at h
    split at h
    · next hr =>
      obtain rfl := Option.some.inj h
      exact valid_complete hs hr
    · cases h

/-- At first there are no readings. -/
theorem valid_initial (db : DevicesDb) : (initial db : DeviceManager D).Valid where
  conserved _ := rfl
  buffering _ := rfl

/-- From start-up on, whatever the database holds, no reading is lost, duplicated or
reordered. -/
theorem readings_conserved (config : GatewayConfig) (db : DevicesDb)
    (events : List (DeviceEvent D)) : Always (step config) Conserved (initial db) events :=
  Always.imp (step config) (fun _ hs ↦ hs.conserved)
    (always_of_invariant (step config) (fun _ _ _ hs h ↦ valid_step hs h) events (valid_initial db))

/-! ### The calls of the handlers -/

/-- The reading of a call of `deliver` whose handler is loaded. -/
def reading? (config : GatewayConfig) : DeviceEvent D → Option (Reading D)
  | .deliver handlerId deviceId deviceType deviceData receivedTime =>
    (getControllerId config handlerId).map fun controllerId ↦
      ⟨deviceId, deviceType, deviceData, ⟨receivedTime, handlerId, controllerId, config.gatewayId⟩⟩
  | .register _ _ _ | .store _ | .complete _ => none

/-- An event delivers its own reading, if it has one. -/
theorem delivered_step {config : GatewayConfig} {s t : DeviceManager D} {e : DeviceEvent D}
    (h : step config s e = some t) : t.delivered = s.delivered ++ (reading? config e).toList := by
  cases e with
  | register deviceId deviceType handlerId =>
    obtain rfl := Option.some.inj h
    rw [reading?, Option.toList_none, List.append_nil]
    unfold register
    split
    · rfl
    · split <;> rfl
  | deliver handlerId deviceId deviceType deviceData receivedTime =>
    obtain rfl := Option.some.inj h
    unfold deliver
    cases hcontroller : getControllerId config handlerId with
    | none => rw [reading?, hcontroller, Option.map_none, Option.toList_none, List.append_nil]
    | some controllerId =>
      rw [reading?, hcontroller, Option.map_some, Option.toList_some]
      dsimp only
      split
      · rfl
      · split <;> rfl
  | store r =>
    rw [step] at h
    split at h
    · obtain rfl := Option.some.inj h
      exact (List.append_nil _).symm
    · cases h
  | complete r =>
    rw [step] at h
    split at h
    · obtain rfl := Option.some.inj h
      rw [reading?, Option.toList_none, List.append_nil]
      unfold complete
      dsimp only
      split <;> rfl
    · cases h

/-- What has been delivered since start-up are the readings of the calls of `deliver`, in their
order. -/
theorem delivered_run {config : GatewayConfig} {db : DevicesDb} {events : List (DeviceEvent D)}
    {s : DeviceManager D} (hs : run (step config) (initial db) events = some s) :
    s.delivered = events.filterMap (reading? config) := by
  refine run_history (step config)
    (P := fun before s ↦ s.delivered = before.filterMap (reading? config)) ?_ events [] rfl hs
  intro before s e t hbefore ht
  rw [delivered_step ht, hbefore, List.filterMap_append, List.filterMap_cons, List.filterMap_nil]
  cases reading? config e <;> rfl

/-- A reading of a new device and one more during its registration are published after it. -/
example : (run (step (D := Nat) ⟨"gateway", JsObject.empty.set "handler" "controller"⟩)
    (initial DevicesDb.empty)
    [.deliver "handler" "d1" "sensor" 1 "t1",
      .store ⟨⟨"d1", "sensor", "handler", "controller", true⟩, .deliver⟩,
      .deliver "handler" "d1" "sensor" 2 "t2",
      .complete ⟨⟨"d1", "sensor", "handler", "controller", true⟩, .deliver⟩]).map (fun s ↦
        (s.delivered.map Reading.deviceData, s.published.map Reading.deviceData)) =
    some ([1, 2], [1, 2]) := by decide

end DeviceManager
end NexusEdge.Devices
