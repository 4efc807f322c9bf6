import Mathlib.Data.Rat.Init
import NexusEdge.Base.Delivery
import NexusEdge.Base.JsObject
import NexusEdge.Base.Json
import NexusEdge.Base.Transition

/-!
# Messages to actuators

Library `Devices`. What the handlers of Leviton lights and OORT sockets have in common: `dispatch`
adds a message to `pendingMessages`, and `_handlePeripheral` takes the first message of a discovered
device, awaits a sequence of BLE steps and writes the message on the way, with the flag
`isHandlingMessages` as critical section. The handlers differ in what they accept and in their
steps. No message is lost, written twice or out of order, and the flag is released, exactly if
every step succeeds and the characteristic written to belongs to the device.
-/

namespace NexusEdge.Devices
open NexusEdge.Base

/-- Data of a message. -/
abbrev SendData := Json ℚ

/-- A characteristic found on a device. -/
structure Characteristic where
  device : String
  uuid : String
  deriving DecidableEq

/-- Outcome of an awaited BLE step. -/
inductive BleAnswer where
  | rejected (error : String)
  | done
  | services (uuids : List String)
  | characteristics (uuids : List String)
  | value (bytes : List Nat)
  deriving DecidableEq

/-- How `_handlePeripheral` goes on after a step, with the characteristics it holds; when the
message has been written, the characteristic it was written to. -/
inductive Progress (Phase Handles : Type) where
  | throws (handles : Handles)
  | awaits (handles : Handles) (phase : Phase) (write : Option Characteristic)
  | returns (handles : Handles) (write : Option Characteristic)

/-- What the handlers differ in. -/
structure ActuatorDriver (Phase Handles : Type) where
  /-- Whether `dispatch` accepts the data. -/
  isValidData : SendData → Except String Bool
  /-- The first awaited step for a message; none when the code before it throws. -/
  begins : SendData → Option Phase
  /-- The message has been written before the step. -/
  sent : Phase → Bool
  /-- The code after a step; none when the answer is not one to that step. -/
  resume : String → SendData → Handles → Phase → BleAnswer → Option (Progress Phase Handles)

/-- A call of `_handlePeripheral` that has taken a message. -/
structure Handling (Phase : Type) where
  device : String
  message : SendData
  phase : Phase

/-- A handler, the calls under way, and what has been accepted and written so far. -/
structure ActuatorHandler (Phase Handles : Type) where
  pendingMessages : JsObject (List SendData)
  isHandlingMessages : Bool
  registeredDevices : List String
  handles : Handles
  handlers : List (Handling Phase)
  accepted : List (String × SendData)
  written : List (String × SendData)

/-- What a handler reacts to. -/
inductive ActuatorEvent where
  | dispatch (deviceId : String) (data : SendData)
  | discovered (deviceId : String)
  /-- Outcome of the step that the `k`-th call awaits. -/
  | answered (k : Nat) (answer : BleAnswer)

namespace ActuatorHandler

variable {Phase Handles : Type}

/-- Nothing is pending; these are the characteristics held. -/
def initial (handles : Handles) : ActuatorHandler Phase Handles :=
  ⟨JsObject.empty, false, [], handles, [], [], []⟩

/-- The messages pending for a device. -/
def pendingFor (s : ActuatorHandler Phase Handles) (deviceId : String) : List SendData :=
  (s.pendingMessages.get? deviceId).getD []

/-- `dispatch` of accepted data. -/
def push (s : ActuatorHandler Phase Handles) (deviceId : String) (data : SendData) :
    ActuatorHandler Phase Handles :=
  { s with
    pendingMessages := s.pendingMessages.set deviceId (s.pendingFor deviceId ++ [data])
    accepted := s.accepted ++ [(deviceId, data)] }

/-- A device is registered when it is discovered first. -/
def register (s : ActuatorHandler Phase Handles) (deviceId : String) :
    ActuatorHandler Phase Handles :=
  if deviceId ∈ s.registeredDevices then s
  else { s with registeredDevices := s.registeredDevices ++ [deviceId] }

/-- `_handlePeripheral` up to its first awaited step; `undefined` behaves as `null` there. -/
def handlePeripheral (D : ActuatorDriver Phase Handles) (s : ActuatorHandler Phase Handles)
    (deviceId : String) : ActuatorHandler Phase Handles :=
  let s := s.register deviceId
  match s.pendingMessages.get? deviceId, s.isHandlingMessages with
  | some messageList, false =>
    let message := messageList.headD .null
    let s := { s with
      isHandlingMessages := true
      pendingMessages := s.pendingMessages.set deviceId messageList.tail }
    match D.begins message with
    | some phase => { s with handlers := s.handlers ++ [⟨deviceId, message, phase⟩] }
    | none => s
  | _, _ => s

/-- The end of `_handlePeripheral`: an empty list is deleted. -/
def release (s : ActuatorHandler Phase Handles) (deviceId : String) :
    ActuatorHandler Phase Handles :=
  { s with
    isHandlingMessages := false
    pendingMessages :=
      if (s.pendingFor deviceId).length = 0 then s.pendingMessages.erase deviceId
      else s.pendingMessages }

/-- A written message. -/
def record (s : ActuatorHandler Phase Handles) (write : Option Characteristic)
    (message : SendData) : ActuatorHandler Phase Handles :=
  { s with written := s.written ++ write.toList.map fun c ↦ (c.device, message) }

/-- A call goes on after a step. -/
def proceed (s : ActuatorHandler Phase Handles) (k : Nat) (h : Handling Phase) :
    Progress Phase Handles → ActuatorHandler Phase Handles
  | .throws handles => { s with handles := handles, handlers := s.handlers.eraseIdx k }
  | .awaits handles phase write =>
    { s with
      handles := handles
      handlers := s.handlers.set k ⟨h.device, h.message, phase⟩ }.record write h.message
  | .returns handles write =>
    ({ s with handles := handles, handlers := s.handlers.eraseIdx k }.record write h.message).release
      h.device

/-- One event; none when the event cannot happen. -/
def step (D : ActuatorDriver Phase Handles) (s : ActuatorHandler Phase Handles) :
    ActuatorEvent → Option (ActuatorHandler Phase Handles)
  | .dispatch deviceId data =>
    match D.isValidData data with
    | .ok true => some (s.push deviceId data)
    | _ => some s
  | .discovered deviceId => some (s.handlePeripheral D deviceId)
  | .answered k answer =>
    (s.handlers[k]?).bind fun h ↦
      (D.resume h.device h.message s.handles h.phase answer).map (s.proceed k h)

/-! ### What is kept -/

/-- The message of a call is for the device and not written yet. -/
def heldMessage (D : ActuatorDriver Phase Handles) (deviceId : String) (h : Handling Phase) :
    Option SendData :=
  if h.device = deviceId ∧ D.sent h.phase = false then some h.message else none

/-- The messages for a device that active calls hold. -/
def heldFor (D : ActuatorDriver Phase Handles) (s : ActuatorHandler Phase Handles)
    (deviceId : String) : List SendData :=
  s.handlers.filterMap (heldMessage D deviceId)

/-- The messages accepted for a device are, in order, those written to it, the one held by the
active call and the pending ones; the flag is set only while a call is active. -/
structure Conserved (D : ActuatorDriver Phase Handles) (s : ActuatorHandler Phase Handles) :
    Prop where
  messages : ∀ deviceId, itemsFor s.accepted deviceId =
    itemsFor s.written deviceId ++ s.heldFor D deviceId ++ s.pendingFor deviceId
  single : s.handlers.length ≤ 1
  ready : s.isHandlingMessages = true → s.handlers ≠ []

/-- The first step can be taken for messages of this kind, and the steps succeed, in the sense of
the handler. -/
def Succeeds (begin : SendData → Prop) (ok : String → Handles → Phase → BleAnswer → Prop)
    (s : ActuatorHandler Phase Handles) : ActuatorEvent → Prop
  | .dispatch _ _ => True
  | .discovered deviceId => s.isHandlingMessages = false →
      ∀ message ∈ (s.pendingFor deviceId).head?, begin message
  | .answered k answer => ∀ h, s.handlers[k]? = some h → ok h.device s.handles h.phase answer

/-- How a step that succeeds or not is followed. -/
inductive Follows (sent : Phase → Bool) (deviceId : String) (phase : Phase) (ok : Prop) :
    Progress Phase Handles → Prop where
  | throws (handles : Handles) (hok : ¬ ok) : Follows sent deviceId phase ok (.throws handles)
  | waits (handles : Handles) (phase' : Phase) (hsent : sent phase' = sent phase) (hok : ok) :
      Follows sent deviceId phase ok (.awaits handles phase' none)
  | writes (handles : Handles) (phase' : Phase) (c : Characteristic) (hbefore : sent phase = false)
      (hafter : sent phase' = true) (hok : ok ↔ c.device = deviceId) :
      Follows sent deviceId phase ok (.awaits handles phase' (some c))
  | returns (handles : Handles) (hsent : sent phase = true) (hok : ok) :
      Follows sent deviceId phase ok (.returns handles none)
  | writesLast (handles : Handles) (c : Characteristic) (hbefore : sent phase = false)
      (hok : ok ↔ c.device = deviceId) : Follows sent deviceId phase ok (.returns handles (some c))

/-- The handler goes on exactly from the steps that succeed, and writes each message once. -/
structure Lawful (D : ActuatorDriver Phase Handles) (begin : SendData → Prop)
    (ok : String → Handles → Phase → BleAnswer → Prop) : Prop where
  begins_iff : ∀ message, (D.begins message).isSome ↔ begin message
  unsent : ∀ message phase, D.begins message = some phase → D.sent phase = false
  resume : ∀ deviceId message handles phase answer progress,
    D.isValidData message = .ok true →
    D.resume deviceId message handles phase answer = some progress →
    Follows D.sent deviceId phase (ok deviceId handles phase answer) progress

/-- At most one call is active, with the flag set; only its device can have an empty list, and
everything that is pending or held was accepted. -/
structure Wf (D : ActuatorDriver Phase Handles) (s : ActuatorHandler Phase Handles) : Prop where
  single : s.handlers.length ≤ 1
  idle : s.isHandlingMessages = false → s.handlers = []
  empty : ∀ deviceId, s.pendingMessages.get? deviceId = some [] →
    s.isHandlingMessages = true ∧ ∀ h ∈ s.handlers, h.device = deviceId
  pending : ∀ deviceId, ∀ message ∈ s.pendingFor deviceId, D.isValidData message = .ok true
  held : ∀ h ∈ s.handlers, D.isValidData h.message = .ok true

variable {D : ActuatorDriver Phase Handles} {begin : SendData → Prop}
  {ok : String → Handles → Phase → BleAnswer → Prop} {s t : ActuatorHandler Phase Handles}
  {e : ActuatorEvent}

/-- Nothing is pending. -/
theorem wf_initial (handles : Handles) : (initial handles).Wf D :=
  ⟨Nat.zero_le 1, fun _ ↦ rfl, nofun, nofun, nofun⟩

/-- Nothing was accepted. -/
theorem conserved_initial (handles : Handles) : (initial handles).Conserved D :=
  ⟨fun _ ↦ rfl, Nat.zero_le 1, nofun⟩

/-! ### Lists of messages -/

/-- The pending messages when the list of one device is replaced. -/
private theorem getD_get?_set (o : JsObject (List SendData)) (deviceId id : String)
    (messageList : List SendData) : ((o.set deviceId messageList).get? id).getD [] =
      if id = deviceId then messageList else (o.get? id).getD [] := by
  rw [JsObject.get?_set]
  split <;> rfl

/-- Deleting an empty list takes no message away. -/
theorem pendingFor_release (s : ActuatorHandler Phase Handles) (deviceId id : String) :
    (s.release deviceId).pendingFor id = s.pendingFor id := by
  by_cases hempty : (s.pendingFor deviceId).length = 0
  · have hget : (s.release deviceId).pendingMessages = s.pendingMessages.erase deviceId :=
      if_pos hempty
    rw [pendingFor, hget, JsObject.get?_erase]
    split
    · next hid => rw [hid, List.eq_nil_of_length_eq_zero hempty, Option.getD_none]
    · rfl
  · have hget : (s.release deviceId).pendingMessages = s.pendingMessages := if_neg hempty
    rw [pendingFor, hget, pendingFor]

/-- A single call holds its message until it is written. -/
theorem heldFor_single {h : Handling Phase} (hs : s.handlers = [h]) (deviceId : String) :
    s.heldFor D deviceId =
      if h.device = deviceId ∧ D.sent h.phase = false then [h.message] else [] := by
  rw [heldFor, hs]
  by_cases hheld : h.device = deviceId ∧ D.sent h.phase = false
  · have hmessage : heldMessage D deviceId h = some h.message := if_pos hheld
    rw [List.filterMap_cons_some hmessage, List.filterMap_nil, if_pos hheld]
  · have hmessage : heldMessage D deviceId h = none := if_neg hheld
    rw [List.filterMap_cons_none hmessage, List.filterMap_nil, if_neg hheld]

/-! ### Dispatch -/

/-- An accepted message is pending. -/
theorem Conserved.push (hs : s.Conserved D) (deviceId : String) (data : SendData) :
    (s.push deviceId data).Conserved D := by
  refine ⟨fun id ↦ ?_, hs.single, hs.ready⟩
  have hold := hs.messages id
  simp only [ActuatorHandler.push, pendingFor, heldFor] at hold ⊢
  rw [itemsFor_append, hold, getD_get?_set]
  by_cases hid : id = deviceId
  · rw [if_pos hid.symm, if_pos hid, hid, List.append_assoc]
  · rw [if_neg (Ne.symm hid), if_neg hid, List.append_nil]

/-- It was accepted. -/
theorem Wf.push (hs : s.Wf D) {deviceId : String} {data : SendData}
    (hdata : D.isValidData data = .ok true) : (s.push deviceId data).Wf D := by
  refine ⟨hs.single, hs.idle, fun id hid ↦ ?_, fun id message hmem ↦ ?_, hs.held⟩
  · simp only [ActuatorHandler.push] at hid
    rw [JsObject.get?_set] at hid
    split at hid
    · exact absurd (Option.some.inj hid) (List.append_ne_nil_of_right_ne_nil _ nofun)
    · exact hs.empty id hid
  · simp only [ActuatorHandler.push, pendingFor] at hmem
    rw [getD_get?_set] at hmem
    split at hmem
    · rcases List.mem_append.mp hmem with hmem | hmem
      · exact hs.pending deviceId message hmem
      · rw [List.mem_singleton.mp hmem]
        exact hdata
    · exact hs.pending id message hmem

/-! ### Discovery -/

/-- A discovered device is registered; its first message is taken if no call is active. -/
theorem handlePeripheral_cases (hs : s.Wf D) (deviceId : String) : ∃ devices,
    (s.handlePeripheral D deviceId = { s with registeredDevices := devices } ∧
      (s.isHandlingMessages = true ∨ s.pendingFor deviceId = [])) ∨
    ∃ message rest, s.isHandlingMessages = false ∧
      s.pendingMessages.get? deviceId = some (message :: rest) ∧
      s.handlePeripheral D deviceId =
        { s with
          registeredDevices := devices
          isHandlingMessages := true
          pendingMessages := s.pendingMessages.set deviceId rest
          handlers := (D.begins message).toList.map fun phase ↦ ⟨deviceId, message, phase⟩ } := by
  obtain ⟨devices, hregister⟩ :
      ∃ devices, s.register deviceId = { s with registeredDevices := devices } := by
    unfold register
    split
    · exact ⟨s.registeredDevices, rfl⟩
    · exact ⟨_, rfl⟩
  refine ⟨devices, ?_⟩
  simp only [handlePeripheral, hregister]
  cases hlist : s.pendingMessages.get? deviceId with
  | none =>
    refine Or.inl ⟨rfl, Or.inr ?_⟩
    rw [pendingFor, hlist, Option.getD_none]
  | some messageList =>
    cases hflag : s.isHandlingMessages with
    | true => exact Or.inl ⟨rfl, Or.inl rfl⟩
    | false =>
      cases messageList with
      | nil =>
        have hset := (hs.empty deviceId hlist).1
        rw [hflag] at hset
        cases hset
      | cons message rest =>
        refine Or.inr ⟨message, rest, rfl, rfl, ?_⟩
        simp only [List.headD_cons, List.tail_cons]
        cases D.begins message with
        | none => simp only [hs.idle hflag, Option.toList_none, List.map_nil]
        | some phase =>
          simp only [hs.idle hflag, Option.toList_some, List.map_cons, List.map_nil, List.nil_append]

/-- Discovered devices keep the calls in order. -/
theorem Wf.handlePeripheral (hs : s.Wf D) (deviceId : String) :
    (s.handlePeripheral D deviceId).Wf D := by
  obtain ⟨devices, ⟨heq, _⟩ | ⟨message, rest, hflag, hlist, heq⟩⟩ := handlePeripheral_cases hs deviceId
  · rw [heq]
    exact ⟨hs.single, hs.idle, hs.empty, hs.pending, hs.held⟩
  · have hpending := hs.pending deviceId
    rw [pendingFor, hlist, Option.getD_some] at hpending
    rw [heq]
    refine ⟨?_, nofun, fun id hid ↦ ⟨rfl, ?_⟩, fun id m hmem ↦ ?_, fun h hh ↦ ?_⟩
    · cases D.begins message with
      | none => exact Nat.zero_le 1
      | some phase => exact le_refl 1
    · intro h hh
      obtain ⟨phase, _, rfl⟩ := List.mem_map.mp hh
      simp only at hid
      rw [JsObject.get?_set] at hid
      split at hid
      · next hdevice => exact hdevice.symm
      · have hset := (hs.empty id hid).1
        rw [hflag] at hset
        cases hset
    · simp only [pendingFor] at hmem
      rw [getD_get?_set] at hmem
      split at hmem
      · exact hpending m (List.mem_cons_of_mem message hmem)
      · exact hs.pending id m hmem
    · obtain ⟨phase, _, rfl⟩ := List.mem_map.mp hh
      exact hpending message List.mem_cons_self

/-- The first message of a device is taken without loss exactly if its first step can be taken. -/
theorem conserved_handlePeripheral_iff (hD : Lawful D begin ok) (hwf : s.Wf D)
    (hs : s.Conserved D) (deviceId : String) : (s.handlePeripheral D deviceId).Conserved D ↔
      s.Succeeds begin ok (.discovered deviceId) := by
  obtain ⟨devices, ⟨heq, hidle⟩ | ⟨message, rest, hflag, hlist, heq⟩⟩ :=
    handlePeripheral_cases hwf deviceId
  · rw [heq]
    refine iff_of_true ⟨hs.messages, hs.single, hs.ready⟩ fun hflag message hmem ↦ ?_
    rcases hidle with hset | hnone
    · rw [hflag] at hset
      cases hset
    · rw [hnone] at hmem
      cases hmem
  · have hpending : s.pendingFor deviceId = message :: rest := by
      rw [pendingFor, hlist, Option.getD_some]
    have hsucceeds : s.Succeeds begin ok (.discovered deviceId) ↔ begin message := by
      simp only [Succeeds, hpending, hflag, List.head?_cons, Option.mem_some_iff, forall_eq',
        forall_const]
    rw [hsucceeds, ← hD.begins_iff, heq]
    cases hbegins : D.begins message with
    | none =>
      refine iff_of_false (fun h ↦ h.ready rfl rfl) ?_
      rw [Option.isSome_none]
      exact Bool.false_ne_true
    | some phase =>
      refine iff_of_true ⟨fun id ↦ ?_, le_refl 1, fun _ ↦ nofun⟩ rfl
      rw [heldFor_single rfl, hD.unsent message phase hbegins]
      have hold := hs.messages id
      rw [heldFor, hwf.idle hflag, List.filterMap_nil, List.append_nil] at hold
      simp only [pendingFor, getD_get?_set, and_true]
      rw [hold]
      by_cases hid : id = deviceId
      · rw [if_pos hid.symm, if_pos hid, hid, hpending, List.append_assoc, List.singleton_append]
      · rw [if_neg (Ne.symm hid), if_neg hid, List.append_nil, pendingFor]

/-! ### Steps of a call -/

/-- Every active call is the only one. -/
theorem Wf.eq_single (hs : s.Wf D) {k : Nat} {h : Handling Phase} (hk : s.handlers[k]? = some h) :
    k = 0 ∧ s.handlers = [h] := by
  have hsingle := hs.single
  cases hhandlers : s.handlers with
  | nil =>
    rw [hhandlers] at hk
    cases hk
  | cons h' rest =>
    rw [hhandlers, List.length_cons] at hsingle
    obtain rfl := List.eq_nil_of_length_eq_zero (by omega : rest.length = 0)
    rw [hhandlers] at hk
    cases k with
    | zero => exact ⟨rfl, congrArg (fun h ↦ [h]) (Option.some.inj hk)⟩
    | succ k => cases hk

/-- The flag is set while a call is active. -/
theorem Wf.isHandling (hs : s.Wf D) {h : Handling Phase} (hh : s.handlers = [h]) :
    s.isHandlingMessages = true := by
  by_contra hflag
  rw [Bool.not_eq_true] at hflag
  rw [hs.idle hflag] at hh
  cases hh

/-- No list is empty after the end of a call. -/
theorem get?_release_ne_nil (hs : s.Wf D) {h : Handling Phase} (hh : s.handlers = [h])
    (deviceId : String) : (s.release h.device).pendingMessages.get? deviceId ≠ some [] := by
  intro hempty
  by_cases hpending : (s.pendingFor h.device).length = 0
  · have hget : (s.release h.device).pendingMessages = s.pendingMessages.erase h.device :=
      if_pos hpending
    rw [hget, JsObject.get?_erase] at hempty
    split at hempty
    · cases hempty
    · next hne =>
      have hdevice := (hs.empty deviceId hempty).2 h (by rw [hh]; exact List.mem_singleton_self h)
      exact hne hdevice.symm
  · have hget : (s.release h.device).pendingMessages = s.pendingMessages := if_neg hpending
    rw [hget] at hempty
    have hdevice := (hs.empty deviceId hempty).2 h (by rw [hh]; exact List.mem_singleton_self h)
    rw [hdevice, pendingFor, hempty] at hpending
    exact hpending rfl

/-- A step keeps the calls in order. -/
theorem Wf.proceed (hs : s.Wf D) {k : Nat} {h : Handling Phase} (hk : s.handlers[k]? = some h)
    (progress : Progress Phase Handles) : (s.proceed k h progress).Wf D := by
  obtain ⟨rfl, hh⟩ := hs.eq_single hk
  have hheld := hs.held h (by rw [hh]; exact List.mem_singleton_self h)
  cases progress with
  | throws handles =>
    simp only [ActuatorHandler.proceed, hh, List.eraseIdx_cons_zero]
    exact ⟨Nat.zero_le 1, fun _ ↦ rfl, fun id hid ↦ ⟨(hs.empty id hid).1, nofun⟩, hs.pending, nofun⟩
  | awaits handles phase write =>
    simp only [ActuatorHandler.proceed, record, hh, List.set_cons_zero]
    refine ⟨le_refl 1, fun hflag ↦ ?_, fun id hid ↦ ⟨(hs.empty id hid).1, ?_⟩, hs.pending, ?_⟩
    · have hset := hs.isHandling hh
      rw [hset] at hflag
      cases hflag
    · intro h' hh'
      obtain rfl := List.mem_singleton.mp hh'
      exact (hs.empty id hid).2 h (by rw [hh]; exact List.mem_singleton_self h)
    · intro h' hh'
      obtain rfl := List.mem_singleton.mp hh'
      exact hheld
  | returns handles write =>
    simp only [ActuatorHandler.proceed, record, hh, List.eraseIdx_cons_zero]
    refine ⟨Nat.zero_le 1, fun _ ↦ rfl, fun id hid ↦ ?_, fun id m hmem ↦ ?_, nofun⟩
    · exact absurd hid (get?_release_ne_nil hs hh id)
    · rw [pendingFor_release] at hmem
      exact hs.pending id m hmem

/-- A message is accounted for after it has been written exactly if it was written to its device. -/
theorem messages_written_iff {accepted written : List (String × SendData)} {message : SendData}
    {device : String} {pending : String → List SendData} (c : Characteristic)
    (h : ∀ id, itemsFor accepted id =
      itemsFor written id ++ (if device = id then [message] else []) ++ pending id) :
    (∀ id, itemsFor accepted id = itemsFor (written ++ [(c.device, message)]) id ++ pending id) ↔
      c.device = device := by
  constructor
  · intro hall
    by_contra hne
    have hlength := congrArg List.length ((h device).symm.trans (hall device))
    rw [itemsFor_append, if_pos rfl, if_neg hne] at hlength
    simp only [List.length_append, List.length_singleton, List.length_nil] at hlength
    omega
  · rintro rfl id
    rw [itemsFor_append, h id]

/-- A step of a call loses nothing exactly if it succeeds. -/
theorem conserved_proceed_iff (hwf : s.Wf D) (hs : s.Conserved D) {k : Nat} {h : Handling Phase}
    (hk : s.handlers[k]? = some h) {P : Prop} {progress : Progress Phase Handles}
    (hfollows : Follows D.sent h.device h.phase P progress) :
    (s.proceed k h progress).Conserved D ↔ P := by
  obtain ⟨rfl, hh⟩ := hwf.eq_single hk
  have hold := hs.messages
  simp only [heldFor_single hh] at hold
  cases hfollows with
  | throws handles hP =>
    refine iff_of_false (fun hconserved ↦ ?_) hP
    simp only [proceed, hh, List.eraseIdx_cons_zero] at hconserved
    exact hconserved.ready (hwf.isHandling hh) rfl
  | waits handles phase' hsent hP =>
    refine iff_of_true ?_ hP
    simp only [proceed, record, hh, List.set_cons_zero, Option.toList_none, List.map_nil,
      List.append_nil]
    refine ⟨fun id ↦ ?_, le_refl 1, fun _ ↦ List.cons_ne_nil _ _⟩
    rw [heldFor_single rfl, hsent]
    exact hold id
  | writes handles phase' c hbefore hafter hP =>
    simp only [hbefore, and_true] at hold
    rw [hP, ← messages_written_iff c hold]
    simp only [proceed, record, hh, List.set_cons_zero, Option.toList_some, List.map_cons,
      List.map_nil]
    constructor
    · intro hconserved id
      have hid := hconserved.messages id
      rw [heldFor_single rfl, hafter] at hid
      simp only [Bool.true_eq_false, and_false, if_false, List.append_nil] at hid
      exact hid
    · intro hmessages
      refine ⟨fun id ↦ ?_, le_refl 1, fun _ ↦ List.cons_ne_nil _ _⟩
      rw [heldFor_single rfl, hafter]
      simp only [Bool.true_eq_false, and_false, if_false, List.append_nil]
      exact hmessages id
  | returns handles hsent hP =>
    refine iff_of_true ?_ hP
    simp only [hsent, Bool.true_eq_false, and_false, if_false, List.append_nil] at hold
    simp only [proceed, record, hh, List.eraseIdx_cons_zero, Option.toList_none, List.map_nil,
      List.append_nil]
    refine ⟨fun id ↦ ?_, Nat.zero_le 1, fun hready ↦ absurd hready Bool.false_ne_true⟩
    rw [pendingFor_release]
    simp only [heldFor, release, List.filterMap_nil, List.append_nil]
    exact hold id
  | writesLast handles c hbefore hP =>
    simp only [hbefore, and_true] at hold
    rw [hP, ← messages_written_iff c hold]
    simp only [proceed, record, hh, List.eraseIdx_cons_zero, Option.toList_some, List.map_cons,
      List.map_nil]
    constructor
    · intro hconserved id
      have hid := hconserved.messages id
      rw [pendingFor_release] at hid
      simp only [heldFor, release, List.filterMap_nil, List.append_nil] at hid
      exact hid
    · intro hmessages
      refine ⟨fun id ↦ ?_, Nat.zero_le 1, fun hready ↦ absurd hready Bool.false_ne_true⟩
      rw [pendingFor_release]
      simp only [heldFor, release, List.filterMap_nil, List.append_nil]
      exact hmessages id

/-! ### Runs -/

/-- Every event keeps the calls in order. -/
theorem Wf.step (hs : s.Wf D) (ht : s.step D e = some t) : t.Wf D := by
  cases e with
  | dispatch deviceId data =>
    simp only [ActuatorHandler.step] at ht
    split at ht
    · next hdata =>
      obtain rfl := Option.some.inj ht
      exact hs.push hdata
    · obtain rfl := Option.some.inj ht
      exact hs
  | discovered deviceId =>
    obtain rfl := Option.some.inj ht
    exact hs.handlePeripheral deviceId
  | answered k answer =>
    obtain ⟨h, hk, hmap⟩ := Option.bind_eq_some_iff.mp ht
    obtain ⟨progress, _, rfl⟩ := Option.map_eq_some_iff.mp hmap
    exact hs.proceed hk progress

/-- An event conserves the messages exactly if what it stands for succeeds. -/
theorem conserved_step_iff (hD : Lawful D begin ok) (hwf : s.Wf D) (hs : s.Conserved D)
    (ht : s.step D e = some t) : t.Conserved D ↔ s.Succeeds begin ok e := by
  cases e with
  | dispatch deviceId data =>
    simp only [ActuatorHandler.step] at ht
    split at ht
    · obtain rfl := Option.some.inj ht
      exact iff_of_true (hs.push deviceId data) trivial
    · obtain rfl := Option.some.inj ht
      exact iff_of_true hs trivial
  | discovered deviceId =>
    obtain rfl := Option.some.inj ht
    exact conserved_handlePeripheral_iff hD hwf hs deviceId
  | answered k answer =>
    obtain ⟨h, hk, hmap⟩ := Option.bind_eq_some_iff.mp ht
    obtain ⟨progress, hresume, rfl⟩ := Option.map_eq_some_iff.mp hmap
    have hheld : D.isValidData h.message = .ok true :=
      hwf.held h (List.mem_of_getElem? hk)
    rw [conserved_proceed_iff hwf hs hk (hD.resume _ _ _ _ _ _ hheld hresume)]
    constructor
    · intro hok h' hk'
      obtain rfl := Option.some.inj (hk.symm.trans hk')
      exact hok
    · exact fun hall ↦ hall h hk

/-- A run conserves the messages exactly if all its steps succeed. -/
theorem always_conserved_iff (hD : Lawful D begin ok) (handles : Handles)
    (es : List ActuatorEvent) :
    Always (ActuatorHandler.step D) (Conserved D) (initial handles) es ↔
      EachStep (ActuatorHandler.step D) (Succeeds begin ok) (initial handles) es :=
  always_iff_eachStep (ActuatorHandler.step D) (fun _ _ _ hs ht ↦ Wf.step hs ht)
    (fun _ _ _ hwf hs ht ↦ conserved_step_iff hD hwf hs ht) es (wf_initial handles)
    (conserved_initial handles)

end ActuatorHandler
end NexusEdge.Devices
