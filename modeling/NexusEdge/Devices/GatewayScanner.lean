import NexusEdge.Base.Delivery
import NexusEdge.Base.JsArray
import NexusEdge.Base.JsObject
import NexusEdge.Base.Transition
import NexusEdge.Devices.BleController

/-!
# Messages between gateways

Library `Devices`. `talkToGateway` and `_handlePeripheral` of
`gateway-scanner.js:47–105`. The lists of pending messages are shared by reference between
the table and the handlers under way; a handler takes a message before it connects and writes
it afterwards.
-/

namespace NexusEdge.Devices
open NexusEdge.Base

/-- `utils.getGatewayDetails(localName)`. -/
structure GatewayDetails where
  id : String
  ip : String

/-- Value of `_discoveredGateways`, `gateway-scanner.js:63–67`. -/
structure DiscoveredGateway where
  id : String
  ip : String
  lastActiveTime : Nat

/-- What a call of `_handlePeripheral` awaits. -/
inductive Phase where
  | connecting
  | discovering
  deriving DecidableEq

/-- A call of `_handlePeripheral` that has taken a message; `none` is `undefined`. -/
structure Handler (Payload : Type) where
  id : Nat
  ip : String
  /-- Reference of `messageList`. -/
  messageList : Nat
  message : Option Payload
  phase : Phase

/-- The payload a handler holds for a gateway. -/
def Handler.heldFor {Payload : Type} (ip : String) (h : Handler Payload) : Option Payload :=
  if h.ip = ip then h.message else none

/-- The module variables, the calls under way, and what has been queued and written so far. -/
structure GatewayScanner (Payload : Type) where
  controller : BleController
  /-- The lists ever created, by reference. -/
  lists : List (List Payload)
  pendingMessages : JsObject Nat
  discoveredGateways : JsObject DiscoveredGateway
  handlers : List (Handler Payload)
  /-- Number of handlers ever started. -/
  started : Nat
  queued : List (String × Payload)
  written : List (String × Payload)

/-- What the scanner reacts to. -/
inductive ScannerEvent (Payload : Type) where
  | talkToGateway (gatewayIP : String) (payload : Payload)
  /-- An advertisement; without local name there are no details. -/
  | advertisement (peripheral : String) (details : Option GatewayDetails) (now : Nat)
  /-- Another user of the controller connects. -/
  | connect (peripheral : String)
  /-- Answer to the `k`-th outstanding `peripheral.connect`. -/
  | connected (k : Nat) (answer : Except String Unit)
  | disconnected (peripheral : String)
  /-- Answer with the characteristics to a handler that discovers. -/
  | discovered (handler : Nat) (answer : Except String (List String))

namespace GatewayScanner

variable {Payload : Type}

/-- Nothing is queued or connected. -/
def initial : GatewayScanner Payload :=
  ⟨BleController.initial, [], JsObject.empty, JsObject.empty, [], 0, [], []⟩

/-- The messages in a list. -/
def contents (s : GatewayScanner Payload) (messageList : Nat) : List Payload :=
  (s.lists[messageList]?).getD []

/-- `talkToGateway`, `gateway-scanner.js:47–54`. -/
def talkToGateway (s : GatewayScanner Payload) (gatewayIP : String) (payload : Payload) :
    GatewayScanner Payload :=
  let s := { s with queued := s.queued ++ [(gatewayIP, payload)] }
  match s.pendingMessages.get? gatewayIP with
  | some messageList => { s with lists := s.lists.modify messageList (· ++ [payload]) }
  | none => { s with
      lists := s.lists ++ [[payload]]
      pendingMessages := s.pendingMessages.set gatewayIP s.lists.length }

/-- `_handlePeripheral` up to the connection, `gateway-scanner.js:56–84`. -/
def handlePeripheral (s : GatewayScanner Payload) (peripheral : String)
    (gatewayDetails : GatewayDetails) (now : Nat) : GatewayScanner Payload :=
  let discoveredIp := gatewayDetails.ip
  let s := { s with
    discoveredGateways := s.discoveredGateways.set gatewayDetails.id
      ⟨gatewayDetails.id, gatewayDetails.ip, now⟩ }
  match s.pendingMessages.get? discoveredIp with
  | some messageList => { s with
      lists := s.lists.modify messageList List.tail
      handlers := s.handlers ++
        [⟨s.started, discoveredIp, messageList, (s.contents messageList).head?, .connecting⟩]
      started := s.started + 1
      controller := s.controller.connectToPeripheralAsync peripheral (some s.started) }
  | none => s

/-- A handler that returns or throws is no longer active. -/
def finish (s : GatewayScanner Payload) (handler : Nat) : GatewayScanner Payload :=
  { s with handlers := s.handlers.filter (fun h ↦ h.id ≠ handler) }

/-- The connection of a handler is established, `gateway-scanner.js:85–91`. -/
def resume (s : GatewayScanner Payload) (handler : Nat) : GatewayScanner Payload :=
  { s with handlers := s.handlers.map fun h ↦
      if h.id = handler then { h with phase := .discovering } else h }

/-- The rest of `_handlePeripheral`, `gateway-scanner.js:93–103`. Serialising `undefined`
gives no text and `Buffer.from` throws; so does a write to a missing characteristic. -/
def writeMessage (s : GatewayScanner Payload) (h : Handler Payload)
    (answer : Except String (List String)) : GatewayScanner Payload :=
  let s := s.finish h.id
  match answer, h.message with
  | .ok (_ :: _), some message =>
    let s := { s with written := s.written ++ [(h.ip, message)] }
    if (s.contents h.messageList).length = 0 then
      { s with pendingMessages := s.pendingMessages.erase h.ip }
    else s
  | _, _ => s

/-- One event; none when the event cannot happen. -/
def step (s : GatewayScanner Payload) : ScannerEvent Payload → Option (GatewayScanner Payload)
  | .talkToGateway gatewayIP payload => some (s.talkToGateway gatewayIP payload)
  | .advertisement _ none _ => some s
  | .advertisement peripheral (some details) now => some (s.handlePeripheral peripheral details now)
  | .connect peripheral =>
    some { s with controller := s.controller.connectToPeripheralAsync peripheral none }
  | .connected k answer =>
    match s.controller.connects[k]? with
    | none => none
    | some call =>
      let s := { s with
        controller := { s.controller with connects := s.controller.connects.eraseIdx k } }
      match call.waiter, answer with
      | some handler, .ok _ => some (s.resume handler)
      | some handler, .error _ => some (s.finish handler)
      | none, _ => some s
  | .disconnected peripheral =>
    some { s with controller := s.controller.disconnected peripheral }
  | .discovered handler answer =>
    (s.handlers.find? fun h ↦ h.id = handler ∧ h.phase = .discovering).map fun h ↦
      s.writeMessage h answer

/-! ### Where the messages are -/

/-- The payloads queued for a gateway, in order. -/
def queuedFor (s : GatewayScanner Payload) (ip : String) : List Payload := itemsFor s.queued ip

/-- The payloads written to a gateway, in order. -/
def writtenFor (s : GatewayScanner Payload) (ip : String) : List Payload := itemsFor s.written ip

/-- The payloads for a gateway in `pendingMessages`. -/
def pendingFor (s : GatewayScanner Payload) (ip : String) : List Payload :=
  (s.pendingMessages.get? ip).elim [] s.contents

/-- The payloads for a gateway held by active handlers. -/
def heldFor (s : GatewayScanner Payload) (ip : String) : List Payload :=
  s.handlers.filterMap (Handler.heldFor ip)

/-- No handler holds `undefined`, and every gateway is written a prefix of what was queued for
it while the rest is pending or held. -/
def Conserved (s : GatewayScanner Payload) : Prop :=
  (∀ h ∈ s.handlers, h.message ≠ none) ∧
    ∀ ip, InOrder (s.queuedFor ip) (s.writtenFor ip) (s.heldFor ip) (s.pendingFor ip)

/-- References are valid and belong to one gateway; handlers are told apart by their ids. -/
structure Wf (s : GatewayScanner Payload) : Prop where
  valid : ∀ ip r, s.pendingMessages.get? ip = some r → r < s.lists.length
  separate : ∀ ip ip' r, s.pendingMessages.get? ip = some r →
    s.pendingMessages.get? ip' = some r → ip = ip'
  ids : (s.handlers.map Handler.id).Nodup
  fresh : ∀ h ∈ s.handlers, h.id < s.started

/-- A list changed in place has its new content, any other list its old one. -/
theorem contents_modify (s : GatewayScanner Payload) {r : Nat} (hr : r < s.lists.length)
    (f : List Payload → List Payload) (r' : Nat) :
    ((s.lists.modify r f)[r']?).getD [] = if r = r' then f (s.contents r') else s.contents r' := by
  rw [List.getElem?_modify, contents]
  split
  · next h =>
    subst h
    rw [List.getElem?_eq_getElem hr]
    rfl
  · rw [id_map']

/-- After a change of the list of one gateway only this gateway's pending payloads change. -/
theorem pendingFor_modify {s t : GatewayScanner Payload} (hs : s.Wf) {ip : String} {r : Nat}
    (hr : s.pendingMessages.get? ip = some r) (f : List Payload → List Payload)
    (hlists : t.lists = s.lists.modify r f) (hpending : t.pendingMessages = s.pendingMessages)
    (ip' : String) :
    t.pendingFor ip' = if ip = ip' then f (s.pendingFor ip') else s.pendingFor ip' := by
  have hcontents : t.contents = fun r' ↦ if r = r' then f (s.contents r') else s.contents r' := by
    funext r'
    rw [contents, hlists, contents_modify s (hs.valid ip r hr)]
  rw [pendingFor, pendingFor, hpending, hcontents]
  split
  · next h =>
    subst h
    simp [hr]
  · next h =>
    cases hr' : s.pendingMessages.get? ip' with
    | none => rfl
    | some r' =>
      have hne : r ≠ r' := fun heq ↦ h (hs.separate ip ip' r hr (heq ▸ hr'))
      simp [hne]

/-- A queued payload is pending for its gateway. -/
theorem pendingFor_talkToGateway {s : GatewayScanner Payload} (hs : s.Wf) (gatewayIP : String)
    (payload : Payload) (ip : String) :
    (s.talkToGateway gatewayIP payload).pendingFor ip =
      s.pendingFor ip ++ if gatewayIP = ip then [payload] else [] := by
  simp only [talkToGateway]
  split
  · next r hr =>
    refine (pendingFor_modify hs hr (· ++ [payload]) ?_ ?_ ip).trans ?_
    · rfl
    · rfl
    · split
      · rfl
      · rw [List.append_nil]
  · next hnone =>
    rw [pendingFor, pendingFor, JsObject.get?_set]
    by_cases h : ip = gatewayIP
    · subst h
      simp [hnone, contents]
    · rw [if_neg h, if_neg (Ne.symm h), List.append_nil]
      cases hr : s.pendingMessages.get? ip with
      | none => rfl
      | some r =>
        have hlt := hs.valid ip r hr
        simp [contents, List.getElem?_append_left hlt]

/-- A handler takes the first pending payload of its gateway. -/
theorem pendingFor_handlePeripheral {s : GatewayScanner Payload} (hs : s.Wf) (peripheral : String)
    (details : GatewayDetails) (now : Nat) (ip : String) :
    (s.handlePeripheral peripheral details now).pendingFor ip =
      if details.ip = ip then (s.pendingFor ip).tail else s.pendingFor ip := by
  simp only [handlePeripheral]
  split
  · next r hr =>
    apply pendingFor_modify hs hr List.tail
    · rfl
    · rfl
  · next hnone =>
    split
    · next h =>
      subst h
      simp [pendingFor, hnone]
    · rfl

/-- The payload taken, if any, is held for the gateway. -/
theorem heldFor_handlePeripheral {s : GatewayScanner Payload} (peripheral : String)
    (details : GatewayDetails) (now : Nat) (ip : String) :
    (s.handlePeripheral peripheral details now).heldFor ip =
      s.heldFor ip ++ if details.ip = ip then (s.pendingFor ip).head?.toList else [] := by
  simp only [handlePeripheral]
  split
  · next r hr =>
    rw [heldFor, List.filterMap_append, ← heldFor]
    by_cases h : details.ip = ip
    · subst h
      have hpending : s.pendingFor details.ip = s.contents r := by simp [pendingFor, hr]
      rw [if_pos rfl, hpending, List.filterMap_cons, Handler.heldFor, if_pos rfl]
      cases hhead : (s.contents r).head? with
      | none =>
        simp only [contents] at hhead ⊢
        simp [hhead]
      | some message =>
        simp only [contents] at hhead ⊢
        simp [hhead]
    · simp [Handler.heldFor, h, heldFor]
  · next hnone =>
    split
    · next h =>
      subst h
      simp [pendingFor, hnone, heldFor]
    · simp [heldFor]

/-- Resuming a handler keeps what is held. -/
theorem heldFor_resume (s : GatewayScanner Payload) (handler : Nat) (ip : String) :
    (s.resume handler).heldFor ip = s.heldFor ip := by
  rw [heldFor, resume, List.filterMap_map, heldFor]
  apply List.filterMap_congr
  intro h _
  simp only [Function.comp_apply, Handler.heldFor]
  split <;> rfl

/-- A finished handler no longer holds its payload. -/
theorem heldFor_finish {s : GatewayScanner Payload} (hs : s.Wf) {h : Handler Payload}
    (hmem : h ∈ s.handlers) (ip : String) :
    (s.heldFor ip).Perm ((h.heldFor ip).toList ++ (s.finish h.id).heldFor ip) := by
  have hperm := perm_cons_filter_key hs.ids hmem
  rw [heldFor, heldFor, finish]
  refine (hperm.filterMap (Handler.heldFor ip)).trans ?_
  rw [List.filterMap_cons]
  cases h.heldFor ip with
  | none => exact List.Perm.refl _
  | some message => exact List.Perm.refl _

/-- The loaded module. -/
theorem wf_initial : (initial : GatewayScanner Payload).Wf :=
  ⟨nofun, nofun, List.nodup_nil, nofun⟩

/-- Nothing is queued, written, held or pending at first. -/
theorem conserved_initial : (initial : GatewayScanner Payload).Conserved :=
  ⟨nofun, fun _ ↦ inOrder_nil⟩

/-- A new list belongs to its gateway only. -/
theorem wf_talkToGateway {s : GatewayScanner Payload} (hs : s.Wf) (gatewayIP : String)
    (payload : Payload) : (s.talkToGateway gatewayIP payload).Wf := by
  simp only [talkToGateway]
  split
  · refine ⟨fun ip r hr ↦ ?_, hs.separate, hs.ids, hs.fresh⟩
    rw [List.length_modify]
    exact hs.valid ip r hr
  · refine ⟨fun ip r hr ↦ ?_, fun ip ip' r hr hr' ↦ ?_, hs.ids, hs.fresh⟩
    · rw [List.length_append, List.length_singleton]
      rw [JsObject.get?_set] at hr
      split at hr
      · cases hr
        omega
      · have hlt := hs.valid ip r hr
        omega
    · rw [JsObject.get?_set] at hr hr'
      split at hr
      · next hip =>
        cases hr
        split at hr'
        · next hip' => exact hip.trans hip'.symm
        · exact absurd (hs.valid ip' _ hr') (lt_irrefl _)
      · split at hr'
        · cases hr'
          exact absurd (hs.valid ip _ hr) (lt_irrefl _)
        · exact hs.separate ip ip' r hr hr'

/-- A new handler has an id of its own. -/
theorem wf_handlePeripheral {s : GatewayScanner Payload} (hs : s.Wf) (peripheral : String)
    (details : GatewayDetails) (now : Nat) : (s.handlePeripheral peripheral details now).Wf := by
  simp only [handlePeripheral]
  split
  · refine ⟨fun ip r hr ↦ ?_, hs.separate, ?_, fun h hh ↦ ?_⟩
    · rw [List.length_modify]
      exact hs.valid ip r hr
    · rw [List.map_append, List.map_singleton]
      apply hs.ids.append (List.nodup_singleton _)
      rw [List.disjoint_singleton]
      intro hmem
      obtain ⟨h, hh, heq⟩ := List.mem_map.mp hmem
      exact absurd heq (hs.fresh h hh).ne
    · rcases List.mem_append.mp hh with hh | hh
      · exact Nat.lt_succ_of_lt (hs.fresh h hh)
      · rw [List.mem_singleton.mp hh]
        exact Nat.lt_succ_self _
  · exact ⟨hs.valid, hs.separate, hs.ids, hs.fresh⟩

/-- The other handlers keep their ids. -/
theorem wf_finish {s : GatewayScanner Payload} (hs : s.Wf) (handler : Nat) :
    (s.finish handler).Wf :=
  ⟨hs.valid, hs.separate, (List.filter_sublist.map Handler.id).nodup hs.ids,
    fun h hh ↦ hs.fresh h (List.mem_filter.mp hh).1⟩

/-- Resuming changes no id. -/
theorem wf_resume {s : GatewayScanner Payload} (hs : s.Wf) (handler : Nat) :
    (s.resume handler).Wf := by
  have hid (h : Handler Payload) :
      (if h.id = handler then { h with phase := .discovering } else h).id = h.id := by
    split <;> rfl
  refine ⟨hs.valid, hs.separate, ?_, fun h hh ↦ ?_⟩
  · have hids : (s.resume handler).handlers.map Handler.id = s.handlers.map Handler.id := by
      rw [resume, List.map_map]
      exact List.map_congr_left fun h _ ↦ hid h
    rw [hids]
    exact hs.ids
  · obtain ⟨h', hh', rfl⟩ := List.mem_map.mp hh
    rw [hid]
    exact hs.fresh h' hh'

/-- Deleting an entry shares no list. -/
theorem wf_writeMessage {s : GatewayScanner Payload} (hs : s.Wf) (h : Handler Payload)
    (answer : Except String (List String)) : (s.writeMessage h answer).Wf := by
  have hfinish := wf_finish hs h.id
  simp only [writeMessage]
  split
  · split
    · refine ⟨fun ip r hr ↦ ?_, fun ip ip' r hr hr' ↦ ?_, hfinish.ids, hfinish.fresh⟩
      · rw [JsObject.get?_erase] at hr
        split at hr
        · cases hr
        · exact hfinish.valid ip r hr
      · rw [JsObject.get?_erase] at hr hr'
        split at hr
        · cases hr
        · split at hr'
          · cases hr'
          · exact hfinish.separate ip ip' r hr hr'
    · exact ⟨hfinish.valid, hfinish.separate, hfinish.ids, hfinish.fresh⟩
  · exact hfinish

/-- Every event keeps the references and the ids. -/
theorem wf_step {s t : GatewayScanner Payload} {e : ScannerEvent Payload} (hs : s.Wf)
    (h : step s e = some t) : t.Wf := by
  cases e with
  | talkToGateway gatewayIP payload =>
    cases h
    exact wf_talkToGateway hs gatewayIP payload
  | advertisement peripheral details now =>
    cases details with
    | none =>
      cases h
      exact hs
    | some details =>
      cases h
      exact wf_handlePeripheral hs peripheral details now
  | connect peripheral =>
    cases h
    exact ⟨hs.valid, hs.separate, hs.ids, hs.fresh⟩
  | connected k answer =>
    simp only [step] at h
    split at h
    · cases h
    · have hs' : ({ s with controller := { s.controller with
          connects := s.controller.connects.eraseIdx k } } : GatewayScanner Payload).Wf :=
        ⟨hs.valid, hs.separate, hs.ids, hs.fresh⟩
      split at h
      · cases h
        exact wf_resume hs' _
      · cases h
        exact wf_finish hs' _
      · cases h
        exact hs'
  | disconnected peripheral =>
    cases h
    exact ⟨hs.valid, hs.separate, hs.ids, hs.fresh⟩
  | discovered handler answer =>
    obtain ⟨h', _, rfl⟩ := Option.map_eq_some_iff.mp h
    exact wf_writeMessage hs h' answer

/-! ### When messages are conserved -/

/-- What an event must meet: an advertisement that finds an entry finds a message in it; no
connection or discovery of an active handler fails; and a handler that writes holds the
oldest payload not yet written and deletes no entry with payloads. -/
def Orderly (s : GatewayScanner Payload) : ScannerEvent Payload → Prop
  | .advertisement _ (some details) _ =>
    s.pendingMessages.hasOwn details.ip → s.pendingFor details.ip ≠ []
  | .connected k (.error _) =>
    ∀ call, s.controller.connects[k]? = some call → ∀ h ∈ s.handlers, call.waiter ≠ some h.id
  | .discovered handler answer =>
    ∀ h ∈ s.handlers, h.id = handler →
      (∃ characteristic rest, answer = .ok (characteristic :: rest)) ∧
        (s.queuedFor h.ip)[(s.writtenFor h.ip).length]? = h.message ∧
        (s.contents h.messageList = [] → s.pendingFor h.ip = [])
  | _ => True

/-- Queueing conserves. -/
theorem conserved_talkToGateway {s : GatewayScanner Payload} (hs : s.Wf) (hcons : s.Conserved)
    (gatewayIP : String) (payload : Payload) :
    (s.talkToGateway gatewayIP payload).Conserved := by
  have hqueued : (s.talkToGateway gatewayIP payload).queued =
      s.queued ++ [(gatewayIP, payload)] := by
    simp only [talkToGateway]
    split <;> rfl
  have hwritten : (s.talkToGateway gatewayIP payload).written = s.written := by
    simp only [talkToGateway]
    split <;> rfl
  have hhandlers : (s.talkToGateway gatewayIP payload).handlers = s.handlers := by
    simp only [talkToGateway]
    split <;> rfl
  refine ⟨by rw [hhandlers]; exact hcons.1, fun ip ↦ ?_⟩
  rw [pendingFor_talkToGateway hs, heldFor, hhandlers, ← heldFor, writtenFor, hwritten, ← writtenFor,
    queuedFor, hqueued, itemsFor_append, ← queuedFor]
  by_cases h : gatewayIP = ip
  · rw [if_pos h]
    exact (hcons.2 ip).queue payload
  · rw [if_neg h, List.append_nil, List.append_nil]
    exact hcons.2 ip

/-- An advertisement conserves exactly if a message is found where an entry is. -/
theorem conserved_handlePeripheral_iff {s : GatewayScanner Payload} (hs : s.Wf)
    (hcons : s.Conserved) (peripheral : String) (details : GatewayDetails) (now : Nat) :
    (s.handlePeripheral peripheral details now).Conserved ↔
      (s.pendingMessages.hasOwn details.ip → s.pendingFor details.ip ≠ []) := by
  have hqueued : (s.handlePeripheral peripheral details now).queued = s.queued := by
    simp only [handlePeripheral]
    split <;> rfl
  have hwritten : (s.handlePeripheral peripheral details now).written = s.written := by
    simp only [handlePeripheral]
    split <;> rfl
  have horder : ∀ ip, InOrder ((s.handlePeripheral peripheral details now).queuedFor ip)
      ((s.handlePeripheral peripheral details now).writtenFor ip)
      ((s.handlePeripheral peripheral details now).heldFor ip)
      ((s.handlePeripheral peripheral details now).pendingFor ip) := by
    intro ip
    rw [pendingFor_handlePeripheral hs, heldFor_handlePeripheral, queuedFor, hqueued, ← queuedFor,
      writtenFor, hwritten, ← writtenFor]
    have hip := hcons.2 ip
    split
    · cases hpending : s.pendingFor ip with
      | nil =>
        rw [hpending] at hip
        simpa using hip
      | cons payload rest =>
        rw [hpending] at hip
        exact hip.take
    · rw [List.append_nil]
      exact hip
  have hmessages : (∀ h ∈ (s.handlePeripheral peripheral details now).handlers, h.message ≠ none) ↔
      (s.pendingMessages.hasOwn details.ip → s.pendingFor details.ip ≠ []) := by
    simp only [handlePeripheral]
    split
    · next r hr =>
      have hown : s.pendingMessages.hasOwn details.ip := by simp [JsObject.hasOwn, hr]
      have hpending : s.pendingFor details.ip = s.contents r := by simp [pendingFor, hr]
      constructor
      · intro h _ hnil
        rw [hpending] at hnil
        simp only [contents] at h hnil
        exact h _ (List.mem_append_right _ (List.mem_singleton_self _)) (by simp [hnil])
      · intro h h' hh'
        rcases List.mem_append.mp hh' with hh' | hh'
        · exact hcons.1 h' hh'
        · rw [List.mem_singleton.mp hh']
          have hne := h hown
          rw [hpending] at hne
          simpa [contents] using hne
    · next hnone =>
      refine iff_of_true hcons.1 fun hown ↦ ?_
      simp [JsObject.hasOwn, hnone] at hown
  constructor
  · intro h
    exact hmessages.mp h.1
  · intro h
    exact ⟨hmessages.mpr h, horder⟩

/-- Resuming a handler conserves. -/
theorem conserved_resume {s : GatewayScanner Payload} (hcons : s.Conserved) (handler : Nat) :
    (s.resume handler).Conserved := by
  refine ⟨fun h hh ↦ ?_, fun ip ↦ ?_⟩
  · obtain ⟨h', hh', rfl⟩ := List.mem_map.mp hh
    have hmessage := hcons.1 h' hh'
    split
    · exact hmessage
    · exact hmessage
  · rw [heldFor_resume]
    exact hcons.2 ip

/-- A handler that fails takes its payload with it. -/
theorem conserved_finish_iff {s : GatewayScanner Payload} (hs : s.Wf) (hcons : s.Conserved)
    (handler : Nat) : (s.finish handler).Conserved ↔ ∀ h ∈ s.handlers, h.id ≠ handler := by
  constructor
  · intro hfinish h hh heq
    subst heq
    obtain ⟨payload, hpayload⟩ := Option.ne_none_iff_exists'.mp (hcons.1 h hh)
    have hheld : (h.heldFor h.ip).toList = [payload] := by simp [Handler.heldFor, hpayload]
    have hperm := heldFor_finish hs hh h.ip
    rw [hheld] at hperm
    exact (hcons.2 h.ip).not_drop hperm (hfinish.2 h.ip)
  · intro hother
    have hsame : s.handlers.filter (fun h ↦ h.id ≠ handler) = s.handlers := by
      rw [List.filter_eq_self]
      intro h hh
      exact decide_eq_true (hother h hh)
    have hfinish : s.finish handler = s := by rw [finish, hsame]
    rw [hfinish]
    exact hcons

/-- The other handlers hold what is not written, and the entry is deleted with an empty
list. -/
theorem pendingFor_writeMessage {s : GatewayScanner Payload} {h : Handler Payload}
    {payload : Payload} (hpayload : h.message = some payload) (characteristic : String)
    (rest : List String) (ip : String) :
    (s.writeMessage h (.ok (characteristic :: rest))).pendingFor ip =
      if s.contents h.messageList = [] ∧ h.ip = ip then [] else s.pendingFor ip := by
  simp only [writeMessage, hpayload]
  have hcontents (r : Nat) : ({ s.finish h.id with
      written := s.written ++ [(h.ip, payload)] } : GatewayScanner Payload).contents r =
        s.contents r := rfl
  split
  · next hlen =>
    have hnil : s.contents h.messageList = [] := List.length_eq_zero_iff.mp hlen
    rw [pendingFor, JsObject.get?_erase]
    by_cases heq : ip = h.ip
    · rw [if_pos heq, if_pos ⟨hnil, heq.symm⟩]
      rfl
    · rw [if_neg heq, if_neg (fun hboth ↦ heq hboth.2.symm)]
      rfl
  · next hlen =>
    rw [if_neg (fun hboth ↦ hlen (List.length_eq_zero_iff.mpr hboth.1))]
    rfl

/-- Writing conserves exactly if the payload is the oldest one not yet written and no payload
is deleted with the entry. -/
theorem conserved_writeMessage_iff {s : GatewayScanner Payload} (hs : s.Wf) (hcons : s.Conserved)
    {h : Handler Payload} (hh : h ∈ s.handlers) (answer : Except String (List String)) :
    (s.writeMessage h answer).Conserved ↔
      (∃ characteristic rest, answer = .ok (characteristic :: rest)) ∧
        (s.queuedFor h.ip)[(s.writtenFor h.ip).length]? = h.message ∧
        (s.contents h.messageList = [] → s.pendingFor h.ip = []) := by
  obtain ⟨payload, hpayload⟩ := Option.ne_none_iff_exists'.mp (hcons.1 h hh)
  have hfails : ¬ (s.finish h.id).Conserved := fun hfinish ↦
    (conserved_finish_iff hs hcons h.id).mp hfinish h hh rfl
  cases answer with
  | error err =>
    refine iff_of_false hfails ?_
    rintro ⟨⟨_, _, heq⟩, _⟩
    cases heq
  | ok characteristics =>
    cases characteristics with
    | nil =>
      refine iff_of_false hfails ?_
      rintro ⟨⟨_, _, heq⟩, _⟩
      cases heq
    | cons characteristic rest =>
      have hhandlers : (s.writeMessage h (.ok (characteristic :: rest))).handlers =
          (s.finish h.id).handlers := by
        simp only [writeMessage, hpayload]
        split <;> rfl
      have hqueued : (s.writeMessage h (.ok (characteristic :: rest))).queued = s.queued := by
        simp only [writeMessage, hpayload]
        split <;> rfl
      have hwritten : (s.writeMessage h (.ok (characteristic :: rest))).written =
          s.written ++ [(h.ip, payload)] := by
        simp only [writeMessage, hpayload]
        split <;> rfl
      have horder (ip : String) :
          InOrder ((s.writeMessage h (.ok (characteristic :: rest))).queuedFor ip)
            ((s.writeMessage h (.ok (characteristic :: rest))).writtenFor ip)
            ((s.writeMessage h (.ok (characteristic :: rest))).heldFor ip)
            ((s.writeMessage h (.ok (characteristic :: rest))).pendingFor ip) ↔
          (h.ip = ip → (s.queuedFor ip)[(s.writtenFor ip).length]? = some payload ∧
            (s.contents h.messageList = [] → s.pendingFor ip = [])) := by
        have hperm := heldFor_finish hs hh ip
        rw [pendingFor_writeMessage hpayload, heldFor, hhandlers, ← heldFor, queuedFor, hqueued,
          ← queuedFor, writtenFor, hwritten, itemsFor_append, ← writtenFor]
        by_cases heq : h.ip = ip
        · have hheld : (h.heldFor ip).toList = [payload] := by simp [Handler.heldFor, heq, hpayload]
          rw [hheld, List.singleton_append] at hperm
          rw [if_pos heq, (hcons.2 ip).deliver_iff hperm]
          by_cases hnil : s.contents h.messageList = []
          · simp [hnil, heq, List.perm_nil]
          · simp [hnil, heq]
        · have hheld : (h.heldFor ip).toList = [] := by simp [Handler.heldFor, heq]
          rw [hheld, List.nil_append] at hperm
          rw [if_neg heq, List.append_nil, if_neg (fun hboth ↦ heq hboth.2)]
          refine iff_of_true ?_ fun heq' ↦ absurd heq' heq
          exact (inOrder_congr hperm (List.Perm.refl _)).mp (hcons.2 ip)
      rw [hpayload]
      constructor
      · intro hwrite
        exact ⟨⟨characteristic, rest, rfl⟩, (horder h.ip).mp (hwrite.2 h.ip) rfl⟩
      · rintro ⟨_, hnext⟩
        refine ⟨fun h' hh' ↦ ?_, fun ip ↦ (horder ip).mpr ?_⟩
        · rw [hhandlers] at hh'
          exact hcons.1 h' (List.mem_filter.mp hh').1
        · rintro rfl
          exact hnext

/-- An event conserves the messages exactly if it is orderly. -/
theorem conserved_step_iff {s t : GatewayScanner Payload} {e : ScannerEvent Payload} (hs : s.Wf)
    (hcons : s.Conserved) (h : step s e = some t) : t.Conserved ↔ s.Orderly e := by
  cases e with
  | talkToGateway gatewayIP payload =>
    cases h
    exact iff_of_true (conserved_talkToGateway hs hcons gatewayIP payload) trivial
  | advertisement peripheral details now =>
    cases details with
    | none =>
      cases h
      exact iff_of_true hcons trivial
    | some details =>
      cases h
      exact conserved_handlePeripheral_iff hs hcons peripheral details now
  | connect peripheral =>
    cases h
    exact iff_of_true hcons trivial
  | connected k answer =>
    simp only [step] at h
    split at h
    · cases h
    · next call hcall =>
      have hs' : ({ s with controller := { s.controller with
          connects := s.controller.connects.eraseIdx k } } : GatewayScanner Payload).Wf :=
        ⟨hs.valid, hs.separate, hs.ids, hs.fresh⟩
      cases hwaiter : call.waiter with
      | none =>
        simp only [hwaiter, Option.some.injEq] at h
        subst h
        refine iff_of_true hcons ?_
        cases answer with
        | ok _ => trivial
        | error _ =>
          intro call' hcall' h' _ heq
          cases hcall.symm.trans hcall'
          rw [hwaiter] at heq
          cases heq
      | some handler =>
        cases answer with
        | ok _ =>
          simp only [hwaiter, Option.some.injEq] at h
          subst h
          exact iff_of_true (conserved_resume hcons _) trivial
        | error _ =>
          simp only [hwaiter, Option.some.injEq] at h
          subst h
          refine (conserved_finish_iff hs' hcons handler).trans ?_
          constructor
          · intro hnone call' hcall' h' hh' heq
            cases hcall.symm.trans hcall'
            exact hnone h' hh' (Option.some.inj (heq.symm.trans hwaiter))
          · intro horderly h' hh' heq
            exact horderly call hcall h' hh' (heq ▸ hwaiter)
  | disconnected peripheral =>
    cases h
    exact iff_of_true hcons trivial
  | discovered handler answer =>
    obtain ⟨h', hfind, rfl⟩ := Option.map_eq_some_iff.mp h
    have hmem := List.mem_of_find?_eq_some hfind
    have hid : h'.id = handler := by
      have := List.find?_some hfind
      simp only [decide_eq_true_eq] at this
      exact this.1
    rw [conserved_writeMessage_iff hs hcons hmem]
    constructor
    · intro hnext h'' hh'' hid''
      have heq : h'' = h' := List.inj_on_of_nodup_map hs.ids hh'' hmem (hid''.trans hid.symm)
      rw [heq]
      exact hnext
    · intro hall
      exact hall h' hmem hid

/-- Messages are conserved throughout a run exactly if every event is orderly. -/
theorem conserved_run (es : List (ScannerEvent Payload)) :
    Always step Conserved (initial : GatewayScanner Payload) es ↔
      EachStep step Orderly (initial : GatewayScanner Payload) es :=
  always_iff_eachStep step (fun _ _ _ hs h ↦ wf_step hs h)
    (fun _ _ _ hs hcons h ↦ conserved_step_iff hs hcons h) es wf_initial conserved_initial

/-- One message and two advertisements before it is written. -/
def advertisedTwice : List (ScannerEvent String) :=
  [.talkToGateway "10.0.0.2" "m1", .advertisement "p" (some ⟨"g2", "10.0.0.2"⟩) 0,
    .advertisement "p" (some ⟨"g2", "10.0.0.2"⟩) 1]

/-- Two messages, taken by two handlers; the second one waits in the connection queue and is
not resumed when its peripheral is connected. A third message then goes through. -/
def queuedConnection : List (ScannerEvent String) :=
  [.talkToGateway "10.0.0.2" "m1", .talkToGateway "10.0.0.2" "m2",
    .advertisement "p" (some ⟨"g2", "10.0.0.2"⟩) 0, .advertisement "p" (some ⟨"g2", "10.0.0.2"⟩) 1,
    .connected 0 (.ok ()), .discovered 0 (.ok ["message"]), .disconnected "p",
    .connected 0 (.ok ()), .disconnected "p", .talkToGateway "10.0.0.2" "m3",
    .advertisement "p" (some ⟨"g2", "10.0.0.2"⟩) 2, .connected 0 (.ok ()),
    .discovered 2 (.ok ["message"])]

/-- The second handler takes `undefined`; and the third message is written before the second. -/
theorem messages_not_conserved :
    (run step initial advertisedTwice).map (fun t ↦ t.handlers.map Handler.message) =
      some [some "m1", none] ∧
    (run step initial queuedConnection).map (fun t ↦
      (t.queuedFor "10.0.0.2", t.writtenFor "10.0.0.2", t.pendingMessages.keys)) =
      some (["m1", "m2", "m3"], ["m1", "m3"], []) := by
  constructor
  · decide +kernel
  · decide +kernel

end GatewayScanner
end NexusEdge.Devices
