import NexusEdge.Base.Buffer
import NexusEdge.Base.Loop
import NexusEdge.Messaging.PlatformManager

/-!
# Forwarding without exceptions

Library `Messaging`. The platform manager checks the sender of a message and nothing else,
`platform-manager.js:52–67`, and `talkToManager` only that there is a body,
`gateway-api-controller.js:274–298`. When this is enough.
-/

namespace NexusEdge.Messaging
open NexusEdge.Base

variable {Socket N : Type}

/-! ### Handled and acceptable messages -/

/-- The message goes to the registered socket of a service, or nowhere; the table stays as it is,
and nothing is thrown. -/
structure Handled (R : Runtime N) (s : PlatformManager Socket N) (data : Option (Json N)) :
    Prop where
  table : (s.forward R data).sockets = s.sockets
  noException : (s.forward R data).uncaught = s.uncaught
  emits : (s.forward R data).emitted = s.emitted ∨
    ∃ (recipient : Option (Json N)) (name : String) (sent : Delivery Socket N),
      metaField data "recipient" = .ok recipient ∧ Json.textOf R.numeral recipient = .ok name ∧
        name ∈ services ∧ s.sockets.get? name = some sent.socket ∧
        metaField data "event" = .ok sent.event ∧ metaField data "sender" = .ok sent.sender ∧
        Json.getOf data "payload" = .ok sent.data ∧
        (s.forward R data).emitted = s.emitted ++ [sent]

/-- The name is that of a service with a socket; or it leads to no socket, and emitting without one
does not throw. -/
def Accepts (R : Runtime N) (s : PlatformManager Socket N) (name : String) : Prop :=
  (name ∈ services ∧ (s.sockets.get? name).isSome) ∨
    (s.socketOf name = .ok none ∧ R.emitUnset = none)

/-- The recipient has an accepted name, and the event can be written out. -/
def Served (R : Runtime N) (s : PlatformManager Socket N) (data : Option (Json N)) : Prop :=
  ∃ (recipient event : Option (Json N)) (name : String),
    metaField data "recipient" = .ok recipient ∧ metaField data "event" = .ok event ∧
      Json.textOf R.numeral recipient = .ok name ∧ Returns (Json.textOf R.numeral event) ∧
      Accepts R s name

/-- The sender can be checked, and if it passes, the recipient is served. -/
def Acceptable (R : Runtime N) (s : PlatformManager Socket N) (data : Option (Json N)) : Prop :=
  Returns (admittedSender R data) ∧ (admittedSender R data ≠ .ok none → Served R s data)

/-! ### What forwarding does -/

section Forward

variable {R : Runtime N} {s : PlatformManager Socket N} {data : Option (Json N)}

/-- A sender that passes has been read and converted. -/
theorem sender_of_admitted {key : String} (h : admittedSender R data = .ok (some key)) :
    inServices key = true ∧
      ∃ sender, metaField data "sender" = .ok sender ∧ Json.textOf R.numeral sender = .ok key := by
  unfold admittedSender at h
  obtain ⟨isObject, hobject, h⟩ := (bind_eq_ok_iff _ _ _).mp h
  cases isObject with
  | false => cases h
  | true =>
    obtain ⟨sender, hsender, h⟩ := (bind_eq_ok_iff _ _ _).mp h
    obtain ⟨text, htext, h⟩ := (bind_eq_ok_iff _ _ _).mp h
    by_cases hin : inServices text = true
    · rw [if_pos hin] at h
      cases h
      exact ⟨hin, sender, hsender, htext⟩
    · rw [if_neg hin] at h
      cases h

/-- Such a message is an object, so that its payload can be read. -/
theorem payload_of_admitted {key : String} (h : admittedSender R data = .ok (some key)) :
    ∃ payload, Json.getOf data "payload" = .ok payload := by
  unfold admittedSender at h
  obtain ⟨isObject, hobject, h⟩ := (bind_eq_ok_iff _ _ _).mp h
  cases data with
  | none => cases hobject
  | some value =>
    apply Json.get?_eq_ok
    rintro rfl
    cases hobject

/-- What is sent is made of the message, and goes to the socket of the recipient. -/
theorem delivery_eq_ok_iff (sent : Option (Delivery Socket N)) :
    s.delivery R data = .ok sent ↔
      ∃ sender payload recipient name event socket?, metaField data "sender" = .ok sender ∧
        Json.getOf data "payload" = .ok payload ∧ metaField data "recipient" = .ok recipient ∧
        Json.textOf R.numeral recipient = .ok name ∧ metaField data "event" = .ok event ∧
        s.socketOf name = .ok socket? ∧ (socket? = none → R.emitUnset = none) ∧
        sent = socket?.map fun socket ↦ ⟨socket, event, sender, payload⟩ := by
  simp only [PlatformManager.delivery, bind_eq_ok_iff]
  constructor
  · rintro ⟨sender, hsender, payload, hpayload, recipient, hrecipient, name, hname, event, hevent,
      socket?, hsocket, h⟩
    refine ⟨sender, payload, recipient, name, event, socket?, hsender, hpayload, hrecipient, hname,
      hevent, hsocket, ?_⟩
    cases socket? with
    | some socket =>
      cases h
      exact ⟨nofun, rfl⟩
    | none =>
      cases hunset : R.emitUnset with
      | some e =>
        rw [hunset] at h
        cases h
      | none =>
        rw [hunset] at h
        cases h
        exact ⟨fun _ ↦ rfl, rfl⟩
  · rintro ⟨sender, payload, recipient, name, event, socket?, hsender, hpayload, hrecipient, hname,
      hevent, hsocket, hunset, rfl⟩
    refine ⟨sender, hsender, payload, hpayload, recipient, hrecipient, name, hname, event, hevent,
      socket?, hsocket, ?_⟩
    cases socket? with
    | some socket => rfl
    | none =>
      rw [hunset rfl]
      rfl

/-- Logging succeeds if sender, recipient and event can be written out. -/
theorem returns_log_iff : Returns (PlatformManager.log R data) ↔
    ∃ event sender recipient, metaField data "event" = .ok event ∧
      metaField data "sender" = .ok sender ∧ metaField data "recipient" = .ok recipient ∧
      Returns (Json.textOf R.numeral event) ∧ Returns (Json.textOf R.numeral sender) ∧
      Returns (Json.textOf R.numeral recipient) := by
  simp only [PlatformManager.log, returns_bind]
  constructor
  · rintro ⟨event, hevent, text, htext, sender, hsender, text', htext', recipient, hrecipient,
      text'', htext'', _⟩
    exact ⟨event, sender, recipient, hevent, hsender, hrecipient, ⟨text, htext⟩, ⟨text', htext'⟩,
      ⟨text'', htext''⟩⟩
  · rintro ⟨event, sender, recipient, hevent, hsender, hrecipient, ⟨text, htext⟩, ⟨text', htext'⟩,
      ⟨text'', htext''⟩⟩
    exact ⟨event, hevent, text, htext, sender, hsender, text', htext', recipient, hrecipient,
      text'', htext'', returns_pure _⟩

/-- An exception shows. -/
theorem not_handled_of_throws {t : PlatformManager Socket N} {e : String}
    (h : s.forward R data = t.throws e) (ht : t.uncaught = s.uncaught) : ¬ Handled R s data := by
  intro hhandled
  have hsame := hhandled.noException
  rw [h] at hsame
  have hlength := congrArg List.length hsame
  simp [PlatformManager.throws, ht] at hlength

/-- A recipient whose socket is sent to is accepted exactly if it is a service. -/
theorem accepts_of_socket {name : String} {socket : Socket}
    (h : s.socketOf name = .ok (some socket)) :
    Accepts R s name ↔ name ∈ services ∧ s.sockets.get? name = some socket := by
  rw [Accepts, h, or_iff_left fun hboth ↦ absurd hboth.1 nofun]
  constructor
  · rintro ⟨hname, _⟩
    rw [PlatformManager.socketOf, if_pos hname] at h
    exact ⟨hname, Except.ok.inj h⟩
  · rintro ⟨hname, hsocket⟩
    exact ⟨hname, by rw [hsocket]; rfl⟩

/-- An accepted name leads to a socket or to none, and then emitting does not throw. -/
theorem socketOf_of_accepts {name : String} (h : Accepts R s name) :
    ∃ socket?, s.socketOf name = .ok socket? ∧ (socket? = none → R.emitUnset = none) := by
  rcases h with ⟨hname, hsome⟩ | ⟨hnone, hunset⟩
  · refine ⟨s.sockets.get? name, ?_, ?_⟩
    · rw [PlatformManager.socketOf, if_pos hname]
    · intro hnone
      rw [hnone] at hsome
      cases hsome
  · exact ⟨none, hnone, fun _ ↦ hunset⟩

/-- If a message whose sender passes is handled, its recipient is served. -/
theorem served_of_handled {key : String} (hadmitted : admittedSender R data = .ok (some key))
    (h : Handled R s data) : Served R s data := by
  cases hdelivery : s.delivery R data with
  | error e =>
    have hforward : s.forward R data = s.throws e := by
      simp only [PlatformManager.forward, hadmitted, hdelivery]
    exact absurd h (not_handled_of_throws hforward rfl)
  | ok sent =>
    cases hlog : PlatformManager.log R data with
    | error e =>
      have hforward : s.forward R data =
          PlatformManager.throws { s with emitted := s.emitted ++ sent.toList } e := by
        simp only [PlatformManager.forward, hadmitted, hdelivery, hlog]
      exact absurd h (not_handled_of_throws hforward rfl)
    | ok texts =>
      have hforward : s.forward R data = { s with emitted := s.emitted ++ sent.toList } := by
        simp only [PlatformManager.forward, hadmitted, hdelivery, hlog]
      obtain ⟨sender, payload, recipient, name, event, socket?, hsender, hpayload, hrecipient,
        hname, hevent, hsocket, hunset, hsent⟩ := (delivery_eq_ok_iff sent).mp hdelivery
      obtain ⟨event', _, _, hevent', _, _, htext, _⟩ := returns_log_iff.mp ⟨texts, hlog⟩
      rw [hevent] at hevent'
      rw [← Except.ok.inj hevent'] at htext
      refine ⟨recipient, event, name, hrecipient, hevent, hname, htext, ?_⟩
      cases socket? with
      | none => exact Or.inr ⟨hsocket, hunset rfl⟩
      | some socket =>
        -- What was sent went to the socket of the recipient, so that must be a service.
        rw [accepts_of_socket hsocket]
        have hemits := h.emits
        rw [hforward, hsent] at hemits
        rcases hemits with hdropped | ⟨recipient', name', sent', hrecipient', hname', hservice,
          hregistered, _, _, _, hsame⟩
        · have hlength := congrArg List.length hdropped
          simp at hlength
        · rw [hrecipient] at hrecipient'
          rw [← Except.ok.inj hrecipient', hname] at hname'
          rw [← Except.ok.inj hname'] at hservice hregistered
          have hsent' := List.append_cancel_left hsame
          simp only [Option.map_some, Option.toList_some, List.cons.injEq, and_true] at hsent'
          rw [← hsent'] at hregistered
          exact ⟨hservice, hregistered⟩

/-- If its recipient is served, a message whose sender passes is sent there, unless emitting
without a socket goes unnoticed. -/
theorem forward_of_served {key : String} (hadmitted : admittedSender R data = .ok (some key))
    {sender payload recipient event : Option (Json N)} {name : String}
    (hsender : metaField data "sender" = .ok sender)
    (hpayload : Json.getOf data "payload" = .ok payload)
    (hrecipient : metaField data "recipient" = .ok recipient)
    (hname : Json.textOf R.numeral recipient = .ok name)
    (hevent : metaField data "event" = .ok event)
    (htext : Returns (Json.textOf R.numeral event)) {socket? : Option Socket}
    (hsocket : s.socketOf name = .ok socket?) (hunset : socket? = none → R.emitUnset = none) :
    s.forward R data = { s with emitted := s.emitted ++
      (socket?.map fun socket ↦ (⟨socket, event, sender, payload⟩ : Delivery Socket N)).toList } := by
  obtain ⟨_, sender', hsender', hkey⟩ := sender_of_admitted hadmitted
  rw [hsender] at hsender'
  rw [← Except.ok.inj hsender'] at hkey
  have hdelivery := (delivery_eq_ok_iff _).mpr ⟨sender, payload, recipient, name, event, socket?,
    hsender, hpayload, hrecipient, hname, hevent, hsocket, hunset, rfl⟩
  obtain ⟨texts, hlog⟩ := returns_log_iff.mpr ⟨event, sender, recipient, hevent, hsender,
    hrecipient, htext, ⟨key, hkey⟩, ⟨name, hname⟩⟩
  simp only [PlatformManager.forward, hadmitted, hdelivery, hlog]

/-- If its recipient is served, a message whose sender passes is handled. -/
theorem handled_of_served {key : String} (hadmitted : admittedSender R data = .ok (some key))
    (h : Served R s data) : Handled R s data := by
  obtain ⟨recipient, event, name, hrecipient, hevent, hname, htext, haccepts⟩ := h
  obtain ⟨_, sender, hsender, _⟩ := sender_of_admitted hadmitted
  obtain ⟨payload, hpayload⟩ := payload_of_admitted hadmitted
  obtain ⟨socket?, hsocket, hunset⟩ := socketOf_of_accepts haccepts
  have hforward := forward_of_served hadmitted hsender hpayload hrecipient hname hevent htext
    hsocket hunset
  refine ⟨by rw [hforward], by rw [hforward], ?_⟩
  rw [hforward]
  cases socket? with
  | none => exact Or.inl (List.append_nil _)
  | some socket =>
    obtain ⟨hservice, hregistered⟩ := (accepts_of_socket hsocket).mp haccepts
    exact Or.inr ⟨recipient, name, ⟨socket, event, sender, payload⟩, hrecipient, hname,
      hservice, hregistered, hevent, hsender, hpayload, rfl⟩

end Forward

/-- A message is handled exactly if it is acceptable. -/
theorem handled_iff_acceptable (R : Runtime N) (s : PlatformManager Socket N)
    (data : Option (Json N)) : Handled R s data ↔ Acceptable R s data := by
  cases hadmitted : admittedSender R data with
  | error e =>
    have hforward : s.forward R data = s.throws e := by
      simp only [PlatformManager.forward, hadmitted]
    apply iff_of_false (not_handled_of_throws hforward rfl)
    intro h
    obtain ⟨key, hkey⟩ := h.1
    rw [hadmitted] at hkey
    cases hkey
  | ok sender? =>
    cases sender? with
    | none =>
      have hforward : s.forward R data = s := by
        simp only [PlatformManager.forward, hadmitted]
      apply iff_of_true
      · exact ⟨by rw [hforward], by rw [hforward], Or.inl (by rw [hforward])⟩
      · exact ⟨⟨none, hadmitted⟩, fun h ↦ absurd hadmitted h⟩
    | some key =>
      constructor
      · intro h
        exact ⟨⟨_, hadmitted⟩, fun _ ↦ served_of_handled hadmitted h⟩
      · intro h
        apply handled_of_served hadmitted
        apply h.2
        rw [hadmitted]
        exact nofun

/-! ### Messages of `forwardMessage` -/

section ForwardMessage

variable (sender : String) (recipient event payload : Option (Json N))

/-- The header of a message reads back. -/
theorem metaField_forwardMessage (name : String) :
    metaField (some (forwardMessage sender recipient event payload)) name =
      .ok (([("sender", some (Json.string sender)), ("recipient", recipient),
        ("event", event)].lookup name).join) := by
  have houter : (Json.defined [("meta", some (Json.object (Json.defined
      [("sender", some (.string sender)), ("recipient", recipient), ("event", event)]))),
      ("payload", payload)]).lookup "meta" = _ := Json.lookup_defined (by simp) "meta"
  have hinner : (Json.defined [("sender", some (Json.string sender)), ("recipient", recipient),
      ("event", event)]).lookup name = _ := Json.lookup_defined (by simp) name
  rw [metaField, forwardMessage, Json.getOf_object, houter]
  exact congrArg Except.ok hinner

/-- So does the payload. -/
theorem payload_forwardMessage :
    Json.getOf (some (forwardMessage sender recipient event payload)) "payload" = .ok payload := by
  rw [forwardMessage, Json.getOf_object, Json.lookup_defined (by simp)]
  cases payload <;> rfl

/-- The sender passes if its name is found in the table. -/
theorem admittedSender_forwardMessage (R : Runtime N) :
    admittedSender R (some (forwardMessage sender recipient event payload)) =
      .ok (if inServices sender then some sender else none) := by
  have hmeta : Json.isIn "meta" (some (forwardMessage sender recipient event payload)) =
      .ok true := by
    rw [forwardMessage, Json.isIn, Json.lookup_defined (by simp)]
    rfl
  rw [admittedSender, hmeta]
  show (do
    let key ← Json.textOf R.numeral
      (← metaField (some (forwardMessage sender recipient event payload)) "sender")
    return if inServices key then some key else none) = _
  rw [metaField_forwardMessage]
  rfl

/-- A message is handled exactly if its sender does not pass, or its recipient is accepted and its
event can be written out. -/
theorem handled_forwardMessage_iff (R : Runtime N) (s : PlatformManager Socket N) :
    Handled R s (some (forwardMessage sender recipient event payload)) ↔
      (inServices sender = true → ∃ name, Json.textOf R.numeral recipient = .ok name ∧
        Returns (Json.textOf R.numeral event) ∧ Accepts R s name) := by
  rw [handled_iff_acceptable, Acceptable, admittedSender_forwardMessage,
    and_iff_right (returns_ok _)]
  have hserved : Served R s (some (forwardMessage sender recipient event payload)) ↔
      ∃ name, Json.textOf R.numeral recipient = .ok name ∧
        Returns (Json.textOf R.numeral event) ∧ Accepts R s name := by
    have hrecipient := metaField_forwardMessage sender recipient event payload "recipient"
    have hevent := metaField_forwardMessage sender recipient event payload "event"
    constructor
    · rintro ⟨recipient', event', name, hrecipient', hevent', hname, htext, haccepts⟩
      rw [hrecipient] at hrecipient'
      rw [hevent] at hevent'
      rw [← Except.ok.inj hrecipient'] at hname
      rw [← Except.ok.inj hevent'] at htext
      exact ⟨name, hname, htext, haccepts⟩
    · rintro ⟨name, hname, htext, haccepts⟩
      exact ⟨recipient, event, name, hrecipient, hevent, hname, htext, haccepts⟩
  rw [hserved]
  by_cases hsender : inServices sender = true
  · rw [if_pos hsender]
    exact ⟨fun h _ ↦ h nofun, fun h _ ↦ h hsender⟩
  · rw [if_neg hsender]
    exact ⟨fun _ h ↦ absurd h hsender, fun _ h ↦ absurd rfl h⟩

end ForwardMessage

/-! ### Messages from outside -/

/-- What a body asks for. -/
def Asks (body : Json N) (recipient event : Option (Json N)) : Prop :=
  ∃ header, body.get? "_meta" = .ok (some header) ∧ header.get? "recipient" = .ok recipient ∧
    header.get? "event" = .ok event

/-- Passed on is what is asked for. -/
theorem passOn_eq_ok_iff (sender : String) (jsonData message : Json N) :
    passOn sender jsonData = .ok message ↔ ∃ recipient event payload,
      Asks jsonData recipient event ∧ jsonData.get? "payload" = .ok payload ∧
        message = forwardMessage sender recipient event payload := by
  simp only [passOn, bind_eq_ok_iff]
  constructor
  · rintro ⟨header?, hheader, recipient, hrecipient, event, hevent, payload, hpayload, h⟩
    cases h
    cases header? with
    | none => cases hrecipient
    | some header =>
      exact ⟨recipient, event, payload, ⟨header, hheader, hrecipient, hevent⟩, hpayload, rfl⟩
  · rintro ⟨recipient, event, payload, ⟨header, hheader, hrecipient, hevent⟩, hpayload, rfl⟩
    exact ⟨some header, hheader, recipient, hrecipient, event, hevent, payload, hpayload, rfl⟩

/-- Something is passed on if there is a header to read from. -/
theorem returns_passOn_iff (sender : String) (jsonData : Json N) :
    Returns (passOn sender jsonData) ↔
      ∃ header, jsonData.get? "_meta" = .ok (some header) ∧ header ≠ .null := by
  constructor
  · rintro ⟨message, h⟩
    obtain ⟨recipient, event, payload, ⟨header, hheader, hrecipient, _⟩, _⟩ :=
      (passOn_eq_ok_iff sender jsonData message).mp h
    refine ⟨header, hheader, ?_⟩
    rintro rfl
    cases hrecipient
  · rintro ⟨header, hheader, hnull⟩
    have hbody : jsonData ≠ .null := by
      rintro rfl
      cases hheader
    obtain ⟨recipient, hrecipient⟩ := Json.get?_eq_ok hnull "recipient"
    obtain ⟨event, hevent⟩ := Json.get?_eq_ok hnull "event"
    obtain ⟨payload, hpayload⟩ := Json.get?_eq_ok hbody "payload"
    exact ⟨_, (passOn_eq_ok_iff sender jsonData _).mpr ⟨recipient, event, payload,
      ⟨header, hheader, hrecipient, hevent⟩, hpayload, rfl⟩⟩

/-- A request is answered if there is no body, or its header is not missing. -/
theorem answers_iff (body : Json N) :
    (talkToManager body).2 = true ↔
      body = .null ∨ ∃ header, body.get? "_meta" = .ok (some header) ∧ header ≠ .null := by
  unfold talkToManager
  split
  · exact iff_of_true rfl (Or.inl rfl)
  · next hnull =>
    rw [or_iff_right hnull, ← returns_passOn_iff "api-server" body]
    cases passOn "api-server" body with
    | error e => exact iff_of_false nofun (not_returns_error e)
    | ok message => exact iff_of_true rfl (returns_ok message)

/-- Forwarded is what the body asks for, in the name of the API server. -/
theorem message_of_talkToManager {body message : Json N}
    (h : (talkToManager body).1 = some message) : ∃ recipient event payload,
      Asks body recipient event ∧ message = forwardMessage "api-server" recipient event payload := by
  unfold talkToManager at h
  split at h
  · cases h
  · split at h
    · cases h
    · next passed hpassed =>
      cases h
      obtain ⟨recipient, event, payload, hasks, _, hmessage⟩ :=
        (passOn_eq_ok_iff "api-server" body message).mp hpassed
      exact ⟨recipient, event, payload, hasks, hmessage⟩

/-- A body asks for one recipient and one event. -/
theorem Asks.unique {body : Json N} {recipient event recipient' event' : Option (Json N)}
    (h : Asks body recipient event) (h' : Asks body recipient' event') :
    recipient = recipient' ∧ event = event' := by
  obtain ⟨header, hheader, hrecipient, hevent⟩ := h
  obtain ⟨header', hheader', hrecipient', hevent'⟩ := h'
  rw [hheader] at hheader'
  obtain rfl := Option.some.inj (Except.ok.inj hheader')
  rw [hrecipient] at hrecipient'
  rw [hevent] at hevent'
  exact ⟨Except.ok.inj hrecipient', Except.ok.inj hevent'⟩

/-- The platform manager handles exactly the acceptable messages; the API server answers exactly the
requests without a body or with a header, and what it forwards is handled exactly if the recipient
asked for is accepted and the event can be written out. -/
theorem handled_and_answered_iff (R : Runtime N) :
    (∀ (s : PlatformManager Socket N) (data : Option (Json N)),
      Handled R s data ↔ Acceptable R s data) ∧
    ∀ body : Json N,
      ((talkToManager body).2 = true ↔
        body = .null ∨ ∃ header, body.get? "_meta" = .ok (some header) ∧ header ≠ .null) ∧
      ∀ message, (talkToManager body).1 = some message → ∀ s : PlatformManager Socket N,
        (Handled R s (some message) ↔ ∃ recipient event name, Asks body recipient event ∧
          Json.textOf R.numeral recipient = .ok name ∧ Returns (Json.textOf R.numeral event) ∧
          Accepts R s name) := by
  refine ⟨handled_iff_acceptable R, fun body ↦ ⟨answers_iff body, fun message hmessage s ↦ ?_⟩⟩
  obtain ⟨recipient, event, payload, hasks, rfl⟩ := message_of_talkToManager hmessage
  rw [handled_forwardMessage_iff]
  constructor
  · intro h
    obtain ⟨name, hname, htext, haccepts⟩ := h rfl
    exact ⟨recipient, event, name, hasks, hname, htext, haccepts⟩
  · rintro ⟨recipient', event', name, hasks', hname, htext, haccepts⟩ _
    obtain ⟨hrecipient, hevent⟩ := hasks.unique hasks'
    rw [← hrecipient] at hname
    rw [← hevent] at htext
    exact ⟨name, hname, htext, haccepts⟩

/-- A request to pass something on to a manager that there is not. -/
def unknownManager : Json Nat :=
  .object [("_meta", .object
    [("recipient", .string "gateway-manager"), ("event", .string "restart")])]

/-- It is forwarded, and forwarding it throws, whether or not emitting without a socket does; a
request without a header is not answered. -/
theorem unknown_manager_throws :
    (talkToManager unknownManager).1 = some (forwardMessage "api-server"
      (some (.string "gateway-manager")) (some (.string "restart")) none) ∧
    (∀ emitUnset, ¬ Handled (⟨fun _ ↦ "0", emitUnset⟩ : Runtime Nat)
      (PlatformManager.initial : PlatformManager Nat Nat)
      (some (forwardMessage "api-server" (some (.string "gateway-manager"))
        (some (.string "restart")) none))) ∧
    (talkToManager (.object [] : Json Nat)).2 = false := by
  refine ⟨rfl, fun emitUnset h ↦ ?_, rfl⟩
  have hsame := h.noException
  have hthrown : ((PlatformManager.initial : PlatformManager Nat Nat).forward
      (⟨fun _ ↦ "0", emitUnset⟩ : Runtime Nat)
      (some (forwardMessage "api-server" (some (.string "gateway-manager"))
        (some (.string "restart")) none))).uncaught =
      ["TypeError: Cannot read property 'socket' of undefined"] := by rfl
  rw [hthrown] at hsame
  cases hsame

/-! ### Runs -/

/-- A sender that registers can be checked, and a message that is forwarded is acceptable. -/
def Meets (R : Runtime N) (s : PlatformManager Socket N) : PlatformEvent Socket N → Prop
  | .registerSocket data _ => Returns (admittedSender R data)
  | .forward data => Acceptable R s data

/-- In a run of such events nothing is ever thrown. -/
theorem no_exception_run (R : Runtime N) (es : List (PlatformEvent Socket N))
    (h : EachStep (fun s e ↦ some (PlatformManager.step R s e)) (Meets R) .initial es) :
    Always (fun s e ↦ some (PlatformManager.step R s e)) (fun s ↦ s.uncaught = []) .initial es := by
  refine always_of_eachStep _ (fun s e t hs hmeets hstep ↦ ?_) es rfl h
  rw [← Option.some.inj hstep]
  cases e with
  | registerSocket data socket =>
    obtain ⟨sender?, hsender⟩ := hmeets
    simp only [PlatformManager.step, PlatformManager.registerSocket, hsender]
    cases sender? with
    | none => exact hs
    | some sender => exact hs
  | forward data =>
    exact ((handled_iff_acceptable R s data).mpr hmeets).noException.trans hs

/-- In any run the table is what the registrations alone make of it. -/
theorem sockets_run (R : Runtime N) (es : List (PlatformEvent Socket N)) :
    (es.foldl (PlatformManager.step R) .initial).sockets =
      ((es.filter PlatformEvent.isRegistration).foldl (PlatformManager.step R) .initial).sockets := by
  have hother : ∀ (s : PlatformManager Socket N) (e : PlatformEvent Socket N),
      e.isRegistration = false → (s.step R e).sockets = s.sockets := by
    intro s e he
    cases e with
    | registerSocket data socket => cases he
    | forward data => exact s.sockets_forward R data
  have hregistration : ∀ (s t : PlatformManager Socket N) (e : PlatformEvent Socket N),
      e.isRegistration = true → s.sockets = t.sockets →
        (s.step R e).sockets = (t.step R e).sockets := by
    intro s t e he hst
    cases e with
    | registerSocket data socket =>
      simp only [PlatformManager.step, PlatformManager.registerSocket]
      split
      · exact hst
      · exact hst
      · exact congrArg (JsObject.set · _ socket) hst
    | forward data => cases he
  exact foldl_filter_observed hother hregistration es rfl

/-! ### The model of queries -/

section Agreement

variable {P Q : Type} (encode : Payload P Q → Json N)

/-- A message of the model of queries, as it is sent. -/
def Forward.toJson (data : Forward P Q) : Json N :=
  forwardMessage data.metadata.sender (some (.string data.metadata.recipient))
    (some (.string data.metadata.event)) (some (encode data.payload))

/-- Between services both models of forwarding send the same messages. -/
theorem forward_agrees (R : Runtime N) {s : System P Q} {m : PlatformManager Socket N}
    (hsockets : ∀ name ∈ services, name ∈ s.sockets ↔ (m.sockets.get? name).isSome)
    {data : Forward P Q} (hsender : data.metadata.sender ∈ services)
    (hrecipient : data.metadata.recipient ∈ services) :
    (s.forward data).toServices = s.toServices ++
        [⟨data.metadata.recipient, data.metadata.event, ⟨data.metadata.sender, data.payload⟩⟩] ↔
      ∃ socket, m.sockets.get? data.metadata.recipient = some socket ∧
        (m.forward R (some (data.toJson encode))).emitted = m.emitted ++
          [⟨socket, some (.string data.metadata.event), some (.string data.metadata.sender),
            some (encode data.payload)⟩] := by
  have hpasses : inServices data.metadata.sender = true := by
    rw [inServices, Bool.or_eq_true, decide_eq_true_eq]
    exact Or.inl hsender
  constructor
  · intro h
    have hregistered : data.metadata.recipient ∈ s.sockets := by
      by_contra hnot
      have hsame : (s.forward data).toServices = s.toServices := by
        rw [System.forward, if_neg fun hboth ↦ hnot hboth.2]
      rw [hsame] at h
      have hlength := congrArg List.length h
      simp at hlength
    obtain ⟨socket, hsocket⟩ :=
      Option.isSome_iff_exists.mp ((hsockets _ hrecipient).mp hregistered)
    have hfound : m.socketOf data.metadata.recipient = .ok (some socket) := by
      rw [PlatformManager.socketOf, if_pos hrecipient, hsocket]
    refine ⟨socket, hsocket, ?_⟩
    have hadmitted : admittedSender R (some (data.toJson encode)) =
        .ok (some data.metadata.sender) := by
      rw [Forward.toJson, admittedSender_forwardMessage, if_pos hpasses]
    rw [forward_of_served hadmitted (metaField_forwardMessage _ _ _ _ "sender")
      (payload_forwardMessage _ _ _ _) (metaField_forwardMessage _ _ _ _ "recipient") rfl
      (metaField_forwardMessage _ _ _ _ "event") (returns_ok _) hfound nofun]
    rfl
  · rintro ⟨socket, hsocket, _⟩
    have hregistered : data.metadata.recipient ∈ s.sockets := by
      rw [hsockets _ hrecipient, hsocket]
      rfl
    rw [System.forward, if_pos ⟨hsender, hregistered⟩]

end Agreement

end NexusEdge.Messaging
