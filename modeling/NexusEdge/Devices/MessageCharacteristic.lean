import NexusEdge.Devices.GatewayScanner
import NexusEdge.Devices.Radio
import NexusEdge.Messaging.Forwarding

/-!
# Messages for services of another gateway

Library `Devices`. A message for a service is queued by `talkToGateway`, written to the message
characteristic of the other gateway as JSON, `gateway-scanner.js:97`, taken apart and passed on
there by `onWriteRequest`, `message-characteristic.js:24–66`, and forwarded by the platform manager,
`platform-manager.js:52–67`. Formats and names agree along the way, but not the sender.
-/

namespace NexusEdge.Devices
open NexusEdge.Base NexusEdge.Messaging

variable {Socket N : Type}

namespace MessageCharacteristic

/-- `onWriteRequest`, `message-characteristic.js:24–66`: what is forwarded, and whether
`onWriteRequestFinished` is called. -/
def onWriteRequest (json : JsonText N) (strData : String) : Option (Json N) × Bool :=
  match json.parse strData with
  | .error _ => (none, true)
  | .ok .null => (none, false)
  | .ok jsonData =>
    match passOn "ble-controller" jsonData with
    | .error _ => (none, false)
    | .ok message => (some message, true)

/-- What `JSON.parse` returns, as far as it concerns the radio. -/
def summary (shown : Option (Json N) → Option String) : Except String (Json N) → WrittenData
  | .error _ => .syntaxError
  | .ok .null => .null
  | .ok jsonData =>
    match jsonData.get? "_meta" with
    | .ok (some (.object header)) => .value (some ⟨shown (header.lookup "recipient"),
        shown (header.lookup "event")⟩) (shown (jsonData.get? "payload").toOption.join)
    | .ok none => .value none none
    | .ok (some .null) => .value none none
    | _ => .value (some ⟨shown none, shown none⟩) (shown (jsonData.get? "payload").toOption.join)

/-- The radio passes on a message, and goes on scanning, in the same cases. -/
theorem onWriteRequest_summary (json : JsonText N) (strData : String)
    (shown : Option (Json N) → Option String) :
    (Devices.onWriteRequest (summary shown (json.parse strData))).1.isSome =
        (onWriteRequest json strData).1.isSome ∧
      (Devices.onWriteRequest (summary shown (json.parse strData))).2 =
        (onWriteRequest json strData).2 := by
  unfold onWriteRequest
  cases json.parse strData with
  | error e => exact ⟨rfl, rfl⟩
  | ok jsonData =>
    cases jsonData with
    | null => exact ⟨rfl, rfl⟩
    | object properties =>
      cases hheader : properties.lookup "_meta" with
      | none => simp [summary, Json.get?, hheader, passOn, Json.getOf, Devices.onWriteRequest,
          bind, Except.bind]
      | some header =>
        cases header <;> simp [summary, Json.get?, hheader, passOn, Json.getOf,
          Devices.onWriteRequest, bind, Except.bind, pure, Except.pure]
    | _ => exact ⟨rfl, rfl⟩

end MessageCharacteristic

/-- A write on the message characteristic of a gateway, as its platform manager sees it. -/
def write (R : Runtime N) (json : JsonText N) (strData : String) (s : PlatformManager Socket N) :
    PlatformManager Socket N :=
  match (MessageCharacteristic.onWriteRequest json strData).1 with
  | some message => s.forward R (some message)
  | none => s

/-- What a gateway has written, one after the other, as another gateway receives it. -/
def receive (R : Runtime N) (json : JsonText N) (scanner : GatewayScanner (Json N))
    (s : PlatformManager Socket N) : PlatformManager Socket N :=
  scanner.written.foldl (fun s written ↦ write R json (json.stringify written.2) s) s

/-- A message for a service, in the format of `message-characteristic.js:43–53`. -/
def serviceMessage (recipient : String) (event payload : Json N) : Json N :=
  .object [("_meta", .object [("recipient", .string recipient), ("event", event)]),
    ("payload", payload)]

/-- Once the message is written, the service is sent the payload on the event. -/
def Arrives (R : Runtime N) (json : JsonText N) (s : PlatformManager Socket N) (recipient : String)
    (event payload : Json N) : Prop :=
  ∃ sent : Delivery Socket N, s.sockets.get? recipient = some sent.socket ∧
    sent.event = some event ∧ sent.data = some payload ∧
    (write R json (json.stringify (serviceMessage recipient event payload)) s).emitted =
      s.emitted ++ [sent]

/-! ### Format and names -/

/-- The format is the one that is taken apart. -/
theorem passOn_serviceMessage (sender recipient : String) (event payload : Json N) :
    passOn sender (serviceMessage recipient event payload) =
      .ok (forwardMessage sender (some (.string recipient)) (some event) (some payload)) := rfl

/-- A message that is passed on to a connected service is sent to it exactly if its sender is in the
table of services. -/
theorem sent_iff_inServices (R : Runtime N) {s : PlatformManager Socket N} (sender : String)
    {recipient : String} {event : Json N} (payload : Json N) {socket : Socket}
    (hrecipient : recipient ∈ services) (hsocket : s.sockets.get? recipient = some socket)
    (hevent : Returns (event.toText R.numeral)) :
    (s.forward R (some (forwardMessage sender (some (.string recipient)) (some event)
        (some payload)))).emitted =
        s.emitted ++ [⟨socket, some event, some (.string sender), some payload⟩] ↔
      inServices sender = true := by
  have hadmitted := admittedSender_forwardMessage sender (some (.string recipient)) (some event)
    (some payload) R
  by_cases hsender : inServices sender = true
  · rw [if_pos hsender] at hadmitted
    have hfound : s.socketOf recipient = .ok (some socket) := by
      rw [PlatformManager.socketOf, if_pos hrecipient, hsocket]
    apply iff_of_true _ hsender
    rw [forward_of_served hadmitted (metaField_forwardMessage _ _ _ _ "sender")
      (payload_forwardMessage _ _ _ _) (metaField_forwardMessage _ _ _ _ "recipient") rfl
      (metaField_forwardMessage _ _ _ _ "event") hevent hfound
      fun hnone ↦ absurd hnone (Option.some_ne_none socket)]
    rfl
  · rw [if_neg hsender] at hadmitted
    apply iff_of_false _ hsender
    intro h
    simp only [PlatformManager.forward, hadmitted] at h
    have hlength := congrArg List.length h
    simp at hlength

/-! ### The sender -/

/-- The name that `onWriteRequest` passes messages on under is not in the table. -/
theorem not_inServices_bleController : inServices "ble-controller" = false := by decide

/-- Whatever is written, the platform manager drops it. -/
theorem write_eq (R : Runtime N) (json : JsonText N) (strData : String)
    (s : PlatformManager Socket N) : write R json strData s = s := by
  have hdrops : ∀ recipient event payload,
      s.forward R (some (forwardMessage "ble-controller" recipient event payload)) = s := by
    intro recipient event payload
    have hadmitted := admittedSender_forwardMessage "ble-controller" recipient event payload R
    rw [not_inServices_bleController] at hadmitted
    simp only [PlatformManager.forward, hadmitted]
    rfl
  unfold write MessageCharacteristic.onWriteRequest
  cases json.parse strData with
  | error e => rfl
  | ok jsonData =>
    cases hpassed : passOn "ble-controller" jsonData with
    | error e =>
      cases jsonData with
      | null => rfl
      | _ => simp only [hpassed]
    | ok message =>
      obtain ⟨recipient, event, payload, _, _, hmessage⟩ :=
        (passOn_eq_ok_iff "ble-controller" jsonData message).mp hpassed
      subst hmessage
      cases jsonData with
      | null => rfl
      | _ =>
        simp only [hpassed]
        exact hdrops recipient event payload

/-- Nothing that a gateway writes arrives at a service of another one. -/
theorem never_arrives (R : Runtime N) (json : JsonText N) (s : PlatformManager Socket N) :
    (∀ scanner, receive R json scanner s = s) ∧
      ∀ recipient event payload, ¬ Arrives R json s recipient event payload := by
  constructor
  · intro scanner
    unfold receive
    induction scanner.written with
    | nil => rfl
    | cons written rest ih => rw [List.foldl_cons, write_eq, ih]
  · rintro recipient event payload ⟨sent, _, _, _, hemitted⟩
    rw [write_eq] at hemitted
    have hlength := congrArg List.length hemitted
    simp at hlength

/-- A message for the application manager, and its text. -/
def deployment : Json Nat := serviceMessage "app-manager" (.string "app-deployment") (.bool true)

/-- Parses just this text. -/
def deploymentText : JsonText Nat where
  stringify _ := "\x7b\"_meta\":\x7b\"recipient\":\"app-manager\",\"event\":\"app-deployment\"\x7d," ++
    "\"payload\":true\x7d"
  parse _ := .ok deployment

/-- The message is queued, and written once the other gateway is found and connected. -/
def deploymentEvents : List (ScannerEvent (Json Nat)) :=
  [.talkToGateway "10.0.0.2" deployment, .advertisement "p" (some ⟨"g2", "10.0.0.2"⟩) 0,
    .connected 0 (.ok ()), .discovered 0 (.ok ["message"])]

/-- The other gateway, where the application manager is connected. -/
def deploymentTarget : PlatformManager Nat Nat := ⟨JsObject.empty.set "app-manager" 0, [], []⟩

/-- The message is written, and does not arrive. -/
theorem deployment_dropped :
    (run GatewayScanner.step GatewayScanner.initial deploymentEvents).map
        GatewayScanner.written = some [("10.0.0.2", deployment)] ∧
      "app-manager" ∈ services ∧ (deploymentTarget.sockets.get? "app-manager").isSome ∧
      (write ⟨toString, none⟩ deploymentText (deploymentText.stringify deployment)
        deploymentTarget).emitted = [] ∧
      ¬ Arrives ⟨toString, none⟩ deploymentText deploymentTarget "app-manager"
        (.string "app-deployment") (.bool true) := by
  refine ⟨rfl, by decide, by decide, rfl, ?_⟩
  rintro ⟨sent, _, _, _, hemitted⟩
  have hdropped : (write ⟨toString, none⟩ deploymentText (deploymentText.stringify deployment)
      deploymentTarget).emitted = [] := rfl
  have hsame := hdropped.symm.trans hemitted
  cases hsame

end NexusEdge.Devices
