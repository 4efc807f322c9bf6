import NexusEdge.Base.JsValue
import NexusEdge.Base.Prototype
import NexusEdge.Messaging.MessagingService

/-!
# The platform manager

Library `Messaging`. `ipcCallback` of `platform-manager.js:46–81` on whatever connected services
send, `forwardMessage` of `messaging-service.js:60–69`, and `talkToManager` of
`gateway-api-controller.js:274–298`, which passes on parts of a request body. The table `services`
is an object, so that `in` also finds what objects inherit.
-/

namespace NexusEdge.Messaging
open NexusEdge.Base

/-- `key in services`. -/
def inServices (key : String) : Bool := key ∈ services || key ∈ prototypeNames

/-- What the platform manager relies on: numerals of numbers, and the exception of
`ipc.server.emit(undefined, ..)`, if that throws. -/
structure Runtime (N : Type) where
  numeral : N → String
  emitUnset : Option String

/-- What `ipc.server.emit` sends to a socket. -/
structure Delivery (Socket N : Type) where
  socket : Socket
  event : Option (Json N)
  sender : Option (Json N)
  data : Option (Json N)

/-- The `socket` properties that are set, by the keys of their owners in `services`, what has been
sent, and the exceptions that nothing caught. -/
structure PlatformManager (Socket N : Type) where
  sockets : JsObject Socket
  emitted : List (Delivery Socket N)
  uncaught : List String

variable {Socket N : Type}

/-- `data["meta"][name]`. -/
def metaField (data : Option (Json N)) (name : String) : Except String (Option (Json N)) := do
  Json.getOf (← Json.getOf data "meta") name

/-- The guard of both callbacks, `platform-manager.js:53,75`, with the key of the sender. -/
def admittedSender (R : Runtime N) (data : Option (Json N)) : Except String (Option String) := do
  if ← Json.isIn "meta" data then
    let sender ← Json.textOf R.numeral (← metaField data "sender")
    return if inServices sender then some sender else none
  else return none

namespace PlatformManager

/-- Before the services connect. -/
def initial : PlatformManager Socket N := ⟨.empty, [], []⟩

/-- An exception leaves a callback. -/
def throws (s : PlatformManager Socket N) (e : String) : PlatformManager Socket N :=
  { s with uncaught := s.uncaught ++ [e] }

/-- `services[name].socket`; functions inherit the property from `Object.prototype`. -/
def socketOf (s : PlatformManager Socket N) (name : String) : Except String (Option Socket) :=
  if name ∈ services then .ok (s.sockets.get? name)
  else if name ∈ prototypeNames then .ok ((s.sockets.get? name).or (s.sockets.get? "__proto__"))
  else .error "TypeError: Cannot read property 'socket' of undefined"

/-- `ipcCallback["register-socket"]`, `platform-manager.js:74–80`. -/
def registerSocket (R : Runtime N) (data : Option (Json N)) (socket : Socket)
    (s : PlatformManager Socket N) : PlatformManager Socket N :=
  match admittedSender R data with
  | .error e => s.throws e
  | .ok none => s
  | .ok (some sender) => { s with sockets := s.sockets.set sender socket }

/-- What `ipc.server.emit` is called with and sends, `platform-manager.js:54–61`. -/
def delivery (R : Runtime N) (data : Option (Json N)) (s : PlatformManager Socket N) :
    Except String (Option (Delivery Socket N)) := do
  let sender ← metaField data "sender"
  let payload ← Json.getOf data "payload"
  let recipient ← Json.textOf R.numeral (← metaField data "recipient")
  let event ← metaField data "event"
  match ← s.socketOf recipient with
  | some socket => return some ⟨socket, event, sender, payload⟩
  | none =>
    match R.emitUnset with
    | some e => throw e
    | none => return none

/-- The texts that are logged, `platform-manager.js:62–65`. -/
def log (R : Runtime N) (data : Option (Json N)) : Except String (List String) := do
  let event ← Json.textOf R.numeral (← metaField data "event")
  let sender ← Json.textOf R.numeral (← metaField data "sender")
  let recipient ← Json.textOf R.numeral (← metaField data "recipient")
  return [event, sender, recipient]

/-- `ipcCallback["forward"]`, `platform-manager.js:52–67`. -/
def forward (R : Runtime N) (data : Option (Json N)) (s : PlatformManager Socket N) :
    PlatformManager Socket N :=
  match admittedSender R data with
  | .error e => s.throws e
  | .ok none => s
  | .ok (some _) =>
    match s.delivery R data with
    | .error e => s.throws e
    | .ok sent =>
      let s := { s with emitted := s.emitted ++ sent.toList }
      match log R data with
      | .error e => s.throws e
      | .ok _ => s

/-- Forwarding leaves the table as it is, whatever is forwarded. -/
theorem sockets_forward (R : Runtime N) (data : Option (Json N)) (s : PlatformManager Socket N) :
    (s.forward R data).sockets = s.sockets := by
  unfold forward
  split
  · rfl
  · rfl
  · split
    · rfl
    · split <;> rfl

end PlatformManager

/-- What services emit to the platform manager. -/
inductive PlatformEvent (Socket N : Type) where
  | registerSocket (data : Option (Json N)) (socket : Socket)
  | forward (data : Option (Json N))

/-- One event, `platform-manager.js:86–95`. -/
def PlatformManager.step (R : Runtime N) (s : PlatformManager Socket N) :
    PlatformEvent Socket N → PlatformManager Socket N
  | .registerSocket data socket => s.registerSocket R data socket
  | .forward data => s.forward R data

/-- Whether the event is the registration of a socket. -/
def PlatformEvent.isRegistration : PlatformEvent Socket N → Bool
  | .registerSocket _ _ => true
  | .forward _ => false

/-! ### Messages of services -/

/-- `forwardMessage`, `messaging-service.js:60–69`. -/
def forwardMessage (sender : String) (recipient event payload : Option (Json N)) : Json N :=
  .object (Json.defined
    [("meta", some (.object (Json.defined
      [("sender", some (.string sender)), ("recipient", recipient), ("event", event)]))),
      ("payload", payload)])

/-- What a message from outside asks to be passed on, `gateway-api-controller.js:288–292`,
`message-characteristic.js:54–58`. -/
def passOn (sender : String) (jsonData : Json N) : Except String (Json N) := do
  let header ← jsonData.get? "_meta"
  let recipient ← Json.getOf header "recipient"
  let event ← Json.getOf header "event"
  let payload ← jsonData.get? "payload"
  return forwardMessage sender recipient event payload

/-- `talkToManager`, `gateway-api-controller.js:274–298`: what is forwarded, and whether the request
is answered. An exception rejects the promise of the handler, which nobody waits for. -/
def talkToManager (body : Json N) : Option (Json N) × Bool :=
  match body with
  | .null => (none, true)
  | jsonData =>
    match passOn "api-server" jsonData with
    | .error _ => (none, false)
    | .ok message => (some message, true)

end NexusEdge.Messaging
