import NexusEdge.Base.Transition
import NexusEdge.Devices.BleController

/-!
# The radio of a gateway

Library `Devices`. `connectToPeripheralAsync` of `ble-controller.js:219–267` with the promises of
its callers, the links it makes, and the scan of noble, which connections, state changes of the
radio (`ble-controller.js:62–92`) and writes of other gateways (`message-characteristic.js:24–66`,
`gateway-scanner.js:29–36`) start and stop. noble answers a `connect` through its callback, and
emits `disconnect` for a peripheral that is connected.
-/

namespace NexusEdge.Devices

/-- A call of `connectToPeripheralAsync`, and whether it was sent to `connectionQueue`. -/
structure ConnectRequest where
  peripheral : String
  queued : Bool
  deriving DecidableEq

/-- `"_meta"` of a message from another gateway. -/
structure MessageHeader where
  recipient : Option String
  event : Option String
  deriving DecidableEq

/-- What `JSON.parse` makes of a write: an exception, `null`, or another value with its `"_meta"`,
unless that is missing or `null`. -/
inductive WrittenData where
  | syntaxError
  | null
  | value (header : Option MessageHeader) (payload : Option String)
  deriving DecidableEq

/-- A message passed on to a service. -/
structure ManagerMessage where
  recipient : Option String
  event : Option String
  payload : Option String
  deriving DecidableEq

/-- `onWriteRequest`, `message-characteristic.js:24–66`: the message passed on, and whether
`onWriteRequestFinished` is called. A value without `"_meta"` throws. -/
def onWriteRequest : WrittenData → Option ManagerMessage × Bool
  | .syntaxError => (none, true)
  | .null => (none, false)
  | .value none _ => (none, false)
  | .value (some header) payload => (some ⟨header.recipient, header.event, payload⟩, true)

/-- The state of the radio hardware reported by noble. -/
inductive AdapterState where
  | poweredOn
  | poweredOff
  | other (state : String)
  deriving DecidableEq

/-- The controller, noble, and what has been asked for and answered so far. Callers and their
promises are numbered by their requests. -/
structure Radio where
  controller : BleController
  /-- noble scans. -/
  scanning : Bool
  /-- Peripherals that are connected. -/
  connected : List String
  requests : List ConnectRequest
  /-- Promises of the callers: pending, or settled with the error, if any. -/
  promises : List (Option (Option String))
  /-- The peripherals on which `connect` has been called, in order. -/
  started : List String
  /-- Numbers of the requests whose `connect` is not answered, beside `controller.connects`. -/
  underWay : List Nat
  /-- Answers of `connect`, by request. -/
  answers : List (Nat × Option String)
  forwarded : List ManagerMessage
  deriving DecidableEq

/-- What the radio reacts to. -/
inductive RadioEvent where
  | connectToPeripheralAsync (peripheral : String)
  /-- Callback of the `k`-th outstanding `peripheral.connect`. -/
  | connected (k : Nat) (err : Option String)
  | disconnected (peripheral : String)
  | stateChange (state : AdapterState)
  | write (data : WrittenData)

namespace Radio

/-- noble scans, and nothing is connected. -/
def initial : Radio := ⟨BleController.initial, true, [], [], [], [], [], [], []⟩

/-- `connectToPeripheralAsync`, `ble-controller.js:219–267`. -/
def connectToPeripheralAsync (s : Radio) (peripheral : String) (waiter : Option Nat) : Radio :=
  let controller := s.controller.connectToPeripheralAsync peripheral waiter
  if s.controller.isConnectedToPeripheral then { s with controller := controller }
  else
    { s with
      controller := controller
      scanning := false
      started := s.started ++ [peripheral]
      underWay := s.underWay ++ [s.started.length] }

/-- A caller asks for a connection. -/
def request (s : Radio) (peripheral : String) : Radio :=
  let caller := s.requests.length
  let s : Radio := { s with
    requests := s.requests ++ [⟨peripheral, s.controller.isConnectedToPeripheral⟩]
    promises := s.promises ++ [none] }
  s.connectToPeripheralAsync peripheral (some caller)

/-- Answer to a `connect`, `ble-controller.js:232–238`: the promise made with it is settled. -/
def finishConnect (s : Radio) (k : Nat) (call : ConnectCall) (err : Option String) : Radio :=
  { s with
    controller := { s.controller with connects := s.controller.connects.eraseIdx k }
    connected := if err.isNone then s.connected ++ [call.peripheral] else s.connected
    underWay := s.underWay.eraseIdx k
    answers := s.answers ++ (s.underWay[k]?.toList.map fun n ↦ (n, err))
    promises := match call.waiter with
      | some n => s.promises.modify n (·.or (some err))
      | none => s.promises }

/-- The listener of a disconnection, `ble-controller.js:246–261`. -/
def onDisconnect (s : Radio) : Radio :=
  let s := { s with controller := { s.controller with isConnectedToPeripheral := false } }
  match s.controller.connectionQueue with
  | nextPeripheral :: connectionQueue =>
    let s := { s with controller := { s.controller with connectionQueue := connectionQueue } }
    s.connectToPeripheralAsync nextPeripheral none
  | [] => { s with scanning := true }

/-- Disconnection of a peripheral: its listeners fire, each once. -/
def disconnected (s : Radio) (peripheral : String) : Radio :=
  Nat.iterate onDisconnect (s.controller.disconnectListeners.count peripheral)
    { s with
      connected := s.connected.erase peripheral
      controller := { s.controller with
        disconnectListeners := s.controller.disconnectListeners.filter (· ≠ peripheral) } }

/-- The `stateChange` listener of noble, `ble-controller.js:64–90`. -/
def onStateChange (s : Radio) : AdapterState → Radio
  | .poweredOn => { s with scanning := true }
  | .poweredOff => { s with scanning := false }
  | .other _ => s

/-- A write on the characteristic of the gateway; its end starts the scan again,
`gateway-scanner.js:32–35`. -/
def write (s : Radio) (data : WrittenData) : Radio :=
  let result := onWriteRequest data
  { s with
    forwarded := s.forwarded ++ result.1.toList
    scanning := s.scanning || result.2 }

/-- One event; none when the event cannot happen. -/
def step (s : Radio) : RadioEvent → Option Radio
  | .connectToPeripheralAsync peripheral => some (s.request peripheral)
  | .connected k err => (s.controller.connects[k]?).map fun call ↦ s.finishConnect k call err
  | .disconnected peripheral =>
    if peripheral ∈ s.connected then some (s.disconnected peripheral) else none
  | .stateChange state => some (s.onStateChange state)
  | .write data => some (s.write data)

/-- State changes concern the scan only. -/
theorem onStateChange_eq (s : Radio) (state : AdapterState) :
    ∃ scanning, s.onStateChange state = { s with scanning := scanning } := by
  cases state with
  | poweredOn => exact ⟨true, rfl⟩
  | poweredOff => exact ⟨false, rfl⟩
  | other => exact ⟨s.scanning, rfl⟩

/-! ### The controller in the radio -/

/-- Connections are those of the controller. -/
@[simp] theorem controller_connectToPeripheralAsync (s : Radio) (peripheral : String)
    (waiter : Option Nat) : (s.connectToPeripheralAsync peripheral waiter).controller =
      s.controller.connectToPeripheralAsync peripheral waiter := by
  unfold connectToPeripheralAsync
  split <;> rfl

/-- So is what follows a disconnection. -/
theorem controller_onDisconnect (s : Radio) : s.onDisconnect.controller = s.controller.onDisconnect := by
  unfold onDisconnect BleController.onDisconnect
  cases hqueue : s.controller.connectionQueue with
  | nil => simp only [hqueue]
  | cons next queue => simp only [hqueue, controller_connectToPeripheralAsync]

/-- The radio disconnects as the controller does. -/
theorem controller_disconnected (s : Radio) (peripheral : String) :
    (s.disconnected peripheral).controller = s.controller.disconnected peripheral :=
  Function.Semiconj.iterate_right (f := controller) controller_onDisconnect _ _

end Radio
end NexusEdge.Devices
