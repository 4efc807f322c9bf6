import Mathlib.Logic.Function.Iterate

/-!
# Connections to BLE peripherals

Library `Devices`. The connection part of `ble-controller.js`: one connection at a time, the
other peripherals wait in a queue. A caller whose peripheral is queued awaits a promise that
nothing settles; the connection made later on is awaited by nobody.
-/

namespace NexusEdge.Devices

/-- A call of `peripheral.connect` not yet answered; `waiter` awaits the promise. -/
structure ConnectCall where
  peripheral : String
  waiter : Option Nat
  deriving DecidableEq

/-- The controller, as far as connections are concerned. -/
structure BleController where
  isConnectedToPeripheral : Bool
  connectionQueue : List String
  connects : List ConnectCall
  /-- Peripherals with a `once('disconnect')` listener, `ble-controller.js:246–258`. -/
  disconnectListeners : List String
  deriving DecidableEq

namespace BleController

/-- Nothing is connected. -/
def initial : BleController := ⟨false, [], [], []⟩

/-- `connectToPeripheralAsync`, `ble-controller.js:219–267`. -/
def connectToPeripheralAsync (c : BleController) (peripheral : String) (waiter : Option Nat) :
    BleController :=
  if c.isConnectedToPeripheral then
    { c with connectionQueue := c.connectionQueue ++ [peripheral] }
  else
    { c with
      isConnectedToPeripheral := true
      connects := c.connects ++ [⟨peripheral, waiter⟩]
      disconnectListeners := c.disconnectListeners ++ [peripheral] }

/-- The listener of a disconnection, `ble-controller.js:246–261`. -/
def onDisconnect (c : BleController) : BleController :=
  let c := { c with isConnectedToPeripheral := false }
  match c.connectionQueue with
  | nextPeripheral :: connectionQueue =>
    { c with connectionQueue := connectionQueue }.connectToPeripheralAsync nextPeripheral none
  | [] => c

/-- Disconnection of a peripheral: its listeners fire, each once. -/
def disconnected (c : BleController) (peripheral : String) : BleController :=
  Nat.iterate onDisconnect (c.disconnectListeners.count peripheral)
    { c with disconnectListeners := c.disconnectListeners.filter (· ≠ peripheral) }

end BleController
end NexusEdge.Devices
