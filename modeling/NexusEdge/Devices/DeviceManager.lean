import NexusEdge.Base.Transition
import NexusEdge.Platform.LinkGraph

/-!
# Device registration and delivery

Library `Devices`. `register` and `deliver` of `device-manager/device-manager.js:80–146` with
`addDevice` of `dao/collections/devices-dao.js:20–31`. An `addDevice` reaches the database
some time after the call, and its callback runs some time after that; calls of the handlers
and other operations may come in between, in any order.
-/

namespace NexusEdge.Devices
open NexusEdge.Base NexusEdge.Platform

/-- What is read from the configuration of the gateway. -/
structure GatewayConfig where
  gatewayId : String
  /-- Controllers of the loaded handlers, `handlers.json`. -/
  controllers : JsObject String

/-- `handlerUtils.getControllerId`; `none` when the handler is unknown and it throws. -/
def getControllerId (config : GatewayConfig) (handlerId : String) : Option String :=
  config.controllers.get? handlerId

/-- `"_meta"` of a reading, `device-manager.js:109–114`. -/
structure ReadingMetadata where
  receivedTime : String
  handlerId : String
  controllerId : String
  gatewayId : String
  deriving DecidableEq

/-- A reading, `device-manager.js:103–114`. -/
structure Reading (D : Type) where
  deviceId : String
  deviceType : String
  deviceData : D
  metadata : ReadingMetadata
  deriving DecidableEq

/-! ### The devices database -/

/-- The devices under their own ids. -/
structure DevicesDb where
  devices : JsObject Device
  id_eq : ∀ {id device}, devices.get? id = some device → device.id = id

namespace DevicesDb

/-- The database of a new gateway. -/
def empty : DevicesDb := ⟨JsObject.empty, fun h ↦ by cases h⟩

/-- The part of `addDevice` that reaches the database, `devices-dao.js:24–28`. -/
def addDevice (db : DevicesDb) (device : Device) : DevicesDb :=
  if db.devices.hasOwn device.id then db
  else
    { devices := db.devices.set device.id device
      id_eq := by
        intro id device' h
        rw [JsObject.get?_set] at h
        split at h
        · next hid => rw [← Option.some.inj h, hid]
        · exact db.id_eq h }

/-- `fetchAll`, `devices-dao.js:49–57`. -/
def fetchAll (db : DevicesDb) : List Device := db.devices.ownEntries.map Prod.snd

/-- The handler stored for a device. -/
def handlerOf (db : DevicesDb) (deviceId : String) : Option String :=
  (db.devices.get? deviceId).map Device.handlerId

/-- Adding a device changes no other device. -/
theorem handlerOf_addDevice_of_ne (db : DevicesDb) (device : Device) {deviceId : String}
    (h : deviceId ≠ device.id) : (db.addDevice device).handlerOf deviceId = db.handlerOf deviceId := by
  unfold addDevice handlerOf
  split
  · rfl
  · rw [JsObject.get?_set_ne _ _ h]

end DevicesDb

/-! ### The device manager -/

/-- The function that waits for an `addDevice`. -/
inductive Caller where
  | register
  | deliver
  deriving DecidableEq

/-- An `addDevice` under way. -/
structure Registration where
  device : Device
  caller : Caller
  deriving DecidableEq

/-- The device manager, the database and the operations between them. -/
structure DeviceManager (D : Type) where
  /-- Device id → handler id. -/
  deviceCache : JsObject String
  /-- Readings of devices whose registration is under way. -/
  pendingDeviceBuffer : JsObject (List (Reading D))
  devicesDb : DevicesDb
  /-- Operations that have not reached the database. -/
  adding : List Registration
  /-- Operations whose callback has not run. -/
  added : List Registration
  /-- Readings published to the platform MQTT topic. -/
  published : List (Reading D)
  /-- Readings delivered by handlers. -/
  delivered : List (Reading D)

namespace DeviceManager

variable {D : Type}

/-- The state when the handlers are started, `device-manager.js:47–50`. -/
def initial (db : DevicesDb) : DeviceManager D where
  deviceCache := db.fetchAll.foldl (fun cache device ↦ cache.set device.id device.handlerId)
    JsObject.empty
  pendingDeviceBuffer := JsObject.empty
  devicesDb := db
  adding := []
  added := []
  published := []
  delivered := []

/-- `register`, `device-manager.js:80–90`. -/
def register (config : GatewayConfig) (deviceId deviceType handlerId : String)
    (s : DeviceManager D) : DeviceManager D :=
  if s.deviceCache.hasOwn deviceId then s
  else
    match getControllerId config handlerId with
    | none => s
    | some controllerId =>
      { s with adding :=
          s.adding ++ [⟨⟨deviceId, deviceType, handlerId, controllerId, false⟩, .register⟩] }

/-- `deliver`, `device-manager.js:99–146`. -/
def deliver (config : GatewayConfig) (handlerId deviceId deviceType : String) (deviceData : D)
    (receivedTime : String) (s : DeviceManager D) : DeviceManager D :=
  match getControllerId config handlerId with
  | none => s
  | some controllerId =>
    let data : Reading D :=
      ⟨deviceId, deviceType, deviceData, ⟨receivedTime, handlerId, controllerId, config.gatewayId⟩⟩
    let s := { s with delivered := s.delivered ++ [data] }
    if s.pendingDeviceBuffer.hasOwn deviceId then
      { s with pendingDeviceBuffer := s.pendingDeviceBuffer.modify deviceId (· ++ [data]) }
    else if !s.deviceCache.hasOwn deviceId then
      { s with
        pendingDeviceBuffer := s.pendingDeviceBuffer.set deviceId [data]
        adding := s.adding ++ [⟨⟨deviceId, deviceType, handlerId, controllerId, true⟩, .deliver⟩] }
    else { s with published := s.published ++ [data] }

/-- The operation reaches the database, `devices-dao.js:24–28`. -/
def store (r : Registration) (s : DeviceManager D) : DeviceManager D :=
  { s with
    devicesDb := s.devicesDb.addDevice r.device
    adding := s.adding.erase r
    added := s.added ++ [r] }

/-- The callback of the operation, `device-manager.js:88,130–140`; without a buffer the
second one throws after the assignment. -/
def complete (r : Registration) (s : DeviceManager D) : DeviceManager D :=
  let s := { s with
    added := s.added.erase r
    deviceCache := s.deviceCache.set r.device.id r.device.handlerId }
  match r.caller, s.pendingDeviceBuffer.get? r.device.id with
  | .deliver, some buffered =>
    { s with
      published := s.published ++ buffered
      pendingDeviceBuffer := s.pendingDeviceBuffer.erase r.device.id }
  | _, _ => s

end DeviceManager

/-- Calls of the handlers and progress of the operations. -/
inductive DeviceEvent (D : Type) where
  | register (deviceId deviceType handlerId : String)
  | deliver (handlerId deviceId deviceType : String) (deviceData : D) (receivedTime : String)
  | store (r : Registration)
  | complete (r : Registration)

/-- One event; an operation must have come so far. -/
def step {D : Type} (config : GatewayConfig) (s : DeviceManager D) :
    DeviceEvent D → Option (DeviceManager D)
  | .register deviceId deviceType handlerId => some (s.register config deviceId deviceType handlerId)
  | .deliver handlerId deviceId deviceType deviceData receivedTime =>
    some (s.deliver config handlerId deviceId deviceType deviceData receivedTime)
  | .store r => if r ∈ s.adding then some (s.store r) else none
  | .complete r => if r ∈ s.added then some (s.complete r) else none

end NexusEdge.Devices
