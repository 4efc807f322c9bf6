import NexusEdge.Devices.Discovery
import NexusEdge.Devices.EstimoteTelemetry

/-!
# Handlers of advertisements

Library `Devices`. The predicates and callbacks with which the platform subscribes to discovered
peripherals, but for Eddystone beacons. What they read lies at fixed offsets; a read outside of the
received data throws, and ends the loop over the subscribers. Callbacks that are `async` return
promises and throw nothing; what is delivered is not scaled into units.
-/

namespace NexusEdge.Devices
open NexusEdge.Base

/-- The exception of using a missing property. -/
def undefinedError : String := "TypeError: Cannot read property of undefined"

/-- Predicates read the company id of manufacturer data at its beginning; without any they return
`false`. -/
def whenManufacturer (peripheral : Peripheral) (accept : Buffer → Except String Bool) :
    Except String Bool :=
  match peripheral.advertisement.manufacturerData with
  | some manufacturerData => accept manufacturerData
  | none => .ok false

/-- Callbacks read manufacturer data without asking whether there is any. -/
def withManufacturer {α : Type} (peripheral : Peripheral) (f : Buffer → Except String α) :
    Except String α :=
  match peripheral.advertisement.manufacturerData with
  | some manufacturerData => f manufacturerData
  | none => .error undefinedError

/-! ### Beacons with manufacturer data -/

/-- `MICROBIT_BEACON_COMPANY_ID`. -/
def microbitBeaconCompanyId : Nat := 0xcb51

/-- The predicate of `microbit-handler.js:20–29`. -/
def microbitPredicate (peripheral : Peripheral) : Except String Bool :=
  whenManufacturer peripheral fun manufacturerData ↦
    (manufacturerData.readUInt16LE 0).map fun companyId ↦ companyId == microbitBeaconCompanyId

/-- Data of a microbit. -/
structure MicrobitData where
  manufacturerData : Buffer
  localName : Option String
  companyId : Nat

/-- `_handlePeripheral` of `microbit-handler.js:33–53`. -/
def microbitData (peripheral : Peripheral) : Except String MicrobitData :=
  withManufacturer peripheral fun manufacturerData ↦ do
    let companyId ← manufacturerData.readUInt16LE 0
    return ⟨manufacturerData.drop 2, peripheral.advertisement.localName, companyId⟩

/-- `SOL_EH_COMPANY_ID`. -/
def solEhCompanyId : Nat := 0xA154

/-- The predicate of `sol-eh-handler.js:19–30`. -/
def solEhPredicate (peripheral : Peripheral) : Except String Bool :=
  whenManufacturer peripheral fun manufacturerData ↦
    (manufacturerData.readUInt16LE 0).map fun companyId ↦ companyId == solEhCompanyId

/-- Data of a SOL sensor; the features are the bits of floating-point numbers. -/
structure SolEhData where
  length : Nat
  deviceId : Nat
  appId : Nat
  sd : Nat
  samplingFreq : Nat
  dataFlag : Nat
  feature1 : Nat
  feature2 : Nat
  feature3 : Nat
  feature4 : Nat
  label : Nat
  packetCount : Nat

/-- `_handlePeripheral` of `sol-eh-handler.js:34–85`. -/
def solEhData (peripheral : Peripheral) : Except String SolEhData :=
  withManufacturer peripheral fun manufacturerData ↦ do
    let _companyId ← manufacturerData.readUInt16LE 0
    let length ← manufacturerData.readUInt8 2
    let deviceId ← manufacturerData.readUInt8 3
    let appId ← manufacturerData.readUInt8 4
    let sd ← manufacturerData.readUInt8 5
    let samplingFreq ← manufacturerData.readUInt8 6
    let dataFlag ← manufacturerData.readUInt8 7
    let feature1 ← manufacturerData.readUInt32BE 8
    let feature2 ← manufacturerData.readUInt32BE 12
    let feature3 ← manufacturerData.readUInt32BE 16
    let feature4 ← manufacturerData.readUInt32BE 20
    let label ← manufacturerData.readUInt8 24
    let packetCount ← manufacturerData.readUInt8 25
    return ⟨length, deviceId, appId, sd, samplingFreq, dataFlag, feature1, feature2, feature3,
      feature4, label, packetCount⟩

/-- `APPLE_COMPANY_IDENTIFIER`. -/
def appleCompanyIdentifier : Nat := 0x004c

/-- The conditions on manufacturer data in `ibeacon-handler.js:27–34`. -/
def isIBeaconData (manufacturerData : Buffer) : Except String Bool := do
  let companyId ← manufacturerData.readUInt16LE 0
  if manufacturerData.length < 25 then return false
  else if companyId ≠ appleCompanyIdentifier then return false
  else
    let type ← manufacturerData.readUInt8 2
    if type ≠ 0x02 then return false
    else
      let length ← manufacturerData.readUInt8 3
      return length == 0x15

/-- The predicate of `ibeacon-handler.js:22–36`. -/
def iBeaconPredicate (peripheral : Peripheral) : Except String Bool :=
  whenManufacturer peripheral isIBeaconData

/-- Data of an iBeacon. -/
structure IBeaconData where
  uuid : Buffer
  major : Nat
  minor : Nat
  measuredPower : Int

/-- `_handlePeripheral` of `ibeacon-handler.js:41–56`. -/
def iBeaconData (peripheral : Peripheral) : Except String IBeaconData :=
  withManufacturer peripheral fun manufacturerData ↦ do
    let major ← manufacturerData.readUInt16BE 20
    let minor ← manufacturerData.readUInt16BE 22
    let measuredPower ← manufacturerData.readInt8 24
    return ⟨manufacturerData.slice 4 20, major, minor, measuredPower⟩

/-- `ASSIST_BEACON_COMPANY_ID`. -/
def assistBeaconCompanyId : Nat := 0xFFFF

/-- The predicate of `ekg-handler.js:19–29`. -/
def ekgPredicate (peripheral : Peripheral) : Except String Bool :=
  whenManufacturer peripheral fun manufacturerData ↦
    (manufacturerData.readUInt16LE 0).map fun companyId ↦
      companyId == assistBeaconCompanyId && manufacturerData.length == 26

/-- What the EKG handler reads. -/
structure EkgData where
  version : Nat
  sensorType : Nat
  sequenceNumber : Nat
  payload : Buffer

/-- `_handlePeripheral` of `ekg-handler.js:33–52`, which delivers nothing yet. -/
def ekgData (peripheral : Peripheral) : Except String EkgData :=
  withManufacturer peripheral fun manufacturerData ↦ do
    let _companyId ← manufacturerData.readUInt16LE 0
    let version ← manufacturerData.readUInt8 2
    let sensorType ← manufacturerData.readUInt8 3
    let sequenceNumber ← manufacturerData.readUInt16LE 4
    return ⟨version, sensorType, sequenceNumber, manufacturerData.drop 6⟩

/-! ### Estimote telemetry -/

/-- `ESTIMOTE_SERVICE_UUID`. -/
def estimoteServiceUuid : String := "fe9a"

/-- `_handlePeripheral` of `estimote-handler.js:25–40`. -/
def estimoteData (peripheral : Peripheral) : Except String (Option TelemetryPacket) :=
  match peripheral.advertisement.serviceData with
  | none => .error undefinedError
  | some serviceData =>
    match serviceData.find? fun el ↦ el.uuid = estimoteServiceUuid with
    | some estimoteServiceData => parseEstimoteTelemetryPacket estimoteServiceData.data
    | none => .ok none

end NexusEdge.Devices
