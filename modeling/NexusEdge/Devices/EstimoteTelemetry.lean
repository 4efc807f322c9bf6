import NexusEdge.Base.BitField

/-!
# Estimote telemetry

Library `Devices`. `parseEstimoteTelemetryPacket` of `estimote-telemetry-parser.js:5–240` down to the
bits of each field, up to the scaling into units. The packets it makes are those with fields in
their range, and each of them is made of the 20 bytes that encode it.
-/

namespace NexusEdge.Devices
open NexusEdge.Base

/-! ### What a packet tells -/

/-- Units of time. -/
inductive TimeUnit where
  | seconds
  | minutes
  | hours
  | days
  | weeks
  deriving DecidableEq

/-- `{number, unit}`. -/
structure TimeSpan where
  number : Nat
  unit : TimeUnit
  deriving DecidableEq

/-- `errors`. -/
structure TelemetryErrors where
  hasFirmwareError : Bool
  hasClockError : Bool
  deriving DecidableEq

/-- `gpio`; a pin is `'high'` or not. -/
structure Gpio where
  pin0 : Bool
  pin1 : Bool
  pin2 : Bool
  pin3 : Bool
  deriving DecidableEq

/-- `acceleration` and `magneticField`. -/
structure Axes where
  x : Int
  y : Int
  z : Int
  deriving DecidableEq

/-- What subframe A tells, before scaling. -/
structure TelemetryA where
  acceleration : Axes
  isMoving : Bool
  /-- `motionStateDuration.previous` and `motionStateDuration.current`. -/
  previous : TimeSpan
  current : TimeSpan
  pressure : Option Nat
  gpio : Gpio
  errors : Option TelemetryErrors
  deriving DecidableEq

/-- What subframe B tells, before scaling. -/
structure TelemetryB where
  magneticField : Axes
  ambientLightLevel : Nat
  temperature : Int
  uptime : TimeSpan
  batteryVoltage : Option Nat
  batteryLevel : Option Nat
  errors : Option TelemetryErrors
  deriving DecidableEq

/-- `subFrameType`, with the fields of the subframe. -/
inductive Telemetry where
  | a (fields : TelemetryA)
  | b (fields : TelemetryB)
  deriving DecidableEq

/-- The packet that is returned. -/
structure TelemetryPacket where
  shortIdentifier : Buffer
  protocolVersion : Nat
  telemetry : Telemetry
  deriving DecidableEq

/-! ### The parser -/

/-- Lower four bits of the first byte. -/
def frameType (byte : Nat) : Nat := byte &&& 0b00001111

/-- Upper four bits of the first byte. -/
def protocolVersion (byte : Nat) : Nat := (byte &&& 0b11110000) >>> 4

/-- Lower two bits of the tenth byte. -/
def subFrameType (byte : Nat) : Nat := byte &&& 0b00000011

/-- `parseMotionStateDuration`, `estimote-telemetry-parser.js:66–83`. -/
def parseMotionStateDuration (byte : Nat) : TimeSpan :=
  let number := byte &&& 0b00111111
  let unitCode := (byte &&& 0b11000000) >>> 6
  if unitCode = 0 then ⟨number, .seconds⟩
  else if unitCode = 1 then ⟨number, .minutes⟩
  else if unitCode = 2 then ⟨number, .hours⟩
  else if unitCode = 3 ∧ number ≤ 32 then ⟨number, .days⟩
  -- The code has two bits, so that the number is above 32 here.
  else ⟨number - 32, .weeks⟩

/-- `gpio`, `estimote-telemetry-parser.js:92–97`. -/
def parseGpio (byte15 : Nat) : Gpio where
  pin0 := (byte15 &&& 0b00010000) >>> 4 != 0
  pin1 := (byte15 &&& 0b00100000) >>> 5 != 0
  pin2 := (byte15 &&& 0b01000000) >>> 6 != 0
  pin3 := (byte15 &&& 0b10000000) >>> 7 != 0

/-- `errors` in the byte of the motion state, `estimote-telemetry-parser.js:107–110`. -/
def parseStateErrors (byte15 : Nat) : TelemetryErrors where
  hasFirmwareError := (byte15 &&& 0b00000100) >>> 2 == 1
  hasClockError := (byte15 &&& 0b00001000) >>> 3 == 1

/-- `errors` in a byte of their own, `estimote-telemetry-parser.js:115–118,216–219`. -/
def parseErrors (byte : Nat) : TelemetryErrors where
  hasFirmwareError := byte &&& 0b00000001 == 1
  hasClockError := (byte &&& 0b00000010) >>> 1 == 1

/-- Subframe A, `estimote-telemetry-parser.js:33–142`. -/
def parseTelemetryA (data : Buffer) (protocolVersion : Nat) : Except String TelemetryA := do
  let x ← data.readInt8 10
  let y ← data.readInt8 11
  let z ← data.readInt8 12
  let byte15 ← data.readUInt8 15
  let previous ← data.readUInt8 13
  let current ← data.readUInt8 14
  let parsed := TelemetryA.mk ⟨x, y, z⟩ (byte15 &&& 0b00000011 == 1)
    (parseMotionStateDuration previous) (parseMotionStateDuration current)
  if protocolVersion = 2 then
    let pressure ← data.readUInt32LE 16
    return parsed (some pressure) (parseGpio byte15) (some (parseStateErrors byte15))
  else if protocolVersion = 1 then
    let byte16 ← data.readUInt8 16
    return parsed none (parseGpio byte15) (some (parseErrors byte16))
  else return parsed none (parseGpio byte15) none

/-- `ambientLightLevel`, `estimote-telemetry-parser.js:163–168`. -/
def parseAmbientLight (byte13 : Nat) : Nat :=
  2 ^ ((byte13 &&& 0b11110000) >>> 4) * (byte13 &&& 0b00001111)

/-- `uptimeUnit`, `estimote-telemetry-parser.js:176–183`; the code has two bits. -/
def uptimeUnit (uptimeUnitCode : Nat) : TimeUnit :=
  if uptimeUnitCode = 0 then .seconds
  else if uptimeUnitCode = 1 then .minutes
  else if uptimeUnitCode = 2 then .hours
  else .days

/-- `uptime`, `estimote-telemetry-parser.js:176–187`. -/
def parseUptime (byte14 byte15 : Nat) : TimeSpan where
  number := ((byte15 &&& 0b00001111) <<< 8) ||| byte14
  unit := uptimeUnit ((byte15 &&& 0b00110000) >>> 4)

/-- `temperature`, `estimote-telemetry-parser.js:193–201`. -/
def parseTemperature (byte15 byte16 byte17 : Nat) : Int :=
  let temperatureRawValue :=
    ((byte17 &&& 0b00000011) <<< 10) ||| (byte16 <<< 2) ||| ((byte15 &&& 0b11000000) >>> 6)
  if 2047 < temperatureRawValue then (temperatureRawValue : Int) - 4096 else temperatureRawValue

/-- `batteryVoltage`, `estimote-telemetry-parser.js:207–210`. -/
def parseBatteryVoltage (byte17 byte18 : Nat) : Option Nat :=
  let batteryVoltage := (byte18 <<< 6) ||| ((byte17 &&& 0b11111100) >>> 2)
  if batteryVoltage = 0b11111111111111 then none else some batteryVoltage

/-- `batteryLevel`, `estimote-telemetry-parser.js:229–230`. -/
def parseBatteryLevel (byte19 : Nat) : Option Nat :=
  if byte19 = 0b11111111 then none else some byte19

/-- Subframe B, `estimote-telemetry-parser.js:147–238`. -/
def parseTelemetryB (data : Buffer) (protocolVersion : Nat) : Except String TelemetryB := do
  let x ← data.readInt8 10
  let y ← data.readInt8 11
  let z ← data.readInt8 12
  let byte13 ← data.readUInt8 13
  let byte15 ← data.readUInt8 15
  let byte14 ← data.readUInt8 14
  let byte17 ← data.readUInt8 17
  let byte16 ← data.readUInt8 16
  let byte18 ← data.readUInt8 18
  let byte19 ← data.readUInt8 19
  return ⟨⟨x, y, z⟩, parseAmbientLight byte13, parseTemperature byte15 byte16 byte17,
    parseUptime byte14 byte15, parseBatteryVoltage byte17 byte18,
    if 1 ≤ protocolVersion then parseBatteryLevel byte19 else none,
    if protocolVersion = 0 then some (parseErrors byte19) else none⟩

/-- `parseEstimoteTelemetryPacket`, `estimote-telemetry-parser.js:5–240`. -/
def parseEstimoteTelemetryPacket (data : Buffer) : Except String (Option TelemetryPacket) := do
  let byte0 ← data.readUInt8 0
  if frameType byte0 ≠ 2 then return none
  else if 2 < protocolVersion byte0 then return none
  else
    let byte9 ← data.readUInt8 9
    if subFrameType byte9 = 0 then
      let fields ← parseTelemetryA data (protocolVersion byte0)
      return some ⟨data.slice 1 9, protocolVersion byte0, .a fields⟩
    else if subFrameType byte9 = 1 then
      let fields ← parseTelemetryB data (protocolVersion byte0)
      return some ⟨data.slice 1 9, protocolVersion byte0, .b fields⟩
    else return none

/-! ### What it reads -/

/-- Number of bytes the telemetry parser reads, by the bytes it reads first. -/
def estimoteLength (byte0 byte9 : Nat) : Nat :=
  if frameType byte0 ≠ 2 ∨ 2 < protocolVersion byte0 then 1
  else if subFrameType byte9 = 0 then
    if protocolVersion byte0 = 2 then 20 else if protocolVersion byte0 = 1 then 17 else 16
  else if subFrameType byte9 = 1 then 20
  else 10

/-- The bytes of subframe A depend on the version. -/
theorem returns_parseTelemetryA (data : Buffer) (version : Nat) :
    Returns (parseTelemetryA data version) ↔
      (if version = 2 then 20 else if version = 1 then 17 else 16) ≤ data.length := by
  unfold parseTelemetryA
  simp only [Buffer.returns_read_bind]
  by_cases htwo : version = 2
  · simp only [htwo, if_true, Buffer.returns_read_bind, returns_pure, and_true]
    omega
  · by_cases hone : version = 1
    · simp only [hone, if_true, if_neg (show ¬ 1 = 2 by decide), Buffer.returns_read_bind,
        returns_pure, and_true]
      omega
    · simp only [htwo, hone, if_false, returns_pure, and_true]
      omega

/-- Those of subframe B do not. -/
theorem returns_parseTelemetryB (data : Buffer) (version : Nat) :
    Returns (parseTelemetryB data version) ↔ 20 ≤ data.length := by
  unfold parseTelemetryB
  simp only [Buffer.returns_read_bind, returns_pure, and_true]
  omega

/-- The telemetry parser returns exactly on data of the length it reads. -/
theorem returns_parseEstimoteTelemetryPacket (data : Buffer) :
    Returns (parseEstimoteTelemetryPacket data) ↔
      estimoteLength (byteAt data 0) (byteAt data 9) ≤ data.length := by
  unfold parseEstimoteTelemetryPacket estimoteLength byteAt
  rw [Buffer.returns_read_bind]
  generalize Buffer.littleEndian (data.bytesAt 0 1) = byte0
  by_cases htype : frameType byte0 = 2
  · by_cases hversion : 2 < protocolVersion byte0
    · simp only [htype, hversion, ne_eq, not_true_eq_false, if_false, if_true, or_true,
        returns_pure, and_true, Nat.zero_add]
    · simp only [htype, hversion, ne_eq, not_true_eq_false, if_false, or_self,
        Buffer.returns_read_bind]
      generalize Buffer.littleEndian (data.bytesAt 9 1) = byte9
      by_cases ha : subFrameType byte9 = 0
      · simp only [ha, if_true, returns_bind_pure, returns_parseTelemetryA]
        split
        · omega
        · split <;> omega
      · by_cases hb : subFrameType byte9 = 1
        · simp only [hb, if_true, if_neg (show ¬ 1 = 0 by decide), returns_bind_pure,
            returns_parseTelemetryB]
          omega
        · simp only [ha, hb, if_false, returns_pure, and_true]
          omega
  · simp only [htype, ne_eq, not_false_eq_true, if_true, true_or, returns_pure, and_true,
      Nat.zero_add]

/-! ### Fields in their range -/

/-- A signed byte. -/
def IsInt8 (n : Int) : Prop := -128 ≤ n ∧ n < 128

/-- Three of them. -/
structure Axes.WellFormed (axes : Axes) : Prop where
  x : IsInt8 axes.x
  y : IsInt8 axes.y
  z : IsInt8 axes.z

/-- A duration in six bits; weeks follow on 32 days. -/
def TimeSpan.IsMotionState (span : TimeSpan) : Prop :=
  match span.unit with
  | .days => span.number ≤ 32
  | .weeks => 0 < span.number ∧ span.number < 32
  | _ => span.number < 64

/-- A duration in twelve bits. -/
def TimeSpan.IsUptime (span : TimeSpan) : Prop := span.number < 4096 ∧ span.unit ≠ .weeks

/-- Subframe A, by version. -/
structure TelemetryA.WellFormed (protocolVersion : Nat) (fields : TelemetryA) : Prop where
  acceleration : fields.acceleration.WellFormed
  previous : fields.previous.IsMotionState
  current : fields.current.IsMotionState
  pressure : ∀ pressure ∈ fields.pressure, pressure < 2 ^ 32
  pressure_isSome : fields.pressure.isSome = true ↔ protocolVersion = 2
  errors_isSome : fields.errors.isSome = true ↔ 1 ≤ protocolVersion

/-- Subframe B, by version. Voltage and level are missing if all their bits are set. -/
structure TelemetryB.WellFormed (protocolVersion : Nat) (fields : TelemetryB) : Prop where
  magneticField : fields.magneticField.WellFormed
  ambientLightLevel : ∃ byte < 256, parseAmbientLight byte = fields.ambientLightLevel
  temperature : -2048 ≤ fields.temperature ∧ fields.temperature < 2048
  uptime : fields.uptime.IsUptime
  batteryVoltage : ∀ voltage ∈ fields.batteryVoltage, voltage < 16383
  batteryLevel : ∀ level ∈ fields.batteryLevel, 1 ≤ protocolVersion ∧ level < 255
  errors_isSome : fields.errors.isSome = true ↔ protocolVersion = 0

/-- A subframe. -/
def Telemetry.WellFormed (protocolVersion : Nat) : Telemetry → Prop
  | .a fields => fields.WellFormed protocolVersion
  | .b fields => fields.WellFormed protocolVersion

/-- A packet of a version that the parser knows. -/
structure TelemetryPacket.WellFormed (packet : TelemetryPacket) : Prop where
  shortIdentifier : packet.shortIdentifier.length = 8
  protocolVersion : packet.protocolVersion ≤ 2
  telemetry : packet.telemetry.WellFormed packet.protocolVersion

/-! ### Encoding -/

/-- A signed byte, in two's complement. -/
def int8Byte (n : Int) : UInt8 := UInt8.ofNat (n % 256).toNat

/-- Three bytes. -/
def Axes.encode (axes : Axes) : Buffer := [int8Byte axes.x, int8Byte axes.y, int8Byte axes.z]

/-- The number and the code of its unit. -/
def TimeSpan.motionStateFields (span : TimeSpan) : List (Nat × Nat) :=
  match span.unit with
  | .seconds => [(span.number, 6), (0, 2)]
  | .minutes => [(span.number, 6), (1, 2)]
  | .hours => [(span.number, 6), (2, 2)]
  | .days => [(span.number, 6), (3, 2)]
  | .weeks => [(span.number + 32, 6), (3, 2)]

/-- Two bits. -/
def TelemetryErrors.fields (errors : TelemetryErrors) : List (Nat × Nat) :=
  [(errors.hasFirmwareError.toNat, 1), (errors.hasClockError.toNat, 1)]

/-- No error. -/
def TelemetryErrors.none : TelemetryErrors := ⟨false, false⟩

/-- Motion, errors and pins in one byte. -/
def stateFields (isMoving : Bool) (errors : TelemetryErrors) (gpio : Gpio) : List (Nat × Nat) :=
  [(isMoving.toNat, 2), (errors.hasFirmwareError.toNat, 1), (errors.hasClockError.toNat, 1),
    (gpio.pin0.toNat, 1), (gpio.pin1.toNat, 1), (gpio.pin2.toNat, 1), (gpio.pin3.toNat, 1)]

/-- Subframe A; errors follow where there is no pressure. -/
def TelemetryA.encode (fields : TelemetryA) : Buffer :=
  fields.acceleration.encode ++
    [UInt8.ofNat (pack fields.previous.motionStateFields),
      UInt8.ofNat (pack fields.current.motionStateFields),
      UInt8.ofNat (pack (stateFields fields.isMoving (fields.errors.getD .none) fields.gpio))] ++
    Buffer.toBytes 4 (fields.pressure.getD (pack (fields.errors.getD .none).fields))

/-- A byte for the level of light. -/
def lightByte (ambientLightLevel : Nat) : Nat :=
  ((List.range 256).find? fun byte ↦ parseAmbientLight byte == ambientLightLevel).getD 0

/-- Code of a unit. -/
def TimeUnit.code : TimeUnit → Nat
  | .seconds => 0
  | .minutes => 1
  | .hours => 2
  | _ => 3

/-- Uptime, temperature and voltage in five bytes. -/
def TelemetryB.middleFields (fields : TelemetryB) : List (Nat × Nat) :=
  [(fields.uptime.number, 12), (fields.uptime.unit.code, 2),
    ((fields.temperature % 4096).toNat, 12), (fields.batteryVoltage.getD 16383, 14)]

/-- The last byte: errors, or the level of the battery. -/
def TelemetryB.lastByte (fields : TelemetryB) : Nat :=
  match fields.errors with
  | some errors => pack errors.fields
  | none => fields.batteryLevel.getD 255

/-- Subframe B. -/
def TelemetryB.encode (fields : TelemetryB) : Buffer :=
  fields.magneticField.encode ++ [UInt8.ofNat (lightByte fields.ambientLightLevel)] ++
    Buffer.toBytes 5 (pack fields.middleFields) ++ [UInt8.ofNat fields.lastByte]

/-- The type of the subframe, and its fields. -/
def Telemetry.encode : Telemetry → Buffer
  | .a fields => 0 :: fields.encode
  | .b fields => 1 :: fields.encode

/-- The bytes of a packet. -/
def TelemetryPacket.encode (packet : TelemetryPacket) : Buffer :=
  UInt8.ofNat (pack [(2, 4), (packet.protocolVersion, 4)]) ::
    (packet.shortIdentifier ++ packet.telemetry.encode)

/-! ### Fields are read back -/

/-- The mask of six bits. -/
private theorem land_six (byte : Nat) : byte &&& 0b00111111 = bitField byte 0 6 := land_mask byte 6

/-- The two bits above. -/
private theorem land_high (byte : Nat) : (byte &&& 0b11000000) >>> 6 = bitField byte 6 2 :=
  land_shiftRight byte 6 2

/-- A bit is set if it is not 0, and if it is 1. -/
private theorem toNat_bne_zero (b : Bool) : (b.toNat != 0) = b := by cases b <;> rfl

private theorem toNat_beq_one (b : Bool) : (b.toNat == 1) = b := by cases b <;> rfl

/-- Numbers of durations have six bits. -/
theorem fits_motionStateFields {span : TimeSpan} (h : span.IsMotionState) :
    Fits span.motionStateFields := by
  obtain ⟨number, unit⟩ := span
  have hnone := fits_nil
  cases unit with
  | seconds => exact fits_cons.mpr ⟨h, fits_cons.mpr ⟨by decide, hnone⟩⟩
  | minutes => exact fits_cons.mpr ⟨h, fits_cons.mpr ⟨by decide, hnone⟩⟩
  | hours => exact fits_cons.mpr ⟨h, fits_cons.mpr ⟨by decide, hnone⟩⟩
  | days =>
    have hnumber : number ≤ 32 := h
    apply fits_cons.mpr ⟨_, fits_cons.mpr ⟨by decide, hnone⟩⟩
    show number < 64
    omega
  | weeks =>
    have hnumber : 0 < number ∧ number < 32 := h
    apply fits_cons.mpr ⟨_, fits_cons.mpr ⟨by decide, hnone⟩⟩
    show number + 32 < 64
    omega

/-- Number and unit of a duration. -/
theorem parseMotionStateDuration_pack {span : TimeSpan} (h : span.IsMotionState) :
    parseMotionStateDuration (pack span.motionStateFields) = span := by
  have hfits := fits_motionStateFields h
  have hfields (number code : Nat) (hfits : Fits [(number, 6), (code, 2)]) :
      bitField (pack [(number, 6), (code, 2)]) 0 6 = number ∧
        bitField (pack [(number, 6), (code, 2)]) 6 2 = code :=
    ⟨bitField_pack hfits 0 0 rfl rfl, bitField_pack hfits 1 6 rfl rfl⟩
  obtain ⟨number, unit⟩ := span
  simp only [parseMotionStateDuration, land_six, land_high]
  cases unit with
  | seconds => simp [TimeSpan.motionStateFields, hfields number 0 hfits]
  | minutes => simp [TimeSpan.motionStateFields, hfields number 1 hfits]
  | hours => simp [TimeSpan.motionStateFields, hfields number 2 hfits]
  | days =>
    have hnumber : number ≤ 32 := h
    simp [TimeSpan.motionStateFields, hfields number 3 hfits, hnumber]
  | weeks =>
    have hnumber : 0 < number ∧ number < 32 := h
    simp [TimeSpan.motionStateFields, hfields (number + 32) 3 hfits]
    omega

/-- Bits of a byte of errors. -/
theorem fits_errors (errors : TelemetryErrors) : Fits errors.fields :=
  fits_cons.mpr ⟨Bool.toNat_lt _, fits_cons.mpr ⟨Bool.toNat_lt _, fits_nil⟩⟩

/-- Errors in a byte of their own. -/
theorem parseErrors_pack (errors : TelemetryErrors) :
    parseErrors (pack errors.fields) = errors := by
  have hfirmware : bitField (pack errors.fields) 0 1 = errors.hasFirmwareError.toNat :=
    bitField_pack (fits_errors errors) 0 0 rfl rfl
  have hclock : bitField (pack errors.fields) 1 1 = errors.hasClockError.toNat :=
    bitField_pack (fits_errors errors) 1 1 rfl rfl
  have hmask (byte : Nat) : byte &&& 0b00000001 = bitField byte 0 1 := land_mask byte 1
  have hshift (byte : Nat) : (byte &&& 0b00000010) >>> 1 = bitField byte 1 1 :=
    land_shiftRight byte 1 1
  simp only [parseErrors, hmask, hshift, hfirmware, hclock, toNat_beq_one]

/-- The state has eight bits. -/
theorem fits_stateFields (isMoving : Bool) (errors : TelemetryErrors) (gpio : Gpio) :
    Fits (stateFields isMoving errors gpio) := by
  have hmoving : isMoving.toNat < 2 ^ 2 := Nat.lt_trans (Bool.toNat_lt _) (by decide)
  simp only [stateFields, fits_cons]
  exact ⟨hmoving, Bool.toNat_lt _, Bool.toNat_lt _, Bool.toNat_lt _, Bool.toNat_lt _,
    Bool.toNat_lt _, Bool.toNat_lt _, fits_nil⟩

/-- Whether the beacon is moving. -/
theorem isMoving_pack (isMoving : Bool) (errors : TelemetryErrors) (gpio : Gpio) :
    (pack (stateFields isMoving errors gpio) &&& 0b00000011 == 1) = isMoving := by
  have hmoving := bitField_pack (fits_stateFields isMoving errors gpio) 0 0 rfl rfl
  have hmask (byte : Nat) : byte &&& 0b00000011 = bitField byte 0 2 := land_mask byte 2
  rw [hmask, hmoving, toNat_beq_one]

/-- Errors next to the state. -/
theorem parseStateErrors_pack (isMoving : Bool) (errors : TelemetryErrors) (gpio : Gpio) :
    parseStateErrors (pack (stateFields isMoving errors gpio)) = errors := by
  have hfits := fits_stateFields isMoving errors gpio
  have hfirmware := bitField_pack hfits 1 2 rfl rfl
  have hclock := bitField_pack hfits 2 3 rfl rfl
  have hshift2 (byte : Nat) : (byte &&& 0b00000100) >>> 2 = bitField byte 2 1 :=
    land_shiftRight byte 2 1
  have hshift3 (byte : Nat) : (byte &&& 0b00001000) >>> 3 = bitField byte 3 1 :=
    land_shiftRight byte 3 1
  rw [parseStateErrors, hshift2, hshift3, hfirmware, hclock, toNat_beq_one, toNat_beq_one]

/-- The pins. -/
theorem parseGpio_pack (isMoving : Bool) (errors : TelemetryErrors) (gpio : Gpio) :
    parseGpio (pack (stateFields isMoving errors gpio)) = gpio := by
  have hfits := fits_stateFields isMoving errors gpio
  have h0 := bitField_pack hfits 3 4 rfl rfl
  have h1 := bitField_pack hfits 4 5 rfl rfl
  have h2 := bitField_pack hfits 5 6 rfl rfl
  have h3 := bitField_pack hfits 6 7 rfl rfl
  have hshift (byte : Nat) : (byte &&& 0b00010000) >>> 4 = bitField byte 4 1 ∧
      (byte &&& 0b00100000) >>> 5 = bitField byte 5 1 ∧
      (byte &&& 0b01000000) >>> 6 = bitField byte 6 1 ∧
      (byte &&& 0b10000000) >>> 7 = bitField byte 7 1 :=
    ⟨land_shiftRight byte 4 1, land_shiftRight byte 5 1, land_shiftRight byte 6 1,
      land_shiftRight byte 7 1⟩
  simp only [parseGpio, hshift]
  rw [h0, h1, h2, h3]
  simp only [toNat_bne_zero]

/-- The number of an uptime. -/
theorem uptime_number {byte14 : Nat} (h : byte14 < 256) (byte15 : Nat) :
    (parseUptime byte14 byte15).number = byte14 + 256 * bitField byte15 0 4 := by
  have hmask : byte15 &&& 0b00001111 = bitField byte15 0 4 := land_mask byte15 4
  show ((byte15 &&& 0b00001111) <<< 8) ||| byte14 = byte14 + 256 * bitField byte15 0 4
  rw [hmask, shiftLeft_or h]
  rfl

/-- The raw value of a temperature. -/
theorem temperature_raw (byte15 : Nat) {byte16 : Nat} (h : byte16 < 256) (byte17 : Nat) :
    ((byte17 &&& 0b00000011) <<< 10) ||| (byte16 <<< 2) ||| ((byte15 &&& 0b11000000) >>> 6) =
      bitField byte15 6 2 + 4 * (byte16 + 256 * bitField byte17 0 2) := by
  have hlow : (byte15 &&& 0b11000000) >>> 6 = bitField byte15 6 2 := land_shiftRight byte15 6 2
  have hhigh : byte17 &&& 0b00000011 = bitField byte17 0 2 := land_mask byte17 2
  have hshift : bitField byte17 0 2 <<< 10 = bitField byte17 0 2 <<< 8 <<< 2 :=
    Nat.shiftLeft_add _ 8 2
  rw [hlow, hhigh, hshift, ← Nat.shiftLeft_or_distrib, shiftLeft_or (bitField_lt byte15 6 2),
    shiftLeft_or h]
  rfl

/-- The raw value of a voltage. -/
theorem voltage_raw (byte17 byte18 : Nat) :
    (byte18 <<< 6) ||| ((byte17 &&& 0b11111100) >>> 2) = bitField byte17 2 6 + 64 * byte18 := by
  have hlow : (byte17 &&& 0b11111100) >>> 2 = bitField byte17 2 6 := land_shiftRight byte17 2 6
  rw [hlow, shiftLeft_or (bitField_lt byte17 2 6)]
  rfl

/-- The fields in the middle of subframe B have 40 bits. -/
theorem fits_middleFields {fields : TelemetryB} {protocolVersion : Nat}
    (h : fields.WellFormed protocolVersion) : Fits fields.middleFields := by
  have hcode : fields.uptime.unit.code < 2 ^ 2 := by cases fields.uptime.unit <;> decide
  have htemperature : (fields.temperature % 4096).toNat < 2 ^ 12 := by omega
  have hvoltage : fields.batteryVoltage.getD 16383 < 2 ^ 14 := by
    cases hbattery : fields.batteryVoltage with
    | none => decide
    | some voltage =>
      have hlt := h.batteryVoltage voltage hbattery
      show voltage < 2 ^ 14
      omega
  exact fits_cons.mpr ⟨h.uptime.1, fits_cons.mpr ⟨hcode, fits_cons.mpr ⟨htemperature,
    fits_cons.mpr ⟨hvoltage, fits_nil⟩⟩⟩⟩

/-- Uptime, temperature and voltage are read back from their five bytes. -/
theorem parseMiddle_pack {fields : TelemetryB} {protocolVersion : Nat}
    (h : fields.WellFormed protocolVersion) {n : Nat} (hn : pack fields.middleFields = n) :
    parseUptime (n % 256) (n / 256 % 256) = fields.uptime ∧
      parseTemperature (n / 256 % 256) (n / 256 / 256 % 256) (n / 256 / 256 / 256 % 256) =
        fields.temperature ∧
      parseBatteryVoltage (n / 256 / 256 / 256 % 256) (n / 256 / 256 / 256 / 256 % 256) =
        fields.batteryVoltage := by
  have hfits := fits_middleFields h
  have hlt : n < 2 ^ 40 := hn ▸ pack_lt hfits
  have hnumber : bitField n 0 12 = fields.uptime.number := hn ▸ bitField_pack hfits 0 0 rfl rfl
  have hcode : bitField n 12 2 = fields.uptime.unit.code := hn ▸ bitField_pack hfits 1 12 rfl rfl
  have htemperature : bitField n 14 12 = (fields.temperature % 4096).toNat :=
    hn ▸ bitField_pack hfits 2 14 rfl rfl
  have hvoltage : bitField n 26 14 = fields.batteryVoltage.getD 16383 :=
    hn ▸ bitField_pack hfits 3 26 rfl rfl
  refine ⟨?_, ?_, ?_⟩
  · have hmask : (n / 256 % 256 &&& 0b00110000) >>> 4 = bitField (n / 256 % 256) 4 2 :=
      land_shiftRight _ 4 2
    have hunit : uptimeUnit fields.uptime.unit.code = fields.uptime.unit := by
      have hweeks := h.uptime.2
      cases hunit : fields.uptime.unit with
      | weeks => exact absurd hunit hweeks
      | _ => rfl
    have hfirst : (parseUptime (n % 256) (n / 256 % 256)).number = fields.uptime.number := by
      rw [uptime_number (Nat.mod_lt _ (by decide)), ← hnumber]
      simp only [bitField]
      omega
    have hsecond : (parseUptime (n % 256) (n / 256 % 256)).unit = fields.uptime.unit := by
      rw [← hunit, ← hcode]
      show uptimeUnit ((n / 256 % 256 &&& 0b00110000) >>> 4) = _
      rw [hmask]
      apply congrArg uptimeUnit
      simp only [bitField]
      omega
    exact congr (congrArg TimeSpan.mk hfirst) hsecond
  · have hraw : bitField (n / 256 % 256) 6 2 + 4 * (n / 256 / 256 % 256 +
        256 * bitField (n / 256 / 256 / 256 % 256) 0 2) = (fields.temperature % 4096).toNat := by
      rw [← htemperature]
      simp only [bitField]
      omega
    have hrange := h.temperature
    simp only [parseTemperature, temperature_raw _ (Nat.mod_lt _ (by decide : 0 < 256)), hraw]
    split <;> omega
  · have hraw : bitField (n / 256 / 256 / 256 % 256) 2 6 +
        64 * (n / 256 / 256 / 256 / 256 % 256) = fields.batteryVoltage.getD 16383 := by
      rw [← hvoltage]
      simp only [bitField]
      omega
    simp only [parseBatteryVoltage, voltage_raw, hraw]
    cases hbattery : fields.batteryVoltage with
    | none => rfl
    | some voltage =>
      have hvoltage := h.batteryVoltage voltage hbattery
      show (if voltage = 16383 then none else some voltage) = some voltage
      rw [if_neg (by omega)]

/-- The byte of a level of light. -/
theorem parseAmbientLight_lightByte {level : Nat}
    (h : ∃ byte < 256, parseAmbientLight byte = level) :
    lightByte level < 256 ∧ parseAmbientLight (lightByte level) = level := by
  obtain ⟨byte, hlt, hlevel⟩ := h
  unfold lightByte
  cases hfind : (List.range 256).find? fun byte ↦ parseAmbientLight byte == level with
  | none =>
    have hnone := List.find?_eq_none.mp hfind byte (List.mem_range.mpr hlt)
    exact absurd (beq_iff_eq.mpr hlevel) hnone
  | some found =>
    have hfound := List.find?_some hfind
    exact ⟨List.mem_range.mp (List.mem_of_find?_eq_some hfind), beq_iff_eq.mp hfound⟩

/-- Level of the battery and errors share a byte. -/
theorem parseLast_lastByte {fields : TelemetryB} {protocolVersion : Nat}
    (h : fields.WellFormed protocolVersion) : fields.lastByte < 256 ∧
      (if 1 ≤ protocolVersion then parseBatteryLevel fields.lastByte else none) =
        fields.batteryLevel ∧
      (if protocolVersion = 0 then some (parseErrors fields.lastByte) else none) =
        fields.errors := by
  have hisSome := h.errors_isSome
  have hlevel := h.batteryLevel
  unfold TelemetryB.lastByte
  cases herrors : fields.errors with
  | some errors =>
    have hversion : protocolVersion = 0 := by
      apply hisSome.mp
      rw [herrors]
      rfl
    have hlt : pack errors.fields < 2 ^ 2 := pack_lt (fits_errors errors)
    refine ⟨Nat.lt_trans hlt (by decide), ?_, ?_⟩
    · rw [if_neg (by omega)]
      cases hbattery : fields.batteryLevel with
      | none => rfl
      | some level =>
        have hknown := (hlevel level hbattery).1
        omega
    · show (if protocolVersion = 0 then some (parseErrors (pack errors.fields)) else none) = _
      rw [if_pos hversion, parseErrors_pack]
  | none =>
    have hversion : protocolVersion ≠ 0 := by
      intro hzero
      have hsome := hisSome.mpr hzero
      rw [herrors] at hsome
      cases hsome
    show fields.batteryLevel.getD 255 < 256 ∧
      (if 1 ≤ protocolVersion then parseBatteryLevel (fields.batteryLevel.getD 255) else none) =
        fields.batteryLevel ∧ (if protocolVersion = 0 then _ else none) = none
    rw [if_pos (by omega), if_neg hversion]
    cases hbattery : fields.batteryLevel with
    | none => exact ⟨by decide, rfl, rfl⟩
    | some level =>
      have hlt := (hlevel level hbattery).2
      refine ⟨?_, ?_, rfl⟩
      · show level < 256
        omega
      · show (if level = 255 then none else some level) = some level
        rw [if_neg (by omega)]

/-! ### Packets are read back -/

/-- A byte behind others. -/
private theorem readUInt8_behind {before buffer : Buffer} {offset n m : Nat} (i : Nat)
    (hoffset : before.length + i = offset) (hbyte : buffer.bytesAt i 1 = [UInt8.ofNat n])
    (hm : n % 256 = m) : (before ++ buffer).readUInt8 offset = .ok m := by
  have hlength := congrArg List.length hbyte
  simp only [Buffer.bytesAt, List.length_take, List.length_drop, List.length_singleton] at hlength
  rw [Buffer.readUInt8, Buffer.read_append Buffer.littleEndian hoffset (by omega), hbyte,
    Buffer.littleEndian, Buffer.littleEndian, UInt8.toNat_ofNat', ← hm]
  rfl

/-- A signed one. -/
private theorem readInt8_behind {before buffer : Buffer} {offset : Nat} {n : Int} (i : Nat)
    (hoffset : before.length + i = offset) (hbyte : buffer.bytesAt i 1 = [int8Byte n])
    (hn : IsInt8 n) : (before ++ buffer).readInt8 offset = .ok n := by
  obtain ⟨hlow, hhigh⟩ := hn
  have hlength := congrArg List.length hbyte
  simp only [Buffer.bytesAt, List.length_take, List.length_drop, List.length_singleton] at hlength
  have hvalue : Buffer.signed 256 (Buffer.littleEndian [int8Byte n]) = n := by
    simp only [int8Byte, Buffer.littleEndian, Buffer.signed, UInt8.toNat_ofNat']
    split <;> omega
  rw [Buffer.readInt8, Buffer.read_append _ hoffset (by omega), hbyte, hvalue]

variable {before : Buffer} {protocolVersion : Nat}

/-- Whether a field is there depends on the version. -/
private theorem eq_none_of_isSome_iff {α : Type} {o : Option α} {p : Prop} (h : o.isSome = true ↔ p)
    (hp : ¬ p) : o = none := by
  cases o with
  | none => rfl
  | some a => exact absurd (h.mp rfl) hp

/-- Subframe A behind the header, whose last byte is the type of the subframe. -/
theorem parseTelemetryA_encode {fields : TelemetryA} (h : fields.WellFormed protocolVersion)
    (hversion : protocolVersion ≤ 2) (hbefore : before.length = 9) (byte9 : UInt8) :
    parseTelemetryA (before ++ byte9 :: fields.encode) protocolVersion = .ok fields := by
  obtain ⟨hx, hy, hz⟩ := h.acceleration
  have hstate : pack (stateFields fields.isMoving (fields.errors.getD .none) fields.gpio) < 2 ^ 8 :=
    pack_lt (fits_stateFields _ _ _)
  have hduration {span : TimeSpan} (hspan : span.IsMotionState) :
      pack span.motionStateFields % 256 = pack span.motionStateFields := by
    have hlt := pack_lt (fits_motionStateFields hspan)
    have hwidth : packWidth span.motionStateFields = 8 := by
      obtain ⟨number, unit⟩ := span
      cases unit <;> rfl
    rw [hwidth] at hlt
    exact Nat.mod_eq_of_lt hlt
  obtain ⟨data, hdata⟩ : ∃ data, data = before ++ byte9 :: fields.encode := ⟨_, rfl⟩
  have h10 : data.readInt8 10 = .ok fields.acceleration.x :=
    hdata ▸ readInt8_behind 1 (by omega) rfl hx
  have h11 : data.readInt8 11 = .ok fields.acceleration.y :=
    hdata ▸ readInt8_behind 2 (by omega) rfl hy
  have h12 : data.readInt8 12 = .ok fields.acceleration.z :=
    hdata ▸ readInt8_behind 3 (by omega) rfl hz
  have h13 : data.readUInt8 13 = .ok (pack fields.previous.motionStateFields) :=
    hdata ▸ readUInt8_behind 4 (by omega) rfl (hduration h.previous)
  have h14 : data.readUInt8 14 = .ok (pack fields.current.motionStateFields) :=
    hdata ▸ readUInt8_behind 5 (by omega) rfl (hduration h.current)
  have h15 : data.readUInt8 15 =
      .ok (pack (stateFields fields.isMoving (fields.errors.getD .none) fields.gpio)) :=
    hdata ▸ readUInt8_behind 6 (by omega) rfl (Nat.mod_eq_of_lt hstate)
  rw [← hdata, parseTelemetryA]
  simp only [h10, h11, h12, h13, h14, h15, ok_bind, parseMotionStateDuration_pack h.previous,
    parseMotionStateDuration_pack h.current, isMoving_pack, parseGpio_pack, parseStateErrors_pack]
  have hpressure := h.pressure_isSome
  have herrors := h.errors_isSome
  by_cases htwo : protocolVersion = 2
  · obtain ⟨pressure, hsome⟩ := Option.isSome_iff_exists.mp (hpressure.mpr htwo)
    obtain ⟨errors, herrors⟩ := Option.isSome_iff_exists.mp (herrors.mpr (by omega))
    have hlt := h.pressure pressure hsome
    have h16 : data.readUInt32LE 16 = .ok pressure := by
      have hbytes : Buffer.bytesAt (byte9 :: fields.encode) 7 4 =
          Buffer.toBytes 4 (fields.pressure.getD (pack (fields.errors.getD .none).fields)) := rfl
      rw [hdata, Buffer.readUInt32LE, Buffer.read_append (i := 7) Buffer.littleEndian (by omega)
        (Nat.le_refl 11), hbytes, hsome, Option.getD_some,
        Buffer.littleEndian_toBytes 4 (by omega)]
    rw [if_pos htwo, h16, ok_bind, herrors, Option.getD_some]
    obtain ⟨acceleration, isMoving, previous, current, _, gpio, _⟩ := fields
    cases hsome
    cases herrors
    rfl
  · have hnone := eq_none_of_isSome_iff hpressure htwo
    by_cases hone : protocolVersion = 1
    · obtain ⟨errors, herrors⟩ := Option.isSome_iff_exists.mp (herrors.mpr (by omega))
      have hlt : pack errors.fields < 2 ^ 2 := pack_lt (fits_errors errors)
      have h16 : data.readUInt8 16 = .ok (pack errors.fields) := by
        rw [hdata]
        refine readUInt8_behind 7 (by omega) rfl ?_
        rw [hnone, herrors]
        exact Nat.mod_eq_of_lt (Nat.lt_trans hlt (by decide))
      rw [if_neg htwo, if_pos hone, h16, ok_bind, parseErrors_pack]
      obtain ⟨acceleration, isMoving, previous, current, _, gpio, _⟩ := fields
      cases hnone
      cases herrors
      rfl
    · have herrors := eq_none_of_isSome_iff herrors (by omega)
      rw [if_neg htwo, if_neg hone]
      obtain ⟨acceleration, isMoving, previous, current, _, gpio, _⟩ := fields
      cases hnone
      cases herrors
      rfl

/-- Subframe B in the same place. -/
theorem parseTelemetryB_encode {fields : TelemetryB} (h : fields.WellFormed protocolVersion)
    (hbefore : before.length = 9) (byte9 : UInt8) :
    parseTelemetryB (before ++ byte9 :: fields.encode) protocolVersion = .ok fields := by
  obtain ⟨hx, hy, hz⟩ := h.magneticField
  obtain ⟨hlight, hlevel⟩ := parseAmbientLight_lightByte h.ambientLightLevel
  obtain ⟨huptime, htemperature, hvoltage⟩ := parseMiddle_pack h rfl
  obtain ⟨hlast, hbattery, herrors⟩ := parseLast_lastByte h
  obtain ⟨data, hdata⟩ : ∃ data, data = before ++ byte9 :: fields.encode := ⟨_, rfl⟩
  have h10 : data.readInt8 10 = .ok fields.magneticField.x :=
    hdata ▸ readInt8_behind 1 (by omega) rfl hx
  have h11 : data.readInt8 11 = .ok fields.magneticField.y :=
    hdata ▸ readInt8_behind 2 (by omega) rfl hy
  have h12 : data.readInt8 12 = .ok fields.magneticField.z :=
    hdata ▸ readInt8_behind 3 (by omega) rfl hz
  have h13 : data.readUInt8 13 = .ok (lightByte fields.ambientLightLevel) :=
    hdata ▸ readUInt8_behind 4 (by omega) rfl (Nat.mod_eq_of_lt hlight)
  have h14 : data.readUInt8 14 = .ok (pack fields.middleFields % 256) :=
    hdata ▸ readUInt8_behind 5 (by omega) rfl rfl
  have h15 : data.readUInt8 15 = .ok (pack fields.middleFields / 256 % 256) :=
    hdata ▸ readUInt8_behind 6 (by omega) rfl rfl
  have h16 : data.readUInt8 16 = .ok (pack fields.middleFields / 256 / 256 % 256) :=
    hdata ▸ readUInt8_behind 7 (by omega) rfl rfl
  have h17 : data.readUInt8 17 = .ok (pack fields.middleFields / 256 / 256 / 256 % 256) :=
    hdata ▸ readUInt8_behind 8 (by omega) rfl rfl
  have h18 : data.readUInt8 18 = .ok (pack fields.middleFields / 256 / 256 / 256 / 256 % 256) :=
    hdata ▸ readUInt8_behind 9 (by omega) rfl rfl
  have h19 : data.readUInt8 19 = .ok fields.lastByte :=
    hdata ▸ readUInt8_behind 10 (by omega) rfl (Nat.mod_eq_of_lt hlast)
  rw [← hdata, parseTelemetryB]
  simp only [h10, h11, h12, h13, h14, h15, h16, h17, h18, h19, ok_bind, huptime, htemperature,
    hvoltage, hlevel, hbattery, herrors]
  rfl

/-- There are 20 bytes. -/
theorem TelemetryPacket.length_encode {packet : TelemetryPacket} (h : packet.WellFormed) :
    packet.encode.length = 20 := by
  obtain ⟨shortIdentifier, protocolVersion, telemetry⟩ := packet
  have hlength : shortIdentifier.length = 8 := h.shortIdentifier
  cases telemetry with
  | a fields =>
    show (shortIdentifier ++ (0 :: fields.encode)).length + 1 = 20
    rw [List.length_append, hlength]
    rfl
  | b fields =>
    show (shortIdentifier ++ (1 :: fields.encode)).length + 1 = 20
    rw [List.length_append, hlength]
    rfl

/-- A packet is parsed from the bytes that encode it. -/
theorem parseEstimoteTelemetryPacket_encode {packet : TelemetryPacket} (h : packet.WellFormed) :
    parseEstimoteTelemetryPacket packet.encode = .ok (some packet) := by
  obtain ⟨shortIdentifier, version, telemetry⟩ := packet
  obtain ⟨hlength, hversion, htelemetry⟩ := h
  simp only at hlength hversion htelemetry
  have hfits : Fits [(2, 4), (version, 4)] :=
    fits_cons.mpr ⟨by decide, fits_cons.mpr ⟨Nat.lt_of_le_of_lt hversion (by decide), fits_nil⟩⟩
  have hbyte : pack [(2, 4), (version, 4)] < 2 ^ 8 := pack_lt hfits
  have hframe : frameType (pack [(2, 4), (version, 4)]) = 2 :=
    (land_mask _ 4).trans (bitField_pack hfits 0 0 rfl rfl)
  have hprotocol : protocolVersion (pack [(2, 4), (version, 4)]) = version :=
    (land_shiftRight _ 4 4).trans (bitField_pack hfits 1 4 rfl rfl)
  obtain ⟨before, hbefore⟩ : ∃ before : Buffer,
      before = UInt8.ofNat (pack [(2, 4), (version, 4)]) :: shortIdentifier := ⟨_, rfl⟩
  have hnine : before.length = 9 := by rw [hbefore, List.length_cons, hlength]
  have hslice (after : Buffer) : (before ++ after).slice 1 9 = shortIdentifier := by
    rw [Buffer.slice, List.take_append_of_le_length (by omega), ← hnine, List.take_length, hbefore]
    rfl
  have hzero (after : Buffer) :
      (before ++ after).readUInt8 0 = .ok (pack [(2, 4), (version, 4)]) := by
    rw [hbefore]
    exact @readUInt8_behind [] (_ :: (shortIdentifier ++ after)) 0 _ _ 0 rfl rfl
      (Nat.mod_eq_of_lt hbyte)
  have hdata : TelemetryPacket.encode ⟨shortIdentifier, version, telemetry⟩ =
      before ++ telemetry.encode := by
    rw [hbefore]
    rfl
  rw [hdata, parseEstimoteTelemetryPacket, hzero, ok_bind, if_neg (not_not.mpr hframe), hprotocol,
    if_neg (by omega), hslice]
  cases telemetry with
  | a fields =>
    have hnext : (before ++ 0 :: fields.encode).readUInt8 9 = .ok 0 :=
      readUInt8_behind 0 (by omega) rfl rfl
    have hfields := parseTelemetryA_encode htelemetry hversion hnine 0
    rw [Telemetry.encode, hnext, ok_bind, if_pos (by decide), hfields]
    rfl
  | b fields =>
    have hnext : (before ++ 1 :: fields.encode).readUInt8 9 = .ok 1 :=
      readUInt8_behind 0 (by omega) rfl rfl
    have hfields := parseTelemetryB_encode htelemetry hnine 1
    rw [Telemetry.encode, hnext, ok_bind, if_neg (by decide), if_pos (by decide), hfields]
    rfl

/-! ### What is parsed is in range -/

section Range

variable {data : Buffer} {offset : Nat}

/-- A byte that was read. -/
private theorem readUInt8_lt {byte : Nat} (h : data.readUInt8 offset = .ok byte) : byte < 256 := by
  obtain ⟨hle, rfl⟩ := (Buffer.read_eq_ok_iff _ _ _ _ _).mp h
  have hlt := Buffer.littleEndian_lt (data.bytesAt offset 1)
  have hlength : (data.bytesAt offset 1).length = 1 := by
    rw [Buffer.bytesAt, List.length_take, List.length_drop]
    omega
  rwa [hlength] at hlt

/-- Four of them. -/
private theorem readUInt32LE_lt {n : Nat} (h : data.readUInt32LE offset = .ok n) : n < 2 ^ 32 := by
  obtain ⟨hle, rfl⟩ := (Buffer.read_eq_ok_iff _ _ _ _ _).mp h
  have hlt := Buffer.littleEndian_lt (data.bytesAt offset 4)
  have hlength : (data.bytesAt offset 4).length = 4 := by
    rw [Buffer.bytesAt, List.length_take, List.length_drop]
    omega
  rwa [hlength] at hlt

/-- A signed byte. -/
private theorem readInt8_range {n : Int} (h : data.readInt8 offset = .ok n) : IsInt8 n := by
  obtain ⟨hle, rfl⟩ := (Buffer.read_eq_ok_iff _ _ _ _ _).mp h
  have hread : data.readUInt8 offset = .ok (Buffer.littleEndian (data.bytesAt offset 1)) :=
    Buffer.read_of_le _ hle
  have hlt := readUInt8_lt hread
  simp only [Buffer.signed, IsInt8]
  split <;> omega

end Range

/-- Every byte makes a duration in range. -/
theorem isMotionState_parse (byte : Nat) : (parseMotionStateDuration byte).IsMotionState := by
  have hnumber : bitField byte 0 6 < 2 ^ 6 := bitField_lt byte 0 6
  have hcode : bitField byte 6 2 < 2 ^ 2 := bitField_lt byte 6 2
  simp only [parseMotionStateDuration, land_six, land_high]
  split
  · exact hnumber
  · split
    · exact hnumber
    · split
      · exact hnumber
      · split
        · next hdays => exact hdays.2
        · show 0 < bitField byte 0 6 - 32 ∧ bitField byte 0 6 - 32 < 32
          omega

/-- Subframe A is in range. -/
theorem wellFormed_of_parseTelemetryA {data : Buffer} {fields : TelemetryA}
    (h : parseTelemetryA data protocolVersion = .ok fields) (hversion : protocolVersion ≤ 2) :
    fields.WellFormed protocolVersion := by
  unfold parseTelemetryA at h
  simp only [bind_eq_ok_iff] at h
  obtain ⟨x, hx, y, hy, z, hz, byte15, _, previous, _, current, _, h⟩ := h
  have hacceleration : Axes.WellFormed ⟨x, y, z⟩ :=
    ⟨readInt8_range hx, readInt8_range hy, readInt8_range hz⟩
  split at h
  · next htwo =>
    obtain ⟨pressure, hpressure, h⟩ := (bind_eq_ok_iff _ _ _).mp h
    obtain rfl := Except.ok.inj h
    refine ⟨hacceleration, isMotionState_parse _, isMotionState_parse _, ?_, ?_, ?_⟩
    · intro p hp
      obtain rfl := Option.some.inj hp
      exact readUInt32LE_lt hpressure
    · exact iff_of_true rfl htwo
    · exact iff_of_true rfl (by omega)
  · next htwo =>
    split at h
    · next hone =>
      obtain ⟨byte16, _, h⟩ := (bind_eq_ok_iff _ _ _).mp h
      obtain rfl := Except.ok.inj h
      exact ⟨hacceleration, isMotionState_parse _, isMotionState_parse _, nofun,
        iff_of_false nofun htwo, iff_of_true rfl (by omega)⟩
    · obtain rfl := Except.ok.inj h
      exact ⟨hacceleration, isMotionState_parse _, isMotionState_parse _, nofun,
        iff_of_false nofun htwo, iff_of_false nofun (by omega)⟩

/-- Subframe B is in range. -/
theorem wellFormed_of_parseTelemetryB {data : Buffer} {fields : TelemetryB}
    (h : parseTelemetryB data protocolVersion = .ok fields) :
    fields.WellFormed protocolVersion := by
  unfold parseTelemetryB at h
  simp only [bind_eq_ok_iff] at h
  obtain ⟨x, hx, y, hy, z, hz, byte13, h13, byte15, _, byte14, h14, byte17, _, byte16, h16,
    byte18, h18, byte19, h19, h⟩ := h
  obtain rfl := Except.ok.inj h
  refine ⟨⟨readInt8_range hx, readInt8_range hy, readInt8_range hz⟩,
    ⟨byte13, readUInt8_lt h13, rfl⟩, ?_, ⟨?_, ?_⟩, ?_, ?_, ?_⟩
  · have hlow := bitField_lt byte15 6 2
    have hmiddle := readUInt8_lt h16
    have hhigh := bitField_lt byte17 0 2
    simp only [parseTemperature, temperature_raw _ hmiddle]
    split <;> omega
  · have hlow := readUInt8_lt h14
    have hhigh := bitField_lt byte15 0 4
    rw [uptime_number hlow]
    omega
  · simp only [parseUptime, uptimeUnit]
    repeat' split
    all_goals nofun
  · intro voltage hvoltage
    have hlow := bitField_lt byte17 2 6
    have hhigh := readUInt8_lt h18
    simp only [parseBatteryVoltage, voltage_raw] at hvoltage
    split at hvoltage
    · cases hvoltage
    · obtain rfl := Option.some.inj hvoltage
      omega
  · intro level hlevel
    have hbyte := readUInt8_lt h19
    simp only [parseBatteryLevel] at hlevel
    split at hlevel
    · next hversion =>
      split at hlevel
      · cases hlevel
      · obtain rfl := Option.some.inj hlevel
        exact ⟨hversion, by omega⟩
    · cases hlevel
  · dsimp only
    split
    · next hzero => exact iff_of_true rfl hzero
    · next hzero => exact iff_of_false nofun hzero

/-- Every packet that is parsed has its fields in range. -/
theorem wellFormed_of_parseEstimoteTelemetryPacket {data : Buffer} {packet : TelemetryPacket}
    (h : parseEstimoteTelemetryPacket data = .ok (some packet)) : packet.WellFormed := by
  obtain ⟨byte0, _, h⟩ := (bind_eq_ok_iff _ _ _).mp h
  split at h
  · cases h
  · split at h
    · cases h
    · next hversion =>
      have hle : protocolVersion byte0 ≤ 2 := by omega
      obtain ⟨byte9, hbyte9, h⟩ := (bind_eq_ok_iff _ _ _).mp h
      have hten := ((Buffer.read_eq_ok_iff _ _ _ _ _).mp hbyte9).1
      have hslice : (data.slice 1 9).length = 8 := by
        rw [Buffer.slice, List.length_drop, List.length_take]
        omega
      split at h
      · obtain ⟨fields, hfields, h⟩ := (bind_eq_ok_iff _ _ _).mp h
        obtain rfl := Option.some.inj (Except.ok.inj h)
        exact ⟨hslice, hle, wellFormed_of_parseTelemetryA hfields hle⟩
      · split at h
        · obtain ⟨fields, hfields, h⟩ := (bind_eq_ok_iff _ _ _).mp h
          obtain rfl := Option.some.inj (Except.ok.inj h)
          exact ⟨hslice, hle, wellFormed_of_parseTelemetryB hfields⟩
        · cases h

/-- The packets that the parser makes are those with all fields in their range, and each of them is
parsed from the 20 bytes that encode it. -/
theorem parseTelemetryPacket_round_trip (packet : TelemetryPacket) :
    ((∃ data, parseEstimoteTelemetryPacket data = .ok (some packet)) ↔ packet.WellFormed) ∧
      (packet.WellFormed ↔ packet.encode.length = 20 ∧
        parseEstimoteTelemetryPacket packet.encode = .ok (some packet)) := by
  refine ⟨⟨?_, fun h ↦ ⟨_, parseEstimoteTelemetryPacket_encode h⟩⟩, fun h ↦ ?_, fun h ↦ ?_⟩
  · rintro ⟨data, h⟩
    exact wellFormed_of_parseEstimoteTelemetryPacket h
  · exact ⟨TelemetryPacket.length_encode h, parseEstimoteTelemetryPacket_encode h⟩
  · exact wellFormed_of_parseEstimoteTelemetryPacket h.2

end NexusEdge.Devices
