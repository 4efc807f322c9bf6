import Mathlib.Data.List.Infix
import NexusEdge.Devices.Actuators
import NexusEdge.Devices.Eddystone

/-!
# Malformed advertisements

Library `Devices`. The subscribers of the platform, and on which advertisements each of them
neither reads outside of the received data nor throws. Callbacks that are `async` return promises
and throw nothing; what the others deliver is taken by the platform.
-/

namespace NexusEdge.Devices
open NexusEdge.Base

/-- The modules that subscribe. -/
inductive BleHandler where
  | microbit
  | solEh
  | iBeacon
  | ekg
  | estimote
  | lab11 (s : Lab11BleHandler)
  | oortSocket
  | levitonLighting
  | gatewayScanner (talkToManagerServiceUuid : String)

/-- The predicate of `leviton-lighting-handler.js:32–35`. -/
def levitonPredicate (peripheral : Peripheral) : Except String Bool :=
  .ok (peripheral.advertisement.localName.any fun localName ↦ "$L$".toList <:+: localName.toList)

namespace BleHandler

/-- The predicate with which a module subscribes. -/
def predicateFn : BleHandler → Peripheral → Except String Bool
  | .microbit => microbitPredicate
  | .solEh => solEhPredicate
  | .iBeacon => iBeaconPredicate
  | .ekg => ekgPredicate
  | .estimote => hasServiceUuid estimoteServiceUuid
  | .lab11 _ => hasServiceUuid eddystoneServiceUuid
  | .oortSocket => hasServiceUuid OortSocket.oortServiceSensorUuid
  | .levitonLighting => levitonPredicate
  | .gatewayScanner talkToManagerServiceUuid => hasServiceUuid talkToManagerServiceUuid

/-- Its callback. -/
def callbackFn (lib : UrlLibrary) : BleHandler → Peripheral → Except String Unit
  | .microbit => fun peripheral ↦ (microbitData peripheral).map fun _ ↦ ()
  | .solEh => fun peripheral ↦ (solEhData peripheral).map fun _ ↦ ()
  | .iBeacon => fun peripheral ↦ (iBeaconData peripheral).map fun _ ↦ ()
  | .ekg => fun peripheral ↦ (ekgData peripheral).map fun _ ↦ ()
  | .estimote => fun peripheral ↦ (estimoteData peripheral).map fun _ ↦ ()
  | .lab11 s => fun peripheral ↦ (s.onPeripheral lib peripheral).map fun _ ↦ ()
  | .oortSocket => fun _ ↦ .ok ()
  | .levitonLighting => fun _ ↦ .ok ()
  | .gatewayScanner _ => fun _ ↦ .ok ()

/-- A subscriber of the platform. -/
def subscriber (lib : UrlLibrary) (id : Nat) (handler : BleHandler) : Subscriber :=
  ⟨id, handler.predicateFn, handler.callbackFn lib⟩

/-- The subscribers after the modules have subscribed one after the other. -/
def subscribers (lib : UrlLibrary) (handlers : List BleHandler) : List Subscriber :=
  handlers.mapIdx (subscriber lib)

/-- Manufacturer data has a company id. -/
def HasCompanyId (peripheral : Peripheral) : Prop :=
  ∀ manufacturerData, peripheral.advertisement.manufacturerData = some manufacturerData →
    2 ≤ manufacturerData.length

/-- Manufacturer data with the company id of SOL sensors has all their fields. -/
def HasSolEhFields (peripheral : Peripheral) : Prop :=
  ∀ manufacturerData, peripheral.advertisement.manufacturerData = some manufacturerData →
    Buffer.littleEndian (manufacturerData.bytesAt 0 2) = solEhCompanyId →
      26 ≤ manufacturerData.length

/-- The peripheral offers the service. -/
def Offers (uuid : String) (peripheral : Peripheral) : Prop :=
  ∃ serviceUuids, peripheral.advertisement.serviceUuids = some serviceUuids ∧ uuid ∈ serviceUuids

/-- Data of the Estimote service has as many bytes as are read of it. -/
def HasTelemetry (peripheral : Peripheral) : Prop :=
  ∃ serviceData, peripheral.advertisement.serviceData = some serviceData ∧
    ∀ estimoteServiceData,
      serviceData.find? (fun el ↦ el.uuid = estimoteServiceUuid) = some estimoteServiceData →
      estimoteLength (byteAt estimoteServiceData.data 0) (byteAt estimoteServiceData.data 9) ≤
        estimoteServiceData.data.length

/-- The advertisement has what the module reads of it. -/
def Safe (lib : UrlLibrary) : BleHandler → Peripheral → Prop
  | .microbit, peripheral => HasCompanyId peripheral
  | .solEh, peripheral => HasCompanyId peripheral ∧ HasSolEhFields peripheral
  | .iBeacon, peripheral => HasCompanyId peripheral
  | .ekg, peripheral => HasCompanyId peripheral
  | .estimote, peripheral => Offers estimoteServiceUuid peripheral → HasTelemetry peripheral
  | .lab11 s, peripheral => Offers eddystoneServiceUuid peripheral → s.Safe lib peripheral
  | .oortSocket, _ => True
  | .levitonLighting, _ => True
  | .gatewayScanner _, _ => True

variable {lib : UrlLibrary}

/-- A subscriber handles a peripheral if its filter returns, and its callback whenever the filter
is satisfied. -/
theorem handles_iff (subscriber : Subscriber) (peripheral : Peripheral) :
    subscriber.Handles peripheral ↔ Returns (subscriber.predicateFn peripheral) ∧
      (subscriber.predicateFn peripheral = .ok true → Returns (subscriber.callbackFn peripheral)) := by
  constructor
  · rintro ⟨accepted, haccepted, hcallback⟩
    refine ⟨⟨accepted, haccepted⟩, fun htrue ↦ hcallback ?_⟩
    exact Except.ok.inj (haccepted.symm.trans htrue)
  · rintro ⟨⟨accepted, haccepted⟩, hcallback⟩
    exact ⟨accepted, haccepted, fun htrue ↦ hcallback (htrue ▸ haccepted)⟩

/-- Filters of manufacturer data concern peripherals with such data. -/
theorem whenManufacturer_iff {α : Type} (peripheral : Peripheral)
    (accept : Buffer → Except String Bool) (f : Buffer → Except String α) :
    (Returns (whenManufacturer peripheral accept) ∧
      (whenManufacturer peripheral accept = .ok true → Returns (withManufacturer peripheral f))) ↔
    ∀ manufacturerData, peripheral.advertisement.manufacturerData = some manufacturerData →
      Returns (accept manufacturerData) ∧
        (accept manufacturerData = .ok true → Returns (f manufacturerData)) := by
  unfold whenManufacturer withManufacturer
  cases peripheral.advertisement.manufacturerData with
  | none => exact iff_of_true ⟨returns_ok _, nofun⟩ nofun
  | some manufacturerData => simp only [Option.some.injEq, forall_eq']

/-- Filters of services always return. -/
theorem hasServiceUuid_iff {P : Prop} (uuid : String) (peripheral : Peripheral) :
    (Returns (hasServiceUuid uuid peripheral) ∧ (hasServiceUuid uuid peripheral = .ok true → P)) ↔
      (Offers uuid peripheral → P) := by
  rw [and_iff_right (show Returns (hasServiceUuid uuid peripheral) from returns_ok _)]
  refine imp_congr_left ?_
  simp only [hasServiceUuid, Except.ok.injEq, Option.any_eq_true, decide_eq_true_eq, Offers]

/-- A field of a buffer, and a test of it. -/
theorem read_map_eq_ok_true {α : Type} (decode : List UInt8 → α) (data : Buffer)
    (offset byteLength : Nat) (test : α → Bool) :
    (data.read decode offset byteLength).map test = .ok true ↔
      offset + byteLength ≤ data.length ∧ test (decode (data.bytesAt offset byteLength)) = true := by
  unfold Buffer.read
  split
  · next h => simp only [Except.map, Except.ok.injEq, h, true_and]
  · next h => exact iff_of_false nofun fun hand ↦ h hand.1

/-- A microbit is read as far as its company id. -/
theorem handles_microbit (id : Nat) (peripheral : Peripheral) :
    (subscriber lib id .microbit).Handles peripheral ↔ HasCompanyId peripheral := by
  simp only [handles_iff, subscriber, predicateFn, callbackFn, microbitPredicate, microbitData,
    returns_map, whenManufacturer_iff, returns_bind_pure, Buffer.returns_read, HasCompanyId]
  refine forall₂_congr fun manufacturerData _ ↦ ?_
  exact ⟨fun h ↦ h.1, fun h ↦ ⟨h, fun _ ↦ h⟩⟩

/-- A SOL sensor is read to the end of its fields, without asking for the length. -/
theorem handles_solEh (id : Nat) (peripheral : Peripheral) :
    (subscriber lib id .solEh).Handles peripheral ↔
      HasCompanyId peripheral ∧ HasSolEhFields peripheral := by
  simp only [handles_iff, subscriber, predicateFn, callbackFn, solEhPredicate, solEhData,
    returns_map, whenManufacturer_iff, Buffer.returns_read_bind, Buffer.returns_read,
    read_map_eq_ok_true, returns_pure, and_true, HasCompanyId, HasSolEhFields, beq_iff_eq]
  rw [← forall_and]
  refine forall_congr' fun manufacturerData ↦ ?_
  rw [← forall_and]
  refine forall_congr' fun _ ↦ and_congr_right fun hid ↦ ?_
  simp only [hid, true_and]
  refine imp_congr_right fun _ ↦ ?_
  omega

/-- An EKG beacon is read if it has the length of one. -/
theorem handles_ekg (id : Nat) (peripheral : Peripheral) :
    (subscriber lib id .ekg).Handles peripheral ↔ HasCompanyId peripheral := by
  simp only [handles_iff, subscriber, predicateFn, callbackFn, ekgPredicate, ekgData,
    returns_map, whenManufacturer_iff, Buffer.returns_read_bind, Buffer.returns_read,
    read_map_eq_ok_true, returns_pure, and_true, HasCompanyId, Bool.and_eq_true, beq_iff_eq]
  refine forall₂_congr fun manufacturerData _ ↦ ?_
  constructor
  · exact fun h ↦ h.1
  · intro h
    refine ⟨h, fun haccepted ↦ ?_⟩
    omega

/-- The first condition on an iBeacon reads the company id; those after it come behind one on the
length. -/
theorem returns_isIBeaconData (manufacturerData : Buffer) :
    Returns (isIBeaconData manufacturerData) ↔ 2 ≤ manufacturerData.length := by
  unfold isIBeaconData
  rw [Buffer.returns_read_bind, Nat.zero_add]
  refine and_iff_left_of_imp fun _ ↦ ?_
  split
  · exact returns_pure false
  · split
    · exact returns_pure false
    · rw [Buffer.returns_read_bind]
      refine ⟨by omega, ?_⟩
      split
      · exact returns_pure false
      · rw [returns_bind_pure, Buffer.returns_read]
        omega

/-- An iBeacon is as long as one. -/
theorem le_length_of_isIBeaconData {manufacturerData : Buffer}
    (h : isIBeaconData manufacturerData = .ok true) : 25 ≤ manufacturerData.length := by
  by_contra hshort
  have htwo := (returns_isIBeaconData manufacturerData).mp ⟨true, h⟩
  unfold isIBeaconData at h
  rw [Buffer.readUInt16LE, Buffer.read_of_le _ (show 0 + 2 ≤ _ by omega)] at h
  change (if manufacturerData.length < 25 then .ok false else _) = Except.ok true at h
  rw [if_pos (by omega)] at h
  cases h

/-- An iBeacon is read if it has the length of one. -/
theorem handles_iBeacon (id : Nat) (peripheral : Peripheral) :
    (subscriber lib id .iBeacon).Handles peripheral ↔ HasCompanyId peripheral := by
  simp only [handles_iff, subscriber, predicateFn, callbackFn, iBeaconPredicate, iBeaconData,
    returns_map, whenManufacturer_iff, returns_isIBeaconData, Buffer.returns_read_bind,
    returns_pure, and_true, HasCompanyId]
  refine forall₂_congr fun manufacturerData _ ↦ ?_
  constructor
  · exact fun h ↦ h.1
  · intro h
    refine ⟨h, fun haccepted ↦ ?_⟩
    have hlength := le_length_of_isIBeaconData haccepted
    omega

/-- An Estimote beacon is read if it has service data. -/
theorem handles_estimote (id : Nat) (peripheral : Peripheral) :
    (subscriber lib id .estimote).Handles peripheral ↔
      (Offers estimoteServiceUuid peripheral → HasTelemetry peripheral) := by
  simp only [handles_iff, subscriber, predicateFn, callbackFn, hasServiceUuid_iff, returns_map]
  refine imp_congr_right fun _ ↦ ?_
  unfold estimoteData HasTelemetry
  cases peripheral.advertisement.serviceData with
  | none =>
    refine iff_of_false (not_returns_error _) ?_
    rintro ⟨serviceData, h, _⟩
    cases h
  | some serviceData =>
    simp only [Option.some.injEq, exists_eq_left']
    cases serviceData.find? fun el ↦ el.uuid = estimoteServiceUuid with
    | some estimoteServiceData =>
      simp only [returns_parseEstimoteTelemetryPacket, Option.some.injEq, forall_eq']
    | none => simp only [returns_ok, reduceCtorEq, false_imp_iff, implies_true]

/-- Every module handles exactly the peripherals that are safe for it. -/
theorem handles_subscriber_iff (id : Nat) (handler : BleHandler) (peripheral : Peripheral) :
    (handler.subscriber lib id).Handles peripheral ↔ handler.Safe lib peripheral := by
  cases handler with
  | microbit => exact handles_microbit id peripheral
  | solEh => exact handles_solEh id peripheral
  | iBeacon => exact handles_iBeacon id peripheral
  | ekg => exact handles_ekg id peripheral
  | estimote => exact handles_estimote id peripheral
  | lab11 s =>
    simp only [handles_iff, subscriber, predicateFn, callbackFn, hasServiceUuid_iff, returns_map,
      s.returns_onPeripheral, Safe]
  | oortSocket => exact iff_of_true ⟨_, rfl, fun _ ↦ returns_ok ()⟩ trivial
  | levitonLighting => exact iff_of_true ⟨_, rfl, fun _ ↦ returns_ok ()⟩ trivial
  | gatewayScanner => exact iff_of_true ⟨_, rfl, fun _ ↦ returns_ok ()⟩ trivial

/-- The loop calls every subscriber of the platform whose filter is satisfied, and nothing throws,
exactly if the advertisement is safe for all of them. -/
theorem onDiscover_subscribers_iff (lib : UrlLibrary) (handlers : List BleHandler)
    (peripheral : Peripheral) (called : List Nat) :
    onDiscover (subscribers lib handlers) (some peripheral) called =
        .done (called ++ acceptedBy (subscribers lib handlers) peripheral) ↔
      ∀ handler ∈ handlers, handler.Safe lib peripheral := by
  rw [onDiscover_eq_done_iff]
  constructor
  · intro h handler hmem
    obtain ⟨id, hid, hget⟩ := List.getElem_of_mem hmem
    have hsubscriber : subscriber lib id handler ∈ subscribers lib handlers :=
      List.mem_mapIdx.mpr ⟨id, hid, congrArg (subscriber lib id) hget⟩
    exact (handles_subscriber_iff id handler peripheral).mp (h _ hsubscriber)
  · intro h s hs
    obtain ⟨id, hid, rfl⟩ := List.mem_mapIdx.mp hs
    exact (handles_subscriber_iff id _ peripheral).mpr (h _ (List.getElem_mem hid))

/-- A scanner subscribes after the handler of SOL sensors, and one byte of manufacturer data keeps
it from being called. -/
theorem one_byte_stops_loop : ¬ ∀ lib handlers peripheral,
    (onDiscover (subscribers lib handlers) (some peripheral) []).state =
      acceptedBy (subscribers lib handlers) peripheral := by
  intro h
  have hstopped : [] = [1] := h ⟨fun _ ↦ .ok "", fun _ ↦ .ok none⟩
    [.solEh, .gatewayScanner "18338db1"] ⟨"p", ⟨none, some [0xff], some [], some ["18338db1"]⟩⟩
  cases hstopped

end BleHandler
end NexusEdge.Devices
