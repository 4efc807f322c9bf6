import NexusEdge.Devices.DeviceManager
import NexusEdge.Publishers.Fields

/-!
# Published records

Library `Publishers`. `onData` of the SIF cloud publisher and of the LinkLab Influx publisher. Both
set the fields known from a reading first and assign the fields of its device data to the same
objects afterwards, so that a field of the device data with the name of a known one replaces it.
-/

namespace NexusEdge.Publishers
open NexusEdge.Base NexusEdge.Devices

/-- Conversions of strings to numbers. -/
structure Conversions (N : Type) where
  parseFloat : String → N
  /-- `Date.parse(received_time) / 1000`. -/
  parseSeconds : String → N

variable {N : Type} [Zero N] [One N]

/-! ### The SIF cloud publisher -/

/-- `dataObject`. -/
structure DataObject (N : Type) where
  appName : String
  time : N
  payload : JsObject (Json N)
  metadata : JsObject (Json N)

/-- What is published to the SIF cloud. -/
structure CloudRecord (N : Type) where
  appName : String
  token : String
  data : DataObject N

/-- The directly available metadata fields, `sif-cloud-publisher.js:118–122`. -/
def cloudMetadata (sensorData : Reading (Json N)) : JsObject (Json N) :=
  (((JsObject.empty.set "handler_id" (.string sensorData.metadata.handlerId)).set
    "controller_id" (.string sensorData.metadata.controllerId)).set
    "gateway_id" (.string sensorData.metadata.gatewayId)).set
    "device_type" (.string sensorData.deviceType)

/-- `_getCloudFormattedData`, `sif-cloud-publisher.js:108–147`. -/
def getCloudFormattedData (conv : Conversions N) (sensorData : Reading (Json N)) (token : String) :
    CloudRecord N :=
  let fields := getOpenTsdbFriendlyFields conv.parseFloat "" sensorData.deviceData
  ⟨sensorData.deviceId, token, sensorData.deviceId,
    conv.parseSeconds sensorData.metadata.receivedTime, JsObject.empty.assign fields.payload,
    (cloudMetadata sensorData).assign fields.metadata⟩

/-- `onData`, `sif-cloud-publisher.js:93–101`. -/
def cloudOnData (conv : Conversions N) (token : Option String) (data : Reading (Json N)) :
    Option (CloudRecord N) :=
  match token with
  | some token =>
    if 0 < token.length then
      if data.deviceType = "microbit" then none else some (getCloudFormattedData conv data token)
    else none
  | none => none

/-! ### The LinkLab Influx publisher -/

/-- The directly available metadata fields, `linklab-influx-publisher.js:27–32`. -/
def influxMetadata (sensorData : Reading (Json N)) : JsObject (Json N) :=
  ((((JsObject.empty.set "received_time" (.string sensorData.metadata.receivedTime)).set
    "device_id" (.string sensorData.deviceId)).set
    "handler_id" (.string sensorData.metadata.handlerId)).set
    "controller_id" (.string sensorData.metadata.controllerId)).set
    "gateway_id" (.string sensorData.metadata.gatewayId)

/-- `_getFormattedData`, `linklab-influx-publisher.js:17–44`. -/
def getFormattedData (conv : Conversions N) (sensorData : Reading (Json N)) : JsObject (Json N) :=
  let isMicrobitSensor : Bool := sensorData.deviceType = "microbit"
  let fields := getConvertedFields conv.parseFloat isMicrobitSensor "" sensorData.deviceData
  let formattedData := JsObject.empty.set "device" (.string sensorData.deviceType)
  (formattedData.assign fields.payload).set "_meta"
    (.object ((influxMetadata sensorData).assign fields.metadata).entries)

/-! ### Fields known from the reading -/

/-- The fields of a record that the cloud publisher takes from the reading itself. -/
def CloudRecord.known (record : CloudRecord N) : List (Option (Json N)) :=
  ["handler_id", "controller_id", "gateway_id", "device_type"].map record.data.metadata.get?

/-- What they are in the reading. -/
def cloudKnown (data : Reading (Json N)) : List (Option (Json N)) :=
  [some (.string data.metadata.handlerId), some (.string data.metadata.controllerId),
    some (.string data.metadata.gatewayId), some (.string data.deviceType)]

/-- A field of `_meta` of a record of the Influx publisher. -/
def metaField (record : JsObject (Json N)) (name : String) : Option (Json N) :=
  match record.get? "_meta" with
  | some (.object properties) => properties.lookup name
  | _ => none

/-- The fields of a record that the Influx publisher takes from the reading itself. -/
def recordKnown (record : JsObject (Json N)) : List (Option (Json N)) :=
  record.get? "device" ::
    ["received_time", "device_id", "handler_id", "controller_id", "gateway_id"].map
      (metaField record)

/-- What they are in the reading. -/
def influxKnown (data : Reading (Json N)) : List (Option (Json N)) :=
  [some (.string data.deviceType), some (.string data.metadata.receivedTime),
    some (.string data.deviceId), some (.string data.metadata.handlerId),
    some (.string data.metadata.controllerId), some (.string data.metadata.gatewayId)]

/-- The known fields of what is published of a reading. -/
def published (conv : Conversions N) (token : Option String) (data : Reading (Json N)) :
    Option (List (Option (Json N))) × List (Option (Json N)) :=
  ((cloudOnData conv token data).map CloudRecord.known, recordKnown (getFormattedData conv data))

/-- Records of the reading have what is known from it. -/
def Genuine (conv : Conversions N) (token : Option String) (data : Reading (Json N)) : Prop :=
  (∀ record, cloudOnData conv token data = some record → record.known = cloudKnown data) ∧
    recordKnown (getFormattedData conv data) = influxKnown data

/-- The cloud publisher publishes the reading. -/
def Publishes (token : Option String) (data : Reading (Json N)) : Prop :=
  (∃ t, token = some t ∧ 0 < t.length) ∧ data.deviceType ≠ "microbit"

/-- The fields of device data that the cloud publisher assigns to the metadata. -/
def cloudTags (conv : Conversions N) (data : Reading (Json N)) : List (String × Json N) :=
  assigned (sifRule conv.parseFloat) .metadata "" data.deviceData

/-- The fields of device data that the Influx publisher assigns to the record or to `_meta`. -/
def influxFields (conv : Conversions N) (kind : FieldKind) (data : Reading (Json N)) :
    List (String × Json N) :=
  assigned (influxRule conv.parseFloat (data.deviceType = "microbit")) kind "" data.deviceData

/-- What is assigned last under the name, if anything, is the known value. -/
def Agrees (assignments : List (String × Json N)) (name value : String) : Prop :=
  ∀ last, lastAssigned assignments name = some last → last = .string value

/-- No value of the device data whose joined keys are the name of a known field forges it. -/
structure Unforged (conv : Conversions N) (token : Option String) (data : Reading (Json N)) :
    Prop where
  cloud : Publishes token data →
    Agrees (cloudTags conv data) "handler_id" data.metadata.handlerId ∧
      Agrees (cloudTags conv data) "controller_id" data.metadata.controllerId ∧
      Agrees (cloudTags conv data) "gateway_id" data.metadata.gatewayId ∧
      Agrees (cloudTags conv data) "device_type" data.deviceType
  device : Agrees (influxFields conv .payload data) "device" data.deviceType
  influx : Agrees (influxFields conv .metadata data) "received_time" data.metadata.receivedTime ∧
    Agrees (influxFields conv .metadata data) "device_id" data.deviceId ∧
      Agrees (influxFields conv .metadata data) "handler_id" data.metadata.handlerId ∧
      Agrees (influxFields conv .metadata data) "controller_id" data.metadata.controllerId ∧
      Agrees (influxFields conv .metadata data) "gateway_id" data.metadata.gatewayId

variable {conv : Conversions N} {token : Option String} {data : Reading (Json N)}

/-- A known field keeps its value under assignments that agree with it. -/
theorem get?_assign_eq_iff {α : Type} {o fields : JsObject (Json α)} {l : List (String × Json α)}
    (hfields : fields.Reflects l) {name value : String} (hname : o.get? name = some (.string value)) :
    (o.assign fields).get? name = some (.string value) ↔
      ∀ last, lastAssigned l name = some last → last = .string value := by
  rw [JsObject.get?_assign, hfields name, hname]
  cases lastAssigned l name with
  | none => exact iff_of_true rfl nofun
  | some last => simp

/-- The metadata has the known fields unless they are assigned to. -/
theorem known_getCloudFormattedData (t : String) :
    (getCloudFormattedData conv data t).known = cloudKnown data ↔
      Agrees (cloudTags conv data) "handler_id" data.metadata.handlerId ∧
        Agrees (cloudTags conv data) "controller_id" data.metadata.controllerId ∧
        Agrees (cloudTags conv data) "gateway_id" data.metadata.gatewayId ∧
        Agrees (cloudTags conv data) "device_type" data.deviceType := by
  have hfields : (getOpenTsdbFriendlyFields conv.parseFloat "" data.deviceData).metadata.Reflects
      (cloudTags conv data) :=
    reflects_getFields (sifRule conv.parseFloat) .metadata "" data.deviceData
  simp only [CloudRecord.known, getCloudFormattedData, cloudKnown, List.map_cons, List.map_nil,
    List.cons.injEq, and_true]
  apply and_congr (get?_assign_eq_iff hfields rfl)
  apply and_congr (get?_assign_eq_iff hfields rfl)
  exact and_congr (get?_assign_eq_iff hfields rfl) (get?_assign_eq_iff hfields rfl)

/-- The cloud publisher publishes with a token, and nothing of a microbit. -/
theorem cloudOnData_eq_some_iff (record : CloudRecord N) :
    cloudOnData conv token data = some record ↔
      Publishes token data ∧ ∃ t, token = some t ∧ record = getCloudFormattedData conv data t := by
  unfold cloudOnData Publishes
  cases token with
  | none => simp
  | some t =>
    by_cases hlength : 0 < t.length
    · by_cases htype : data.deviceType = "microbit"
      · simp [htype]
      · simp [hlength, htype, eq_comm]
    · simp [hlength]

/-- Records of the cloud publisher have the known fields unless these are assigned to. -/
theorem cloud_genuine_iff :
    (∀ record, cloudOnData conv token data = some record → record.known = cloudKnown data) ↔
      (Publishes token data →
        Agrees (cloudTags conv data) "handler_id" data.metadata.handlerId ∧
          Agrees (cloudTags conv data) "controller_id" data.metadata.controllerId ∧
          Agrees (cloudTags conv data) "gateway_id" data.metadata.gatewayId ∧
          Agrees (cloudTags conv data) "device_type" data.deviceType) := by
  simp only [cloudOnData_eq_some_iff]
  constructor
  · intro h hpublishes
    obtain ⟨t, ht, _⟩ := hpublishes.1
    apply (known_getCloudFormattedData t).mp
    exact h _ ⟨hpublishes, t, ht, rfl⟩
  · rintro h record ⟨hpublishes, t, _, rfl⟩
    exact (known_getCloudFormattedData t).mpr (h hpublishes)

/-- `_meta` is assigned after the fields of the device data. -/
theorem metaField_getFormattedData (name : String) :
    metaField (getFormattedData conv data) name =
      ((influxMetadata data).assign (getConvertedFields conv.parseFloat
        (data.deviceType = "microbit") "" data.deviceData).metadata).get? name := by
  simp only [metaField, getFormattedData, JsObject.get?_set, if_true]
  rfl

/-- The record and its `_meta` have the known fields unless they are assigned to. -/
theorem influx_genuine_iff : recordKnown (getFormattedData conv data) = influxKnown data ↔
    Agrees (influxFields conv .payload data) "device" data.deviceType ∧
      Agrees (influxFields conv .metadata data) "received_time" data.metadata.receivedTime ∧
      Agrees (influxFields conv .metadata data) "device_id" data.deviceId ∧
      Agrees (influxFields conv .metadata data) "handler_id" data.metadata.handlerId ∧
      Agrees (influxFields conv .metadata data) "controller_id" data.metadata.controllerId ∧
      Agrees (influxFields conv .metadata data) "gateway_id" data.metadata.gatewayId := by
  have hpayload : (getConvertedFields conv.parseFloat (data.deviceType = "microbit") ""
      data.deviceData).payload.Reflects (influxFields conv .payload data) :=
    reflects_getFields _ .payload "" data.deviceData
  have htags : (getConvertedFields conv.parseFloat (data.deviceType = "microbit") ""
      data.deviceData).metadata.Reflects (influxFields conv .metadata data) :=
    reflects_getFields _ .metadata "" data.deviceData
  have hdevice : (getFormattedData conv data).get? "device" =
      ((JsObject.empty.set "device" (.string data.deviceType)).assign
        (getConvertedFields conv.parseFloat (data.deviceType = "microbit") ""
          data.deviceData).payload).get? "device" := JsObject.get?_set_ne _ _ (by decide)
  simp only [recordKnown, influxKnown, hdevice, metaField_getFormattedData, List.map_cons,
    List.map_nil, List.cons.injEq, and_true]
  apply and_congr (get?_assign_eq_iff hpayload rfl)
  apply and_congr (get?_assign_eq_iff htags rfl)
  apply and_congr (get?_assign_eq_iff htags rfl)
  apply and_congr (get?_assign_eq_iff htags rfl)
  exact and_congr (get?_assign_eq_iff htags rfl) (get?_assign_eq_iff htags rfl)

/-- The published records are genuine exactly if the device data forges nothing. -/
theorem genuine_iff_unforged : Genuine conv token data ↔ Unforged conv token data := by
  unfold Genuine
  rw [cloud_genuine_iff, influx_genuine_iff]
  constructor
  · rintro ⟨hcloud, hdevice, hinflux⟩
    exact ⟨hcloud, hdevice, hinflux⟩
  · intro h
    exact ⟨h.cloud, h.device, h.influx⟩

/-- The known fields of a genuine record are determined by the rest of the reading. -/
theorem published_of_genuine (h : Genuine conv token data) :
    published conv token data =
      ((cloudOnData conv token data).map fun _ ↦ cloudKnown data, influxKnown data) := by
  obtain ⟨hcloud, hinflux⟩ := h
  rw [published, hinflux]
  congr 1
  cases hrecord : cloudOnData conv token data with
  | none => rfl
  | some record => rw [Option.map_some, Option.map_some, hcloud record hrecord]

/-- Whether the cloud publisher publishes does not depend on the device data. -/
theorem cloudOnData_map_const {α : Type} (deviceData : Json N) (value : α) :
    (cloudOnData conv token { data with deviceData := deviceData }).map (fun _ ↦ value) =
      (cloudOnData conv token data).map fun _ ↦ value := by
  unfold cloudOnData
  cases token with
  | none => rfl
  | some t =>
    simp only
    split
    · split
      · rfl
      · rfl
    · rfl

/-- The known fields are those of the reading exactly if the device data forges none of them, and
readings that differ in such device data only give records that agree on these fields. -/
theorem known_fields_iff (conv : Conversions N) (token : Option String)
    (data : Reading (Json N)) :
    (Genuine conv token data ↔ Unforged conv token data) ∧
      ∀ deviceData, Unforged conv token data →
        Unforged conv token { data with deviceData := deviceData } →
        published conv token data = published conv token { data with deviceData := deviceData } := by
  refine ⟨genuine_iff_unforged, fun deviceData h h' ↦ ?_⟩
  rw [published_of_genuine (genuine_iff_unforged.mpr h),
    published_of_genuine (genuine_iff_unforged.mpr h')]
  exact congrArg (fun known ↦ (known, influxKnown data)) (cloudOnData_map_const deviceData _).symm

/-- A reading that names another gateway in its device data. -/
def forgedReading : Reading (Json Nat) :=
  ⟨"device-1", "sensor", .object [("gateway_id", .string "forged")],
    ⟨"1970-01-01T00:00:00.000Z", "handler", "controller", "gateway"⟩⟩

/-- Its records have the other gateway. -/
theorem gateway_forged : ¬ ∀ (conv : Conversions Nat) token data, Genuine conv token data := by
  intro h
  have hgenuine := h ⟨fun _ ↦ 0, fun _ ↦ 0⟩ (some "token") forgedReading
  have hrecord : recordKnown (getFormattedData ⟨fun _ ↦ 0, fun _ ↦ 0⟩ forgedReading) =
      [some (.string "sensor"), some (.string "1970-01-01T00:00:00.000Z"),
        some (.string "device-1"), some (.string "handler"), some (.string "controller"),
        some (.string "forged")] := rfl
  rw [hgenuine.2] at hrecord
  simp [influxKnown, forgedReading] at hrecord

end NexusEdge.Publishers
