import NexusEdge.Devices.Actuator

/-!
# Leviton lights and OORT sockets

Library `Devices`. `leviton-lighting-handler.js:39–265` and `oort-socket-handler.js:39–183` as
handlers of messages to actuators: what they accept, and what they await before and after a message
is written. The characteristics of the device handled last are kept in variables, so that what is
meant for a device whose characteristics are not found is written to another one. The bytes that
set the clock and the state of a socket are left out.
-/

namespace NexusEdge.Devices
open NexusEdge.Base

/-! ### Leviton lights -/

namespace LevitonLighting

/-- `LEVITON_MAIN_SERVICE_UUID`. -/
def levitonMainServiceUuid : String := "d027645004514000b0000000ee000000"

/-- `SECURE_CMD_TO_WRITE_CHAR_UUID`. -/
def secureCmdToWriteCharUuid : String := "d027645004514000b0000000ee030000"

/-- `SECURE_REPLY_NOTIFIED_CHAR_UUID`. -/
def secureReplyNotifiedCharUuid : String := "d027645004514000b0000000ee040000"

/-- `STATE_CONTROL_MSG_TYPE`. -/
def stateControlMsgType : String := "stateControl"

/-- `BRIGHTNESS_CONTROL_MSG_TYPE`. -/
def brightnessControlMsgType : String := "brightnessControl"

/-- The brightness is one of `possibleValues`. -/
def isPossibleBrightness : SendData → Bool
  | .number brightness => brightness ∈ [1, 25, 50, 75, 100]
  | _ => false

/-- A property that the payload has and that meets the condition. -/
def hasValid (payloadObj : SendData) (key : String) (valid : SendData → Bool) :
    Except String Bool :=
  (payloadObj.hasOwnProperty key).bind fun present ↦
    if present then (payloadObj.get? key).map fun value ↦ value.any valid else .ok false

/-- `_isValidData`, `leviton-lighting-handler.js:57–82`. -/
def isValidData (data : SendData) : Except String Bool :=
  match data with
  | .null => .error (Json.typeError "hasOwnProperty")
  | .object properties =>
    match properties.lookup "requestType", properties.lookup "payload" with
    | some requestType, some payloadObj =>
      if requestType.isString stateControlMsgType then
        hasValid payloadObj "state" fun state ↦ state.isString "on" || state.isString "off"
      else if requestType.isString brightnessControlMsgType then
        hasValid payloadObj "brightness" isPossibleBrightness
      else .ok false
    | _, _ => .ok false
  | _ => .ok false

/-- The commands before the state or the brightness. -/
def preamble : List (List Nat) :=
  [[0xFE, 0x03, 0x01, 0xE7, 0x4A], [0xFE, 0x01, 0x02, 0x64, 0x10, 0x3C],
    [0xFE, 0x03, 0x01, 0xE9, 0x55], [0xFE, 0x03, 0x01, 0xEA, 0xB7], [0xFE, 0x03, 0x01, 0x11, 0xE3]]

/-- `_setLightState`, `leviton-lighting-handler.js:166–184`. -/
def setLightState (state : Bool) : List (List Nat) :=
  preamble ++ [[0xFE, 0x01, 0x02, 0x64, 0x00, 0xA1],
    if state then [0xFE, 0x01, 0x02, 0x04, 0x02, 0x47] else [0xFE, 0x01, 0x02, 0x72, 0x06, 0x3A]]

/-- `_setBrightnessMaxThreshold`, `leviton-lighting-handler.js:187–216`; nothing is written for
another level. -/
def setBrightnessMaxThreshold (level : SendData) : List (List Nat) :=
  match level with
  | .number level =>
    if level = 1 then preamble ++ [[0xFE, 0x01, 0x02, 0x11, 0x00, 0xE8]]
    else if level = 25 then preamble ++ [[0xFE, 0x01, 0x02, 0x11, 0x19, 0xE9]]
    else if level = 50 then preamble ++ [[0xFE, 0x01, 0x02, 0x11, 0x32, 0xEA]]
    else if level = 75 then preamble ++ [[0xFE, 0x01, 0x02, 0x11, 0x4B, 0x8E]]
    else if level = 100 then preamble ++ [[0xFE, 0x01, 0x02, 0x11, 0x64, 0xEC]]
    else []
  | _ => []

/-- The commands for a message, `leviton-lighting-handler.js:119–126`; `undefined` throws as `null`
does. -/
def commandsToSend (message : SendData) : Except String (List (List Nat)) :=
  (message.get? "requestType").bind fun requestType ↦
    (message.get? "payload").bind fun payload ↦
      if (requestType.getD .null).isString stateControlMsgType then
        ((payload.getD .null).get? "state").map fun state ↦
          setLightState ((state.getD .null).isString "on")
      else
        ((payload.getD .null).get? "brightness").map fun brightness ↦
          setBrightnessMaxThreshold (brightness.getD .null)

/-- The characteristics the handler holds. -/
structure Handles where
  secureCmdToWriteChar : Option Characteristic
  secureReplyNotifiedChar : Option Characteristic

/-- What `_handlePeripheral` awaits. -/
inductive Phase where
  | connecting
  | discoveringServices
  | discoveringCharacteristics
  | subscribing
  /-- The notification for a command; these come next. -/
  | writing (commands : List (List Nat))
  | unsubscribing
  | disconnecting

/-- The message has been written. -/
def Phase.sent : Phase → Bool
  | .unsubscribing | .disconnecting => true
  | _ => false

/-- The end of `_recordRelevantCharacteristics`, `leviton-lighting-handler.js:154–163`. -/
def recordRelevantCharacteristics (handles : Handles) (deviceId : String) (uuids : List String) :
    Handles where
  secureCmdToWriteChar :=
    if secureCmdToWriteCharUuid ∈ uuids then some ⟨deviceId, secureCmdToWriteCharUuid⟩
    else handles.secureCmdToWriteChar
  secureReplyNotifiedChar :=
    if secureReplyNotifiedCharUuid ∈ uuids then some ⟨deviceId, secureReplyNotifiedCharUuid⟩
    else handles.secureReplyNotifiedChar

/-- The next command is written, `leviton-lighting-handler.js:253–265`; without a characteristic
this throws. -/
def writeCommand (handles : Handles) (commands : List (List Nat)) : Progress Phase Handles :=
  if handles.secureCmdToWriteChar.isSome then .awaits handles (.writing commands) none
  else .throws handles

/-- `_handlePeripheral` from the connection on, `leviton-lighting-handler.js:109–138`. -/
def resume (deviceId : String) (message : SendData) (handles : Handles) :
    Phase → BleAnswer → Option (Progress Phase Handles)
  | _, .rejected _ => some (.throws handles)
  | .connecting, .done => some (.awaits handles .discoveringServices none)
  | .discoveringServices, .services uuids =>
    if levitonMainServiceUuid ∈ uuids then
      some (.awaits handles .discoveringCharacteristics none)
    else some (.throws handles)
  | .discoveringCharacteristics, .characteristics uuids =>
    let handles := recordRelevantCharacteristics handles deviceId uuids
    if handles.secureReplyNotifiedChar.isSome then some (.awaits handles .subscribing none)
    else some (.throws handles)
  | .subscribing, .done =>
    match commandsToSend message with
    | .error _ => some (.throws handles)
    | .ok [] => some (.awaits handles .unsubscribing none)
    | .ok (_ :: commands) => some (writeCommand handles commands)
  | .writing (_ :: commands), .done => some (writeCommand handles commands)
  | .writing [], .done =>
    -- The characteristic that all commands have been written to.
    match handles.secureCmdToWriteChar with
    | some c => some (.awaits handles .unsubscribing (some c))
    | none => some (.throws handles)
  | .unsubscribing, .done => some (.awaits handles .disconnecting none)
  | .disconnecting, .done => some (.returns handles none)
  | _, _ => none

/-- `LevitonLightingHandler`. -/
def driver : ActuatorDriver Phase Handles where
  isValidData := isValidData
  begins _ := some .connecting
  sent := Phase.sent
  resume := resume

/-- No step rejects, service and characteristics are found, and the one written to is the
device's. -/
def StepSucceeds (deviceId : String) (handles : Handles) : Phase → BleAnswer → Prop
  | _, .rejected _ => False
  | .discoveringServices, .services uuids => levitonMainServiceUuid ∈ uuids
  | .discoveringCharacteristics, .characteristics uuids =>
    secureReplyNotifiedCharUuid ∈ uuids ∨ handles.secureReplyNotifiedChar.isSome
  | .subscribing, _ | .writing (_ :: _), _ => handles.secureCmdToWriteChar.isSome
  | .writing [], _ => ∃ c, handles.secureCmdToWriteChar = some c ∧ c.device = deviceId
  | _, _ => True

/-- A valid property is there. -/
theorem get?_of_hasValid {payloadObj : SendData} {key : String} {valid : SendData → Bool}
    (h : hasValid payloadObj key valid = .ok true) :
    ∃ value, payloadObj.get? key = .ok (some value) ∧ valid value = true := by
  cases payloadObj with
  | object properties =>
    simp only [hasValid, Json.hasOwnProperty, Except.bind] at h
    cases hlookup : properties.lookup key with
    | none =>
      rw [hlookup] at h
      cases h
    | some value =>
      simp only [Json.get?, hlookup, Option.isSome_some, if_true, Except.map, Option.any_some] at h ⊢
      exact ⟨value, rfl, Except.ok.inj h⟩
  | null => cases h
  | bool => cases h
  | number => cases h
  | string => cases h
  | array => cases h

/-- Every possible brightness has its commands. -/
theorem setBrightnessMaxThreshold_ne_nil {level : SendData} (h : isPossibleBrightness level = true) :
    ∃ command commands, setBrightnessMaxThreshold level = command :: commands := by
  cases level with
  | number level =>
    simp only [isPossibleBrightness, decide_eq_true_eq, List.mem_cons, List.not_mem_nil,
      or_false] at h
    rcases h with rfl | rfl | rfl | rfl | rfl
    all_goals exact ⟨_, _, rfl⟩
  | null => cases h
  | bool => cases h
  | string => cases h
  | array => cases h
  | object => cases h

/-- An accepted message comes with commands. -/
theorem commandsToSend_of_valid {message : SendData} (h : isValidData message = .ok true) :
    ∃ command commands, commandsToSend message = .ok (command :: commands) := by
  cases message with
  | object properties =>
    simp only [isValidData] at h
    split at h
    · next requestType payloadObj htype hpayload =>
      have hgetType : (Json.object properties : SendData).get? "requestType" =
          .ok (some requestType) := congrArg Except.ok htype
      have hgetPayload : (Json.object properties : SendData).get? "payload" =
          .ok (some payloadObj) := congrArg Except.ok hpayload
      simp only [commandsToSend, hgetType, hgetPayload, Except.bind, Option.getD_some]
      split at h
      · next hstate =>
        obtain ⟨state, hget, _⟩ := get?_of_hasValid h
        rw [if_pos hstate, hget]
        exact ⟨_, _, rfl⟩
      · next hstate =>
        split at h
        · obtain ⟨brightness, hget, hpossible⟩ := get?_of_hasValid h
          obtain ⟨command, commands, hcommands⟩ := setBrightnessMaxThreshold_ne_nil hpossible
          rw [if_neg hstate, hget]
          exact ⟨command, commands, congrArg Except.ok hcommands⟩
        · cases h
    · cases h
  | null => cases h
  | bool => cases h
  | number => cases h
  | string => cases h
  | array => cases h

/-- A command more is written exactly if the characteristic is there. -/
theorem follows_writeCommand {phase : Phase} (hphase : phase.sent = false) (deviceId : String)
    (handles : Handles) (commands : List (List Nat)) :
    ActuatorHandler.Follows Phase.sent deviceId phase handles.secureCmdToWriteChar.isSome
      (writeCommand handles commands) := by
  unfold writeCommand
  split
  · next h => exact .waits handles _ hphase.symm h
  · next h => exact .throws handles h

/-- The reply characteristic is there if it is discovered now or was before. -/
theorem isSome_secureReplyNotifiedChar (handles : Handles) (deviceId : String)
    (uuids : List String) :
    (recordRelevantCharacteristics handles deviceId uuids).secureReplyNotifiedChar.isSome ↔
      secureReplyNotifiedCharUuid ∈ uuids ∨ handles.secureReplyNotifiedChar.isSome := by
  simp only [recordRelevantCharacteristics]
  split
  · next hmem => exact iff_of_true rfl (Or.inl hmem)
  · next hmem => exact (or_iff_right hmem).symm

/-- The handler of lights is lawful. -/
theorem lawful : ActuatorHandler.Lawful driver (fun _ ↦ True) StepSucceeds where
  begins_iff _ := iff_of_true rfl trivial
  unsent message phase h := by
    obtain rfl := Option.some.inj h
    rfl
  resume deviceId message handles phase answer progress hvalid h := by
    obtain ⟨command, commands, hcommands⟩ := commandsToSend_of_valid hvalid
    cases answer with
    | rejected error =>
      cases phase <;> obtain rfl := Option.some.inj h <;> exact .throws handles id
    | done =>
      cases phase with
      | connecting =>
        obtain rfl := Option.some.inj h
        exact .waits handles _ rfl trivial
      | subscribing =>
        simp only [driver, resume, hcommands] at h
        obtain rfl := Option.some.inj h
        exact follows_writeCommand rfl deviceId handles commands
      | writing rest =>
        cases rest with
        | nil =>
          simp only [driver, resume] at h
          split at h
          · next c hc =>
            obtain rfl := Option.some.inj h
            refine .writes handles _ c rfl rfl ⟨?_, fun hdevice ↦ ⟨c, hc, hdevice⟩⟩
            rintro ⟨c', hc', hdevice⟩
            obtain rfl := Option.some.inj (hc.symm.trans hc')
            exact hdevice
          · next hnone =>
            obtain rfl := Option.some.inj h
            refine .throws handles ?_
            rintro ⟨c, hc, _⟩
            rw [hnone] at hc
            cases hc
        | cons command rest =>
          obtain rfl := Option.some.inj h
          exact follows_writeCommand rfl deviceId handles rest
      | unsubscribing =>
        obtain rfl := Option.some.inj h
        exact .waits handles _ rfl trivial
      | disconnecting =>
        obtain rfl := Option.some.inj h
        exact .returns handles rfl trivial
      | discoveringServices => cases h
      | discoveringCharacteristics => cases h
    | services uuids =>
      cases phase with
      | discoveringServices =>
        simp only [driver, resume] at h
        split at h
        · next hfound =>
          obtain rfl := Option.some.inj h
          exact .waits handles _ rfl hfound
        · next hmissing =>
          obtain rfl := Option.some.inj h
          exact .throws handles hmissing
      | writing rest => cases rest <;> cases h
      | _ => cases h
    | characteristics uuids =>
      cases phase with
      | discoveringCharacteristics =>
        have hfound := isSome_secureReplyNotifiedChar handles deviceId uuids
        simp only [driver, resume] at h
        split at h
        · next hsome =>
          obtain rfl := Option.some.inj h
          exact .waits _ _ rfl (hfound.mp hsome)
        · next hnone =>
          obtain rfl := Option.some.inj h
          exact .throws _ (mt hfound.mpr hnone)
      | writing rest => cases rest <;> cases h
      | _ => cases h
    | value bytes =>
      cases phase with
      | writing rest => cases rest <;> cases h
      | _ => cases h

end LevitonLighting

/-! ### OORT sockets -/

namespace OortSocket

/-- `OORT_SERVICE_INFO_UUID`. -/
def oortServiceInfoUuid : String := "180a"

/-- `OORT_SERVICE_SENSOR_UUID`. -/
def oortServiceSensorUuid : String := "0000fee0494c4f474943544543480000"

/-- `OORT_CHAR_CLOCK_UUID`. -/
def oortCharClockUuid : String := "0000fee3494c4f474943544543480000"

/-- `OORT_CHAR_SENSOR_UUID`. -/
def oortCharSensorUuid : String := "0000fee1494c4f474943544543480000"

/-- The variables `oortSensorCharacteristic` and `oortClockCharacteristic`. -/
structure Handles where
  oortSensorCharacteristic : Option Characteristic
  oortClockCharacteristic : Option Characteristic

/-- What `_initializeOortSocket` awaits. -/
inductive Phase where
  | connecting
  | discoveringServices
  | discoveringInfo
  | readingSystemId
  | discoveringSensor

/-- Reading `"state"` of a message, `oort-socket-handler.js:79–80`, throws for `null`. -/
def begins (message : SendData) : Option Phase :=
  match message.get? "state" with
  | .ok _ => some .connecting
  | .error _ => none

/-- The characteristics of the sensor service, `oort-socket-handler.js:129–135`. -/
def recordCharacteristics (handles : Handles) (deviceId : String) (uuids : List String) :
    Handles where
  oortSensorCharacteristic :=
    if oortCharSensorUuid ∈ uuids then some ⟨deviceId, oortCharSensorUuid⟩
    else handles.oortSensorCharacteristic
  oortClockCharacteristic :=
    if oortCharClockUuid ∈ uuids then some ⟨deviceId, oortCharClockUuid⟩
    else handles.oortClockCharacteristic

/-- `_setOortState` from the connection on, `oort-socket-handler.js:90–183`. Clock and state are
written to the clock characteristic without waiting. -/
def resume (deviceId : String) (_ : SendData) (handles : Handles) :
    Phase → BleAnswer → Option (Progress Phase Handles)
  | _, .rejected _ => some (.throws handles)
  | .connecting, .done => some (.awaits handles .discoveringServices none)
  | .discoveringServices, .services uuids =>
    if oortServiceInfoUuid ∈ uuids ∧ oortServiceSensorUuid ∈ uuids then
      some (.awaits handles .discoveringInfo none)
    else some (.throws handles)
  | .discoveringInfo, .characteristics infoChars =>
    if infoChars.length = 0 then some (.throws handles)
    else some (.awaits handles .readingSystemId none)
  | .readingSystemId, .value _ => some (.awaits handles .discoveringSensor none)
  | .discoveringSensor, .characteristics uuids =>
    let handles := recordCharacteristics handles deviceId uuids
    match handles.oortClockCharacteristic, handles.oortSensorCharacteristic with
    | some c, some _ => some (.returns handles (some c))
    | _, _ => some (.throws handles)
  | _, _ => none

/-- `OortSocketHandler`; `dispatch` accepts everything. -/
def driver : ActuatorDriver Phase Handles where
  isValidData _ := .ok true
  begins := begins
  sent _ := false
  resume := resume

/-- The message is not `null`. -/
def NotNull (message : SendData) : Prop := ∀ error, message.get? "state" ≠ .error error

/-- No step rejects, services and characteristics are found, and the clock is the device's. -/
def StepSucceeds (deviceId : String) (handles : Handles) : Phase → BleAnswer → Prop
  | _, .rejected _ => False
  | .discoveringServices, .services uuids =>
    oortServiceInfoUuid ∈ uuids ∧ oortServiceSensorUuid ∈ uuids
  | .discoveringInfo, .characteristics infoChars => infoChars ≠ []
  | .discoveringSensor, .characteristics uuids =>
    (oortCharClockUuid ∈ uuids ∨
      ∃ c, handles.oortClockCharacteristic = some c ∧ c.device = deviceId) ∧
    (oortCharSensorUuid ∈ uuids ∨ handles.oortSensorCharacteristic.isSome)
  | _, _ => True

/-- Only messages that are not `null` are begun. -/
theorem isSome_begins_iff (message : SendData) : (begins message).isSome ↔ NotNull message := by
  unfold begins NotNull
  cases message.get? "state" with
  | ok value => exact iff_of_true rfl nofun
  | error error =>
    refine iff_of_false ?_ fun h ↦ h error rfl
    rw [Option.isSome_none]
    exact Bool.false_ne_true

/-- The clock is found, or it is the one held. -/
theorem clock_recordCharacteristics (handles : Handles) (deviceId : String) (uuids : List String) :
    (∃ c, (recordCharacteristics handles deviceId uuids).oortClockCharacteristic = some c ∧
      c.device = deviceId) ↔ oortCharClockUuid ∈ uuids ∨
        ∃ c, handles.oortClockCharacteristic = some c ∧ c.device = deviceId := by
  simp only [recordCharacteristics]
  split
  · next hmem => exact iff_of_true ⟨_, rfl, rfl⟩ (Or.inl hmem)
  · next hmem => exact (or_iff_right hmem).symm

/-- So is the sensor. -/
theorem sensor_recordCharacteristics (handles : Handles) (deviceId : String)
    (uuids : List String) :
    (recordCharacteristics handles deviceId uuids).oortSensorCharacteristic.isSome ↔
      oortCharSensorUuid ∈ uuids ∨ handles.oortSensorCharacteristic.isSome := by
  simp only [recordCharacteristics]
  split
  · next hmem => exact iff_of_true rfl (Or.inl hmem)
  · next hmem => exact (or_iff_right hmem).symm

/-- The handler of sockets is lawful. -/
theorem lawful : ActuatorHandler.Lawful driver NotNull StepSucceeds where
  begins_iff := isSome_begins_iff
  unsent _ _ _ := rfl
  resume deviceId message handles phase answer progress _ h := by
    cases answer with
    | rejected error =>
      cases phase <;> obtain rfl := Option.some.inj h <;> exact .throws handles id
    | done =>
      cases phase with
      | connecting =>
        obtain rfl := Option.some.inj h
        exact .waits handles _ rfl trivial
      | _ => cases h
    | services uuids =>
      cases phase with
      | discoveringServices =>
        simp only [driver, resume] at h
        split at h
        · next hfound =>
          obtain rfl := Option.some.inj h
          exact .waits handles _ rfl hfound
        · next hmissing =>
          obtain rfl := Option.some.inj h
          exact .throws handles hmissing
      | _ => cases h
    | characteristics uuids =>
      cases phase with
      | discoveringInfo =>
        simp only [driver, resume] at h
        split at h
        · next hempty =>
          obtain rfl := Option.some.inj h
          exact .throws handles (not_not.mpr (List.eq_nil_of_length_eq_zero hempty))
        · next hfound =>
          obtain rfl := Option.some.inj h
          exact .waits handles _ rfl (mt List.length_eq_zero_iff.mpr hfound)
      | discoveringSensor =>
        have hclock := clock_recordCharacteristics handles deviceId uuids
        have hsensor := sensor_recordCharacteristics handles deviceId uuids
        simp only [driver, resume] at h
        split at h
        · next c c' hc hc' =>
          obtain rfl := Option.some.inj h
          refine .writesLast _ c rfl ⟨fun hok ↦ ?_, fun hdevice ↦ ⟨?_, ?_⟩⟩
          · obtain ⟨d, hd, hdevice⟩ := hclock.mpr hok.1
            obtain rfl := Option.some.inj (hc.symm.trans hd)
            exact hdevice
          · exact hclock.mp ⟨c, hc, hdevice⟩
          · refine hsensor.mp ?_
            rw [hc', Option.isSome_some]
        · next hmissing =>
          obtain rfl := Option.some.inj h
          refine .throws _ fun hok ↦ ?_
          obtain ⟨c, hc, _⟩ := hclock.mpr hok.1
          obtain ⟨c', hc'⟩ := Option.isSome_iff_exists.mp (hsensor.mpr hok.2)
          exact hmissing c c' hc hc'
      | _ => cases h
    | value bytes =>
      cases phase with
      | readingSystemId =>
        obtain rfl := Option.some.inj h
        exact .waits handles _ rfl trivial
      | _ => cases h

end OortSocket

/-! ### Both handlers -/

/-- The handler of lights, as it is loaded. -/
def levitonLighting : ActuatorHandler LevitonLighting.Phase LevitonLighting.Handles :=
  .initial ⟨none, none⟩

/-- The handler of sockets, as it is loaded. -/
def oortSocket : ActuatorHandler OortSocket.Phase OortSocket.Handles := .initial ⟨none, none⟩

/-- In a run of dispatches, discovered devices and outcomes of the awaited steps, messages to
lights are conserved exactly if every step succeeds and the characteristic written to is the
device's; so are messages to sockets, if moreover no message taken is `null`. -/
theorem actuators_conserved_iff (es : List ActuatorEvent) :
    (Always (ActuatorHandler.step LevitonLighting.driver)
        (ActuatorHandler.Conserved LevitonLighting.driver) levitonLighting es ↔
      EachStep (ActuatorHandler.step LevitonLighting.driver)
        (ActuatorHandler.Succeeds (fun _ ↦ True) LevitonLighting.StepSucceeds)
        levitonLighting es) ∧
    (Always (ActuatorHandler.step OortSocket.driver)
        (ActuatorHandler.Conserved OortSocket.driver) oortSocket es ↔
      EachStep (ActuatorHandler.step OortSocket.driver)
        (ActuatorHandler.Succeeds OortSocket.NotNull OortSocket.StepSucceeds) oortSocket es) :=
  ⟨ActuatorHandler.always_conserved_iff LevitonLighting.lawful _ es,
    ActuatorHandler.always_conserved_iff OortSocket.lawful _ es⟩

/-- A light is to be switched on. -/
def switchOn : SendData :=
  .object [("requestType", .string "stateControl"), ("payload", .object [("state", .string "on")])]

/-- A device is asked for once and found, and the connection to it fails. -/
def connectionFails (message : SendData) : List ActuatorEvent :=
  [.dispatch "d" message, .discovered "d", .answered 0 (.rejected "timeout")]

/-- Both handlers lose the message and handle no other one. -/
theorem actuators_not_conserved :
    (¬ ∀ es, Always (ActuatorHandler.step LevitonLighting.driver)
      (ActuatorHandler.Conserved LevitonLighting.driver) levitonLighting es) ∧
    ¬ ∀ es, Always (ActuatorHandler.step OortSocket.driver)
      (ActuatorHandler.Conserved OortSocket.driver) oortSocket es := by
  constructor
  · intro h
    have hlast := (h (connectionFails switchOn)).last _ rfl
    exact hlast.ready rfl rfl
  · intro h
    have hlast := (h (connectionFails (.object [("state", .string "on")]))).last _ rfl
    exact hlast.ready rfl rfl

end NexusEdge.Devices
