import NexusEdge.Base.Loop
import NexusEdge.Base.Transition
import NexusEdge.Messaging.PlatformManager

/-!
# The oracles of applications

Library `Apps`. How an application receives its data streams: `oracle/index.js:15–39,56–78` on top
of `mqtt-controller.js`, and `oracle-python/oracle.py:10–45,75–85`. Callbacks are those of the
application; they may register others and may throw. An exception ends the delivery of messages.
-/

namespace NexusEdge.Apps
open NexusEdge.Base NexusEdge.Messaging

/-- `deviceIdCallbackMap` and `deviceTypeCallbackMap`, `oracle/index.js:8–9`. -/
structure Callbacks (Callback : Type) where
  deviceIdCallbackMap : JsObject Callback
  deviceTypeCallbackMap : JsObject Callback
  deriving DecidableEq

/-- What an application consists of besides its oracle: `JSON.parse`, numerals, what its callbacks
do, and the exceptions of functions of `Object.prototype` that are called with a message. -/
structure OracleRuntime (N Callback : Type) where
  parse : String → Except String (Json N)
  numeral : N → String
  behaviour : Callback → Json N → Callbacks Callback → Outcome String (Callbacks Callback)
  inheritedThrows : String → Json N → Option String

/-- The oracles of one process, which share their maps, with the calls of callbacks and the
exception that nothing caught. -/
structure OracleProcess (N Callback : Type) where
  oracles : Nat
  callbacks : Callbacks Callback
  called : List (Callback × Json N)
  uncaught : Option String

/-- What the process does and receives; a callback that is no function is `none`. -/
inductive OracleEvent (Callback : Type) where
  /-- `new Oracle()`. -/
  | construct
  | receive (deviceId : String) (callback : Option Callback)
  | receiveType (deviceType : String) (callback : Option Callback)
  /-- A message on the topic of the application. -/
  | message (text : String)

variable {N Callback : Type}

namespace OracleProcess

/-- Before the first oracle is constructed. -/
def initial : OracleProcess N Callback := ⟨0, ⟨.empty, .empty⟩, [], none⟩

/-- A callback is called. -/
def call (R : OracleRuntime N Callback) (callback : Callback) (messageJson : Json N)
    (s : OracleProcess N Callback) : Outcome String (OracleProcess N Callback) :=
  (R.behaviour callback messageJson s.callbacks).within fun callbacks ↦
    { s with callbacks := callbacks, called := s.called ++ [(callback, messageJson)] }

/-- `if(key in map) { map[key](messageJson) }`. -/
def callIfIn (R : OracleRuntime N Callback) (map : Callbacks Callback → JsObject Callback)
    (key : Option (Json N)) (messageJson : Json N) (s : OracleProcess N Callback) :
    Outcome String (OracleProcess N Callback) :=
  match Json.textOf R.numeral key with
  | .error e => .throw s e
  | .ok name =>
    match (map s.callbacks).get? name with
    | some callback => s.call R callback messageJson
    | none =>
      if name ∈ prototypeNames then
        match R.inheritedThrows name messageJson with
        | some e => .throw s e
        | none => .done s
      else .done s

/-- The listener for the topic of the application, `oracle/index.js:28–39`. -/
def onApplicationMessage (R : OracleRuntime N Callback) (text : String)
    (s : OracleProcess N Callback) : Outcome String (OracleProcess N Callback) :=
  match R.parse text with
  | .error e => .throw s e
  | .ok messageJson =>
    match messageJson.get? "device_id", messageJson.get? "device_type" with
    | .ok deviceId, .ok deviceType =>
      (s.callIfIn R Callbacks.deviceIdCallbackMap deviceId messageJson).andThen
        (callIfIn R Callbacks.deviceTypeCallbackMap deviceType messageJson)
    | .error e, _ => .throw s e
    | _, .error e => .throw s e

/-- `receive`, `oracle/index.js:56–63`. -/
def receive (s : OracleProcess N Callback) (deviceId : String) (callback : Option Callback) :
    OracleProcess N Callback :=
  match callback with
  | some callback =>
    { s with callbacks := { s.callbacks with
        deviceIdCallbackMap := s.callbacks.deviceIdCallbackMap.set deviceId callback } }
  | none => s

/-- `receiveType`, `oracle/index.js:70–77`. -/
def receiveType (s : OracleProcess N Callback) (deviceType : String)
    (callback : Option Callback) : OracleProcess N Callback :=
  match callback with
  | some callback =>
    { s with callbacks := { s.callbacks with
        deviceTypeCallbackMap := s.callbacks.deviceTypeCallbackMap.set deviceType callback } }
  | none => s

/-- Nothing catches what the listeners throw. -/
def settle (outcome : Outcome String (OracleProcess N Callback)) : OracleProcess N Callback :=
  { outcome.state with uncaught := outcome.error }

/-- The message reaches the listener of every oracle, `mqtt-controller.js:135–141`. -/
def onMessage (R : OracleRuntime N Callback) (text : String) (s : OracleProcess N Callback) :
    OracleProcess N Callback :=
  settle (Outcome.forEach (fun _ ↦ onApplicationMessage R text) (List.replicate s.oracles ()) s)

/-- One event; none once an exception has ended the process. -/
def step (R : OracleRuntime N Callback) (s : OracleProcess N Callback)
    (e : OracleEvent Callback) : Option (OracleProcess N Callback) :=
  if s.uncaught.isSome then none
  else match e with
  | .construct => some { s with oracles := s.oracles + 1 }
  | .receive deviceId callback => some (s.receive deviceId callback)
  | .receiveType deviceType callback => some (s.receiveType deviceType callback)
  | .message text => some (s.onMessage R text)

end OracleProcess

/-! ### The oracle in Python -/

/-- The module `oracle.py`; the maps have strings as keys. -/
structure PythonOracle (N Callback : Type) where
  callbacks : Callbacks Callback
  called : List (Callback × Json N)
  uncaught : Option String

namespace PythonOracle

/-- The module when it is loaded. -/
def initial : PythonOracle N Callback := ⟨⟨.empty, .empty⟩, [], none⟩

/-- `message_json[name]`. -/
def item (messageJson : Json N) (name : String) : Except String (Json N) :=
  match messageJson with
  | .object properties => (properties.lookup name).elim (.error ("KeyError: " ++ name)) .ok
  | _ => .error "TypeError"

/-- `if key in map: map[key](message_json)`; arrays and objects cannot be keys. -/
def callIfIn (R : OracleRuntime N Callback) (map : Callbacks Callback → JsObject Callback)
    (key messageJson : Json N) (s : PythonOracle N Callback) :
    Outcome String (PythonOracle N Callback) :=
  match key with
  | .array _ => .throw s "TypeError: unhashable type: 'list'"
  | .object _ => .throw s "TypeError: unhashable type: 'dict'"
  | .string name =>
    match (map s.callbacks).get? name with
    | some callback =>
      (R.behaviour callback messageJson s.callbacks).within fun callbacks ↦
        { s with callbacks := callbacks, called := s.called ++ [(callback, messageJson)] }
    | none => .done s
  | .null | .bool _ | .number _ => .done s

/-- `on_message` on the topic of the application, `oracle.py:27–42`. -/
def onMessage (R : OracleRuntime N Callback) (text : String) (s : PythonOracle N Callback) :
    Outcome String (PythonOracle N Callback) :=
  match R.parse text with
  | .error e => .throw s e
  | .ok messageJson =>
    match item messageJson "device_id", item messageJson "device_type" with
    | .ok deviceId, .ok deviceType =>
      (s.callIfIn R Callbacks.deviceIdCallbackMap deviceId messageJson).andThen
        (callIfIn R Callbacks.deviceTypeCallbackMap deviceType messageJson)
    | .error e, _ => .throw s e
    | _, .error e => .throw s e

/-- Nothing catches what the callback throws. -/
def settle (outcome : Outcome String (PythonOracle N Callback)) : PythonOracle N Callback :=
  { outcome.state with uncaught := outcome.error }

/-- One event; `receive` and `receiveType` of `oracle.py:80–86` do not check that the callback is a
function, so they are given functions. -/
def step (R : OracleRuntime N Callback) (s : PythonOracle N Callback)
    (e : OracleEvent Callback) : Option (PythonOracle N Callback) :=
  if s.uncaught.isSome then none
  else match e with
  | .construct => some s
  | .receive deviceId (some callback) =>
    some { s with callbacks := { s.callbacks with
      deviceIdCallbackMap := s.callbacks.deviceIdCallbackMap.set deviceId callback } }
  | .receiveType deviceType (some callback) =>
    some { s with callbacks := { s.callbacks with
      deviceTypeCallbackMap := s.callbacks.deviceTypeCallbackMap.set deviceType callback } }
  | .receive _ none | .receiveType _ none => none
  | .message text => some (settle (s.onMessage R text))

end PythonOracle

/-! ### Readings -/

/-- Id and type of the device of a message as gateways publish them: strings that are no names of
`Object.prototype`. -/
def reading? (messageJson : Json N) : Option (String × String) :=
  match messageJson with
  | .object properties =>
    match properties.lookup "device_id", properties.lookup "device_type" with
    | some (.string deviceId), some (.string deviceType) =>
      if deviceId ∈ prototypeNames ∨ deviceType ∈ prototypeNames then none
      else some (deviceId, deviceType)
    | _, _ => none
  | _ => none

/-- What the message says can be read in both languages. -/
theorem reading?_eq_some {messageJson : Json N} {deviceId deviceType : String}
    (h : reading? messageJson = some (deviceId, deviceType)) :
    messageJson.get? "device_id" = .ok (some (.string deviceId)) ∧
      messageJson.get? "device_type" = .ok (some (.string deviceType)) ∧
      PythonOracle.item messageJson "device_id" = .ok (.string deviceId) ∧
      PythonOracle.item messageJson "device_type" = .ok (.string deviceType) ∧
      deviceId ∉ prototypeNames ∧ deviceType ∉ prototypeNames := by
  unfold reading? at h
  split at h
  · next properties =>
    split at h
    · next id type hid htype =>
      split at h
      · cases h
      · next hinherited =>
        obtain ⟨rfl, rfl⟩ := Prod.mk.inj (Option.some.inj h)
        obtain ⟨hid', htype'⟩ := not_or.mp hinherited
        simp only [Json.get?, PythonOracle.item, hid, htype, Option.elim_some, true_and]
        exact ⟨hid', htype'⟩
    · cases h
  · cases h

private theorem andThen_done {ε σ : Type} (o : Outcome ε σ) : o.andThen .done = o := by
  by_cases h : o.error = none
  · rw [Outcome.andThen_of_none h]
    obtain ⟨state, error⟩ := o
    obtain rfl : error = none := h
    rfl
  · exact Outcome.andThen_of_ne_none h _

namespace OracleProcess

variable {R : OracleRuntime N Callback}

/-- A key that is not inherited calls what is registered for it. -/
theorem callIfIn_string {map : Callbacks Callback → JsObject Callback} {name : String}
    (h : name ∉ prototypeNames) (messageJson : Json N) (s : OracleProcess N Callback) :
    s.callIfIn R map (some (.string name)) messageJson =
      ((map s.callbacks).get? name).elim (.done s) fun callback ↦ s.call R callback messageJson := by
  have htext : Json.textOf R.numeral (some (.string name)) = .ok name := rfl
  simp only [callIfIn, htext]
  cases (map s.callbacks).get? name with
  | some callback => rfl
  | none => rw [if_neg h, Option.elim_none]

/-- A reading is handled by id, then by type. -/
theorem onApplicationMessage_of_reading {text : String} {messageJson : Json N}
    {deviceId deviceType : String} (hparse : R.parse text = .ok messageJson)
    (h : reading? messageJson = some (deviceId, deviceType)) (s : OracleProcess N Callback) :
    s.onApplicationMessage R text =
      (s.callIfIn R Callbacks.deviceIdCallbackMap (some (.string deviceId)) messageJson).andThen
        (callIfIn R Callbacks.deviceTypeCallbackMap (some (.string deviceType)) messageJson) := by
  obtain ⟨hid, htype, _⟩ := reading?_eq_some h
  simp only [onApplicationMessage, hparse, hid, htype]

/-- With one oracle a message is handled once. -/
theorem onMessage_of_one {s : OracleProcess N Callback} (h : s.oracles = 1) (text : String) :
    s.onMessage R text = settle (s.onApplicationMessage R text) := by
  have hloop : Outcome.forEach (fun _ ↦ onApplicationMessage R text) [()] s =
      s.onApplicationMessage R text := andThen_done _
  rw [onMessage, h, List.replicate_one, hloop]

/-- The state of the one oracle of a process that uses the module in Python. -/
def ofPython (s : PythonOracle N Callback) : OracleProcess N Callback :=
  ⟨1, s.callbacks, s.called, s.uncaught⟩

/-- The listeners call the same callbacks. -/
theorem callIfIn_ofPython {map : Callbacks Callback → JsObject Callback} {name : String}
    (h : name ∉ prototypeNames) (messageJson : Json N) (s : PythonOracle N Callback) :
    (ofPython s).callIfIn R map (some (.string name)) messageJson =
      (s.callIfIn R map (.string name) messageJson).within ofPython := by
  rw [callIfIn_string h]
  simp only [PythonOracle.callIfIn, ofPython]
  cases (map s.callbacks).get? name with
  | some callback => rfl
  | none => rfl

/-- Messages that are no JSON stop both, readings are handled alike. -/
theorem onApplicationMessage_ofPython {text : String}
    (h : ∀ messageJson, R.parse text = .ok messageJson → (reading? messageJson).isSome)
    (s : PythonOracle N Callback) :
    (ofPython s).onApplicationMessage R text = (s.onMessage R text).within ofPython := by
  cases hparse : R.parse text with
  | error e =>
    simp only [onApplicationMessage, PythonOracle.onMessage, hparse]
    rfl
  | ok messageJson =>
    obtain ⟨⟨deviceId, deviceType⟩, hreading⟩ := Option.isSome_iff_exists.mp (h _ hparse)
    obtain ⟨_, _, hid, htype, hid', htype'⟩ := reading?_eq_some hreading
    rw [onApplicationMessage_of_reading hparse hreading, callIfIn_ofPython hid']
    simp only [PythonOracle.onMessage, hparse, hid, htype]
    refine (Outcome.within_andThen ?_).symm
    rw [callIfIn_ofPython htype']

end OracleProcess

/-- What both oracles are used with: functions as callbacks, and messages that are no JSON or
readings of devices. -/
def OracleEvent.Shared (R : OracleRuntime N Callback) : OracleEvent Callback → Prop
  | .construct => False
  | .receive _ callback | .receiveType _ callback => callback.isSome
  | .message text =>
    ∀ messageJson, R.parse text = .ok messageJson → (reading? messageJson).isSome

/-- After one event they are in the same state. -/
theorem step_ofPython {R : OracleRuntime N Callback} {e : OracleEvent Callback}
    (h : e.Shared R) (s : PythonOracle N Callback) :
    (PythonOracle.step R s e).map OracleProcess.ofPython =
      OracleProcess.step R (OracleProcess.ofPython s) e := by
  have huncaught : (OracleProcess.ofPython s).uncaught = s.uncaught := rfl
  unfold PythonOracle.step OracleProcess.step
  rw [huncaught]
  split
  · rfl
  · cases e with
    | construct => exact absurd h not_false
    | receive deviceId callback =>
      obtain ⟨callback, rfl⟩ := Option.isSome_iff_exists.mp h
      rfl
    | receiveType deviceType callback =>
      obtain ⟨callback, rfl⟩ := Option.isSome_iff_exists.mp h
      rfl
    | message text =>
      show some (OracleProcess.ofPython (PythonOracle.settle (s.onMessage R text))) =
        some ((OracleProcess.ofPython s).onMessage R text)
      rw [OracleProcess.onMessage_of_one rfl, OracleProcess.onApplicationMessage_ofPython h]
      rfl

/-- The oracle of an application in JavaScript and the one in Python call the same callbacks with
the same messages in the same order, whatever the callbacks do, and stop at the same point. -/
theorem oracles_agree (R : OracleRuntime N Callback) (es : List (OracleEvent Callback))
    (h : ∀ e ∈ es, e.Shared R) :
    run (OracleProcess.step R) .initial (.construct :: es) =
      (run (PythonOracle.step R) .initial es).map OracleProcess.ofPython := by
  rw [run_map (PythonOracle.step R) (fun e he s ↦ step_ofPython (h e he) s)]
  rfl

/-- The text of a reading. -/
def sampleText : String := "\x7b\"device_id\":\"d1\",\"device_type\":\"PowerBlade\"\x7d"

/-- What `JSON.parse` makes of it. -/
def sampleReading : Json Nat :=
  .object [("device_id", .string "d1"), ("device_type", .string "PowerBlade")]

/-- An application whose callbacks do nothing, except that the second may throw. -/
def sampleRuntime (throws : Bool) : OracleRuntime Nat Nat where
  parse text := if text = sampleText then .ok sampleReading else .error "SyntaxError"
  numeral := toString
  behaviour callback _ callbacks :=
    if throws ∧ callback = 2 then .throw callbacks "Error" else .done callbacks
  inheritedThrows _ _ := none

/-- A callback for the type and one for the device, and a reading. -/
def sampleEvents : List (OracleEvent Nat) :=
  [.receiveType "PowerBlade" (some 1), .receive "d1" (some 2), .message sampleText]

private theorem parse_sampleText (throws : Bool) :
    (sampleRuntime throws).parse sampleText = .ok sampleReading := by
  simp only [sampleRuntime, if_true]

/-- The exception of the callback for the device keeps the other one from being called, in both
languages. -/
theorem oracles_agree_sample :
    run (OracleProcess.step (sampleRuntime true)) .initial (.construct :: sampleEvents) =
      (run (PythonOracle.step (sampleRuntime true)) .initial sampleEvents).map
        OracleProcess.ofPython := by
  apply oracles_agree
  intro e he
  simp only [sampleEvents, List.mem_cons, List.not_mem_nil, or_false] at he
  rcases he with rfl | rfl | rfl
  · rfl
  · rfl
  · intro messageJson hparse
    rw [parse_sampleText] at hparse
    rw [← Except.ok.inj hparse]
    rfl

/-! ### Which callbacks are called -/

/-- The registration of a callback for a device. -/
def OracleEvent.forId : OracleEvent Callback → Option (String × Callback)
  | .receive deviceId (some callback) => some (deviceId, callback)
  | _ => none

/-- The registration of a callback for a type of devices. -/
def OracleEvent.forType : OracleEvent Callback → Option (String × Callback)
  | .receiveType deviceType (some callback) => some (deviceType, callback)
  | _ => none

/-- The last callback that was registered for the key. -/
def lastRegistered (registration : OracleEvent Callback → Option (String × Callback))
    (es : List (OracleEvent Callback)) (key : String) : Option Callback :=
  (es.filterMap registration).reverse.lookup key

/-- How many oracles have been constructed. -/
def constructed (es : List (OracleEvent Callback)) : Nat :=
  es.countP fun
    | .construct => true
    | _ => false

/-- The calls an event should lead to after the events before: for a reading, each oracle calls the
last callback for its device, then the last one for its type. -/
def deliveries (R : OracleRuntime N Callback) (before : List (OracleEvent Callback)) :
    OracleEvent Callback → List (Callback × Json N)
  | .message text =>
    match R.parse text with
    | .error _ => []
    | .ok messageJson =>
      (reading? messageJson).elim [] fun (deviceId, deviceType) ↦
        (List.replicate (constructed before)
          (((lastRegistered OracleEvent.forId before deviceId).toList ++
            (lastRegistered OracleEvent.forType before deviceType).toList).map
              fun callback ↦ (callback, messageJson))).flatten
  | _ => []

/-- A message of a gateway is a reading. -/
def OracleEvent.WellFormed (R : OracleRuntime N Callback) : OracleEvent Callback → Prop
  | .message text => ∃ messageJson, R.parse text = .ok messageJson ∧
      (reading? messageJson).isSome
  | _ => True

namespace OracleProcess

variable {R : OracleRuntime N Callback}

/-- The maps hold the last registrations. -/
structure Follows (before : List (OracleEvent Callback)) (s : OracleProcess N Callback) :
    Prop where
  running : s.uncaught = none
  oracles : s.oracles = constructed before
  byId : ∀ key, s.callbacks.deviceIdCallbackMap.get? key =
    lastRegistered OracleEvent.forId before key
  byType : ∀ key, s.callbacks.deviceTypeCallbackMap.get? key =
    lastRegistered OracleEvent.forType before key

private theorem lastRegistered_append
    (registration : OracleEvent Callback → Option (String × Callback))
    (before : List (OracleEvent Callback)) (e : OracleEvent Callback) (key : String) :
    lastRegistered registration (before ++ [e]) key =
      match registration e with
      | some (name, callback) =>
        if key = name then some callback else lastRegistered registration before key
      | none => lastRegistered registration before key := by
  rw [lastRegistered, List.filterMap_append, List.reverse_append]
  cases h : registration e with
  | none =>
    simp only [List.filterMap_cons, h, List.filterMap_nil, List.reverse_nil, List.nil_append]
    rfl
  | some entry =>
    obtain ⟨name, callback⟩ := entry
    simp only [List.filterMap_cons, h, List.filterMap_nil, List.reverse_singleton,
      List.singleton_append, List.lookup_cons]
    by_cases hkey : key = name
    · simp [hkey]
    · simp [hkey, beq_eq_false_iff_ne.mpr hkey, lastRegistered]

private theorem constructed_append (before : List (OracleEvent Callback))
    (e : OracleEvent Callback) : constructed (before ++ [e]) = constructed before +
      constructed [e] := List.countP_append

/-- An event that registers and constructs nothing is not noticed by the maps. -/
theorem Follows.unchanged {before : List (OracleEvent Callback)} {s t : OracleProcess N Callback}
    (hs : Follows before s) {e : OracleEvent Callback} (hid : e.forId = none)
    (htype : e.forType = none) (he : constructed [e] = 0) (hrunning : t.uncaught = none)
    (horacles : t.oracles = s.oracles) (hcallbacks : t.callbacks = s.callbacks) :
    Follows (before ++ [e]) t := by
  refine ⟨hrunning, ?_, fun key ↦ ?_, fun key ↦ ?_⟩
  · rw [horacles, constructed_append, he, hs.oracles, Nat.add_zero]
  · rw [hcallbacks, lastRegistered_append, hid]
    exact hs.byId key
  · rw [hcallbacks, lastRegistered_append, htype]
    exact hs.byType key

/-- The callback of `receive` is the last one for its device. -/
theorem Follows.receive {before : List (OracleEvent Callback)} {s : OracleProcess N Callback}
    (hs : Follows before s) (deviceId : String) (callback : Option Callback) :
    Follows (before ++ [.receive deviceId callback]) (s.receive deviceId callback) := by
  cases callback with
  | none => exact hs.unchanged rfl rfl rfl hs.running rfl rfl
  | some callback =>
    refine ⟨hs.running, ?_, fun key ↦ ?_, fun key ↦ ?_⟩
    · rw [constructed_append]
      exact hs.oracles
    · rw [lastRegistered_append]
      simp only [OracleEvent.forId, OracleProcess.receive, JsObject.get?_set, hs.byId]
    · rw [lastRegistered_append]
      exact hs.byType key

/-- The callback of `receiveType` is the last one for its type. -/
theorem Follows.receiveType {before : List (OracleEvent Callback)} {s : OracleProcess N Callback}
    (hs : Follows before s) (deviceType : String) (callback : Option Callback) :
    Follows (before ++ [.receiveType deviceType callback]) (s.receiveType deviceType callback) := by
  cases callback with
  | none => exact hs.unchanged rfl rfl rfl hs.running rfl rfl
  | some callback =>
    refine ⟨hs.running, ?_, fun key ↦ ?_, fun key ↦ ?_⟩
    · rw [constructed_append]
      exact hs.oracles
    · rw [lastRegistered_append]
      exact hs.byId key
    · rw [lastRegistered_append]
      simp only [OracleEvent.forType, OracleProcess.receiveType, JsObject.get?_set, hs.byType]

section Quiet

variable (hquiet : ∀ callback messageJson callbacks,
  R.behaviour callback messageJson callbacks = .done callbacks)

include hquiet

end Quiet

end OracleProcess
end NexusEdge.Apps
