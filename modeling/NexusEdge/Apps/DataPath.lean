import NexusEdge.Apps.Oracle
import NexusEdge.Streams.Provenance
import NexusEdge.Streams.Routing

/-!
# From the gateway to the callback

Library `Apps`. The way of a reading through the platform: published at a gateway, routed by its
sensor stream manager under its privacy policy, `sensor-stream-manager.js:345–364`, delivered by the
broker of the application's gateway, and handled by the oracle of the application,
`oracle/index.js:28–39`. Requests of streams, failures, policies, readings and deliveries come in
any order. Whatever a callback gets was asked for and, when it was read, not blocked.
-/

namespace NexusEdge.Apps
open NexusEdge.Base NexusEdge.Platform NexusEdge.Policy NexusEdge.Streams

/-- A message under way to a topic of a broker. -/
structure BrokerMessage where
  ip : String
  topic : String
  text : String
  deriving DecidableEq

/-- The managers of the gateways, their policies, messages under way, and the processes of the
applications by ip and topic. -/
structure DataPath (C : CronParser) (N Callback : Type) where
  network : Network
  policies : String → PolicyEnforcer C
  inFlight : List BrokerMessage
  oracles : String → String → OracleProcess N Callback

/-- What can happen. Each reading of the clock is passed along. -/
inductive DataEvent (N Callback : Type) where
  | streams (e : StreamEvent)
  | updatePolicy (gatewayIp : String) (policy : Option PolicyFormat) (now timerNow : Int)
  | policyTimer (gatewayIp : String) (handle : Nat) (now timerNow : Int)
  /-- A reading is published at the gateway. -/
  | reading (gatewayIp : String) (payload : Json N)
  | deliver (message : BrokerMessage)
  /-- The application constructs an oracle or registers a callback. -/
  | application (ip topic : String) (e : OracleEvent Callback)

variable {C : CronParser} {N Callback : Type}

namespace DataPath

/-- The `sensor-stream-manager` process of a gateway. -/
def process (s : DataPath C N Callback) (gatewayIp : String) : Process C :=
  ⟨s.network.managers gatewayIp, s.policies gatewayIp⟩

/-- After start-up. -/
def start (timeZone : String) : DataPath C N Callback :=
  ⟨.initial, fun _ ↦ PolicyEnforcer.initial timeZone, [], fun _ _ ↦ .initial⟩

/-- The policy of one gateway changes. -/
def withPolicy (s : DataPath C N Callback) (gatewayIp : String) (policy : PolicyEnforcer C) :
    DataPath C N Callback :=
  { s with policies := Function.update s.policies gatewayIp policy }

/-- The process of one application changes. -/
def withOracle (s : DataPath C N Callback) (ip topic : String) (oracle : OracleProcess N Callback) :
    DataPath C N Callback :=
  { s with oracles := Function.update s.oracles ip (Function.update (s.oracles ip) topic oracle) }

variable (J : JsonText N) (R : String → String → OracleRuntime N Callback)

/-- `payload["device_id"]`, where it is a string. -/
def deviceId? (payload : Json N) : Option String :=
  match payload.get? "device_id" with
  | .ok (some (.string deviceId)) => some deviceId
  | _ => none

/-- The `message` listener of the routing, `sensor-stream-manager.js:345–364`. -/
def routed (s : DataPath C N Callback) (gatewayIp deviceId : String) (payload : Json N) :
    List BrokerMessage :=
  ((s.process gatewayIp).publications deviceId).map fun route ↦
    ⟨route.1, route.2, J.stringify payload⟩

/-- An event that is no message. -/
def IsSetup : OracleEvent Callback → Bool
  | .message _ => false
  | _ => true

/-- One event; none when it cannot happen. -/
def step (s : DataPath C N Callback) : DataEvent N Callback → Option (DataPath C N Callback)
  | .streams e => (s.network.streamStep e).map fun network ↦ { s with network := network }
  | .updatePolicy gatewayIp policy now timerNow =>
    some (s.withPolicy gatewayIp
      ((s.process gatewayIp).updatePolicy policy now timerNow).policyHelper)
  | .policyTimer gatewayIp handle now timerNow =>
    if handle ∈ (s.policies gatewayIp).timers.pending.map Prod.fst then
      some (s.withPolicy gatewayIp
        ((s.process gatewayIp).policyTimer handle now timerNow).policyHelper)
    else none
  | .reading gatewayIp payload =>
    (deviceId? payload).map fun deviceId ↦
      { s with inFlight := s.inFlight ++ s.routed J gatewayIp deviceId payload }
  | .deliver message =>
    if message ∈ s.inFlight then
      (OracleProcess.step (R message.ip message.topic) (s.oracles message.ip message.topic)
        (.message message.text)).map fun oracle ↦
          withOracle { s with inFlight := s.inFlight.erase message } message.ip message.topic oracle
    else none
  | .application ip topic e =>
    if IsSetup e then
      (OracleProcess.step (R ip topic) (s.oracles ip topic) e).map (s.withOracle ip topic)
    else none

/-- The events at the sensor stream managers. -/
def streams (es : List (DataEvent N Callback)) : List StreamEvent :=
  es.filterMap fun
    | .streams e => some e
    | _ => none

/-- In this state, reached by these events, a reading of the device may be published to the topic:
its application asked for it, the gateway was listed with it, and the policy does not block it. -/
structure Admits (before : List (DataEvent N Callback)) (s : DataPath C N Callback)
    (gatewayIp deviceId ip topic : String) : Prop where
  asked : Asked (streams before) ip topic deviceId
  shown : Shown (streams before) gatewayIp deviceId
  allowed : (s.policies gatewayIp).isBlocked deviceId ip topic = false

/-- The message is a reading that was published when it was admitted. -/
def Permitted (timeZone : String) (es : List (DataEvent N Callback)) (ip topic : String)
    (text : String) : Prop :=
  ∃ (before after : List (DataEvent N Callback)) (s : DataPath C N Callback)
    (gatewayIp deviceId : String) (payload : Json N),
    es = before ++ .reading gatewayIp payload :: after ∧
      run (step J R) (start timeZone) before = some s ∧ deviceId? payload = some deviceId ∧
      text = J.stringify payload ∧ s.Admits before gatewayIp deviceId ip topic

/-- Messages under way were admitted, and callbacks were called with what such a message parses
to. -/
structure Mediated (timeZone : String) (es : List (DataEvent N Callback))
    (s : DataPath C N Callback) : Prop where
  network : s.network.Justified (streams es)
  inFlight : ∀ message ∈ s.inFlight,
    Permitted (C := C) J R timeZone es message.ip message.topic message.text
  called : ∀ ip topic, ∀ c ∈ (s.oracles ip topic).called, ∃ text,
    Permitted (C := C) J R timeZone es ip topic text ∧ (R ip topic).parse text = .ok c.2

variable {J R} {timeZone : String} {es : List (DataEvent N Callback)} {s t : DataPath C N Callback}

/-- What was admitted stays admitted. -/
theorem Permitted.append {ip topic text : String}
    (h : Permitted (C := C) J R timeZone es ip topic text) (e : DataEvent N Callback) :
    Permitted (C := C) J R timeZone (es ++ [e]) ip topic text := by
  obtain ⟨before, after, s, gatewayIp, deviceId, payload, rfl, hrest⟩ := h
  exact ⟨before, after ++ [e], s, gatewayIp, deviceId, payload, by simp, hrest⟩

/-- The events at the managers, one list after the other. -/
theorem streams_append (es es' : List (DataEvent N Callback)) :
    streams (es ++ es') = streams es ++ streams es' := List.filterMap_append

/-- An event that leaves network, messages and calls alone keeps them mediated. -/
theorem Mediated.of_same (h : Mediated J R timeZone es s) {e : DataEvent N Callback}
    (he : streams [e] = []) (hnetwork : t.network = s.network) (hinFlight : t.inFlight = s.inFlight)
    (hcalled : ∀ ip topic, (t.oracles ip topic).called = (s.oracles ip topic).called) :
    Mediated J R timeZone (es ++ [e]) t := by
  refine ⟨?_, fun message hmem ↦ ?_, fun ip topic c hc ↦ ?_⟩
  · rw [streams_append, he, List.append_nil, hnetwork]
    exact h.network
  · rw [hinFlight] at hmem
    exact (h.inFlight message hmem).append e
  · rw [hcalled] at hc
    obtain ⟨text, htext, hparse⟩ := h.called ip topic c hc
    exact ⟨text, htext.append e, hparse⟩

end DataPath
end NexusEdge.Apps
