import NexusEdge.Base.Prototype
import NexusEdge.Base.Timers
import NexusEdge.Base.Transition
import NexusEdge.Streams.RouteTable

/-!
# Sensor stream manager: topic registration and routing

Library `Streams`. State of one `sensor-stream-manager` process, the listeners for
`register-topic` and `deregister-topic`, `sensor-stream-manager.js:597–654`, and the
routing of readings to applications, `sensor-stream-manager.js:305–365`.
-/

namespace NexusEdge.Streams
open NexusEdge.Base

/-- Message data of `register-topic` and `deregister-topic`, also the body of the requests
between gateways, `sensor-stream-manager.js:93–99,606–612`. -/
structure TopicParams where
  ip : String
  sensors : List String
  topic : String
  heartbeatTopic : String
  heartbeatTimeMs : Nat
  deriving DecidableEq

/-- `SensorStreamRequest`, `sensor-stream-request.js:1–6`. -/
structure SensorStreamRequest where
  sensorIds : List String
  optimalGatewayDeviceMapping : JsObject (List String)
  deriving DecidableEq

/-- Callbacks of the manager's timers. -/
inductive TimerCallback where
  /-- `handleRemoteGatewayFailure.bind(null, heartbeatTopic)`. -/
  | remoteGatewayFailure (heartbeatTopic : String)
  /-- `sendHeartbeat.bind(null, mqttClient, ip, heartbeatTopic)`. -/
  | sendHeartbeat (ip heartbeatTopic : String) (heartbeatTimeMs : Nat)
  deriving DecidableEq

/-- A client of the MQTT broker at an ip. -/
structure MqttClient where
  brokerIp : String
  deriving DecidableEq

/-- Module state of one `sensor-stream-manager` process. -/
structure SensorStreamManager where
  localGatewayIp : String
  sensorStreamRouteTable : RouteTable
  sensorStreamRequests : JsObject SensorStreamRequest
  mqttClients : JsObject MqttClient
  heartbeatDiagnosticTimers : JsObject Nat
  heartbeatPublishTimers : JsObject Nat
  timers : Timers TimerCallback
  deriving DecidableEq

namespace SensorStreamManager

/-- `registerMQTTClient`, `sensor-stream-manager.js:267–286`. -/
def registerMQTTClient (s : SensorStreamManager) (ip : String) : SensorStreamManager :=
  if s.mqttClients.hasOwn ip then s
  else { s with mqttClients := s.mqttClients.set ip ⟨ip⟩ }

/-- The process after start-up, `sensor-stream-manager.js:371–411`. -/
def initial (localGatewayIp : String) : SensorStreamManager :=
  registerMQTTClient
    { localGatewayIp := localGatewayIp
      sensorStreamRouteTable := JsObject.empty
      sensorStreamRequests := JsObject.empty
      mqttClients := JsObject.empty
      heartbeatDiagnosticTimers := JsObject.empty
      heartbeatPublishTimers := JsObject.empty
      timers := Timers.empty } localGatewayIp

/-- The `register-topic` listener, `sensor-stream-manager.js:605–626`. -/
def registerTopic (s : SensorStreamManager) (params : TopicParams) : SensorStreamManager :=
  let s := s.registerMQTTClient params.ip
  let (handle, timers) := s.timers.set
    (.sendHeartbeat params.ip params.heartbeatTopic params.heartbeatTimeMs)
  { s with
    sensorStreamRouteTable :=
      s.sensorStreamRouteTable.registerToLocalGateway params.ip params.sensors params.topic
    heartbeatPublishTimers := s.heartbeatPublishTimers.assignValue params.heartbeatTopic handle
    timers := timers }

/-- The `deregister-topic` listener, `sensor-stream-manager.js:628–654`. -/
def deregisterTopic (s : SensorStreamManager) (params : TopicParams) : SensorStreamManager :=
  let s := s.registerMQTTClient params.ip
  let s := { s with
    sensorStreamRouteTable :=
      s.sensorStreamRouteTable.deregisterFromLocalGateway params.ip params.sensors params.topic }
  match s.heartbeatPublishTimers.get? params.heartbeatTopic with
  | some handle =>
    { s with
      heartbeatPublishTimers := s.heartbeatPublishTimers.erase params.heartbeatTopic
      timers := s.timers.clear handle }
  | none => s

/-- `publishData`, `sensor-stream-manager.js:305–318`: the ip and topic published to, or
nothing when no client is registered for the ip. -/
def publishData (s : SensorStreamManager) (ip topic : String) : Option (String × String) :=
  if s.mqttClients.hasOwn ip then some (ip, topic) else none

/-- The `message` listener of `routeSensorStreamsToApps`, `sensor-stream-manager.js:345–364`:
the publications of one reading of the sensor. -/
def routeSensorStreamsToApps (s : SensorStreamManager)
    (isBlocked : String → String → String → Bool) (sensorId : String) : List (String × String) :=
  match s.sensorStreamRouteTable.get? sensorId with
  | some ipTable => ipTable.ownEntries.flatMap fun (gatewayIp, topics) ↦
      topics.filterMap fun topic ↦
        if !isBlocked sensorId gatewayIp topic then s.publishData gatewayIp topic else none
  | none => []

/-- Registering a client leaves the routes alone. -/
@[simp] theorem routeTable_registerMQTTClient (s : SensorStreamManager) (ip : String) :
    (s.registerMQTTClient ip).sensorStreamRouteTable = s.sensorStreamRouteTable := by
  unfold registerMQTTClient
  split <;> rfl

/-- A registered client is there, and so are the others. -/
theorem hasOwn_registerMQTTClient (s : SensorStreamManager) (ip ip' : String) :
    (s.registerMQTTClient ip).mqttClients.hasOwn ip' ↔ ip' = ip ∨ s.mqttClients.hasOwn ip' := by
  unfold registerMQTTClient
  split
  · next h =>
    constructor
    · exact Or.inr
    · rintro (rfl | h')
      · exact h
      · exact h'
  · rw [JsObject.hasOwn_set, Bool.or_eq_true, decide_eq_true_eq]

/-- The route table after a `register-topic` event. -/
theorem routeTable_registerTopic (s : SensorStreamManager) (params : TopicParams) :
    (s.registerTopic params).sensorStreamRouteTable =
      s.sensorStreamRouteTable.registerToLocalGateway params.ip params.sensors params.topic := by
  simp [registerTopic]

/-- The route table after a `deregister-topic` event. -/
theorem routeTable_deregisterTopic (s : SensorStreamManager) (params : TopicParams) :
    (s.deregisterTopic params).sensorStreamRouteTable =
      s.sensorStreamRouteTable.deregisterFromLocalGateway params.ip params.sensors
        params.topic := by
  simp only [deregisterTopic]
  split <;> simp

/-- A client is no change of the manager's own ip or stream requests. -/
theorem registerMQTTClient_frame (s : SensorStreamManager) (ip : String) :
    (s.registerMQTTClient ip).localGatewayIp = s.localGatewayIp ∧
      (s.registerMQTTClient ip).sensorStreamRequests = s.sensorStreamRequests := by
  unfold registerMQTTClient
  split <;> exact ⟨rfl, rfl⟩

/-- A registration leaves the manager's own ip and stream requests alone. -/
theorem registerTopic_frame (s : SensorStreamManager) (params : TopicParams) :
    (s.registerTopic params).localGatewayIp = s.localGatewayIp ∧
      (s.registerTopic params).sensorStreamRequests = s.sensorStreamRequests := by
  simp only [registerTopic]
  exact registerMQTTClient_frame s params.ip

/-- A deregistration leaves the manager's own ip and stream requests alone. -/
theorem deregisterTopic_frame (s : SensorStreamManager) (params : TopicParams) :
    (s.deregisterTopic params).localGatewayIp = s.localGatewayIp ∧
      (s.deregisterTopic params).sensorStreamRequests = s.sensorStreamRequests := by
  simp only [deregisterTopic]
  split <;> exact registerMQTTClient_frame s params.ip

/-- A reading is published only to topics routed for its sensor at that ip. -/
theorem routeCount_pos_of_published {s : SensorStreamManager}
    {isBlocked : String → String → String → Bool} {sensorId ip topic : String}
    (h : (ip, topic) ∈ s.routeSensorStreamsToApps isBlocked sensorId) :
    0 < s.sensorStreamRouteTable.routeCount sensorId ip topic := by
  unfold routeSensorStreamsToApps at h
  split at h
  · next ipTable hs =>
    obtain ⟨⟨gatewayIp, topics⟩, he, hm⟩ := List.mem_flatMap.mp h
    obtain ⟨t, ht, hp⟩ := List.mem_filterMap.mp hm
    simp only [publishData] at hp
    split at hp
    · split at hp
      · obtain ⟨rfl, rfl⟩ := Prod.mk.inj (Option.some.inj hp)
        rw [JsObject.mem_ownEntries_iff] at he
        rw [RouteTable.routeCount, List.count_pos_iff, RouteTable.topics, hs, Option.bind_some, he]
        exact ht
      · cases hp
    · cases hp
  · cases h

end SensorStreamManager

/-- The two topic events a manager receives from other gateways. -/
inductive TopicEvent where
  | register (params : TopicParams)
  | deregister (params : TopicParams)
  deriving DecidableEq

/-- The listener for the event. -/
def SensorStreamManager.handle (s : SensorStreamManager) : TopicEvent → SensorStreamManager
  | .register params => s.registerTopic params
  | .deregister params => s.deregisterTopic params

end NexusEdge.Streams
