import NexusEdge.Policy.PolicyEnforcer
import NexusEdge.Streams.Requests

/-!
# Routing under a policy

Library `Streams`. One `sensor-stream-manager` process: the manager of its routes together
with the enforcer of the privacy policy, `sensor-stream-manager.js:371–673`. Every gateway in
the route table has an MQTT client, so the routing listener publishes a reading on exactly the
routes that the policy does not block.
-/

namespace NexusEdge.Streams
open NexusEdge.Base NexusEdge.Platform NexusEdge.Policy

/-- The process: its routes and `policyHelper`. -/
structure Process (C : CronParser) where
  manager : SensorStreamManager
  policyHelper : PolicyEnforcer C

/-- What the process reacts to. Each reading of the clock is passed along. -/
inductive ProcessEvent where
  /-- `request-streams`, once its link graph is there. -/
  | requestStreams (topic : String) (deviceIds : List String) (linkGraph : LinkGraph)
  | registerTopic (params : TopicParams)
  | deregisterTopic (params : TopicParams)
  | updatePolicy (policy : Option PolicyFormat) (now timerNow : Int)
  /-- The timer of the enforcer with this handle fires. -/
  | policyTimer (handle : Nat) (now timerNow : Int)
  /-- A remote gateway has accepted a registration. -/
  | registrationAccepted (heartbeatTopic : String)
  /-- The heartbeat of a remote gateway stays away. -/
  | remoteGatewayFailure (mqttTopic : String)
  /-- The link graph requested after a failure arrives. -/
  | recomputeStreams (pending : Recomputation) (linkGraph : LinkGraph)

namespace Process

variable {C : CronParser}

/-- The process after start-up, `sensor-stream-manager.js:371–411`. -/
def initial (localGatewayIp timeZone : String) : Process C :=
  ⟨SensorStreamManager.initial localGatewayIp, PolicyEnforcer.initial timeZone⟩

/-- The `update-policy` listener, `sensor-stream-manager.js:656–661`; an exception ends it. -/
def updatePolicy (s : Process C) (policy : Option PolicyFormat) (now timerNow : Int) :
    Process C :=
  match policy with
  | some policy => { s with policyHelper := (s.policyHelper.update policy now timerNow).state }
  | none => s

/-- The callback of the enforcer's timer, `policy.js:381–383`. -/
def policyTimer (s : Process C) (handle : Nat) (now timerNow : Int) : Process C :=
  let policyHelper := { s.policyHelper with timers := s.policyHelper.timers.clear handle }
  { s with policyHelper := (policyHelper.enforcePolicy now timerNow).state }

/-- One event; none when the event cannot happen. -/
def step (s : Process C) : ProcessEvent → Option (Process C)
  | .requestStreams topic deviceIds linkGraph =>
    some { s with manager := (s.manager.requestStreams topic deviceIds linkGraph).1 }
  | .registerTopic params => some { s with manager := s.manager.registerTopic params }
  | .deregisterTopic params => some { s with manager := s.manager.deregisterTopic params }
  | .updatePolicy policy now timerNow => some (s.updatePolicy policy now timerNow)
  | .policyTimer handle now timerNow =>
    if handle ∈ s.policyHelper.timers.pending.map Prod.fst then
      some (s.policyTimer handle now timerNow)
    else none
  | .registrationAccepted heartbeatTopic =>
    some { s with manager := s.manager.registrationAccepted heartbeatTopic }
  | .remoteGatewayFailure mqttTopic =>
    some { s with manager := (s.manager.handleRemoteGatewayFailure mqttTopic).1 }
  | .recomputeStreams pending linkGraph =>
    some { s with manager := (s.manager.recomputeStreams pending linkGraph).1 }

/-- The publications of a reading of the sensor. -/
def publications (s : Process C) (deviceId : String) : List (String × String) :=
  s.manager.routeSensorStreamsToApps s.policyHelper.isBlocked deviceId

end Process

/-! ### Every gateway in the route table has a client -/

namespace SensorStreamManager

/-- Every gateway in the route table has an MQTT client. -/
def RoutedToClients (s : SensorStreamManager) : Prop :=
  ∀ sensor ip, s.sensorStreamRouteTable.Serves sensor ip → s.mqttClients.hasOwn ip

/-- So has the local gateway. -/
structure Connected (s : SensorStreamManager) : Prop where
  localGateway : s.mqttClients.hasOwn s.localGatewayIp
  routed : s.RoutedToClients

/-- The process after start-up has a client for its own gateway. -/
theorem connected_initial (localGatewayIp : String) : (initial localGatewayIp).Connected := by
  constructor
  · exact (hasOwn_registerMQTTClient _ _ _).mpr (Or.inl rfl)
  · rintro sensor ip ⟨ipTable, ht, _⟩
    rw [initial, routeTable_registerMQTTClient] at ht
    cases ht

/-- Clients are kept, own ip and routes are the same. -/
theorem Connected.of_same {s t : SensorStreamManager} (h : s.Connected)
    (hip : t.localGatewayIp = s.localGatewayIp)
    (hclients : t.mqttClients = s.mqttClients)
    (htable : t.sensorStreamRouteTable = s.sensorStreamRouteTable) : t.Connected := by
  constructor
  · rw [hip, hclients]
    exact h.localGateway
  · rw [RoutedToClients, hclients, htable]
    exact h.routed

/-- A registration connects the gateway it routes to. -/
theorem routedToClients_registerTopic {s : SensorStreamManager} (h : s.RoutedToClients)
    (params : TopicParams) : (s.registerTopic params).RoutedToClients := by
  have hclients (ip : String) : (s.registerTopic params).mqttClients.hasOwn ip ↔
      ip = params.ip ∨ s.mqttClients.hasOwn ip := hasOwn_registerMQTTClient s params.ip ip
  intro sensor ip hserves
  rw [routeTable_registerTopic] at hserves
  rw [hclients]
  rcases RouteTable.serves_registerToLocalGateway hserves with hserves | rfl
  · exact Or.inr (h sensor ip hserves)
  · exact Or.inl rfl

/-- A registration disconnects no gateway. -/
theorem connected_registerTopic {s : SensorStreamManager} (h : s.Connected)
    (params : TopicParams) : (s.registerTopic params).Connected := by
  refine ⟨?_, routedToClients_registerTopic h.routed params⟩
  rw [(registerTopic_frame s params).1]
  exact (hasOwn_registerMQTTClient s params.ip s.localGatewayIp).mpr (Or.inr h.localGateway)

/-- A deregistration disconnects no gateway. -/
theorem connected_deregisterTopic {s : SensorStreamManager} (h : s.Connected)
    (params : TopicParams) : (s.deregisterTopic params).Connected := by
  have hclients (ip : String) : (s.deregisterTopic params).mqttClients.hasOwn ip ↔
      ip = params.ip ∨ s.mqttClients.hasOwn ip := by
    rw [← hasOwn_registerMQTTClient]
    simp only [deregisterTopic]
    split <;> exact Iff.rfl
  constructor
  · rw [(deregisterTopic_frame s params).1, hclients]
    exact Or.inr h.localGateway
  · intro sensor ip hserves
    rw [routeTable_deregisterTopic] at hserves
    rw [hclients]
    exact Or.inr (h.routed sensor ip (RouteTable.serves_deregisterFromLocalGateway hserves))

/-- Set-up routes to the local gateway only. -/
theorem connected_requestStreams {s : SensorStreamManager} (h : s.Connected) (topic : String)
    (deviceIds : List String) (linkGraph : LinkGraph) :
    (s.requestStreams topic deviceIds linkGraph).1.Connected := by
  simp only [requestStreams]
  apply foldl_invariant (P := fun progress : SensorStreamManager × List RemoteRequest ↦
    progress.1.Connected)
  · intro entry _ progress hprogress
    simp only [provideFromGateway]
    split
    · next hip =>
      constructor
      · exact hprogress.localGateway
      · intro sensor ip hserves
        rcases RouteTable.serves_registerToLocalGateway hserves with hserves | rfl
        · exact hprogress.routed sensor ip hserves
        · rw [hip]
          exact hprogress.localGateway
    · exact hprogress
  · exact h.of_same rfl rfl rfl

/-- The handler of a failure leaves clients and routes alone. -/
theorem connected_handleRemoteGatewayFailure {s : SensorStreamManager} (h : s.Connected)
    (mqttTopic : String) : (s.handleRemoteGatewayFailure mqttTopic).1.Connected := by
  simp only [handleRemoteGatewayFailure]
  split
  · apply foldl_invariant (P := fun progress : SensorStreamManager × List RemoteRequest ↦
      progress.1.Connected)
    · intro entry _ progress hprogress
      simp only [stopGateway, stopDiagnosticTimer]
      split
      · exact hprogress.of_same rfl rfl rfl
      · exact hprogress
    · exact h
  · exact h

/-- An accepted registration only starts a timer. -/
theorem connected_registrationAccepted {s : SensorStreamManager} (h : s.Connected)
    (heartbeatTopic : String) : (s.registrationAccepted heartbeatTopic).Connected := by
  simp only [registrationAccepted]
  exact h.of_same rfl rfl rfl

/-- A recomputation changes the stored assignment only. -/
theorem connected_recomputeStreams {s : SensorStreamManager} (h : s.Connected)
    (pending : Recomputation) (linkGraph : LinkGraph) :
    (s.recomputeStreams pending linkGraph).1.Connected := by
  simp only [recomputeStreams]
  exact h.of_same rfl rfl rfl

/-- With a client for every gateway of the table, `publishData` never drops a reading, and the
reading is published on the routes of its sensor that are not blocked. -/
theorem RoutedToClients.routeSensorStreamsToApps {s : SensorStreamManager} (h : s.RoutedToClients)
    (isBlocked : String → String → String → Bool) (sensorId : String) :
    s.routeSensorStreamsToApps isBlocked sensorId =
      (s.sensorStreamRouteTable.routes sensorId).filter fun route ↦
        !isBlocked sensorId route.1 route.2 := by
  unfold SensorStreamManager.routeSensorStreamsToApps RouteTable.routes
  cases ht : s.sensorStreamRouteTable.get? sensorId with
  | none => rfl
  | some ipTable =>
    simp only [List.filter_flatMap]
    apply List.flatMap_congr
    intro entry hentry
    have hclient : s.mqttClients.hasOwn entry.1 := by
      apply h sensorId entry.1
      refine ⟨ipTable, ht, (JsObject.hasOwn_iff _ _).mpr ⟨entry.2, ?_⟩⟩
      exact (JsObject.mem_ownEntries_iff _ _ _).mp hentry
    induction entry.2 with
    | nil => rfl
    | cons topic topics ih =>
      rw [List.filterMap_cons, List.map_cons, List.filter_cons, ih]
      simp only [publishData, hclient, if_true]
      cases isBlocked sensorId entry.1 topic <;> rfl

end SensorStreamManager

namespace Process

variable {C : CronParser}

/-- Every event keeps the gateways connected. -/
theorem connected_step {s t : Process C} {e : ProcessEvent} (h : s.manager.Connected)
    (ht : step s e = some t) : t.manager.Connected := by
  cases e with
  | requestStreams topic deviceIds linkGraph =>
    have hnext := SensorStreamManager.connected_requestStreams h topic deviceIds linkGraph
    simp only [step, Option.some.injEq] at ht
    simpa only [← ht] using hnext
  | registerTopic params =>
    have hnext := SensorStreamManager.connected_registerTopic h params
    simp only [step, Option.some.injEq] at ht
    simpa only [← ht] using hnext
  | deregisterTopic params =>
    have hnext := SensorStreamManager.connected_deregisterTopic h params
    simp only [step, Option.some.injEq] at ht
    simpa only [← ht] using hnext
  | updatePolicy policy now timerNow =>
    cases ht
    unfold updatePolicy
    split
    · exact h
    · exact h
  | policyTimer handle now timerNow =>
    simp only [step] at ht
    split at ht
    · cases ht
      exact h
    · cases ht
  | registrationAccepted heartbeatTopic =>
    have hnext := SensorStreamManager.connected_registrationAccepted h heartbeatTopic
    simp only [step, Option.some.injEq] at ht
    simpa only [← ht] using hnext
  | remoteGatewayFailure mqttTopic =>
    have hnext := SensorStreamManager.connected_handleRemoteGatewayFailure h mqttTopic
    simp only [step, Option.some.injEq] at ht
    simpa only [← ht] using hnext
  | recomputeStreams pending linkGraph =>
    have hnext := SensorStreamManager.connected_recomputeStreams h pending linkGraph
    simp only [step, Option.some.injEq] at ht
    simpa only [← ht] using hnext

/-- Readings are published on the routes of their sensor that are not blocked, each as often
as it is listed, and no publication fails for want of a client. -/
def RoutesExactly (s : Process C) : Prop :=
  ∀ deviceId,
    s.publications deviceId = (s.manager.sensorStreamRouteTable.routes deviceId).filter
      (fun route ↦ !s.policyHelper.isBlocked deviceId route.1 route.2) ∧
    ∀ route ∈ s.manager.sensorStreamRouteTable.routes deviceId,
      s.manager.publishData route.1 route.2 = some route

/-- Connected gateways are routed to exactly. -/
theorem routesExactly_of_connected {s : Process C} (h : s.manager.Connected) :
    s.RoutesExactly := by
  intro deviceId
  refine ⟨h.routed.routeSensorStreamsToApps _ deviceId, fun route hroute ↦ ?_⟩
  have hclient := h.routed deviceId route.1 (RouteTable.serves_of_mem_routes hroute)
  rw [SensorStreamManager.publishData, if_pos hclient]

end Process
end NexusEdge.Streams
