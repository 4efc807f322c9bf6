import NexusEdge.Streams.GatewayMapping
import NexusEdge.Streams.Manager

/-!
# Stream requests between gateways

Library `Streams`. The manager that runs an application asks the gateways of the
assignment to forward their sensors, `sensor-stream-manager.js:88–177,520–591`. When the
heartbeat of one of them stays away it asks the others to stop, waits for a fresh link
graph and asks the gateways of the new assignment, `sensor-stream-manager.js:194–261`.
The new assignment's local share is not registered; the first set-up registers it.
-/

namespace NexusEdge.Streams
open NexusEdge.Base NexusEdge.Platform

/-- The route a request is posted to. -/
inductive RequestKind where
  /-- `/gateway/register-app-sensor-requirement`. -/
  | register
  /-- `/gateway/deregister-app-sensor-requirement`. -/
  | deregister
  deriving DecidableEq

/-- A posted request: the recipient's ip and the body. -/
structure RemoteRequest where
  kind : RequestKind
  recipient : String
  params : TopicParams
  deriving DecidableEq

/-- `heartbeatTimeMs`, `sensor-stream-manager.js:77`. -/
def heartbeatTimeMs : Nat := 60 * 1000

/-- `mqttTopic.split("-")`. -/
def splitHyphen (mqttTopic : String) : List String :=
  (mqttTopic.toList.splitOn '-').map String.ofList

/-- The application topic in a heartbeat topic, `sensor-stream-manager.js:197`. -/
def failureTopic (mqttTopic : String) : String := (splitHyphen mqttTopic).headD ""

/-- What the handler of a failure resumes with once the link graph arrives. -/
structure Recomputation where
  topic : String
  allRequiredSensors : List String
  deriving DecidableEq

namespace SensorStreamManager

/-- Body of the requests, `sensor-stream-manager.js:93–99,150–156`. -/
def requestBody (s : SensorStreamManager) (ip : String) (sensorIds : List String)
    (appTopic : String) : TopicParams :=
  { ip := s.localGatewayIp, sensors := sensorIds, topic := appTopic
    heartbeatTopic := appTopic ++ "-" ++ ip, heartbeatTimeMs := heartbeatTimeMs }

/-- Request sent by `registerToRemoteGateway`, `sensor-stream-manager.js:88–106`. -/
def registerToRemoteGateway (s : SensorStreamManager) (ip : String) (sensorIds : List String)
    (appTopic : String) : RemoteRequest :=
  ⟨.register, ip, s.requestBody ip sensorIds appTopic⟩

/-- Request sent by `requestRemoteGatewayToDeregister`, `sensor-stream-manager.js:145–163`. -/
def requestRemoteGatewayToDeregister (s : SensorStreamManager) (ip : String)
    (sensorIds : List String) (appTopic : String) : RemoteRequest :=
  ⟨.deregister, ip, s.requestBody ip sensorIds appTopic⟩

/-- Status 200 for a registration starts the diagnostic timer,
`sensor-stream-manager.js:108–114`. -/
def registrationAccepted (s : SensorStreamManager) (heartbeatTopic : String) :
    SensorStreamManager :=
  let (handle, timers) := s.timers.set (.remoteGatewayFailure heartbeatTopic)
  { s with
    heartbeatDiagnosticTimers := s.heartbeatDiagnosticTimers.set heartbeatTopic handle
    timers := timers }

/-- Withdrawal of a diagnostic timer, `sensor-stream-manager.js:224–234`. -/
def stopDiagnosticTimer (s : SensorStreamManager) (timerId : String) : SensorStreamManager :=
  match s.heartbeatDiagnosticTimers.get? timerId with
  | some handle =>
    { s with
      heartbeatDiagnosticTimers := s.heartbeatDiagnosticTimers.erase timerId
      timers := s.timers.clear handle }
  | none => s

/-- One gateway of the old assignment, `sensor-stream-manager.js:215–235`. -/
def stopGateway (topic : String) (failedGatewayIp : Option String)
    (progress : SensorStreamManager × List RemoteRequest) (entry : String × List String) :
    SensorStreamManager × List RemoteRequest :=
  let (s, requests) := progress
  let requests :=
    if entry.1 ≠ s.localGatewayIp ∧ some entry.1 ≠ failedGatewayIp then
      requests ++ [s.requestRemoteGatewayToDeregister entry.1 entry.2 topic]
    else requests
  (s.stopDiagnosticTimer (topic ++ "-" ++ entry.1), requests)

/-- `handleRemoteGatewayFailure` until it waits for the link graph,
`sensor-stream-manager.js:194–239,258–260`. -/
def handleRemoteGatewayFailure (s : SensorStreamManager) (mqttTopic : String) :
    SensorStreamManager × List RemoteRequest × List Recomputation :=
  let topic := failureTopic mqttTopic
  let failedGatewayIp := (splitHyphen mqttTopic)[1]?
  match s.sensorStreamRequests.get? topic with
  | some request =>
    let (s, requests) := request.optimalGatewayDeviceMapping.ownEntries.foldl
      (stopGateway topic failedGatewayIp) (s, [])
    (s, requests, [⟨topic, request.sensorIds⟩])
  | none => (s, [], [])

/-- The assignment computed for the required sensors. -/
def optimalMapping (s : SensorStreamManager) (sensorIds : List String) (linkGraph : LinkGraph) :
    JsObject (List String) :=
  getOptimalGatewayDeviceMapping s.localGatewayIp (getHostGateways sensorIds linkGraph)

/-- The requests to the remote gateways of the new assignment,
`sensor-stream-manager.js:249–255`. -/
def registerToRemoteGateways (s : SensorStreamManager) (mapping : JsObject (List String))
    (topic : String) : List RemoteRequest :=
  mapping.ownEntries.filterMap fun entry ↦
    if entry.1 ≠ s.localGatewayIp then
      some (s.registerToRemoteGateway entry.1 entry.2 topic)
    else none

/-- `handleRemoteGatewayFailure` once the link graph has arrived,
`sensor-stream-manager.js:239–257`. -/
def recomputeStreams (s : SensorStreamManager) (pending : Recomputation)
    (linkGraph : LinkGraph) : SensorStreamManager × List RemoteRequest :=
  let mapping := s.optimalMapping pending.allRequiredSensors linkGraph
  ({ s with
     sensorStreamRequests := s.sensorStreamRequests.modify pending.topic fun request ↦
       { request with optimalGatewayDeviceMapping := mapping } },
    s.registerToRemoteGateways mapping pending.topic)

/-- One gateway of the assignment at set-up, `sensor-stream-manager.js:555–563`. -/
def provideFromGateway (topic : String) (progress : SensorStreamManager × List RemoteRequest)
    (entry : String × List String) : SensorStreamManager × List RemoteRequest :=
  let (s, requests) := progress
  if entry.1 = s.localGatewayIp then
    ({ s with sensorStreamRouteTable :=
        s.sensorStreamRouteTable.registerToLocalGateway entry.1 entry.2 topic }, requests)
  else (s, requests ++ [s.registerToRemoteGateway entry.1 entry.2 topic])

/-- The `request-streams` listener with the devices of the application's metadata,
`sensor-stream-manager.js:546–564`. -/
def requestStreams (s : SensorStreamManager) (topic : String) (deviceIds : List String)
    (linkGraph : LinkGraph) : SensorStreamManager × List RemoteRequest :=
  let mapping := s.optimalMapping deviceIds linkGraph
  mapping.ownEntries.foldl (provideFromGateway topic)
    ({ s with sensorStreamRequests :=
        s.sensorStreamRequests.set topic ⟨deviceIds, mapping⟩ }, [])

end SensorStreamManager

/-! ### Registrations carried by requests -/

/-- How often a request, once processed, makes the gateway route the sensor to (ip, topic). -/
def RemoteRequest.registrations (gatewayIp sensor ip topic : String) (r : RemoteRequest) : Nat :=
  match r.kind with
  | .register =>
    if r.recipient = gatewayIp ∧ r.params.ip = ip ∧ r.params.topic = topic then
      r.params.sensors.count sensor
    else 0
  | .deregister => 0

/-- The same for several requests. -/
def registrations (requests : List RemoteRequest) (gatewayIp sensor ip topic : String) : Nat :=
  (requests.map (RemoteRequest.registrations gatewayIp sensor ip topic)).sum

/-- No request, no registration. -/
@[simp] theorem registrations_nil (gatewayIp sensor ip topic : String) :
    registrations [] gatewayIp sensor ip topic = 0 := rfl

/-- Registrations add up over the requests. -/
@[simp] theorem registrations_append (rs qs : List RemoteRequest)
    (gatewayIp sensor ip topic : String) :
    registrations (rs ++ qs) gatewayIp sensor ip topic =
      registrations rs gatewayIp sensor ip topic + registrations qs gatewayIp sensor ip topic := by
  simp only [registrations, List.map_append, List.sum_append_nat]

/-- A request made for another (ip, topic) registers nothing. -/
theorem RemoteRequest.registrations_of_ne {r : RemoteRequest} {ip topic : String}
    (h : ¬ (r.params.ip = ip ∧ r.params.topic = topic)) (gatewayIp sensor : String) :
    r.registrations gatewayIp sensor ip topic = 0 := by
  cases hk : r.kind with
  | register =>
    have hn : ¬ (r.recipient = gatewayIp ∧ r.params.ip = ip ∧ r.params.topic = topic) := fun hr ↦ h hr.2
    simp only [RemoteRequest.registrations, hk, if_neg hn]
  | deregister => simp only [RemoteRequest.registrations, hk]

/-- Requests made for other (ip, topic) register nothing. -/
theorem registrations_of_ne {rs : List RemoteRequest} {ip topic : String}
    (h : ∀ r ∈ rs, ¬ (r.params.ip = ip ∧ r.params.topic = topic)) (gatewayIp sensor : String) :
    registrations rs gatewayIp sensor ip topic = 0 := by
  rw [registrations, List.sum_eq_zero_iff_forall_eq_nat]
  intro m hm
  obtain ⟨r, hr, rfl⟩ := List.mem_map.mp hm
  exact RemoteRequest.registrations_of_ne (h r hr) gatewayIp sensor

/-- Requests to deregister register nothing. -/
theorem registrations_of_deregister {rs : List RemoteRequest}
    (h : ∀ r ∈ rs, r.kind = .deregister) (gatewayIp sensor ip topic : String) :
    registrations rs gatewayIp sensor ip topic = 0 := by
  rw [registrations, List.sum_eq_zero_iff_forall_eq_nat]
  intro m hm
  obtain ⟨r, hr, rfl⟩ := List.mem_map.mp hm
  simp only [RemoteRequest.registrations, h r hr]

namespace SensorStreamManager

private theorem registrations_registerToRemoteGateway (s : SensorStreamManager)
    (ip : String) (sensorIds : List String) (topic gatewayIp sensor : String) :
    (s.registerToRemoteGateway ip sensorIds topic).registrations gatewayIp sensor
      s.localGatewayIp topic = if ip = gatewayIp then sensorIds.count sensor else 0 := by
  simp only [registerToRemoteGateway, RemoteRequest.registrations, requestBody, and_true]

/-- An assignment gives gateways sensors that are required, and that the link graph lists there. -/
theorem mem_optimalMapping (s : SensorStreamManager) {deviceIds : List String}
    {linkGraph : LinkGraph} {entry : String × List String}
    (h : entry ∈ (s.optimalMapping deviceIds linkGraph).ownEntries) {sensor : String}
    (hsensor : sensor ∈ entry.2) : sensor ∈ deviceIds ∧ linkGraph.Lists entry.1 sensor := by
  rw [JsObject.mem_ownEntries_iff] at h
  rw [← mem_assigned_getHostGateways]
  exact optimal_subset s.localGatewayIp _ ⟨entry.2, h, hsensor⟩

/-! ### Recovery -/

/-- An acknowledgement leaves the manager's ip, routes and stream requests alone. -/
theorem registrationAccepted_frame (s : SensorStreamManager) (heartbeatTopic : String) :
    (s.registrationAccepted heartbeatTopic).localGatewayIp = s.localGatewayIp ∧
      (s.registrationAccepted heartbeatTopic).sensorStreamRouteTable =
        s.sensorStreamRouteTable ∧
      (s.registrationAccepted heartbeatTopic).sensorStreamRequests = s.sensorStreamRequests := by
  simp only [registrationAccepted, and_self]

private theorem stopDiagnosticTimer_frame (s : SensorStreamManager) (timerId : String) :
    (s.stopDiagnosticTimer timerId).localGatewayIp = s.localGatewayIp ∧
      (s.stopDiagnosticTimer timerId).sensorStreamRouteTable = s.sensorStreamRouteTable := by
  unfold stopDiagnosticTimer
  split <;> exact ⟨rfl, rfl⟩

-- The requests of the first step only deregister, and the manager's own routes stay.
private theorem stopGateways_frame (topic : String) (failedGatewayIp : Option String)
    (l : List (String × List String)) (s : SensorStreamManager) :
    let progress := l.foldl (stopGateway topic failedGatewayIp) (s, [])
    progress.1.localGatewayIp = s.localGatewayIp ∧
      progress.1.sensorStreamRouteTable = s.sensorStreamRouteTable ∧
      ∀ r ∈ progress.2, r.kind = .deregister := by
  refine foldl_invariant (P := fun progress : SensorStreamManager × List RemoteRequest ↦
    progress.1.localGatewayIp = s.localGatewayIp ∧
      progress.1.sensorStreamRouteTable = s.sensorStreamRouteTable ∧
      ∀ r ∈ progress.2, r.kind = .deregister) l ?_ (s, []) ⟨rfl, rfl, by simp⟩
  intro entry _ progress ⟨hip, htable, hkind⟩
  obtain ⟨hip', htable'⟩ := stopDiagnosticTimer_frame progress.1 (topic ++ "-" ++ entry.1)
  refine ⟨hip'.trans hip, htable'.trans htable, ?_⟩
  simp only [stopGateway]
  split
  · intro r hr
    rcases List.mem_append.mp hr with hr | hr
    · exact hkind r hr
    · rw [List.mem_singleton.mp hr]
      rfl
  · exact hkind

/-- The handler of a failure changes no route, asks only for deregistration, and leaves
the recomputation for the topic's required sensors to be done. -/
theorem handleRemoteGatewayFailure_spec {s : SensorStreamManager} {mqttTopic : String}
    {request : SensorStreamRequest}
    (h : s.sensorStreamRequests.get? (failureTopic mqttTopic) = some request) :
    (s.handleRemoteGatewayFailure mqttTopic).1.localGatewayIp = s.localGatewayIp ∧
      (s.handleRemoteGatewayFailure mqttTopic).1.sensorStreamRouteTable =
        s.sensorStreamRouteTable ∧
      (∀ r ∈ (s.handleRemoteGatewayFailure mqttTopic).2.1, r.kind = .deregister) ∧
      (s.handleRemoteGatewayFailure mqttTopic).2.2 =
        [⟨failureTopic mqttTopic, request.sensorIds⟩] := by
  have hframe := stopGateways_frame (failureTopic mqttTopic) (splitHyphen mqttTopic)[1]?
    request.optimalGatewayDeviceMapping.ownEntries s
  simp only [handleRemoteGatewayFailure, h, and_true]
  exact hframe

/-- The handler of a failure leaves the stored requests alone until it has a link graph. -/
theorem stored_handleRemoteGatewayFailure (s : SensorStreamManager) (mqttTopic : String) :
    (s.handleRemoteGatewayFailure mqttTopic).1.sensorStreamRequests = s.sensorStreamRequests := by
  simp only [handleRemoteGatewayFailure]
  split
  · apply foldl_invariant (P := fun progress : SensorStreamManager × List RemoteRequest ↦
      progress.1.sensorStreamRequests = s.sensorStreamRequests)
    · intro entry _ progress hprogress
      rw [← hprogress]
      simp only [stopGateway, stopDiagnosticTimer]
      split <;> rfl
    · rfl
  · rfl

/-- Every request to the gateways of an assignment carries the sender's ip and the topic. -/
theorem params_of_mem_registerToRemoteGateways {s : SensorStreamManager}
    {mapping : JsObject (List String)} {topic : String} {r : RemoteRequest}
    (h : r ∈ s.registerToRemoteGateways mapping topic) :
    r.params.ip = s.localGatewayIp ∧ r.params.topic = topic := by
  obtain ⟨entry, _, hr⟩ := List.mem_filterMap.mp h
  split at hr
  · obtain rfl := Option.some.inj hr
    exact ⟨rfl, rfl⟩
  · cases hr

private theorem registrations_ofEntry (s : SensorStreamManager) (topic gatewayIp sensor : String)
    (entry : String × List String) :
    registrations ((if entry.1 ≠ s.localGatewayIp then
        some (s.registerToRemoteGateway entry.1 entry.2 topic) else none).toList) gatewayIp sensor
        s.localGatewayIp topic =
      if entry.1 = gatewayIp then
        (if gatewayIp = s.localGatewayIp then 0 else entry.2.count sensor) else 0 := by
  split
  · next hne =>
    rw [Option.toList_some, registrations, List.map_singleton, List.sum_singleton,
      registrations_registerToRemoteGateway]
    split
    · next hg => rw [if_neg (hg ▸ hne)]
    · rfl
  · next he =>
    rw [not_not] at he
    rw [Option.toList_none, registrations_nil]
    split
    · next hg => rw [if_pos (hg.symm.trans he)]
    · rfl

/-- Each remote gateway of an assignment is asked for its share once; the local gateway is
not asked for its own. -/
theorem registrations_registerToRemoteGateways (s : SensorStreamManager)
    (mapping : JsObject (List String)) (topic gatewayIp sensor : String) :
    registrations (s.registerToRemoteGateways mapping topic) gatewayIp sensor s.localGatewayIp
        topic =
      if gatewayIp = s.localGatewayIp then 0
      else ((mapping.get? gatewayIp).getD []).count sensor := by
  have hsum (l : List (String × List String)) :
      registrations (l.filterMap fun entry ↦ if entry.1 ≠ s.localGatewayIp then
          some (s.registerToRemoteGateway entry.1 entry.2 topic) else none)
        gatewayIp sensor s.localGatewayIp topic =
      (l.map fun entry ↦ if entry.1 = gatewayIp then
        (if gatewayIp = s.localGatewayIp then 0 else entry.2.count sensor) else 0).sum := by
    induction l with
    | nil => rfl
    | cons entry l ih =>
      rw [List.filterMap_cons, List.map_cons, List.sum_cons, ← registrations_ofEntry, ← ih,
        ← registrations_append]
      cases h : (if entry.1 ≠ s.localGatewayIp then
        some (s.registerToRemoteGateway entry.1 entry.2 topic) else none) <;> rfl
  rw [registerToRemoteGateways, hsum, JsObject.sum_ownEntries mapping gatewayIp
    fun devices ↦ if gatewayIp = s.localGatewayIp then 0 else devices.count sensor]
  cases mapping.get? gatewayIp <;> simp

/-- The requests after the link graph has arrived. -/
theorem requests_recomputeStreams (s : SensorStreamManager) (pending : Recomputation)
    (linkGraph : LinkGraph) :
    (s.recomputeStreams pending linkGraph).2 = s.registerToRemoteGateways
      (s.optimalMapping pending.allRequiredSensors linkGraph) pending.topic := by
  simp only [recomputeStreams]

/-- The recomputation leaves the sender's ip, its own routes and the requests of other
applications alone. -/
theorem recomputeStreams_frame (s : SensorStreamManager) (pending : Recomputation)
    (linkGraph : LinkGraph) :
    (s.recomputeStreams pending linkGraph).1.localGatewayIp = s.localGatewayIp ∧
      (s.recomputeStreams pending linkGraph).1.sensorStreamRouteTable =
        s.sensorStreamRouteTable ∧
      ∀ topic, topic ≠ pending.topic →
        (s.recomputeStreams pending linkGraph).1.sensorStreamRequests.get? topic =
          s.sensorStreamRequests.get? topic := by
  simp only [recomputeStreams, true_and]
  intro topic h
  rw [JsObject.get?_modify, if_neg h]

/-- The requests depend on the sender through its ip only. -/
theorem recomputeStreams_congr {s s' : SensorStreamManager}
    (h : s.localGatewayIp = s'.localGatewayIp) (pending : Recomputation)
    (linkGraph : LinkGraph) :
    (s.recomputeStreams pending linkGraph).2 = (s'.recomputeStreams pending linkGraph).2 := by
  simp only [requests_recomputeStreams, registerToRemoteGateways, optimalMapping,
    registerToRemoteGateway, requestBody, h]

/-! ### Set-up -/

/-- What the sender's routes and the requests amount to at a gateway. -/
private def provided (gatewayIp sensor ip topic : String)
    (progress : SensorStreamManager × List RemoteRequest) : Nat :=
  (if gatewayIp = ip then
      progress.1.sensorStreamRouteTable.routeCount sensor ip topic else 0) +
    registrations progress.2 gatewayIp sensor ip topic

private theorem provided_provideFromGateway (topic gatewayIp sensor ip : String)
    (requested : JsObject SensorStreamRequest)
    (progress : SensorStreamManager × List RemoteRequest) (entry : String × List String)
    (h : progress.1.localGatewayIp = ip ∧ progress.1.sensorStreamRequests = requested) :
    ((provideFromGateway topic progress entry).1.localGatewayIp = ip ∧
        (provideFromGateway topic progress entry).1.sensorStreamRequests = requested) ∧
      provided gatewayIp sensor ip topic (provideFromGateway topic progress entry) =
        provided gatewayIp sensor ip topic progress +
          if entry.1 = gatewayIp then entry.2.count sensor else 0 := by
  obtain ⟨rfl, rfl⟩ := h
  simp only [provideFromGateway, provided]
  split
  · next he =>
    refine ⟨⟨rfl, rfl⟩, ?_⟩
    rw [RouteTable.routeCount_registerToLocalGateway, he]
    by_cases hg : gatewayIp = progress.1.localGatewayIp
    · simp only [hg, if_true, and_self]
      omega
    · simp only [if_neg hg, if_neg (Ne.symm hg)]
      omega
  · refine ⟨⟨rfl, rfl⟩, ?_⟩
    have hnew : registrations [progress.1.registerToRemoteGateway entry.1 entry.2 topic] gatewayIp
        sensor progress.1.localGatewayIp topic =
        if entry.1 = gatewayIp then entry.2.count sensor else 0 := by
      rw [registrations, List.map_singleton, List.sum_singleton,
        registrations_registerToRemoteGateway]
    rw [registrations_append, hnew, Nat.add_assoc]

/-- Set-up stores the request; the sender's own routes and its requests together give each
gateway its share of the assignment, on top of what the sender routed before. -/
theorem requestStreams_spec (s : SensorStreamManager) (topic : String)
    (deviceIds : List String) (linkGraph : LinkGraph) (gatewayIp sensor : String) :
    let after := s.requestStreams topic deviceIds linkGraph
    let mapping := s.optimalMapping deviceIds linkGraph
    (after.1.localGatewayIp = s.localGatewayIp ∧
      after.1.sensorStreamRequests.get? topic = some ⟨deviceIds, mapping⟩) ∧
      (if gatewayIp = s.localGatewayIp then
          after.1.sensorStreamRouteTable.routeCount sensor s.localGatewayIp topic else 0) +
        registrations after.2 gatewayIp sensor s.localGatewayIp topic =
      (if gatewayIp = s.localGatewayIp then
          s.sensorStreamRouteTable.routeCount sensor s.localGatewayIp topic else 0) +
        ((mapping.get? gatewayIp).getD []).count sensor := by
  simp only [requestStreams]
  generalize s.optimalMapping deviceIds linkGraph = mapping
  have hfold := foldl_measure (m := provided gatewayIp sensor s.localGatewayIp topic)
    (I := fun progress ↦ progress.1.localGatewayIp = s.localGatewayIp ∧
      progress.1.sensorStreamRequests = s.sensorStreamRequests.set topic ⟨deviceIds, mapping⟩)
    (fun progress entry h ↦
      provided_provideFromGateway topic gatewayIp sensor _ _ progress entry h)
    mapping.ownEntries
    ({ s with
       sensorStreamRequests := s.sensorStreamRequests.set topic ⟨deviceIds, mapping⟩ }, [])
    ⟨rfl, rfl⟩
  refine ⟨⟨hfold.1.1, ?_⟩, hfold.2.trans ?_⟩
  · rw [hfold.1.2, JsObject.get?_set_self]
  · rw [JsObject.sum_ownEntries mapping gatewayIp fun devices ↦ devices.count sensor]
    cases mapping.get? gatewayIp <;> simp [provided]

end SensorStreamManager
end NexusEdge.Streams
