import NexusEdge.Streams.Requests

/-!
# Failover between gateways

Library `Streams`. The managers of all gateways, the requests and acknowledgements under
way between them, and the recomputations that wait for a link graph,
`sensor-stream-manager.js:88–261,605–654` with the routes of
`gateway-api-controller.js:262–272`. Whatever the order of deliveries, the occurrences a
route table holds plus those still under way never change; a deregistration takes none
away. Failover therefore restores the forwarding only of sensors that no live gateway
forwarded before.
-/

namespace NexusEdge.Streams
open NexusEdge.Base NexusEdge.Platform

/-- Processing of a delivered request, `gateway-api-controller.js:262–272`. -/
def SensorStreamManager.process (s : SensorStreamManager) (r : RemoteRequest) :
    SensorStreamManager :=
  match r.kind with
  | .register => s.registerTopic r.params
  | .deregister => s.deregisterTopic r.params

/-- The managers by gateway ip and what is under way between them. -/
structure Network where
  managers : String → SensorStreamManager
  /-- Requests posted and not yet processed. -/
  inFlight : List RemoteRequest
  /-- Registrations whose status 200 has not reached the sender. -/
  accepted : List RemoteRequest
  /-- Recomputations waiting for the link graph, with their gateway. -/
  awaiting : List (String × Recomputation)

/-- What can happen next in the network. -/
inductive NetworkEvent where
  | linkGraphArrives (gatewayIp : String) (pending : Recomputation)
  | deliver (r : RemoteRequest)
  | fail (r : RemoteRequest)
  | accept (r : RemoteRequest)
  deriving DecidableEq

namespace Network

/-- The manager of one gateway changes. -/
def withManager (n : Network) (gatewayIp : String) (s : SensorStreamManager) : Network :=
  { n with managers := Function.update n.managers gatewayIp s }

/-- The diagnostic timer of the heartbeat topic expires at the gateway. -/
def detectFailure (n : Network) (gatewayIp mqttTopic : String) : Network :=
  let after := (n.managers gatewayIp).handleRemoteGatewayFailure mqttTopic
  { n.withManager gatewayIp after.1 with
    inFlight := n.inFlight ++ after.2.1
    awaiting := n.awaiting ++ after.2.2.map fun pending ↦ (gatewayIp, pending) }

/-- An application asks the gateway for its streams. -/
def requestStreams (n : Network) (gatewayIp topic : String) (deviceIds : List String)
    (linkGraph : LinkGraph) : Network :=
  let after := (n.managers gatewayIp).requestStreams topic deviceIds linkGraph
  { n.withManager gatewayIp after.1 with inFlight := n.inFlight ++ after.2 }

section Steps

variable (linkGraph : LinkGraph) (live : String → Bool)

/-- One step: the served link graph arrives, a request is processed by its live recipient
or given up at a dead one, or an acknowledgement arrives. -/
def step (n : Network) : NetworkEvent → Option Network
  | .linkGraphArrives gatewayIp pending =>
    if (gatewayIp, pending) ∈ n.awaiting then
      let after := (n.managers gatewayIp).recomputeStreams pending linkGraph
      some { n.withManager gatewayIp after.1 with
        inFlight := n.inFlight ++ after.2
        awaiting := n.awaiting.erase (gatewayIp, pending) }
    else none
  | .deliver r =>
    if r ∈ n.inFlight ∧ live r.recipient then
      some { n.withManager r.recipient ((n.managers r.recipient).process r) with
        inFlight := n.inFlight.erase r
        accepted := if r.kind = .register then n.accepted ++ [r] else n.accepted }
    else none
  | .fail r =>
    if r ∈ n.inFlight ∧ ¬ live r.recipient then
      some { n with inFlight := n.inFlight.erase r }
    else none
  | .accept r =>
    if r ∈ n.accepted then
      some { n.withManager r.params.ip
          ((n.managers r.params.ip).registrationAccepted r.params.heartbeatTopic) with
        accepted := n.accepted.erase r }
    else none

end Steps

/-- The request for the link graph is rejected: `sensor-stream-manager.js:237` has no handler
for it. -/
def dropRecomputation (n : Network) (gatewayIp : String) (pending : Recomputation) :
    Option Network :=
  if (gatewayIp, pending) ∈ n.awaiting then
    some { n with awaiting := n.awaiting.erase (gatewayIp, pending) }
  else none

/-- Every manager knows its own ip. -/
def Addressed (n : Network) : Prop := ∀ gatewayIp, (n.managers gatewayIp).localGatewayIp = gatewayIp

/-- Nothing is under way for the application of the gateway. -/
def Settled (n : Network) (gatewayIp topic : String) : Prop :=
  (∀ r ∈ n.inFlight, ¬ (r.params.ip = gatewayIp ∧ r.params.topic = topic)) ∧
    ∀ a ∈ n.awaiting, ¬ (a.1 = gatewayIp ∧ a.2.topic = topic)

/-- How often the route table of a gateway holds (sensor, ip, topic). -/
def routes (n : Network) (gatewayIp sensor ip topic : String) : Nat :=
  (n.managers gatewayIp).sensorStreamRouteTable.routeCount sensor ip topic

/-- Registrations that the recomputations will ask for once the link graph arrives. -/
def awaited (linkGraph : LinkGraph) (n : Network) (pending : List (String × Recomputation))
    (gatewayIp sensor ip topic : String) : Nat :=
  (pending.map fun a ↦ registrations ((n.managers a.1).recomputeStreams a.2 linkGraph).2
    gatewayIp sensor ip topic).sum

/-- Occurrences held by the route table, carried by requests, or still to be requested. -/
def expectedRoutes (linkGraph : LinkGraph) (n : Network) (gatewayIp sensor ip topic : String) :
    Nat :=
  n.routes gatewayIp sensor ip topic + registrations n.inFlight gatewayIp sensor ip topic +
    awaited linkGraph n n.awaiting gatewayIp sensor ip topic

/-! ### Steps conserve the expected routes -/

/-- Only the manager that changes may route something else. -/
theorem routes_withManager (n : Network) (gatewayIp : String) (s : SensorStreamManager)
    (g sensor ip topic : String) :
    (n.withManager gatewayIp s).routes g sensor ip topic =
      if g = gatewayIp then s.sensorStreamRouteTable.routeCount sensor ip topic
      else n.routes g sensor ip topic := by
  simp only [routes, withManager]
  split
  · next hg => rw [hg, Function.update_self]
  · next hg => rw [Function.update_of_ne hg]

/-- With the same route table the same is routed. -/
theorem routes_withManager_of_table (n : Network) {gatewayIp : String}
    {s : SensorStreamManager}
    (h : s.sensorStreamRouteTable = (n.managers gatewayIp).sensorStreamRouteTable)
    (g sensor ip topic : String) :
    (n.withManager gatewayIp s).routes g sensor ip topic = n.routes g sensor ip topic := by
  rw [routes_withManager]
  split
  · next hg => rw [h, hg, routes]
  · rfl

/-- A manager that keeps its ip. -/
theorem addressed_withManager {n : Network} (hn : n.Addressed) {gatewayIp : String}
    {s : SensorStreamManager} (h : s.localGatewayIp = (n.managers gatewayIp).localGatewayIp) :
    (n.withManager gatewayIp s).Addressed := by
  intro g
  simp only [withManager]
  by_cases hg : g = gatewayIp
  · rw [hg, Function.update_self, h, hn]
  · rw [Function.update_of_ne hg, hn]

private theorem awaited_congr {n t : Network} (hn : n.Addressed) (ht : t.Addressed)
    (linkGraph : LinkGraph) (pending : List (String × Recomputation))
    (g sensor ip topic : String) :
    awaited linkGraph t pending g sensor ip topic =
      awaited linkGraph n pending g sensor ip topic := by
  refine congrArg List.sum (List.map_congr_left fun a _ ↦ ?_)
  rw [SensorStreamManager.recomputeStreams_congr ((ht a.1).trans (hn a.1).symm)]

private theorem awaited_erase (linkGraph : LinkGraph) (n : Network)
    {pending : List (String × Recomputation)} {a : String × Recomputation} (h : a ∈ pending)
    (g sensor ip topic : String) :
    awaited linkGraph n pending g sensor ip topic =
      registrations ((n.managers a.1).recomputeStreams a.2 linkGraph).2 g sensor ip topic +
        awaited linkGraph n (pending.erase a) g sensor ip topic := by
  rw [awaited, ((List.perm_cons_erase h).map _).sum_nat, List.map_cons, List.sum_cons, awaited]

/-- One request less carries its registrations less. -/
theorem registrations_erase {rs : List RemoteRequest} {r : RemoteRequest} (h : r ∈ rs)
    (g sensor ip topic : String) :
    registrations rs g sensor ip topic =
      r.registrations g sensor ip topic + registrations (rs.erase r) g sensor ip topic := by
  rw [registrations, ((List.perm_cons_erase h).map _).sum_nat, List.map_cons, List.sum_cons,
    registrations]

private theorem routeCount_process (s : SensorStreamManager) (r : RemoteRequest)
    (sensor ip topic : String) :
    (s.process r).sensorStreamRouteTable.routeCount sensor ip topic =
      s.sensorStreamRouteTable.routeCount sensor ip topic +
        r.registrations r.recipient sensor ip topic := by
  unfold SensorStreamManager.process RemoteRequest.registrations
  cases r.kind with
  | register =>
    simp only [SensorStreamManager.routeTable_registerTopic,
      RouteTable.routeCount_registerToLocalGateway, true_and, eq_comm]
  | deregister =>
    simp only [SensorStreamManager.routeTable_deregisterTopic,
      RouteTable.routeCount_deregisterFromLocalGateway, Nat.add_zero]

/-- Processing a request leaves the ip and the stored requests alone. -/
theorem process_frame (s : SensorStreamManager) (r : RemoteRequest) :
    (s.process r).localGatewayIp = s.localGatewayIp ∧
      (s.process r).sensorStreamRequests = s.sensorStreamRequests := by
  unfold SensorStreamManager.process
  cases r.kind with
  | register => exact s.registerTopic_frame r.params
  | deregister => exact s.deregisterTopic_frame r.params

private theorem registrations_of_recipient_ne {r : RemoteRequest} {g : String}
    (h : r.recipient ≠ g) (sensor ip topic : String) : r.registrations g sensor ip topic = 0 := by
  unfold RemoteRequest.registrations
  cases r.kind with
  | register => exact if_neg fun hr ↦ h hr.1
  | deregister => rfl

/-- A processed request makes its recipient route what it carries. -/
theorem routes_deliver (n : Network) (r : RemoteRequest) (g sensor ip topic : String) :
    (n.withManager r.recipient ((n.managers r.recipient).process r)).routes g sensor ip topic =
      n.routes g sensor ip topic + r.registrations g sensor ip topic := by
  rw [routes_withManager]
  split
  · next hg => rw [routeCount_process, hg, routes]
  · next hg => rw [registrations_of_recipient_ne (Ne.symm hg), Nat.add_zero]

private theorem expectedRoutes_eq {n t : Network} (hn : n.Addressed) (ht : t.Addressed)
    (linkGraph : LinkGraph) {g sensor ip topic : String} {held : Nat}
    (hroutes : t.routes g sensor ip topic = held) :
    t.expectedRoutes linkGraph g sensor ip topic = held +
      registrations t.inFlight g sensor ip topic +
      awaited linkGraph n t.awaiting g sensor ip topic := by
  rw [expectedRoutes, hroutes, awaited_congr hn ht]

private theorem expectedRoutes_linkGraphArrives {n : Network} {linkGraph : LinkGraph}
    {gatewayIp : String} {pending : Recomputation} (h : (gatewayIp, pending) ∈ n.awaiting)
    (g sensor ip topic : String) :
    n.expectedRoutes linkGraph g sensor ip topic = n.routes g sensor ip topic +
      registrations (n.inFlight ++ ((n.managers gatewayIp).recomputeStreams pending linkGraph).2)
        g sensor ip topic +
      awaited linkGraph n (n.awaiting.erase (gatewayIp, pending)) g sensor ip topic := by
  have herase := awaited_erase linkGraph n h g sensor ip topic
  simp only at herase
  rw [expectedRoutes, herase, registrations_append]
  omega

private theorem expectedRoutes_deliver {n : Network} {linkGraph : LinkGraph} {r : RemoteRequest}
    (h : r ∈ n.inFlight) (g sensor ip topic : String) :
    n.expectedRoutes linkGraph g sensor ip topic =
      (n.routes g sensor ip topic + r.registrations g sensor ip topic) +
        registrations (n.inFlight.erase r) g sensor ip topic +
        awaited linkGraph n n.awaiting g sensor ip topic := by
  rw [expectedRoutes, registrations_erase h]
  omega

/-- Every step conserves the expected routes of the live gateways. -/
theorem step_spec {linkGraph : LinkGraph} {live : String → Bool} {n t : Network}
    {e : NetworkEvent} (hn : n.Addressed) (h : step linkGraph live n e = some t) :
    t.Addressed ∧ ∀ g, live g → ∀ sensor ip topic,
      t.expectedRoutes linkGraph g sensor ip topic =
        n.expectedRoutes linkGraph g sensor ip topic := by
  cases e with
  | linkGraphArrives gatewayIp pending =>
    simp only [step] at h
    split at h
    · next hmem =>
      obtain rfl := Option.some.inj h
      obtain ⟨hip, htable, _⟩ := (n.managers gatewayIp).recomputeStreams_frame pending linkGraph
      have haddr := addressed_withManager hn hip
      refine ⟨haddr, fun g _ sensor ip topic ↦ ?_⟩
      have hroutes := routes_withManager_of_table n htable g sensor ip topic
      rw [expectedRoutes_linkGraphArrives hmem]
      refine expectedRoutes_eq hn ?_ linkGraph ?_
      · exact haddr
      · exact hroutes
    · cases h
  | deliver r =>
    simp only [step] at h
    split at h
    · next hr =>
      obtain rfl := Option.some.inj h
      have haddr := addressed_withManager hn (process_frame (n.managers r.recipient) r).1
      refine ⟨haddr, fun g _ sensor ip topic ↦ ?_⟩
      have hroutes := routes_deliver n r g sensor ip topic
      rw [expectedRoutes_deliver hr.1]
      refine expectedRoutes_eq hn ?_ linkGraph ?_
      · exact haddr
      · exact hroutes
    · cases h
  | fail r =>
    simp only [step] at h
    split at h
    · next hr =>
      obtain rfl := Option.some.inj h
      refine ⟨hn, fun g hg sensor ip topic ↦ ?_⟩
      have hne : r.recipient ≠ g := fun he ↦ hr.2 (he ▸ hg)
      have herase := registrations_erase hr.1 g sensor ip topic
      rw [registrations_of_recipient_ne hne, Nat.zero_add] at herase
      rw [expectedRoutes_eq hn hn linkGraph rfl, expectedRoutes, herase]
      rfl
    · cases h
  | accept r =>
    simp only [step] at h
    split at h
    · next hr =>
      obtain rfl := Option.some.inj h
      obtain ⟨hip, htable, _⟩ :=
        (n.managers r.params.ip).registrationAccepted_frame r.params.heartbeatTopic
      have haddr := addressed_withManager hn hip
      refine ⟨haddr, fun g _ sensor ip topic ↦ ?_⟩
      have hroutes := routes_withManager_of_table n htable g sensor ip topic
      refine expectedRoutes_eq hn ?_ linkGraph ?_
      · exact haddr
      · exact hroutes
    · cases h

/-- Every run conserves the expected routes of the live gateways. -/
theorem run_spec {linkGraph : LinkGraph} {live : String → Bool} {n t : Network}
    {events : List NetworkEvent} (hn : n.Addressed)
    (h : run (step linkGraph live) n events = some t) :
    t.Addressed ∧ ∀ g, live g → ∀ sensor ip topic,
      t.expectedRoutes linkGraph g sensor ip topic =
        n.expectedRoutes linkGraph g sensor ip topic := by
  refine run_invariant (step linkGraph live) (P := fun m : Network ↦ m.Addressed ∧
    ∀ g, live g → ∀ sensor ip topic, m.expectedRoutes linkGraph g sensor ip topic =
      n.expectedRoutes linkGraph g sensor ip topic) ?_ events ⟨hn, fun _ _ _ _ _ ↦ rfl⟩ h
  intro m e m' ⟨haddr, hm⟩ hstep
  obtain ⟨haddr', hm'⟩ := step_spec haddr hstep
  refine ⟨haddr', fun g hg sensor ip topic ↦ ?_⟩
  rw [hm' g hg, hm g hg]

/-- Once nothing is under way for an application, the expected routes are the routes held. -/
theorem expectedRoutes_of_settled {n : Network} (hn : n.Addressed) {ip topic : String}
    (h : n.Settled ip topic) (linkGraph : LinkGraph) (g sensor : String) :
    n.expectedRoutes linkGraph g sensor ip topic = n.routes g sensor ip topic := by
  have hwait : awaited linkGraph n n.awaiting g sensor ip topic = 0 := by
    rw [awaited, List.sum_eq_zero_iff_forall_eq_nat]
    intro k hk
    obtain ⟨a, ha, rfl⟩ := List.mem_map.mp hk
    apply registrations_of_ne
    intro r hr
    rw [SensorStreamManager.requests_recomputeStreams] at hr
    obtain ⟨hip, htopic⟩ := SensorStreamManager.params_of_mem_registerToRemoteGateways hr
    rw [hip, htopic, hn a.1]
    exact h.2 a ha
  rw [expectedRoutes, registrations_of_ne h.1, hwait]
  rfl

/-! ### Failover -/

/-- The share of a gateway in the assignment for the sensors under the link graph. -/
def share (linkGraph : LinkGraph) (gatewayIp : String) (sensorIds : List String) (g : String) :
    List String :=
  ((getOptimalGatewayDeviceMapping gatewayIp (getHostGateways sensorIds linkGraph)).get? g).getD []

private theorem awaited_append (linkGraph : LinkGraph) (n : Network)
    (pending pending' : List (String × Recomputation)) (g sensor ip topic : String) :
    awaited linkGraph n (pending ++ pending') g sensor ip topic =
      awaited linkGraph n pending g sensor ip topic +
        awaited linkGraph n pending' g sensor ip topic := by
  simp only [awaited, List.map_append, List.sum_append_nat]

private theorem awaited_singleton (linkGraph : LinkGraph) (n : Network)
    (a : String × Recomputation) (g sensor ip topic : String) :
    awaited linkGraph n [a] g sensor ip topic =
      registrations ((n.managers a.1).recomputeStreams a.2 linkGraph).2 g sensor ip topic := by
  rw [awaited, List.map_singleton, List.sum_singleton]

/-- A recomputation asks each remote gateway for its share. -/
theorem registrations_recomputed {n : Network} (hn : n.Addressed)
    (gatewayIp topic : String) (sensorIds : List String) (linkGraph : LinkGraph)
    (g sensor : String) :
    registrations ((n.managers gatewayIp).recomputeStreams ⟨topic, sensorIds⟩ linkGraph).2
        g sensor gatewayIp topic =
      if g = gatewayIp then 0 else (share linkGraph gatewayIp sensorIds g).count sensor := by
  have h := (n.managers gatewayIp).registrations_registerToRemoteGateways
    ((n.managers gatewayIp).optimalMapping sensorIds linkGraph) topic g sensor
  rw [hn gatewayIp] at h
  rw [SensorStreamManager.requests_recomputeStreams, h, SensorStreamManager.optimalMapping,
    hn gatewayIp, share]

/-- After the failure is detected a gateway can expect the routes it holds and, unless it
is the application's own gateway, its share of the new assignment. -/
theorem expectedRoutes_detectFailure {n : Network} (hn : n.Addressed)
    {gatewayIp mqttTopic : String} {request : SensorStreamRequest}
    (hreq : (n.managers gatewayIp).sensorStreamRequests.get? (failureTopic mqttTopic) =
      some request)
    (hs : n.Settled gatewayIp (failureTopic mqttTopic)) (linkGraph : LinkGraph) :
    (n.detectFailure gatewayIp mqttTopic).Addressed ∧
      ∀ g sensor, (n.detectFailure gatewayIp mqttTopic).expectedRoutes linkGraph g sensor
          gatewayIp (failureTopic mqttTopic) =
        n.routes g sensor gatewayIp (failureTopic mqttTopic) +
          if g = gatewayIp then 0
          else (share linkGraph gatewayIp request.sensorIds g).count sensor := by
  obtain ⟨hip, htable, hkind, hpending⟩ :=
    SensorStreamManager.handleRemoteGatewayFailure_spec hreq
  have haddr := addressed_withManager hn hip
  refine ⟨haddr, fun g sensor ↦ ?_⟩
  have hroutes := routes_withManager_of_table n htable g sensor gatewayIp (failureTopic mqttTopic)
  have hdereg := registrations_of_deregister hkind g sensor gatewayIp (failureTopic mqttTopic)
  have hquiet := expectedRoutes_of_settled hn hs linkGraph g sensor
  have hrequested := registrations_recomputed hn gatewayIp (failureTopic mqttTopic)
    request.sensorIds linkGraph g sensor
  have hexpected : (n.detectFailure gatewayIp mqttTopic).expectedRoutes linkGraph g sensor
      gatewayIp (failureTopic mqttTopic) = n.routes g sensor gatewayIp (failureTopic mqttTopic) +
        registrations (n.detectFailure gatewayIp mqttTopic).inFlight g sensor gatewayIp
          (failureTopic mqttTopic) +
        awaited linkGraph n (n.detectFailure gatewayIp mqttTopic).awaiting g sensor gatewayIp
          (failureTopic mqttTopic) := by
    refine expectedRoutes_eq hn ?_ linkGraph ?_
    · exact haddr
    · exact hroutes
  simp only [detectFailure, hpending, List.map_singleton, registrations_append, hdereg,
    awaited_append, awaited_singleton, hrequested] at hexpected ⊢
  rw [expectedRoutes] at hquiet
  omega

/-! ### Set-up -/

private theorem requests_withManager (n : Network) {gatewayIp topic : String}
    {s : SensorStreamManager} {g : String}
    (h : g = gatewayIp → s.sensorStreamRequests.get? topic =
      (n.managers g).sensorStreamRequests.get? topic) :
    ((n.withManager gatewayIp s).managers g).sensorStreamRequests.get? topic =
      (n.managers g).sensorStreamRequests.get? topic := by
  simp only [withManager]
  by_cases hg : g = gatewayIp
  · rw [← h hg, hg, Function.update_self]
  · rw [Function.update_of_ne hg]

/-- While no recomputation of an application is pending, its stored request stays and none
becomes pending. -/
theorem stored_step {linkGraph : LinkGraph} {live : String → Bool} {n t : Network}
    {e : NetworkEvent} {gatewayIp topic : String}
    (hn : ∀ a ∈ n.awaiting, ¬ (a.1 = gatewayIp ∧ a.2.topic = topic))
    (h : step linkGraph live n e = some t) :
    (∀ a ∈ t.awaiting, ¬ (a.1 = gatewayIp ∧ a.2.topic = topic)) ∧
      (t.managers gatewayIp).sensorStreamRequests.get? topic =
        (n.managers gatewayIp).sensorStreamRequests.get? topic := by
  cases e with
  | linkGraphArrives g pending =>
    simp only [step] at h
    split at h
    · next hmem =>
      obtain rfl := Option.some.inj h
      refine ⟨fun a ha ↦ hn a (List.mem_of_mem_erase ha), ?_⟩
      apply requests_withManager n
      rintro rfl
      apply ((n.managers gatewayIp).recomputeStreams_frame pending linkGraph).2.2
      exact fun htopic ↦ hn _ hmem ⟨rfl, htopic.symm⟩
    · cases h
  | deliver r =>
    simp only [step] at h
    split at h
    · obtain rfl := Option.some.inj h
      refine ⟨hn, ?_⟩
      apply requests_withManager n
      intro hg
      rw [(process_frame _ r).2, hg]
    · cases h
  | fail r =>
    simp only [step] at h
    split at h
    · obtain rfl := Option.some.inj h
      exact ⟨hn, rfl⟩
    · cases h
  | accept r =>
    simp only [step] at h
    split at h
    · obtain rfl := Option.some.inj h
      refine ⟨hn, ?_⟩
      apply requests_withManager n
      intro hg
      rw [((n.managers r.params.ip).registrationAccepted_frame r.params.heartbeatTopic).2.2, hg]
    · cases h

/-- The application's streams are set up: the request is stored, nothing is under way, and
every live gateway routes exactly its share of the stored assignment. -/
structure Streaming (live : String → Bool) (n : Network) (gatewayIp topic : String)
    (request : SensorStreamRequest) : Prop where
  stored : (n.managers gatewayIp).sensorStreamRequests.get? topic = some request
  settled : n.Settled gatewayIp topic
  routed : ∀ g, live g → ∀ sensor ∈ request.sensorIds, n.routes g sensor gatewayIp topic =
    ((request.optimalGatewayDeviceMapping.get? g).getD []).count sensor

/-- Gateways that fail later do not disturb the others. -/
theorem Streaming.mono {live live' : String → Bool} {n : Network} {gatewayIp topic : String}
    {request : SensorStreamRequest} (h : Streaming live n gatewayIp topic request)
    (hlive : ∀ g, live' g → live g) : Streaming live' n gatewayIp topic request :=
  ⟨h.stored, h.settled, fun g hg ↦ h.routed g (hlive g hg)⟩

/-- Set-up keeps the ips. -/
theorem addressed_requestStreams {n : Network} (hn : n.Addressed) (gatewayIp topic : String)
    (deviceIds : List String) (linkGraph : LinkGraph) :
    (n.requestStreams gatewayIp topic deviceIds linkGraph).Addressed := by
  obtain ⟨⟨hip, _⟩, _⟩ :=
    (n.managers gatewayIp).requestStreams_spec topic deviceIds linkGraph gatewayIp topic
  have haddr := addressed_withManager hn hip
  exact haddr

private theorem expectedRoutes_requestStreams {n : Network} (hn : n.Addressed)
    {gatewayIp topic : String} (hs : n.Settled gatewayIp topic) (deviceIds : List String)
    (linkGraph : LinkGraph) (g sensor : String) :
    (n.requestStreams gatewayIp topic deviceIds linkGraph).expectedRoutes linkGraph g sensor
        gatewayIp topic =
      n.routes g sensor gatewayIp topic +
        (share linkGraph gatewayIp deviceIds g).count sensor := by
  obtain ⟨_, hspec⟩ :=
    (n.managers gatewayIp).requestStreams_spec topic deviceIds linkGraph g sensor
  rw [SensorStreamManager.optimalMapping, hn gatewayIp] at hspec
  change _ = _ + (share linkGraph gatewayIp deviceIds g).count sensor at hspec
  have hquiet := expectedRoutes_of_settled hn hs linkGraph g sensor
  rw [expectedRoutes] at hquiet
  have hroutes := routes_withManager n gatewayIp
    ((n.managers gatewayIp).requestStreams topic deviceIds linkGraph).1 g sensor gatewayIp topic
  have hexpected : (n.requestStreams gatewayIp topic deviceIds linkGraph).expectedRoutes linkGraph
      g sensor gatewayIp topic =
        (if g = gatewayIp then
          ((n.managers gatewayIp).requestStreams topic deviceIds
            linkGraph).1.sensorStreamRouteTable.routeCount sensor gatewayIp topic
          else n.routes g sensor gatewayIp topic) +
        registrations (n.requestStreams gatewayIp topic deviceIds linkGraph).inFlight g sensor
          gatewayIp topic +
        awaited linkGraph n (n.requestStreams gatewayIp topic deviceIds linkGraph).awaiting g sensor
          gatewayIp topic := by
    refine expectedRoutes_eq hn ?_ linkGraph ?_
    · exact addressed_requestStreams hn gatewayIp topic deviceIds linkGraph
    · exact hroutes
  simp only [requestStreams, withManager, registrations_append] at hexpected ⊢
  rw [hexpected]
  by_cases hg : g = gatewayIp
  · rw [if_pos hg, if_pos hg] at hspec
    rw [if_pos hg]
    have hheld : n.routes g sensor gatewayIp topic =
        (n.managers gatewayIp).sensorStreamRouteTable.routeCount sensor gatewayIp topic := by
      rw [hg, routes]
    omega
  · rw [if_neg hg, if_neg hg] at hspec
    rw [if_neg hg]
    omega

private theorem stored_requestStreams {n : Network} (hn : n.Addressed) (gatewayIp topic : String)
    (deviceIds : List String) (linkGraph : LinkGraph) :
    ((n.requestStreams gatewayIp topic deviceIds linkGraph).managers
        gatewayIp).sensorStreamRequests.get? topic =
      some ⟨deviceIds, getOptimalGatewayDeviceMapping gatewayIp
        (getHostGateways deviceIds linkGraph)⟩ := by
  obtain ⟨⟨_, hstored⟩, _⟩ :=
    (n.managers gatewayIp).requestStreams_spec topic deviceIds linkGraph gatewayIp topic
  rw [SensorStreamManager.optimalMapping, hn gatewayIp] at hstored
  rw [requestStreams, withManager]
  simp only [Function.update_self, hstored]

/-- While no recomputation of an application is pending, a run keeps its stored request. -/
theorem stored_run {linkGraph : LinkGraph} {live : String → Bool} {n t : Network}
    {events : List NetworkEvent} {gatewayIp topic : String}
    (hn : ∀ a ∈ n.awaiting, ¬ (a.1 = gatewayIp ∧ a.2.topic = topic))
    (hrun : run (step linkGraph live) n events = some t) :
    (t.managers gatewayIp).sensorStreamRequests.get? topic =
      (n.managers gatewayIp).sensorStreamRequests.get? topic := by
  have hkept := run_invariant (step linkGraph live) (P := fun m : Network ↦
    (∀ a ∈ m.awaiting, ¬ (a.1 = gatewayIp ∧ a.2.topic = topic)) ∧
      (m.managers gatewayIp).sensorStreamRequests.get? topic =
        (n.managers gatewayIp).sensorStreamRequests.get? topic)
    (fun m e m' hm hstep ↦ ⟨(stored_step hm.1 hstep).1, (stored_step hm.1 hstep).2.trans hm.2⟩)
    events ⟨hn, rfl⟩ hrun
  exact hkept.2

/-- Once the requests of a set-up are processed, the application's streams are set up. -/
theorem streaming_requestStreams {linkGraph : LinkGraph} {live : String → Bool}
    {n t : Network} {gatewayIp topic : String} {deviceIds : List String}
    {events : List NetworkEvent} (hn : n.Addressed) (hs : n.Settled gatewayIp topic)
    (hfresh : ∀ g, live g → ∀ sensor ∈ deviceIds, n.routes g sensor gatewayIp topic = 0)
    (hrun : run (step linkGraph live) (n.requestStreams gatewayIp topic deviceIds linkGraph)
      events = some t)
    (hsettled : t.Settled gatewayIp topic) :
    Streaming live t gatewayIp topic ⟨deviceIds, getOptimalGatewayDeviceMapping gatewayIp
      (getHostGateways deviceIds linkGraph)⟩ := by
  have haddr := addressed_requestStreams hn gatewayIp topic deviceIds linkGraph
  obtain ⟨haddr', hconserved⟩ := run_spec haddr hrun
  refine ⟨?_, hsettled, fun g hg sensor hsensor ↦ ?_⟩
  · have hquiet : ∀ a ∈ (n.requestStreams gatewayIp topic deviceIds linkGraph).awaiting,
        ¬ (a.1 = gatewayIp ∧ a.2.topic = topic) := hs.2
    rw [stored_run hquiet hrun, stored_requestStreams hn]
  · rw [← expectedRoutes_of_settled haddr' hsettled linkGraph, hconserved g hg,
      expectedRoutes_requestStreams hn hs, hfresh g hg sensor hsensor, Nat.zero_add, share]

/-! ### Recovery -/

/-- Exactly-one forwarding under the link graph: every required sensor listed by some
gateway is routed once, by the gateway of the recomputed assignment and by no other live
gateway; a live gateway that does not serve a sensor does not route it. -/
def Restored (linkGraph : LinkGraph) (live : String → Bool) (n : Network)
    (gatewayIp topic : String) (sensorIds : List String) : Prop :=
  (∀ sensor ∈ sensorIds, (∃ g, linkGraph.Lists g sensor) →
    ∃ k, live k ∧ sensor ∈ share linkGraph gatewayIp sensorIds k ∧
      n.routes k sensor gatewayIp topic = 1 ∧
      ∀ g, live g → g ≠ k → n.routes g sensor gatewayIp topic = 0) ∧
    ∀ g, live g → ∀ sensor ∈ sensorIds, sensor ∉ share linkGraph gatewayIp sensorIds g →
      n.routes g sensor gatewayIp topic = 0

/-- No live remote gateway served the sensor before the failure, and the application's own
gateway served it, once, exactly if it lists the sensor now. -/
def ServedAfresh (linkGraph : LinkGraph) (live : String → Bool) (gatewayIp : String)
    (old : JsObject (List String)) (sensor : String) : Prop :=
  (∀ g, live g → g ≠ gatewayIp → ((old.get? g).getD []).count sensor = 0) ∧
    (linkGraph.Lists gatewayIp sensor → ((old.get? gatewayIp).getD []).count sensor = 1) ∧
    (¬ linkGraph.Lists gatewayIp sensor → ((old.get? gatewayIp).getD []).count sensor = 0)

/-- The share is what is assigned. -/
theorem mem_share_iff {linkGraph : LinkGraph} {gatewayIp g sensor : String}
    {sensorIds : List String} : sensor ∈ share linkGraph gatewayIp sensorIds g ↔
      sensor ∈ assigned (getOptimalGatewayDeviceMapping gatewayIp
        (getHostGateways sensorIds linkGraph)) g :=
  mem_getD_iff _ g sensor

/-- A sensor is in the share of one gateway. -/
theorem share_unique {linkGraph : LinkGraph} {gatewayIp sensor : String}
    {sensorIds : List String} {g h : String} (hg : sensor ∈ share linkGraph gatewayIp sensorIds g)
    (hh : sensor ∈ share linkGraph gatewayIp sensorIds h) : g = h :=
  optimal_unique gatewayIp _ (mem_share_iff.mp hg) (mem_share_iff.mp hh)

/-- A share is listed. -/
theorem lists_of_mem_share {linkGraph : LinkGraph} {gatewayIp sensor : String}
    {sensorIds : List String} {g : String} (h : sensor ∈ share linkGraph gatewayIp sensorIds g) :
    linkGraph.Lists g sensor :=
  ((mem_assigned_getHostGateways sensorIds linkGraph g sensor).mp
    (optimal_subset gatewayIp _ (mem_share_iff.mp h))).2

/-- A required sensor that is listed is in some share. -/
theorem mem_share_of_lists {linkGraph : LinkGraph} (gatewayIp : String) {sensor : String}
    {sensorIds : List String} (hs : sensor ∈ sensorIds) {g : String}
    (h : linkGraph.Lists g sensor) : ∃ k, sensor ∈ share linkGraph gatewayIp sensorIds k := by
  obtain ⟨k, hk⟩ := optimal_complete gatewayIp _
    ((mem_assigned_getHostGateways sensorIds linkGraph g sensor).mpr ⟨hs, h⟩)
  exact ⟨k, mem_share_iff.mpr hk⟩

/-- The own gateway of the application serves what it lists. -/
theorem mem_local_share_iff {linkGraph : LinkGraph} {gatewayIp sensor : String}
    {sensorIds : List String} (hs : sensor ∈ sensorIds) :
    sensor ∈ share linkGraph gatewayIp sensorIds gatewayIp ↔
      linkGraph.Lists gatewayIp sensor := by
  constructor
  · exact lists_of_mem_share
  · intro h
    apply mem_share_iff.mpr
    apply optimal_local
    exact (mem_assigned_getHostGateways sensorIds linkGraph gatewayIp sensor).mpr ⟨hs, h⟩

/-- Remote gateways are assigned a sensor once. -/
theorem count_remote_share (linkGraph : LinkGraph) {gatewayIp g : String}
    (hg : g ≠ gatewayIp) (sensorIds : List String) (sensor : String) :
    (share linkGraph gatewayIp sensorIds g).count sensor =
      if sensor ∈ share linkGraph gatewayIp sensorIds g then 1 else 0 := by
  have hnodup : (share linkGraph gatewayIp sensorIds g).Nodup := by
    unfold share
    cases h : (getOptimalGatewayDeviceMapping gatewayIp
      (getHostGateways sensorIds linkGraph)).get? g with
    | none => exact List.nodup_nil
    | some devices => exact nodup_optimal_remote gatewayIp _ hg h
  exact hnodup.count

/-- Forwarding is restored when every live gateway routes its share once and nothing else. -/
theorem restored_iff {linkGraph : LinkGraph} {live : String → Bool} {n : Network}
    {gatewayIp topic : String} {sensorIds : List String}
    (hrecipients : ∀ g, share linkGraph gatewayIp sensorIds g ≠ [] → live g) :
    Restored linkGraph live n gatewayIp topic sensorIds ↔
      ∀ sensor ∈ sensorIds, ∀ g, live g → n.routes g sensor gatewayIp topic =
        if sensor ∈ share linkGraph gatewayIp sensorIds g then 1 else 0 := by
  constructor
  · rintro ⟨hone, hnone⟩ sensor hs g hg
    split
    · next hm =>
      obtain ⟨k, _, hmk, hk, _⟩ := hone sensor hs ⟨g, lists_of_mem_share hm⟩
      rw [share_unique hm hmk, hk]
    · next hm => exact hnone g hg sensor hs hm
  · intro h
    refine ⟨?_, ?_⟩
    · rintro sensor hs ⟨g, hg⟩
      obtain ⟨k, hk⟩ := mem_share_of_lists gatewayIp hs hg
      have hlive := hrecipients k (List.ne_nil_of_mem hk)
      refine ⟨k, hlive, hk, ?_, fun j hj hne ↦ ?_⟩
      · rw [h sensor hs k hlive, if_pos hk]
      · rw [h sensor hs j hj, if_neg fun hm ↦ hne (share_unique hm hk)]
    · intro g hg sensor hs hm
      rw [h sensor hs g hg, if_neg hm]

/-- Whatever the order of deliveries, failover restores exactly-one forwarding precisely
for applications all of whose required sensors are served afresh. -/
theorem failover_restores_iff {linkGraph : LinkGraph} {live : String → Bool} {n t : Network}
    {gatewayIp mqttTopic : String} {request : SensorStreamRequest} {events : List NetworkEvent}
    (hn : n.Addressed) (hstreaming : Streaming live n gatewayIp (failureTopic mqttTopic) request)
    (hlive : live gatewayIp)
    (hrecipients : ∀ g, share linkGraph gatewayIp request.sensorIds g ≠ [] → live g)
    (hrun : run (step linkGraph live) (n.detectFailure gatewayIp mqttTopic) events = some t)
    (hsettled : t.Settled gatewayIp (failureTopic mqttTopic)) :
    Restored linkGraph live t gatewayIp (failureTopic mqttTopic) request.sensorIds ↔
      ∀ sensor ∈ request.sensorIds,
        ServedAfresh linkGraph live gatewayIp request.optimalGatewayDeviceMapping sensor := by
  obtain ⟨haddr, hdetect⟩ := expectedRoutes_detectFailure hn hstreaming.stored hstreaming.settled
    linkGraph
  obtain ⟨haddr', hconserved⟩ := run_spec haddr hrun
  have hroutes (g : String) (hg : live g) (sensor : String) (hs : sensor ∈ request.sensorIds) :
      t.routes g sensor gatewayIp (failureTopic mqttTopic) =
        ((request.optimalGatewayDeviceMapping.get? g).getD []).count sensor +
          if g = gatewayIp then 0
          else if sensor ∈ share linkGraph gatewayIp request.sensorIds g then 1 else 0 := by
    rw [← expectedRoutes_of_settled haddr' hsettled linkGraph, hconserved g hg, hdetect,
      hstreaming.routed g hg sensor hs]
    split
    · rfl
    · next hne => rw [count_remote_share linkGraph hne]
  rw [restored_iff hrecipients]
  apply forall₂_congr
  intro sensor hs
  have hlocal := hroutes gatewayIp hlive sensor hs
  rw [if_pos rfl, Nat.add_zero] at hlocal
  constructor
  · intro h
    refine ⟨fun g hg hne ↦ ?_, fun hl ↦ ?_, fun hl ↦ ?_⟩
    · have hr := h g hg
      rw [hroutes g hg sensor hs, if_neg hne] at hr
      omega
    · rw [← hlocal, h gatewayIp hlive, if_pos ((mem_local_share_iff hs).mpr hl)]
    · rw [← hlocal, h gatewayIp hlive, if_neg fun hm ↦ hl ((mem_local_share_iff hs).mp hm)]
  · rintro ⟨hremote, hlisted, hunlisted⟩ g hg
    by_cases hne : g = gatewayIp
    · rw [hne, hlocal]
      split
      · next hm => exact hlisted ((mem_local_share_iff hs).mp hm)
      · next hm => exact hunlisted fun hl ↦ hm ((mem_local_share_iff hs).mpr hl)
    · rw [hroutes g hg sensor hs, if_neg hne, hremote g hg hne, Nat.zero_add]

/-! ### Two recoveries -/

private def gatewayData (ip : String) (sensors : List String) : GatewayData :=
  { ip := ip
    devices := sensors.map fun id ↦
      { id := id, type := "sensor", handlerId := "h", controllerId := "c"
        isStreamingDevice := true }
    apps := [] }

private def linkGraphOf (data : List (String × GatewayData)) : LinkGraph :=
  { graph := JsObject.empty
    data := data.foldl (fun o entry ↦ o.set entry.1 entry.2) JsObject.empty }

private def start : Network :=
  { managers := SensorStreamManager.initial, inFlight := [], accepted := [], awaiting := [] }

private def requestTo (kind : RequestKind) (ip : String) (sensors : List String) :
    RemoteRequest :=
  ⟨kind, ip, { ip := "10.0.0.1", sensors := sensors, topic := "app1"
               heartbeatTopic := "app1-" ++ ip, heartbeatTimeMs := heartbeatTimeMs }⟩

/-- Application `app1` at 10.0.0.1 is set up under the first link graph; 10.0.0.2 fails and
the second link graph is served. -/
private def scenario (before after : LinkGraph) (sensorIds : List String)
    (setUp recovery : List NetworkEvent) : Option (Network × Network) :=
  (run (step before fun _ ↦ true) (start.requestStreams "10.0.0.1" "app1" sensorIds before)
    setUp).bind fun n ↦
  (run (step after (· ≠ "10.0.0.2")) (n.detectFailure "10.0.0.1" "app1-10.0.0.2") recovery).map
    fun t ↦ (n, t)

private theorem scenario_spec {before after : LinkGraph} {sensorIds : List String}
    {setUp recovery : List NetworkEvent} {n t : Network}
    (h : scenario before after sensorIds setUp recovery = some (n, t))
    (hs : n.inFlight = [] ∧ n.awaiting = []) :
    n.Addressed ∧
      Streaming (· ≠ "10.0.0.2") n "10.0.0.1" (failureTopic "app1-10.0.0.2") ⟨sensorIds,
        getOptimalGatewayDeviceMapping "10.0.0.1" (getHostGateways sensorIds before)⟩ ∧
      run (step after (· ≠ "10.0.0.2")) (n.detectFailure "10.0.0.1" "app1-10.0.0.2") recovery =
        some t := by
  obtain ⟨m, hsetUp, hm⟩ := Option.bind_eq_some_iff.mp h
  obtain ⟨m', hrecovery, hpair⟩ := Option.map_eq_some_iff.mp hm
  obtain ⟨rfl, rfl⟩ := Prod.mk.inj hpair
  have haddr : start.Addressed := fun _ ↦ rfl
  have hsettled : m.Settled "10.0.0.1" "app1" := by simp [Settled, hs]
  have hstreaming := streaming_requestStreams haddr (by simp [Settled, start])
    (fun _ _ _ _ ↦ rfl) hsetUp hsettled
  have htopic : failureTopic "app1-10.0.0.2" = "app1" := by decide
  rw [htopic]
  exact ⟨(run_spec (addressed_requestStreams haddr _ _ _ _) hsetUp).1,
    hstreaming.mono fun _ _ ↦ rfl, hrecovery⟩

private def before : LinkGraph :=
  linkGraphOf [("b", gatewayData "10.0.0.2" ["s1"]), ("c", gatewayData "10.0.0.3" ["s2"])]

private def after : LinkGraph := linkGraphOf [("c", gatewayData "10.0.0.3" ["s1", "s2"])]

private theorem after_recipients (sensorIds : List String)
    (h : share after "10.0.0.1" sensorIds "10.0.0.2" = []) (g : String)
    (hg : share after "10.0.0.1" sensorIds g ≠ []) : decide (g ≠ "10.0.0.2") := by
  rw [decide_eq_true_eq]
  rintro rfl
  exact hg h

-- s2 comes from the surviving 10.0.0.3 before and after the failure.
private def survivor : Option (Network × Network) :=
  scenario before after ["s1", "s2"]
    [.deliver (requestTo .register "10.0.0.2" ["s1"]),
      .deliver (requestTo .register "10.0.0.3" ["s2"])]
    [.deliver (requestTo .deregister "10.0.0.3" ["s2"]),
      .linkGraphArrives "10.0.0.1" ⟨"app1", ["s1", "s2"]⟩,
      .deliver (requestTo .register "10.0.0.3" ["s1", "s2"])]

-- Only the failed gateway served the application.
private def replaced : Option (Network × Network) :=
  scenario before after ["s1"]
    [.deliver (requestTo .register "10.0.0.2" ["s1"])]
    [.linkGraphArrives "10.0.0.1" ⟨"app1", ["s1"]⟩,
      .deliver (requestTo .register "10.0.0.3" ["s1"])]

/-- A surviving gateway that keeps a sensor routes it twice after the recovery. -/
theorem failover_routes_twice :
    ¬ ∀ (linkGraph : LinkGraph) (live : String → Bool) (n t : Network)
      (gatewayIp mqttTopic : String) (request : SensorStreamRequest)
      (events : List NetworkEvent), n.Addressed →
      Streaming live n gatewayIp (failureTopic mqttTopic) request → live gatewayIp →
      (∀ g, share linkGraph gatewayIp request.sensorIds g ≠ [] → live g) →
      run (step linkGraph live) (n.detectFailure gatewayIp mqttTopic) events = some t →
      t.Settled gatewayIp (failureTopic mqttTopic) →
      Restored linkGraph live t gatewayIp (failureTopic mqttTopic) request.sensorIds := by
  intro h
  obtain ⟨⟨n, t⟩, hnt⟩ : ∃ p, survivor = some p := Option.isSome_iff_exists.mp (by decide)
  have hfacts : survivor.map (fun p ↦ (p.1.inFlight, p.1.awaiting, p.2.inFlight, p.2.awaiting)) =
      some ([], [], [], []) := by decide
  have htwice : survivor.map (fun p ↦ p.2.routes "10.0.0.3" "s2" "10.0.0.1" "app1") =
      some 2 := by decide
  simp only [hnt, Option.map_some, Option.some.injEq, Prod.mk.injEq] at hfacts htwice
  obtain ⟨hn₁, hn₂, ht₁, ht₂⟩ := hfacts
  obtain ⟨haddr, hstreaming, hrun⟩ := scenario_spec hnt ⟨hn₁, hn₂⟩
  have hsettled : t.Settled "10.0.0.1" (failureTopic "app1-10.0.0.2") := by
    simp [Settled, ht₁, ht₂]
  have hrestored := h after _ n t "10.0.0.1" "app1-10.0.0.2" _ _ haddr hstreaming rfl
    (after_recipients ["s1", "s2"] (by decide)) hrun hsettled
  obtain ⟨k, _, hk, hone, _⟩ := hrestored.1 "s2" (by decide)
    ⟨"10.0.0.3", "c", gatewayData "10.0.0.3" ["s1", "s2"], by decide, rfl, _,
      List.mem_of_getElem? (i := 1) rfl, rfl⟩
  have hkc : k = "10.0.0.3" := share_unique hk (by decide)
  have htopic : failureTopic "app1-10.0.0.2" = "app1" := by decide
  rw [hkc, htopic, htwice] at hone
  cases hone

/-- Replacing the only serving gateway restores the forwarding. -/
theorem failover_restores_replaced :
    ∃ n t, replaced = some (n, t) ∧ Restored after (· ≠ "10.0.0.2") t "10.0.0.1" "app1" ["s1"] := by
  obtain ⟨⟨n, t⟩, hnt⟩ : ∃ p, replaced = some p := Option.isSome_iff_exists.mp (by decide)
  have hfacts : replaced.map (fun p ↦ (p.1.inFlight, p.1.awaiting, p.2.inFlight, p.2.awaiting)) =
      some ([], [], [], []) := by decide
  simp only [hnt, Option.map_some, Option.some.injEq, Prod.mk.injEq] at hfacts
  obtain ⟨hn₁, hn₂, ht₁, ht₂⟩ := hfacts
  obtain ⟨haddr, hstreaming, hrun⟩ := scenario_spec hnt ⟨hn₁, hn₂⟩
  have hsettled : t.Settled "10.0.0.1" (failureTopic "app1-10.0.0.2") := by
    simp [Settled, ht₁, ht₂]
  have hiff := failover_restores_iff haddr hstreaming rfl
    (after_recipients ["s1"] (by decide)) hrun hsettled
  refine ⟨n, t, hnt, hiff.mpr ?_⟩
  intro sensor hs
  rw [List.mem_singleton.mp hs]
  refine ⟨fun g hg _ ↦ ?_, fun hl ↦ ?_, fun _ ↦ by decide⟩
  · apply List.count_eq_zero_of_not_mem
    intro hm
    have hgs : "s1" ∈ share before "10.0.0.1" ["s1"] g := by
      rw [share]
      exact hm
    have hb : "s1" ∈ share before "10.0.0.1" ["s1"] "10.0.0.2" := by decide
    have hne : g ≠ "10.0.0.2" := of_decide_eq_true hg
    exact hne (share_unique hgs hb)
  · have hn : "s1" ∉ share after "10.0.0.1" ["s1"] "10.0.0.1" := by decide
    exact False.elim (hn ((mem_local_share_iff List.mem_cons_self).mpr hl))

end Network
end NexusEdge.Streams
