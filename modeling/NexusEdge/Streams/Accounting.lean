import NexusEdge.Streams.Provenance
import NexusEdge.Streams.TopicIsolation

/-!
# Accounts of routes

Library `Streams`. What the gateways route over a whole run, `sensor-stream-manager.js:88–261,
344–364,520–654`. Every set-up and every recomputation makes its assignment due, and each route that
is due is held by the table of its gateway, carried by a request under way, or was lost with a
request that failed. An application that is set up once and loses nothing is served by one gateway
for each of its sensors, whatever else happens on the platform.
-/

namespace NexusEdge.Streams
open NexusEdge.Base NexusEdge.Platform

/-- How often an event asks the gateway `g` to route (sensor, ip, topic). -/
def StreamEvent.due (g sensor ip topic : String) : StreamEvent → Nat
  | .requestStreams gatewayIp topic' deviceIds linkGraph =>
    if gatewayIp = ip ∧ topic' = topic then
      (Network.share linkGraph ip deviceIds g).count sensor
    else 0
  | .linkGraphArrives gatewayIp pending linkGraph =>
    -- The own gateway of the application is not asked again.
    if (gatewayIp = ip ∧ pending.topic = topic) ∧ g ≠ ip then
      (Network.share linkGraph ip pending.allRequiredSensors g).count sensor
    else 0
  | _ => 0

/-- How many of these routes an event loses. -/
def StreamEvent.lost (g sensor ip topic : String) : StreamEvent → Nat
  | .fail r => r.registrations g sensor ip topic
  | _ => 0

/-- The event sets the application up, finds its sensors again, or loses one of its requests. -/
def StreamEvent.Concerns (ip topic : String) : StreamEvent → Prop
  | .requestStreams gatewayIp topic' _ _ => gatewayIp = ip ∧ topic' = topic
  | .linkGraphArrives gatewayIp pending _ => gatewayIp = ip ∧ pending.topic = topic
  | .fail r => r.params.ip = ip ∧ r.params.topic = topic
  | _ => False

/-- An event that does not concern the application makes nothing due and loses nothing. -/
theorem StreamEvent.due_lost_of_not_concerns {ip topic : String} {e : StreamEvent}
    (h : ¬ e.Concerns ip topic) (g sensor : String) :
    e.due g sensor ip topic = 0 ∧ e.lost g sensor ip topic = 0 := by
  cases e with
  | requestStreams gatewayIp topic' deviceIds linkGraph => exact ⟨if_neg h, rfl⟩
  | linkGraphArrives gatewayIp pending linkGraph => exact ⟨if_neg fun h' ↦ h h'.1, rfl⟩
  | fail r => exact ⟨rfl, RemoteRequest.registrations_of_ne h g sensor⟩
  | detectFailure gatewayIp mqttTopic => exact ⟨rfl, rfl⟩
  | linkGraphFails gatewayIp pending => exact ⟨rfl, rfl⟩
  | deliver r => exact ⟨rfl, rfl⟩
  | accept r => exact ⟨rfl, rfl⟩

namespace SensorStreamManager

/-- Routes and requests are added for one application of the gateway only. -/
structure Adds (s : SensorStreamManager) (topic : String)
    (progress : SensorStreamManager × List RemoteRequest) : Prop where
  localGatewayIp : progress.1.localGatewayIp = s.localGatewayIp
  routes : ∀ sensor ip topic', ¬ (s.localGatewayIp = ip ∧ topic = topic') →
    progress.1.sensorStreamRouteTable.routeCount sensor ip topic' =
      s.sensorStreamRouteTable.routeCount sensor ip topic'
  grows : ∀ sensor ip topic', s.sensorStreamRouteTable.routeCount sensor ip topic' ≤
    progress.1.sensorStreamRouteTable.routeCount sensor ip topic'
  requests : ∀ r ∈ progress.2, r.params.ip = s.localGatewayIp ∧ r.params.topic = topic

/-- One gateway of the assignment. -/
theorem Adds.provideFromGateway {s : SensorStreamManager} {topic : String}
    {progress : SensorStreamManager × List RemoteRequest} (h : s.Adds topic progress)
    (entry : String × List String) : s.Adds topic (provideFromGateway topic progress entry) := by
  obtain ⟨s', requests⟩ := progress
  simp only [SensorStreamManager.provideFromGateway]
  split
  · next hlocal =>
    refine ⟨h.localGatewayIp, fun sensor ip topic' hne ↦ ?_, fun sensor ip topic' ↦ ?_, h.requests⟩
    · rw [RouteTable.routeCount_registerToLocalGateway, h.routes sensor ip topic' hne, if_neg]
      · rfl
      · rintro ⟨rfl, rfl⟩
        exact hne ⟨(hlocal.trans h.localGatewayIp).symm, rfl⟩
    · rw [RouteTable.routeCount_registerToLocalGateway]
      exact (h.grows sensor ip topic').trans (Nat.le_add_right _ _)
  · refine ⟨h.localGatewayIp, h.routes, h.grows, fun r hr ↦ ?_⟩
    rcases List.mem_append.mp hr with hr | hr
    · exact h.requests r hr
    · rw [List.mem_singleton.mp hr]
      exact ⟨h.localGatewayIp, rfl⟩

/-- Set-up adds for its own application. -/
theorem adds_requestStreams (s : SensorStreamManager) (topic : String) (deviceIds : List String)
    (linkGraph : LinkGraph) : s.Adds topic (s.requestStreams topic deviceIds linkGraph) := by
  unfold requestStreams
  apply foldl_invariant
  · exact fun entry _ progress h ↦ h.provideFromGateway entry
  · exact ⟨rfl, fun _ _ _ _ ↦ rfl, fun _ _ _ ↦ Nat.le_refl _,
      fun r hr ↦ absurd hr List.not_mem_nil⟩

/-- The handler of a failure changes no route, and asks only for deregistration. -/
theorem handleRemoteGatewayFailure_frame (s : SensorStreamManager) (mqttTopic : String) :
    let after := s.handleRemoteGatewayFailure mqttTopic
    after.1.localGatewayIp = s.localGatewayIp ∧
      after.1.sensorStreamRouteTable = s.sensorStreamRouteTable ∧
      ∀ r ∈ after.2.1, r.kind = .deregister := by
  intro after
  cases hrequest : s.sensorStreamRequests.get? (failureTopic mqttTopic) with
  | none =>
    have hafter : after = (s, [], []) := by
      simp only [after, handleRemoteGatewayFailure, hrequest]
    rw [hafter]
    exact ⟨rfl, rfl, fun r hr ↦ absurd hr List.not_mem_nil⟩
  | some request =>
    obtain ⟨hip, htable, hkind, _⟩ := handleRemoteGatewayFailure_spec hrequest
    exact ⟨hip, htable, hkind⟩

end SensorStreamManager

namespace Network

variable {n t : Network} {es : List StreamEvent}

/-- Routes held, and routes under way. -/
def account (n : Network) (g sensor ip topic : String) : Nat :=
  n.routes g sensor ip topic + registrations n.inFlight g sensor ip topic

/-- Set-up makes the assignment due. -/
theorem account_requestStreams (hn : n.Addressed) (gatewayIp topic' : String)
    (deviceIds : List String) (linkGraph : LinkGraph) (g sensor ip topic : String) :
    (n.requestStreams gatewayIp topic' deviceIds linkGraph).account g sensor ip topic =
      n.account g sensor ip topic +
        (StreamEvent.requestStreams gatewayIp topic' deviceIds linkGraph).due g sensor ip
          topic := by
  have hroutes := routes_withManager n gatewayIp
    ((n.managers gatewayIp).requestStreams topic' deviceIds linkGraph).1 g sensor ip topic
  have haccount : (n.requestStreams gatewayIp topic' deviceIds linkGraph).account g sensor ip
      topic = (n.withManager gatewayIp
        ((n.managers gatewayIp).requestStreams topic' deviceIds linkGraph).1).routes g sensor ip
          topic +
        (registrations n.inFlight g sensor ip topic + registrations
          ((n.managers gatewayIp).requestStreams topic' deviceIds linkGraph).2 g sensor ip
            topic) := by
    rw [← registrations_append]
    rfl
  rw [haccount, hroutes, account]
  by_cases happ : gatewayIp = ip ∧ topic' = topic
  · have hdue : (StreamEvent.requestStreams gatewayIp topic' deviceIds linkGraph).due g sensor ip
        topic = (share linkGraph ip deviceIds g).count sensor := if_pos happ
    rw [hdue]
    obtain ⟨rfl, rfl⟩ := happ
    obtain ⟨_, hspec⟩ :=
      (n.managers gatewayIp).requestStreams_spec topic' deviceIds linkGraph g sensor
    rw [SensorStreamManager.optimalMapping, hn gatewayIp] at hspec
    change _ = _ + (share linkGraph gatewayIp deviceIds g).count sensor at hspec
    by_cases hg : g = gatewayIp
    · subst hg
      rw [if_pos rfl, if_pos rfl] at hspec
      rw [if_pos rfl, routes]
      omega
    · rw [if_neg hg, if_neg hg] at hspec
      rw [if_neg hg]
      omega
  · obtain ⟨_, hsame, _, hparams⟩ :=
      (n.managers gatewayIp).adds_requestStreams topic' deviceIds linkGraph
    rw [hn gatewayIp] at hsame hparams
    have hnone : registrations ((n.managers gatewayIp).requestStreams topic' deviceIds linkGraph).2
        g sensor ip topic = 0 := registrations_of_ne
      (fun r hr h ↦ happ ⟨(hparams r hr).1.symm.trans h.1, (hparams r hr).2.symm.trans h.2⟩)
      g sensor
    have hdue : (StreamEvent.requestStreams gatewayIp topic' deviceIds linkGraph).due g sensor ip
        topic = 0 := if_neg happ
    rw [hdue, hnone, hsame sensor ip topic happ]
    split
    · next hg =>
      subst hg
      rfl
    · rfl

/-- The detection of a failure makes nothing due. -/
theorem account_detectFailure (hn : n.Addressed) (gatewayIp mqttTopic g sensor ip topic : String) :
    (n.detectFailure gatewayIp mqttTopic).Addressed ∧
      (n.detectFailure gatewayIp mqttTopic).account g sensor ip topic =
        n.account g sensor ip topic := by
  obtain ⟨hip, htable, hkind⟩ :=
    (n.managers gatewayIp).handleRemoteGatewayFailure_frame mqttTopic
  refine ⟨addressed_withManager hn hip, ?_⟩
  have hroutes := routes_withManager_of_table n htable g sensor ip topic
  have hnone := registrations_of_deregister hkind g sensor ip topic
  show routes _ g sensor ip topic + registrations (n.inFlight ++ _) g sensor ip topic = _
  rw [registrations_append, hnone, Nat.add_zero]
  exact congrArg (· + _) hroutes

/-- A recomputation makes the assignment due at the remote gateways. -/
theorem account_linkGraphArrives (hn : n.Addressed) {gatewayIp : String} {pending : Recomputation}
    {linkGraph : LinkGraph}
    (ht : streamStep n (.linkGraphArrives gatewayIp pending linkGraph) = some t)
    (g sensor ip topic : String) :
    t.Addressed ∧ t.account g sensor ip topic = n.account g sensor ip topic +
      (StreamEvent.linkGraphArrives gatewayIp pending linkGraph).due g sensor ip topic := by
  simp only [streamStep, step] at ht
  split at ht
  · obtain rfl := Option.some.inj ht
    obtain ⟨hip, htable, _⟩ := (n.managers gatewayIp).recomputeStreams_frame pending linkGraph
    refine ⟨addressed_withManager hn hip, ?_⟩
    have hroutes := routes_withManager_of_table n htable g sensor ip topic
    show routes _ g sensor ip topic + registrations (n.inFlight ++ _) g sensor ip topic = _
    have hdue : registrations ((n.managers gatewayIp).recomputeStreams pending linkGraph).2 g sensor
        ip topic = (StreamEvent.linkGraphArrives gatewayIp pending linkGraph).due g sensor ip
          topic := by
      rw [StreamEvent.due]
      by_cases happ : gatewayIp = ip ∧ pending.topic = topic
      · obtain ⟨rfl, rfl⟩ := happ
        have hrecomputed := registrations_recomputed hn gatewayIp pending.topic
          pending.allRequiredSensors linkGraph g sensor
        rw [hrecomputed]
        by_cases hg : g = gatewayIp
        · rw [if_pos hg, if_neg fun h ↦ h.2 hg]
        · rw [if_neg hg, if_pos ⟨⟨rfl, rfl⟩, hg⟩]
      · rw [if_neg fun h ↦ happ h.1]
        apply registrations_of_ne
        intro r hr h
        rw [SensorStreamManager.requests_recomputeStreams] at hr
        obtain ⟨hsender, htopic⟩ := SensorStreamManager.params_of_mem_registerToRemoteGateways hr
        rw [hn gatewayIp] at hsender
        exact happ ⟨hsender.symm.trans h.1, htopic.symm.trans h.2⟩
    rw [registrations_append, hdue, account, ← Nat.add_assoc]
    exact congrArg (· + _ + _) hroutes
  · cases ht

/-- What an event makes due is added to the account, what it loses is taken away. -/
theorem account_step (hn : n.Addressed) {e : StreamEvent} (ht : streamStep n e = some t)
    (g sensor ip topic : String) :
    t.Addressed ∧ t.account g sensor ip topic + e.lost g sensor ip topic =
      n.account g sensor ip topic + e.due g sensor ip topic := by
  cases e with
  | requestStreams gatewayIp topic' deviceIds linkGraph =>
    obtain rfl := Option.some.inj ht
    exact ⟨addressed_requestStreams hn gatewayIp topic' deviceIds linkGraph,
      account_requestStreams hn gatewayIp topic' deviceIds linkGraph g sensor ip topic⟩
  | detectFailure gatewayIp mqttTopic =>
    obtain rfl := Option.some.inj ht
    exact account_detectFailure hn gatewayIp mqttTopic g sensor ip topic
  | linkGraphArrives gatewayIp pending linkGraph =>
    exact account_linkGraphArrives hn ht g sensor ip topic
  | linkGraphFails gatewayIp pending =>
    simp only [streamStep, dropRecomputation] at ht
    split at ht
    · obtain rfl := Option.some.inj ht
      exact ⟨hn, rfl⟩
    · cases ht
  | deliver r =>
    simp only [streamStep, step] at ht
    split at ht
    · next hr =>
      obtain rfl := Option.some.inj ht
      refine ⟨addressed_withManager hn (process_frame (n.managers r.recipient) r).1, ?_⟩
      have hroutes := routes_deliver n r g sensor ip topic
      have herase := registrations_erase hr.1 g sensor ip topic
      show routes _ g sensor ip topic + registrations (n.inFlight.erase r) g sensor ip topic =
        n.routes g sensor ip topic + registrations n.inFlight g sensor ip topic
      refine Eq.trans (congrArg (· + _) hroutes) ?_
      omega
    · cases ht
  | fail r =>
    simp only [streamStep, step] at ht
    split at ht
    · next hr =>
      obtain rfl := Option.some.inj ht
      have herase := registrations_erase hr.1 g sensor ip topic
      refine ⟨hn, ?_⟩
      show n.routes g sensor ip topic + registrations (n.inFlight.erase r) g sensor ip topic +
        r.registrations g sensor ip topic =
          n.routes g sensor ip topic + registrations n.inFlight g sensor ip topic
      omega
    · cases ht
  | accept r =>
    simp only [streamStep, step] at ht
    split at ht
    · obtain rfl := Option.some.inj ht
      obtain ⟨hip, htable, _⟩ :=
        (n.managers r.params.ip).registrationAccepted_frame r.params.heartbeatTopic
      refine ⟨addressed_withManager hn hip, ?_⟩
      have hroutes := routes_withManager_of_table n htable g sensor ip topic
      show routes _ g sensor ip topic + registrations n.inFlight g sensor ip topic =
        n.routes g sensor ip topic + registrations n.inFlight g sensor ip topic
      exact congrArg (· + _) hroutes
    · cases ht

/-- After start-up every manager knows its own ip, and has a client for it. -/
theorem addressed_initial : initial.Addressed ∧ ∀ g, (initial.managers g).Connected :=
  ⟨fun g ↦ (SensorStreamManager.justified_initial g).localGatewayIp,
    SensorStreamManager.connected_initial⟩

/-- The manager that changes stays connected. -/
theorem connected_withManager (h : ∀ g, (n.managers g).Connected) {gatewayIp : String}
    {s : SensorStreamManager} (hs : s.Connected) (g : String) :
    ((n.withManager gatewayIp s).managers g).Connected := by
  simp only [withManager]
  by_cases hg : g = gatewayIp
  · rw [hg, Function.update_self]
    exact hs
  · rw [Function.update_of_ne hg]
    exact h g

/-- Every step keeps the managers connected. -/
theorem connected_streamStep (h : ∀ g, (n.managers g).Connected) {e : StreamEvent}
    (ht : streamStep n e = some t) : ∀ g, (t.managers g).Connected := by
  cases e with
  | requestStreams gatewayIp topic deviceIds linkGraph =>
    obtain rfl := Option.some.inj ht
    exact connected_withManager h
      (SensorStreamManager.connected_requestStreams (h gatewayIp) topic deviceIds linkGraph)
  | detectFailure gatewayIp mqttTopic =>
    obtain rfl := Option.some.inj ht
    exact connected_withManager h
      (SensorStreamManager.connected_handleRemoteGatewayFailure (h gatewayIp) mqttTopic)
  | linkGraphArrives gatewayIp pending linkGraph =>
    simp only [streamStep, step] at ht
    split at ht
    · obtain rfl := Option.some.inj ht
      exact connected_withManager h
        (SensorStreamManager.connected_recomputeStreams (h gatewayIp) pending linkGraph)
    · cases ht
  | linkGraphFails gatewayIp pending =>
    simp only [streamStep, dropRecomputation] at ht
    split at ht
    · obtain rfl := Option.some.inj ht
      exact h
    · cases ht
  | deliver r =>
    simp only [streamStep, step] at ht
    split at ht
    · obtain rfl := Option.some.inj ht
      refine connected_withManager h ?_
      unfold SensorStreamManager.process
      cases r.kind with
      | register => exact SensorStreamManager.connected_registerTopic (h r.recipient) r.params
      | deregister => exact SensorStreamManager.connected_deregisterTopic (h r.recipient) r.params
    · cases ht
  | fail r =>
    simp only [streamStep, step] at ht
    split at ht
    · obtain rfl := Option.some.inj ht
      exact h
    · cases ht
  | accept r =>
    simp only [streamStep, step] at ht
    split at ht
    · obtain rfl := Option.some.inj ht
      exact connected_withManager h
        (SensorStreamManager.connected_registrationAccepted (h r.params.ip) r.params.heartbeatTopic)
    · cases ht

/-- In every run each route that is due is held, under way or lost. -/
theorem account_run (ht : run streamStep initial es = some t) (g sensor ip topic : String) :
    t.account g sensor ip topic + (es.map (StreamEvent.lost g sensor ip topic)).sum =
      (es.map (StreamEvent.due g sensor ip topic)).sum := by
  refine (run_history streamStep (P := fun before n ↦ n.Addressed ∧
    n.account g sensor ip topic + (before.map (StreamEvent.lost g sensor ip topic)).sum =
      (before.map (StreamEvent.due g sensor ip topic)).sum) ?_ es [] ⟨addressed_initial.1, rfl⟩
    ht).2
  rintro before n e t ⟨hn, h⟩ ht
  obtain ⟨haddr, hstep⟩ := account_step hn ht g sensor ip topic
  refine ⟨haddr, ?_⟩
  simp only [List.map_append, List.map_singleton, List.sum_append_nat, List.sum_singleton]
  omega

/-- In every run a reading is published as often as it is routed, unless that is blocked. -/
theorem count_published_run (ht : run streamStep initial es = some t) (g : String)
    (isBlocked : String → String → String → Bool) (sensor ip topic : String) :
    ((t.managers g).routeSensorStreamsToApps isBlocked sensor).count (ip, topic) =
      if isBlocked sensor ip topic then 0 else t.routes g sensor ip topic := by
  have hconnected : ∀ g, (t.managers g).Connected :=
    run_invariant streamStep (fun _ _ _ h ht ↦ connected_streamStep h ht) es
      addressed_initial.2 ht
  exact (hconnected g).routed.count_published isBlocked sensor ip topic

private theorem sum_map_eq_zero {f : StreamEvent → Nat} {es : List StreamEvent}
    (h : ∀ e ∈ es, f e = 0) : (es.map f).sum = 0 := by
  rw [List.sum_eq_zero_iff_forall_eq_nat]
  intro m hm
  obtain ⟨e, he, rfl⟩ := List.mem_map.mp hm
  exact h e he

/-- No registration of the application is under way. -/
def Quiet (n : Network) (ip topic : String) : Prop :=
  ∀ g sensor, registrations n.inFlight g sensor ip topic = 0

/-- An application for which nothing is under way is quiet. -/
theorem Settled.quiet {ip topic : String} (h : n.Settled ip topic) : n.Quiet ip topic :=
  registrations_of_ne h.1

/-- An application that is set up once is routed its shares, once they are not under way. -/
theorem routes_of_quiet {before after : List StreamEvent} {ip topic : String}
    {deviceIds : List String} {linkGraph : LinkGraph}
    (ht : run streamStep initial
      (before ++ .requestStreams ip topic deviceIds linkGraph :: after) = some t)
    (hother : ∀ e ∈ before ++ after, ¬ e.Concerns ip topic) (hquiet : t.Quiet ip topic)
    (g sensor : String) :
    t.routes g sensor ip topic = (share linkGraph ip deviceIds g).count sensor := by
  have haccount := account_run ht g sensor ip topic
  rw [account] at haccount
  have hnone (e : StreamEvent) (he : e ∈ before ++ after) :=
    StreamEvent.due_lost_of_not_concerns (hother e he) g sensor
  have hbefore (e : StreamEvent) (he : e ∈ before) := hnone e (List.mem_append_left _ he)
  have hafter (e : StreamEvent) (he : e ∈ after) := hnone e (List.mem_append_right _ he)
  simp only [hquiet g sensor, List.map_append, List.map_cons, List.sum_append_nat,
    List.sum_cons] at haccount
  rw [sum_map_eq_zero fun e he ↦ (hbefore e he).1, sum_map_eq_zero fun e he ↦ (hbefore e he).2,
    sum_map_eq_zero fun e he ↦ (hafter e he).1,
    sum_map_eq_zero fun e he ↦ (hafter e he).2] at haccount
  have hdue : (StreamEvent.requestStreams ip topic deviceIds linkGraph).due g sensor ip topic =
      (share linkGraph ip deviceIds g).count sensor := if_pos ⟨rfl, rfl⟩
  have hlost : (StreamEvent.requestStreams ip topic deviceIds linkGraph).lost g sensor ip topic =
      0 := rfl
  omega

/-- Only required sensors are in a share. -/
theorem required_of_mem_share {linkGraph : LinkGraph} {ip g sensor : String}
    {deviceIds : List String} (h : sensor ∈ share linkGraph ip deviceIds g) : sensor ∈ deviceIds :=
  ((mem_assigned_getHostGateways deviceIds linkGraph g sensor).mp
    (optimal_subset ip _ (mem_share_iff.mp h))).1

end Network
end NexusEdge.Streams
