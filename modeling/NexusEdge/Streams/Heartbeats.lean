import NexusEdge.Streams.Failover

/-!
# Heartbeats

Library `Streams`. The two kinds of timers of a manager, `sensor-stream-manager.js:181–194` with
the timers of `108–114,224–234,595–654`: a gateway that forwards publishes heartbeats, the gateway
of the application starts its diagnostic timer anew with each. Whatever the manager does, routes
and stream requests stay, and heartbeats go on until their own deregistration.
-/

namespace NexusEdge.Streams
open NexusEdge.Base NexusEdge.Platform

namespace SensorStreamManager

/-- `handleHeartbeatMessage`, `sensor-stream-manager.js:181–194`. -/
def handleHeartbeatMessage (s : SensorStreamManager) (mqttTopic : String) :
    SensorStreamManager :=
  match s.heartbeatDiagnosticTimers.get? mqttTopic with
  | some timer =>
    let (handle, timers) := (s.timers.clear timer).set (.remoteGatewayFailure mqttTopic)
    { s with
      heartbeatDiagnosticTimers := s.heartbeatDiagnosticTimers.set mqttTopic handle
      timers := timers }
  | none => s

/-- A heartbeat of the topic is published to the broker at the ip again and again. -/
def Publishes (s : SensorStreamManager) (ip heartbeatTopic : String) : Prop :=
  ∃ handle ms, (handle, TimerCallback.sendHeartbeat ip heartbeatTopic ms) ∈ s.timers.pending

/-- The two tables of timers lead to their own callbacks. -/
structure Linked (s : SensorStreamManager) : Prop where
  distinct : s.timers.Distinct
  publish : s.timers.Names s.heartbeatPublishTimers fun heartbeatTopic callback ↦
    ∃ ip ms, callback = .sendHeartbeat ip heartbeatTopic ms
  diagnostic : s.timers.Names s.heartbeatDiagnosticTimers fun heartbeatTopic callback ↦
    callback = .remoteGatewayFailure heartbeatTopic

/-- What stays of the streams: the routes, the stored requests, and the heartbeats that are not
stopped. -/
structure Keeps (stopped : String → Prop) (s t : SensorStreamManager) : Prop where
  linked : t.Linked
  routes : ∀ sensor ip topic, s.sensorStreamRouteTable.routeCount sensor ip topic ≤
    t.sensorStreamRouteTable.routeCount sensor ip topic
  requests : ∀ topic, s.sensorStreamRequests.hasOwn topic → t.sensorStreamRequests.hasOwn topic
  heartbeats : ∀ ip heartbeatTopic, ¬ stopped heartbeatTopic →
    s.Publishes ip heartbeatTopic → t.Publishes ip heartbeatTopic

namespace Keeps

variable {stopped stopped' : String → Prop} {s t u : SensorStreamManager}

/-- Nothing happens. -/
theorem refl (hs : s.Linked) : Keeps stopped s s :=
  ⟨hs, fun _ _ _ ↦ le_refl _, fun _ h ↦ h, fun _ _ _ h ↦ h⟩

/-- One after the other. -/
theorem trans (h : Keeps stopped s t) (h' : Keeps stopped t u) : Keeps stopped s u :=
  ⟨h'.linked, fun sensor ip topic ↦ (h.routes sensor ip topic).trans (h'.routes sensor ip topic),
    fun topic hs ↦ h'.requests topic (h.requests topic hs),
    fun ip heartbeatTopic hstopped hs ↦
      h'.heartbeats ip heartbeatTopic hstopped (h.heartbeats ip heartbeatTopic hstopped hs)⟩

/-- More may be stopped. -/
theorem mono (h : Keeps stopped s t) (hle : ∀ heartbeatTopic, stopped heartbeatTopic →
    stopped' heartbeatTopic) : Keeps stopped' s t :=
  ⟨h.linked, h.routes, h.requests, fun ip heartbeatTopic hstopped ↦
    h.heartbeats ip heartbeatTopic fun h ↦ hstopped (hle heartbeatTopic h)⟩

/-- Timers stay as they are. -/
theorem of_timers (hs : s.Linked)
    (hroutes : ∀ sensor ip topic, s.sensorStreamRouteTable.routeCount sensor ip topic ≤
      t.sensorStreamRouteTable.routeCount sensor ip topic)
    (hrequests : ∀ topic, s.sensorStreamRequests.hasOwn topic → t.sensorStreamRequests.hasOwn topic)
    (htimers : t.timers = s.timers)
    (hpublish : t.heartbeatPublishTimers = s.heartbeatPublishTimers)
    (hdiagnostic : t.heartbeatDiagnosticTimers = s.heartbeatDiagnosticTimers) :
    Keeps stopped s t := by
  refine ⟨⟨?_, ?_, ?_⟩, hroutes, hrequests, ?_⟩
  · rw [htimers]
    exact hs.distinct
  · rw [htimers, hpublish]
    exact hs.publish
  · rw [htimers, hdiagnostic]
    exact hs.diagnostic
  · simp only [Publishes, htimers]
    exact fun _ _ _ h ↦ h

end Keeps

/-! ### The operations -/

variable {stopped : String → Prop} {s : SensorStreamManager}

/-- A client is registered. -/
theorem keeps_registerMQTTClient (hs : s.Linked) (ip : String) :
    Keeps stopped s (s.registerMQTTClient ip) := by
  unfold registerMQTTClient
  split
  · exact Keeps.refl hs
  · exact Keeps.of_timers hs (fun _ _ _ ↦ le_refl _) (fun _ h ↦ h) rfl rfl rfl

/-- A started manager has no timers. -/
theorem linked_initial (localGatewayIp : String) : (initial localGatewayIp).Linked := by
  have hclient : Keeps (fun _ ↦ False) _ (initial localGatewayIp) :=
    keeps_registerMQTTClient ⟨Timers.distinct_empty, Timers.names_empty _ _,
      Timers.names_empty _ _⟩ localGatewayIp
  exact hclient.linked

/-- A registration adds routes and starts a heartbeat. -/
theorem keeps_registerTopic (hs : s.Linked) (params : TopicParams) :
    Keeps stopped s (s.registerTopic params) := by
  have hclient : Keeps stopped s (s.registerMQTTClient params.ip) :=
    keeps_registerMQTTClient hs params.ip
  refine hclient.trans ⟨⟨?_, ?_, ?_⟩, fun sensor ip topic ↦ ?_, fun _ h ↦ h, ?_⟩
  · exact hclient.linked.distinct.set _
  · -- A handle that is stored leads to the interval; under `__proto__` none is.
    change Timers.Names _ (JsObject.assignValue _ _ _) _
    unfold JsObject.assignValue
    split
    · exact hclient.linked.publish.set _
    · exact hclient.linked.publish.store hclient.linked.distinct ⟨_, _, rfl⟩
  · exact hclient.linked.diagnostic.set _
  · rw [routeTable_registerTopic, routeTable_registerMQTTClient,
      RouteTable.routeCount_registerToLocalGateway]
    exact Nat.le_add_right _ _
  · rintro ip heartbeatTopic _ ⟨handle, ms, hmem⟩
    exact ⟨handle, ms, List.mem_append_left _ hmem⟩

/-- A withdrawn diagnostic timer is no heartbeat. -/
theorem Linked.publishes_clear_diagnostic (hs : s.Linked) {timerId : String} {handle : Nat}
    (hget : s.heartbeatDiagnosticTimers.get? timerId = some handle) {handle' : Nat}
    {ip heartbeatTopic : String} {ms : Nat}
    (h : (handle', TimerCallback.sendHeartbeat ip heartbeatTopic ms) ∈ s.timers.pending) :
    (handle', TimerCallback.sendHeartbeat ip heartbeatTopic ms) ∈
      (s.timers.clear handle).pending := by
  refine Timers.mem_clear h ?_
  rintro rfl
  cases (hs.diagnostic timerId handle' hget).2 _ h

/-- A deregistration takes no route away and stops its own heartbeat. -/
theorem keeps_deregisterTopic (hs : s.Linked) {params : TopicParams}
    (hstopped : stopped params.heartbeatTopic) : Keeps stopped s (s.deregisterTopic params) := by
  have hclient : Keeps stopped s (s.registerMQTTClient params.ip) :=
    keeps_registerMQTTClient hs params.ip
  have hroutes : ∀ sensor ip topic, s.sensorStreamRouteTable.routeCount sensor ip topic ≤
      (s.deregisterTopic params).sensorStreamRouteTable.routeCount sensor ip topic := by
    intro sensor ip topic
    rw [routeTable_deregisterTopic, RouteTable.routeCount_deregisterFromLocalGateway]
  have hrequests : ∀ topic, s.sensorStreamRequests.hasOwn topic →
      (s.deregisterTopic params).sensorStreamRequests.hasOwn topic := by
    intro topic h
    rw [(s.deregisterTopic_frame params).2]
    exact h
  have hlinked := hclient.linked
  have hheartbeats := hclient.heartbeats
  refine ⟨?_, hroutes, hrequests, ?_⟩
  · simp only [deregisterTopic]
    split
    · exact ⟨hlinked.distinct.clear _, (hlinked.publish.clear _).erase _, hlinked.diagnostic.clear _⟩
    · exact ⟨hlinked.distinct, hlinked.publish, hlinked.diagnostic⟩
  · intro ip heartbeatTopic hne hpublishes
    obtain ⟨handle, ms, hmem⟩ := hheartbeats ip heartbeatTopic hne hpublishes
    refine ⟨handle, ms, ?_⟩
    simp only [deregisterTopic]
    split
    · next handle' hget =>
      refine Timers.mem_clear hmem ?_
      rintro rfl
      obtain ⟨_, _, hcallback⟩ := (hlinked.publish _ _ hget).2 _ hmem
      cases hcallback
      exact hne hstopped
    · exact hmem

/-- Withdrawal of a diagnostic timer. -/
theorem keeps_stopDiagnosticTimer (hs : s.Linked) (timerId : String) :
    Keeps stopped s (s.stopDiagnosticTimer timerId) := by
  unfold stopDiagnosticTimer
  split
  · next handle hget =>
    refine ⟨⟨hs.distinct.clear _, hs.publish.clear _, (hs.diagnostic.clear _).erase _⟩,
      fun _ _ _ ↦ le_refl _, fun _ h ↦ h, ?_⟩
    rintro ip heartbeatTopic _ ⟨handle', ms, hmem⟩
    exact ⟨handle', ms, hs.publishes_clear_diagnostic hget hmem⟩
  · exact Keeps.refl hs

/-- A heartbeat starts its diagnostic timer anew. -/
theorem keeps_handleHeartbeatMessage (hs : s.Linked) (mqttTopic : String) :
    Keeps stopped s (s.handleHeartbeatMessage mqttTopic) := by
  unfold handleHeartbeatMessage
  split
  · next timer hget =>
    have hcleared := hs.distinct.clear timer
    refine ⟨⟨hcleared.set _, (hs.publish.clear _).set _,
      (hs.diagnostic.clear _).store hcleared rfl⟩, fun _ _ _ ↦ le_refl _, fun _ h ↦ h, ?_⟩
    rintro ip heartbeatTopic _ ⟨handle, ms, hmem⟩
    exact ⟨handle, ms, List.mem_append_left _ (hs.publishes_clear_diagnostic hget hmem)⟩
  · exact Keeps.refl hs

/-- An accepted registration starts a diagnostic timer. -/
theorem keeps_registrationAccepted (hs : s.Linked) (heartbeatTopic : String) :
    Keeps stopped s (s.registrationAccepted heartbeatTopic) := by
  refine ⟨⟨hs.distinct.set _, hs.publish.set _, hs.diagnostic.store hs.distinct rfl⟩,
    fun _ _ _ ↦ le_refl _, fun _ h ↦ h, ?_⟩
  rintro ip heartbeatTopic' _ ⟨handle, ms, hmem⟩
  exact ⟨handle, ms, List.mem_append_left _ hmem⟩

/-- A diagnostic timer that expires is no longer pending. -/
theorem keeps_expired (hs : s.Linked) {handle : Nat} {mqttTopic : String}
    (hmem : (handle, TimerCallback.remoteGatewayFailure mqttTopic) ∈ s.timers.pending) :
    Keeps stopped s { s with timers := s.timers.clear handle } := by
  refine ⟨⟨hs.distinct.clear _, hs.publish.clear _, hs.diagnostic.clear _⟩,
    fun _ _ _ ↦ le_refl _, fun _ h ↦ h, ?_⟩
  rintro ip heartbeatTopic _ ⟨handle', ms, hmem'⟩
  refine ⟨handle', ms, Timers.mem_clear hmem' ?_⟩
  rintro rfl
  cases hs.distinct.eq hmem hmem'

/-- The handler of a failure only withdraws diagnostic timers. -/
theorem keeps_handleRemoteGatewayFailure (hs : s.Linked) (mqttTopic : String) :
    Keeps stopped s (s.handleRemoteGatewayFailure mqttTopic).1 := by
  simp only [handleRemoteGatewayFailure]
  split
  · apply foldl_invariant (P := fun progress : SensorStreamManager × List RemoteRequest ↦
      Keeps stopped s progress.1)
    · intro entry _ progress hprogress
      exact hprogress.trans (keeps_stopDiagnosticTimer hprogress.linked _)
    · exact Keeps.refl hs
  · exact Keeps.refl hs

/-- A recomputation replaces the stored assignment. -/
theorem keeps_recomputeStreams (hs : s.Linked) (pending : Recomputation) (linkGraph : LinkGraph) :
    Keeps stopped s (s.recomputeStreams pending linkGraph).1 := by
  refine Keeps.of_timers hs (fun _ _ _ ↦ le_refl _) (fun topic h ↦ ?_) rfl rfl rfl
  simp only [recomputeStreams]
  rw [JsObject.hasOwn_modify]
  exact h

/-- Set-up adds routes and stores the request. -/
theorem keeps_requestStreams (hs : s.Linked) (topic : String) (deviceIds : List String)
    (linkGraph : LinkGraph) : Keeps stopped s (s.requestStreams topic deviceIds linkGraph).1 := by
  simp only [requestStreams]
  apply foldl_invariant (P := fun progress : SensorStreamManager × List RemoteRequest ↦
    Keeps stopped s progress.1)
  · intro entry _ progress hprogress
    simp only [provideFromGateway]
    split
    · refine hprogress.trans (Keeps.of_timers hprogress.linked (fun sensor ip topic ↦ ?_)
        (fun _ h ↦ h) rfl rfl rfl)
      rw [RouteTable.routeCount_registerToLocalGateway]
      exact Nat.le_add_right _ _
    · exact hprogress
  · refine Keeps.of_timers hs (fun _ _ _ ↦ le_refl _) (fun topic' h ↦ ?_) rfl rfl rfl
    rw [JsObject.hasOwn_set, h]
    exact Bool.or_true _

end SensorStreamManager

/-! ### The network -/

namespace Network

/-- The operation of one manager. -/
theorem keeps_withManager {stopped : String → String → Prop} {n : Network}
    (hn : ∀ g, (n.managers g).Linked) (gatewayIp : String) {s : SensorStreamManager}
    (h : (n.managers gatewayIp).Keeps (stopped gatewayIp) s) (g : String) :
    (n.managers g).Keeps (stopped g) ((n.withManager gatewayIp s).managers g) := by
  simp only [withManager]
  by_cases hg : g = gatewayIp
  · rw [hg, Function.update_self]
    exact h
  · rw [Function.update_of_ne hg]
    exact SensorStreamManager.Keeps.refl (hn g)

/-- Streams are set up at one gateway. -/
theorem keeps_requestStreams {stopped : String → String → Prop} {n : Network}
    (hn : ∀ g, (n.managers g).Linked) (gatewayIp topic : String) (deviceIds : List String)
    (linkGraph : LinkGraph) (g : String) :
    (n.managers g).Keeps (stopped g)
      ((n.requestStreams gatewayIp topic deviceIds linkGraph).managers g) :=
  keeps_withManager hn gatewayIp
    (SensorStreamManager.keeps_requestStreams (hn gatewayIp) topic deviceIds linkGraph) g

/-- A failure is detected at one gateway. -/
theorem keeps_detectFailure {stopped : String → String → Prop} {n : Network}
    (hn : ∀ g, (n.managers g).Linked) (gatewayIp mqttTopic g : String) :
    (n.managers g).Keeps (stopped g) ((n.detectFailure gatewayIp mqttTopic).managers g) :=
  keeps_withManager hn gatewayIp
    (SensorStreamManager.keeps_handleRemoteGatewayFailure (hn gatewayIp) mqttTopic) g

/-- A recomputation is given up. -/
theorem keeps_dropRecomputation {stopped : String → String → Prop} {n t : Network}
    (hn : ∀ g, (n.managers g).Linked) {gatewayIp : String} {pending : Recomputation}
    (ht : n.dropRecomputation gatewayIp pending = some t) (g : String) :
    (n.managers g).Keeps (stopped g) (t.managers g) := by
  unfold dropRecomputation at ht
  split at ht
  · cases ht
    exact SensorStreamManager.Keeps.refl (hn g)
  · cases ht

/-- A failure detected for a stored request makes a recomputation wait. -/
theorem awaiting_detectFailure {n : Network} {gatewayIp mqttTopic : String}
    (h : (n.managers gatewayIp).sensorStreamRequests.hasOwn (failureTopic mqttTopic)) :
    ∃ pending, (gatewayIp, pending) ∈ (n.detectFailure gatewayIp mqttTopic).awaiting ∧
      pending.topic = failureTopic mqttTopic := by
  obtain ⟨request, hrequest⟩ := (JsObject.hasOwn_iff _ _).mp h
  have hspec := (SensorStreamManager.handleRemoteGatewayFailure_spec hrequest).2.2.2
  refine ⟨⟨failureTopic mqttTopic, request.sensorIds⟩, ?_, rfl⟩
  simp only [detectFailure, hspec, List.map_singleton]
  exact List.mem_append_right _ (List.mem_singleton_self _)

/-- The event is the deregistration of a heartbeat at the gateway. -/
def Stops (e : NetworkEvent) (gatewayIp heartbeatTopic : String) : Prop :=
  ∃ r, e = .deliver r ∧ r.kind = .deregister ∧ r.recipient = gatewayIp ∧
    r.params.heartbeatTopic = heartbeatTopic

/-- Every step of the network keeps the streams. -/
theorem keeps_step {linkGraph : LinkGraph} {live : String → Bool} {n t : Network}
    {e : NetworkEvent} (hn : ∀ g, (n.managers g).Linked) (ht : step linkGraph live n e = some t)
    (g : String) : (n.managers g).Keeps (Stops e g) (t.managers g) := by
  cases e with
  | linkGraphArrives gatewayIp pending =>
    simp only [step] at ht
    split at ht
    · cases ht
      refine keeps_withManager hn gatewayIp ?_ g
      exact SensorStreamManager.keeps_recomputeStreams (hn gatewayIp) pending linkGraph
    · cases ht
  | deliver r =>
    simp only [step] at ht
    split at ht
    · cases ht
      refine keeps_withManager hn r.recipient ?_ g
      unfold SensorStreamManager.process
      split
      · exact SensorStreamManager.keeps_registerTopic (hn r.recipient) r.params
      · next hkind =>
        exact SensorStreamManager.keeps_deregisterTopic (hn r.recipient) ⟨r, rfl, hkind, rfl, rfl⟩
    · cases ht
  | fail r =>
    simp only [step] at ht
    split at ht
    · cases ht
      exact SensorStreamManager.Keeps.refl (hn g)
    · cases ht
  | accept r =>
    simp only [step] at ht
    split at ht
    · cases ht
      refine keeps_withManager hn r.params.ip ?_ g
      exact SensorStreamManager.keeps_registrationAccepted (hn r.params.ip) r.params.heartbeatTopic
    · cases ht

end Network
end NexusEdge.Streams
