import NexusEdge.Streams.Failover

/-!
# Where routes come from

Library `Streams`. The managers of all gateways with everything that can happen to them:
applications that ask for streams, failures that are detected, link graphs that arrive or do not,
and requests that are processed or given up, `sensor-stream-manager.js:88–261,520–654`. A gateway
only ever routes a sensor to an application that asked for it, and only if a link graph listed the
sensor there.
-/

namespace NexusEdge.Streams
open NexusEdge.Base NexusEdge.Platform

/-- What can happen at the gateways; link graphs are passed along. -/
inductive StreamEvent where
  | requestStreams (gatewayIp topic : String) (deviceIds : List String) (linkGraph : LinkGraph)
  | detectFailure (gatewayIp mqttTopic : String)
  | linkGraphArrives (gatewayIp : String) (pending : Recomputation) (linkGraph : LinkGraph)
  | linkGraphFails (gatewayIp : String) (pending : Recomputation)
  | deliver (r : RemoteRequest)
  | fail (r : RemoteRequest)
  | accept (r : RemoteRequest)

/-- The event needs no link graph. -/
def noLinkGraph : LinkGraph := ⟨.empty, .empty⟩

namespace Network

/-- All gateways after start-up. -/
def initial : Network := ⟨SensorStreamManager.initial, [], [], []⟩

/-- One event; none when it cannot happen. -/
def streamStep (n : Network) : StreamEvent → Option Network
  | .requestStreams gatewayIp topic deviceIds linkGraph =>
    some (n.requestStreams gatewayIp topic deviceIds linkGraph)
  | .detectFailure gatewayIp mqttTopic => some (n.detectFailure gatewayIp mqttTopic)
  | .linkGraphArrives gatewayIp pending linkGraph =>
    step linkGraph (fun _ ↦ true) n (.linkGraphArrives gatewayIp pending)
  | .linkGraphFails gatewayIp pending => n.dropRecomputation gatewayIp pending
  | .deliver r => step noLinkGraph (fun _ ↦ true) n (.deliver r)
  | .fail r => step noLinkGraph (fun _ ↦ false) n (.fail r)
  | .accept r => step noLinkGraph (fun _ ↦ true) n (.accept r)

end Network

/-- An application of the gateway asked for the sensor on its topic. -/
def Asked (es : List StreamEvent) (ip topic sensor : String) : Prop :=
  ∃ deviceIds linkGraph, .requestStreams ip topic deviceIds linkGraph ∈ es ∧ sensor ∈ deviceIds

/-- Some manager was served a link graph that lists the sensor at the gateway. -/
def Shown (es : List StreamEvent) (gatewayIp sensor : String) : Prop :=
  ∃ linkGraph : LinkGraph, linkGraph.Lists gatewayIp sensor ∧
    ((∃ ip topic deviceIds, .requestStreams ip topic deviceIds linkGraph ∈ es) ∨
      ∃ ip pending, .linkGraphArrives ip pending linkGraph ∈ es)

/-- What was asked for before was asked for. -/
theorem Asked.append {es : List StreamEvent} {ip topic sensor : String} (h : Asked es ip topic sensor)
    (e : StreamEvent) : Asked (es ++ [e]) ip topic sensor := by
  obtain ⟨deviceIds, linkGraph, hmem, hsensor⟩ := h
  exact ⟨deviceIds, linkGraph, List.mem_append_left _ hmem, hsensor⟩

/-- What was shown before was shown. -/
theorem Shown.append {es : List StreamEvent} {gatewayIp sensor : String}
    (h : Shown es gatewayIp sensor) (e : StreamEvent) : Shown (es ++ [e]) gatewayIp sensor := by
  obtain ⟨linkGraph, hlists, ⟨ip, topic, deviceIds, hmem⟩ | ⟨ip, pending, hmem⟩⟩ := h
  · exact ⟨linkGraph, hlists, Or.inl ⟨ip, topic, deviceIds, List.mem_append_left _ hmem⟩⟩
  · exact ⟨linkGraph, hlists, Or.inr ⟨ip, pending, List.mem_append_left _ hmem⟩⟩

/-- The routes of a manager were asked for and shown, the sensors it stores were asked for. -/
structure SensorStreamManager.Justified (es : List StreamEvent) (gatewayIp : String)
    (s : SensorStreamManager) : Prop where
  localGatewayIp : s.localGatewayIp = gatewayIp
  routed : ∀ sensor ip topic, 0 < s.sensorStreamRouteTable.routeCount sensor ip topic →
    Asked es ip topic sensor ∧ Shown es gatewayIp sensor
  stored : ∀ topic request, s.sensorStreamRequests.get? topic = some request →
    ∀ sensor ∈ request.sensorIds, Asked es gatewayIp topic sensor

/-- What a request registers was asked for and shown. -/
def RemoteRequest.Justified (es : List StreamEvent) (r : RemoteRequest) : Prop :=
  r.kind = .register → ∀ sensor ∈ r.params.sensors,
    Asked es r.params.ip r.params.topic sensor ∧ Shown es r.recipient sensor

/-- What a recomputation is for was asked for. -/
def Recomputation.Justified (es : List StreamEvent) (gatewayIp : String)
    (pending : Recomputation) : Prop :=
  ∀ sensor ∈ pending.allRequiredSensors, Asked es gatewayIp pending.topic sensor

/-- All of it is justified. -/
structure Network.Justified (es : List StreamEvent) (n : Network) : Prop where
  managers : ∀ gatewayIp, (n.managers gatewayIp).Justified es gatewayIp
  inFlight : ∀ r ∈ n.inFlight, r.Justified es
  awaiting : ∀ a ∈ n.awaiting, a.2.Justified es a.1

/-! ### The operations of a manager -/

namespace SensorStreamManager

variable {es : List StreamEvent} {gatewayIp : String} {s : SensorStreamManager}

/-- After start-up nothing is routed. -/
theorem justified_initial (gatewayIp : String) :
    (initial gatewayIp).Justified [] gatewayIp := by
  refine ⟨rfl, fun sensor ip topic h ↦ ?_, fun topic request h ↦ ?_⟩
  · simp [initial, RouteTable.routeCount] at h
  · cases h

/-- Justification outlasts further events. -/
theorem Justified.append (h : s.Justified es gatewayIp) (e : StreamEvent) :
    s.Justified (es ++ [e]) gatewayIp := by
  refine ⟨h.localGatewayIp, fun sensor ip topic hpos ↦ ?_, fun topic request hget sensor hmem ↦ ?_⟩
  · obtain ⟨hasked, hshown⟩ := h.routed sensor ip topic hpos
    exact ⟨hasked.append e, hshown.append e⟩
  · exact (h.stored topic request hget sensor hmem).append e

/-- Set-up routes and requests what the application asked for, where the link graph lists it. -/
theorem justified_requestStreams (h : s.Justified es gatewayIp) (topic : String)
    (deviceIds : List String) (linkGraph : LinkGraph) :
    let after := s.requestStreams topic deviceIds linkGraph
    let es' := es ++ [.requestStreams gatewayIp topic deviceIds linkGraph]
    after.1.Justified es' gatewayIp ∧ ∀ r ∈ after.2, r.Justified es' := by
  intro after es'
  have hevent : StreamEvent.requestStreams gatewayIp topic deviceIds linkGraph ∈ es' :=
    List.mem_append_right _ (List.mem_singleton_self _)
  have hentry {entry : String × List String}
      (hmem : entry ∈ (s.optimalMapping deviceIds linkGraph).ownEntries) {sensor : String}
      (hsensor : sensor ∈ entry.2) : Asked es' gatewayIp topic sensor ∧ Shown es' entry.1 sensor := by
    obtain ⟨hrequired, hlists⟩ := mem_optimalMapping s hmem hsensor
    exact ⟨⟨deviceIds, linkGraph, hevent, hrequired⟩,
      ⟨linkGraph, hlists, Or.inl ⟨gatewayIp, topic, deviceIds, hevent⟩⟩⟩
  refine foldl_invariant (P := fun progress : SensorStreamManager × List RemoteRequest ↦
    progress.1.Justified es' gatewayIp ∧ ∀ r ∈ progress.2, r.Justified es') _ ?_ _ ?_
  · rintro entry hmem ⟨s', requests⟩ ⟨hs', hrequests⟩
    simp only [provideFromGateway]
    split
    · next hlocal =>
      refine ⟨⟨hs'.localGatewayIp, fun sensor ip topic' hpos ↦ ?_, hs'.stored⟩, hrequests⟩
      rw [RouteTable.routeCount_registerToLocalGateway] at hpos
      by_cases hold : 0 < s'.sensorStreamRouteTable.routeCount sensor ip topic'
      · exact hs'.routed sensor ip topic' hold
      · split at hpos
        · next hnew =>
          obtain ⟨rfl, rfl⟩ := hnew
          have hsensor : sensor ∈ entry.2 := List.count_pos_iff.mp (by omega)
          obtain ⟨hasked, hshown⟩ := hentry hmem hsensor
          rw [hlocal, hs'.localGatewayIp] at hshown ⊢
          exact ⟨hasked, hshown⟩
        · omega
    · refine ⟨hs', fun r hr ↦ ?_⟩
      rcases List.mem_append.mp hr with hr | hr
      · exact hrequests r hr
      · rw [List.mem_singleton.mp hr]
        intro _ sensor hsensor
        obtain ⟨hasked, hshown⟩ := hentry hmem hsensor
        refine ⟨?_, hshown⟩
        show Asked es' s'.localGatewayIp topic sensor
        rw [hs'.localGatewayIp]
        exact hasked
  · have hkept := h.append (.requestStreams gatewayIp topic deviceIds linkGraph)
    refine ⟨⟨hkept.localGatewayIp, hkept.routed, fun topic' request hget ↦ ?_⟩,
      fun r hr ↦ absurd hr List.not_mem_nil⟩
    rw [JsObject.get?_set] at hget
    split at hget
    · next htopic =>
      obtain rfl := Option.some.inj hget
      intro sensor hsensor
      rw [htopic]
      exact ⟨deviceIds, linkGraph, hevent, hsensor⟩
    · exact hkept.stored topic' request hget

/-- A manager with the same ip and routes that stores only what it stored is justified. -/
theorem Justified.of_same {s' : SensorStreamManager} (h : s.Justified es gatewayIp)
    (hip : s'.localGatewayIp = s.localGatewayIp)
    (htable : s'.sensorStreamRouteTable = s.sensorStreamRouteTable)
    (hstored : ∀ topic request', s'.sensorStreamRequests.get? topic = some request' →
      ∃ request, s.sensorStreamRequests.get? topic = some request ∧
        request'.sensorIds = request.sensorIds) : s'.Justified es gatewayIp := by
  refine ⟨hip.trans h.localGatewayIp, ?_, fun topic request' hget sensor hmem ↦ ?_⟩
  · rw [htable]
    exact h.routed
  · obtain ⟨request, hrequest, hsensors⟩ := hstored topic request' hget
    rw [hsensors] at hmem
    exact h.stored topic request hrequest sensor hmem

/-- The handler of a failure requests no registration, and recomputes what was asked for. -/
theorem justified_handleRemoteGatewayFailure (h : s.Justified es gatewayIp) (mqttTopic : String) :
    let after := s.handleRemoteGatewayFailure mqttTopic
    after.1.Justified es gatewayIp ∧ (∀ r ∈ after.2.1, r.Justified es) ∧
      ∀ pending ∈ after.2.2, pending.Justified es gatewayIp := by
  intro after
  cases hrequest : s.sensorStreamRequests.get? (failureTopic mqttTopic) with
  | none =>
    have hafter : after = (s, [], []) := by
      simp only [after, handleRemoteGatewayFailure, hrequest]
    rw [hafter]
    exact ⟨h, fun r hr ↦ absurd hr List.not_mem_nil, fun p hp ↦ absurd hp List.not_mem_nil⟩
  | some request =>
    obtain ⟨hip, htable, hkind, hpending⟩ := handleRemoteGatewayFailure_spec hrequest
    have hstored : after.1.sensorStreamRequests = s.sensorStreamRequests :=
      stored_handleRemoteGatewayFailure s mqttTopic
    refine ⟨h.of_same hip htable fun topic request' hget ↦ ?_, fun r hr hregister ↦ ?_,
      fun pending hmem ↦ ?_⟩
    · rw [hstored] at hget
      exact ⟨request', hget, rfl⟩
    · rw [hkind r hr] at hregister
      cases hregister
    · rw [hpending] at hmem
      rw [List.mem_singleton.mp hmem]
      exact h.stored _ request hrequest

/-- A recomputation requests what was asked for, where the link graph lists it. -/
theorem justified_recomputeStreams (h : s.Justified es gatewayIp) {pending : Recomputation}
    (hpending : pending.Justified es gatewayIp) (linkGraph : LinkGraph) :
    let after := s.recomputeStreams pending linkGraph
    let es' := es ++ [.linkGraphArrives gatewayIp pending linkGraph]
    after.1.Justified es' gatewayIp ∧ ∀ r ∈ after.2, r.Justified es' := by
  intro after es'
  have hevent : StreamEvent.linkGraphArrives gatewayIp pending linkGraph ∈ es' :=
    List.mem_append_right _ (List.mem_singleton_self _)
  obtain ⟨hip, htable, hothers⟩ := s.recomputeStreams_frame pending linkGraph
  constructor
  · refine (h.append _).of_same hip htable fun topic request' hget ↦ ?_
    by_cases htopic : topic = pending.topic
    · subst htopic
      simp only [after, recomputeStreams, JsObject.get?_modify, if_true] at hget
      obtain ⟨request, hrequest, rfl⟩ := Option.map_eq_some_iff.mp hget
      exact ⟨request, hrequest, rfl⟩
    · rw [hothers topic htopic] at hget
      exact ⟨request', hget, rfl⟩
  · intro r hr _ sensor hsensor
    simp only [after, requests_recomputeStreams] at hr
    obtain ⟨hsender, htopic⟩ := params_of_mem_registerToRemoteGateways hr
    obtain ⟨entry, hentry, hr⟩ := List.mem_filterMap.mp hr
    split at hr
    · obtain rfl := Option.some.inj hr
      obtain ⟨hrequired, hlists⟩ := mem_optimalMapping s hentry hsensor
      rw [hsender, htopic, h.localGatewayIp]
      exact ⟨(hpending sensor hrequired).append _,
        ⟨linkGraph, hlists, Or.inr ⟨gatewayIp, pending, hevent⟩⟩⟩
    · cases hr

/-- A processed request adds only the routes it carries. -/
theorem justified_process {r : RemoteRequest} (h : s.Justified es r.recipient)
    (hr : r.Justified es) : (s.process r).Justified es r.recipient := by
  unfold process
  cases hkind : r.kind with
  | register =>
    obtain ⟨hip, hrequests⟩ := s.registerTopic_frame r.params
    refine ⟨hip.trans h.localGatewayIp, fun sensor ip topic hpos ↦ ?_, fun topic request hget ↦ ?_⟩
    · rw [routeTable_registerTopic, RouteTable.routeCount_registerToLocalGateway] at hpos
      by_cases hold : 0 < s.sensorStreamRouteTable.routeCount sensor ip topic
      · exact h.routed sensor ip topic hold
      · split at hpos
        · next hnew =>
          obtain ⟨rfl, rfl⟩ := hnew
          exact hr hkind sensor (List.count_pos_iff.mp (by omega))
        · omega
    · rw [hrequests] at hget
      exact h.stored topic request hget
  | deregister =>
    obtain ⟨hip, hrequests⟩ := s.deregisterTopic_frame r.params
    refine ⟨hip.trans h.localGatewayIp, fun sensor ip topic hpos ↦ ?_, fun topic request hget ↦ ?_⟩
    · rw [routeTable_deregisterTopic, RouteTable.routeCount_deregisterFromLocalGateway] at hpos
      exact h.routed sensor ip topic hpos
    · rw [hrequests] at hget
      exact h.stored topic request hget

end SensorStreamManager

/-- Justification outlasts further events. -/
theorem RemoteRequest.Justified.append {es : List StreamEvent} {r : RemoteRequest}
    (h : r.Justified es) (e : StreamEvent) : r.Justified (es ++ [e]) := by
  intro hkind sensor hsensor
  obtain ⟨hasked, hshown⟩ := h hkind sensor hsensor
  exact ⟨hasked.append e, hshown.append e⟩

/-- Justification outlasts further events. -/
theorem Recomputation.Justified.append {es : List StreamEvent} {gatewayIp : String}
    {pending : Recomputation} (h : pending.Justified es gatewayIp) (e : StreamEvent) :
    pending.Justified (es ++ [e]) gatewayIp := fun sensor hsensor ↦ (h sensor hsensor).append e

/-! ### The network -/

namespace Network

variable {es : List StreamEvent} {n : Network}

/-- One manager changes, the others are justified as before. -/
theorem justified_withManager (h : ∀ g, (n.managers g).Justified es g) {gatewayIp : String}
    {s : SensorStreamManager} (hs : s.Justified es gatewayIp) (g : String) :
    ((n.withManager gatewayIp s).managers g).Justified es g := by
  simp only [withManager]
  by_cases hg : g = gatewayIp
  · rw [hg, Function.update_self]
    exact hs
  · rw [Function.update_of_ne hg]
    exact h g

/-- Justification outlasts further events. -/
theorem Justified.append (h : n.Justified es) (e : StreamEvent) : n.Justified (es ++ [e]) :=
  ⟨fun g ↦ (h.managers g).append e, fun r hr ↦ (h.inFlight r hr).append e,
    fun a ha ↦ (h.awaiting a ha).append e⟩

/-- Every event keeps the network justified. -/
theorem justified_streamStep (h : n.Justified es) {e : StreamEvent} {t : Network}
    (ht : n.streamStep e = some t) : t.Justified (es ++ [e]) := by
  have hkept := h.append e
  cases e with
  | requestStreams gatewayIp topic deviceIds linkGraph =>
    obtain rfl := Option.some.inj ht
    obtain ⟨hmanager, hrequests⟩ := SensorStreamManager.justified_requestStreams
      (h.managers gatewayIp) topic deviceIds linkGraph
    refine ⟨justified_withManager hkept.managers hmanager, fun r hr ↦ ?_, hkept.awaiting⟩
    rcases List.mem_append.mp hr with hr | hr
    · exact hkept.inFlight r hr
    · exact hrequests r hr
  | detectFailure gatewayIp mqttTopic =>
    obtain rfl := Option.some.inj ht
    obtain ⟨hmanager, hrequests, hpending⟩ :=
      SensorStreamManager.justified_handleRemoteGatewayFailure (hkept.managers gatewayIp) mqttTopic
    refine ⟨justified_withManager hkept.managers hmanager, fun r hr ↦ ?_, fun a ha ↦ ?_⟩
    · rcases List.mem_append.mp hr with hr | hr
      · exact hkept.inFlight r hr
      · exact hrequests r hr
    · rcases List.mem_append.mp ha with ha | ha
      · exact hkept.awaiting a ha
      · obtain ⟨pending, hmem, rfl⟩ := List.mem_map.mp ha
        exact hpending pending hmem
  | linkGraphArrives gatewayIp pending linkGraph =>
    simp only [streamStep, step] at ht
    split at ht
    · next hmem =>
      obtain rfl := Option.some.inj ht
      obtain ⟨hmanager, hrequests⟩ := SensorStreamManager.justified_recomputeStreams
        (h.managers gatewayIp) (h.awaiting _ hmem) linkGraph
      refine ⟨justified_withManager hkept.managers hmanager, fun r hr ↦ ?_,
        fun a ha ↦ hkept.awaiting a (List.mem_of_mem_erase ha)⟩
      rcases List.mem_append.mp hr with hr | hr
      · exact hkept.inFlight r hr
      · exact hrequests r hr
    · cases ht
  | linkGraphFails gatewayIp pending =>
    simp only [streamStep, dropRecomputation] at ht
    split at ht
    · obtain rfl := Option.some.inj ht
      exact ⟨hkept.managers, hkept.inFlight,
        fun a ha ↦ hkept.awaiting a (List.mem_of_mem_erase ha)⟩
    · cases ht
  | deliver r =>
    simp only [streamStep, step] at ht
    split at ht
    · next hr =>
      obtain rfl := Option.some.inj ht
      refine ⟨justified_withManager hkept.managers ?_,
        fun r' hr' ↦ hkept.inFlight r' (List.mem_of_mem_erase hr'), hkept.awaiting⟩
      exact SensorStreamManager.justified_process (hkept.managers r.recipient)
        (hkept.inFlight r hr.1)
    · cases ht
  | fail r =>
    simp only [streamStep, step] at ht
    split at ht
    · obtain rfl := Option.some.inj ht
      exact ⟨hkept.managers, fun r' hr' ↦ hkept.inFlight r' (List.mem_of_mem_erase hr'),
        hkept.awaiting⟩
    · cases ht
  | accept r =>
    simp only [streamStep, step] at ht
    split at ht
    · obtain rfl := Option.some.inj ht
      obtain ⟨hip, htable, hrequests⟩ :=
        (n.managers r.params.ip).registrationAccepted_frame r.params.heartbeatTopic
      refine ⟨justified_withManager hkept.managers ?_, hkept.inFlight, hkept.awaiting⟩
      refine (hkept.managers r.params.ip).of_same hip htable fun topic request' hget ↦ ?_
      rw [hrequests] at hget
      exact ⟨request', hget, rfl⟩
    · cases ht

/-- After start-up there is nothing to justify. -/
theorem justified_initial : initial.Justified [] :=
  ⟨SensorStreamManager.justified_initial, fun _ hr ↦ absurd hr List.not_mem_nil,
    fun _ ha ↦ absurd ha List.not_mem_nil⟩

/-- Every run keeps the network justified. -/
theorem justified_run {t : Network} {events : List StreamEvent} (h : n.Justified es)
    (ht : run streamStep n events = some t) : t.Justified (es ++ events) :=
  run_history streamStep (P := fun before s ↦ s.Justified before)
    (fun _ _ _ _ hs hu ↦ justified_streamStep hs hu) events es h ht

/-- In every state of the platform, whatever failed and in whatever order requests and link graphs
arrived, a gateway publishes a reading to an application only if that application asked for the
sensor, and some link graph listed the sensor at the gateway. -/
theorem published_is_asked {events : List StreamEvent} {t : Network}
    (ht : run streamStep initial events = some t) {gatewayIp sensor ip topic : String}
    {isBlocked : String → String → String → Bool}
    (hpublished : (ip, topic) ∈
      (t.managers gatewayIp).routeSensorStreamsToApps isBlocked sensor) :
    Asked events ip topic sensor ∧ Shown events gatewayIp sensor :=
  ((justified_run justified_initial ht).managers gatewayIp).routed sensor ip topic
    (SensorStreamManager.routeCount_pos_of_published hpublished)

/-- The sensor `s1` at one gateway. -/
def oneSensor : LinkGraph :=
  ⟨.empty, JsObject.empty.set "A" ⟨"10.0.0.1", [⟨"s1", "PowerBlade", "h1", "c1", true⟩], []⟩⟩

/-- An application of another gateway asks for it, and the request is processed. -/
def askedElsewhere : List StreamEvent :=
  [.requestStreams "10.0.0.2" "app1" ["s1"] oneSensor,
    .deliver ⟨.register, "10.0.0.1",
      ⟨"10.0.0.2", ["s1"], "app1", "app1-10.0.0.1", heartbeatTimeMs⟩⟩]

/-- The gateway publishes its readings to that application. -/
theorem published_is_asked_elsewhere : ∃ t, run streamStep initial askedElsewhere = some t ∧
    ("10.0.0.2", "app1") ∈
      (t.managers "10.0.0.1").routeSensorStreamsToApps (fun _ _ _ ↦ false) "s1" ∧
    Asked askedElsewhere "10.0.0.2" "app1" "s1" := by
  have hrun : (run streamStep initial askedElsewhere).map (fun t ↦
      (t.managers "10.0.0.1").routeSensorStreamsToApps (fun _ _ _ ↦ false) "s1") =
        some [("10.0.0.2", "app1")] := by decide
  obtain ⟨t, ht, hroutes⟩ := Option.map_eq_some_iff.mp hrun
  have hpublished : ("10.0.0.2", "app1") ∈
      (t.managers "10.0.0.1").routeSensorStreamsToApps (fun _ _ _ ↦ false) "s1" := by
    rw [hroutes]
    exact List.mem_singleton_self _
  exact ⟨t, ht, hpublished, (published_is_asked ht hpublished).1⟩

end Network
end NexusEdge.Streams
