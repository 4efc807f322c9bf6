import NexusEdge.Streams.Heartbeats

/-!
# Heartbeat intervals and their table

Library `Streams`. The intervals of `register-topic` and `deregister-topic`,
`sensor-stream-manager.js:597–654`. An interval is stopped through the object that holds its
handle. Storing a second handle under a heartbeat topic leaves the first interval running, out
of reach, as does a heartbeat topic `__proto__`, under which nothing is stored; a heartbeat topic
`hasOwnProperty` hides the method by which handles are looked for.
-/

namespace NexusEdge.Streams
open NexusEdge.Base NexusEdge.Platform

namespace SensorStreamManager

/-- The topic an interval publishes heartbeats to. -/
def publishTopic? : TimerCallback → Option String
  | .sendHeartbeat _ heartbeatTopic _ => some heartbeatTopic
  | .remoteGatewayFailure _ => none

/-- The live heartbeat intervals with their topics. -/
def publishIntervals (s : SensorStreamManager) : List (Nat × String) :=
  s.timers.pending.filterMap fun p ↦ (publishTopic? p.2).map fun heartbeatTopic ↦
    (p.1, heartbeatTopic)

/-- One topic event; none when the listener throws, which ends the process. -/
def topicStep (s : SensorStreamManager) : TopicEvent → Option SensorStreamManager
  | .register params => some (s.registerTopic params)
  | .deregister params =>
    -- The call of `heartbeatPublishTimers.hasOwnProperty`, `sensor-stream-manager.js:647`.
    if s.heartbeatPublishTimers.hasOwn "hasOwnProperty" then none
    else some (s.deregisterTopic params)

/-- The live heartbeat intervals are those of `heartbeatPublishTimers`, one to a topic, and a
deregistration can look for its own. -/
structure HeartbeatsTracked (s : SensorStreamManager) : Prop where
  exact : ∀ handle heartbeatTopic, (handle, heartbeatTopic) ∈ s.publishIntervals ↔
    s.heartbeatPublishTimers.get? heartbeatTopic = some handle
  nodup : (s.publishIntervals.map Prod.snd).Nodup
  deregisters : ∀ params, (s.topicStep (.deregister params)).isSome

/-- A registration is for a heartbeat topic that has no interval yet and is the name of no
property that `heartbeatPublishTimers` needs itself. -/
def StartsNewHeartbeat (s : SensorStreamManager) : TopicEvent → Prop
  | .register params => ¬ s.heartbeatPublishTimers.hasOwn params.heartbeatTopic ∧
      params.heartbeatTopic ≠ "__proto__" ∧ params.heartbeatTopic ≠ "hasOwnProperty"
  | .deregister _ => True

section Heartbeats

variable {s : SensorStreamManager}

private theorem mem_publishIntervals {handle : Nat} {heartbeatTopic : String} :
    (handle, heartbeatTopic) ∈ s.publishIntervals ↔
      ∃ callback, (handle, callback) ∈ s.timers.pending ∧
        publishTopic? callback = some heartbeatTopic := by
  simp only [publishIntervals, List.mem_filterMap, Option.map_eq_some_iff, Prod.mk.injEq]
  constructor
  · rintro ⟨p, hp, _, hname, rfl, rfl⟩
    exact ⟨p.2, hp, hname⟩
  · rintro ⟨callback, hp, hname⟩
    exact ⟨(handle, callback), hp, heartbeatTopic, hname, rfl, rfl⟩

-- A callback reached through the table publishes to the topic it is stored under.
private theorem Linked.publishTopic (hs : s.Linked) {heartbeatTopic : String} {handle : Nat}
    (hget : s.heartbeatPublishTimers.get? heartbeatTopic = some handle) {callback : TimerCallback}
    (hmem : (handle, callback) ∈ s.timers.pending) :
    publishTopic? callback = some heartbeatTopic := by
  obtain ⟨_, _, rfl⟩ := (hs.publish heartbeatTopic handle hget).2 callback hmem
  rfl

/-- A deregistration goes through unless a handle is stored as `hasOwnProperty`. -/
theorem deregisters_iff (s : SensorStreamManager) :
    (∀ params, (s.topicStep (.deregister params)).isSome) ↔
      ¬ s.heartbeatPublishTimers.hasOwn "hasOwnProperty" := by
  constructor
  · intro h hown
    have hgoes := h ⟨"", [], "", "", 0⟩
    rw [topicStep, if_pos hown] at hgoes
    cases hgoes
  · intro hown params
    rw [topicStep, if_neg hown]
    rfl

/-- Every live interval is stored, every stored one is live, and handles can be looked for. -/
theorem heartbeatsTracked_iff (hs : s.Linked) :
    s.HeartbeatsTracked ↔ s.timers.Stored s.heartbeatPublishTimers publishTopic? ∧
      (∀ heartbeatTopic handle, s.heartbeatPublishTimers.get? heartbeatTopic = some handle →
        ∃ callback, (handle, callback) ∈ s.timers.pending) ∧
      ¬ s.heartbeatPublishTimers.hasOwn "hasOwnProperty" := by
  constructor
  · intro h
    refine ⟨fun handle callback heartbeatTopic hmem hname ↦ ?_, fun heartbeatTopic handle hget ↦ ?_,
      (deregisters_iff s).mp h.deregisters⟩
    · exact (h.exact handle heartbeatTopic).mp (mem_publishIntervals.mpr ⟨callback, hmem, hname⟩)
    · obtain ⟨callback, hmem, _⟩ :=
        mem_publishIntervals.mp ((h.exact handle heartbeatTopic).mpr hget)
      exact ⟨callback, hmem⟩
  · rintro ⟨hstored, hlive, hmethod⟩
    refine ⟨fun handle heartbeatTopic ↦ ⟨fun hmem ↦ ?_, fun hget ↦ ?_⟩, ?_,
      (deregisters_iff s).mpr hmethod⟩
    · obtain ⟨callback, hpending, hname⟩ := mem_publishIntervals.mp hmem
      exact hstored handle callback heartbeatTopic hpending hname
    · obtain ⟨callback, hmem⟩ := hlive heartbeatTopic handle hget
      exact mem_publishIntervals.mpr ⟨callback, hmem, hs.publishTopic hget hmem⟩
    · -- Two intervals of one topic would be stored under it with two handles.
      rw [publishIntervals, List.map_filterMap, List.Nodup, List.pairwise_filterMap]
      refine (List.pairwise_map.mp hs.distinct.nodup).imp_of_mem fun {p q} hp hq hne ↦ ?_
      intro heartbeatTopic hptopic heartbeatTopic' hqtopic heq
      simp only [Option.map_map, Option.map_eq_some_iff] at hptopic hqtopic
      obtain ⟨_, hpname, rfl⟩ := hptopic
      obtain ⟨_, hqname, rfl⟩ := hqtopic
      simp only [Function.comp_apply] at heq
      have hpget := hstored p.1 p.2 _ hp hpname
      have hqget := hstored q.1 q.2 _ hq hqname
      rw [← heq] at hqget
      exact hne (Option.some.inj (hpget.symm.trans hqget))

/-- A client has no timers. -/
theorem registerMQTTClient_timers (s : SensorStreamManager) (ip : String) :
    (s.registerMQTTClient ip).timers = s.timers ∧
      (s.registerMQTTClient ip).heartbeatPublishTimers = s.heartbeatPublishTimers ∧
      (s.registerMQTTClient ip).heartbeatDiagnosticTimers = s.heartbeatDiagnosticTimers := by
  unfold registerMQTTClient
  split
  · exact ⟨rfl, rfl, rfl⟩
  · exact ⟨rfl, rfl, rfl⟩

/-- A registration starts an interval and stores its handle under the heartbeat topic, which
`__proto__` ignores. -/
theorem registerTopic_timers (s : SensorStreamManager) (params : TopicParams) :
    (s.registerTopic params).timers = (s.timers.set (.sendHeartbeat params.ip
        params.heartbeatTopic params.heartbeatTimeMs)).2 ∧
      (s.registerTopic params).heartbeatPublishTimers =
        s.heartbeatPublishTimers.assignValue params.heartbeatTopic s.timers.next ∧
      (s.registerTopic params).heartbeatDiagnosticTimers = s.heartbeatDiagnosticTimers := by
  obtain ⟨htimers, htable, hdiagnostic⟩ := registerMQTTClient_timers s params.ip
  simp only [registerTopic, htimers, htable, hdiagnostic]
  exact ⟨trivial, rfl, trivial⟩

/-- A deregistration stops the interval stored under its heartbeat topic. -/
theorem deregisterTopic_timers (s : SensorStreamManager) (params : TopicParams) :
    (s.deregisterTopic params).heartbeatDiagnosticTimers = s.heartbeatDiagnosticTimers ∧
    ((s.heartbeatPublishTimers.get? params.heartbeatTopic = none ∧
      (s.deregisterTopic params).timers = s.timers ∧
      (s.deregisterTopic params).heartbeatPublishTimers = s.heartbeatPublishTimers) ∨
    ∃ handle, s.heartbeatPublishTimers.get? params.heartbeatTopic = some handle ∧
      (s.deregisterTopic params).timers = s.timers.clear handle ∧
      (s.deregisterTopic params).heartbeatPublishTimers =
        s.heartbeatPublishTimers.erase params.heartbeatTopic) := by
  obtain ⟨htimers, htable, hdiagnostic⟩ := registerMQTTClient_timers s params.ip
  cases hget : s.heartbeatPublishTimers.get? params.heartbeatTopic with
  | none =>
    simp only [deregisterTopic, htable, hget]
    exact ⟨hdiagnostic, Or.inl ⟨trivial, htimers, trivial⟩⟩
  | some handle =>
    simp only [deregisterTopic, htable, hget, htimers]
    exact ⟨hdiagnostic, Or.inr ⟨handle, rfl, rfl, trivial⟩⟩

/-- Under `__proto__` the handle of an interval is not stored. -/
theorem not_heartbeatsTracked_registerTopic {params : TopicParams} (hs : s.Linked)
    (hproto : params.heartbeatTopic = "__proto__") :
    ¬ (s.registerTopic params).HeartbeatsTracked := by
  intro h
  obtain ⟨htimers, htable, _⟩ := registerTopic_timers s params
  have hmem : (s.timers.next, TimerCallback.sendHeartbeat params.ip params.heartbeatTopic
      params.heartbeatTimeMs) ∈ (s.registerTopic params).timers.pending := by
    rw [htimers]
    exact List.mem_append_right _ (List.mem_singleton_self _)
  have hget := (h.exact s.timers.next params.heartbeatTopic).mp
    (mem_publishIntervals.mpr ⟨_, hmem, rfl⟩)
  rw [htable, JsObject.assignValue, if_pos hproto] at hget
  exact Nat.lt_irrefl _ (hs.publish _ _ hget).1

/-- A registration keeps the intervals tracked exactly if its topic has none yet and is no name
that the table needs. -/
theorem heartbeatsTracked_registerTopic_iff (hs : s.Linked) (h : s.HeartbeatsTracked)
    (params : TopicParams) :
    (s.registerTopic params).HeartbeatsTracked ↔ s.StartsNewHeartbeat (.register params) := by
  by_cases hproto : params.heartbeatTopic = "__proto__"
  · exact iff_of_false (not_heartbeatsTracked_registerTopic hs hproto) fun hnew ↦ hnew.2.1 hproto
  have hkeeps : Keeps (fun _ ↦ False) s (s.registerTopic params) := keeps_registerTopic hs params
  obtain ⟨hstored, hlive, hmethod⟩ := (heartbeatsTracked_iff hs).mp h
  obtain ⟨htimers, htable, _⟩ := registerTopic_timers s params
  rw [JsObject.assignValue_of_ne hproto] at htable
  have hstored_iff : (s.timers.set (.sendHeartbeat params.ip params.heartbeatTopic
      params.heartbeatTimeMs)).2.Stored (s.heartbeatPublishTimers.set params.heartbeatTopic
        s.timers.next) publishTopic? ↔
      ∀ p ∈ s.timers.pending, publishTopic? p.2 ≠ some params.heartbeatTopic :=
    hstored.store_iff hs.distinct rfl
  have hnone_iff : (∀ p ∈ s.timers.pending, publishTopic? p.2 ≠ some params.heartbeatTopic) ↔
      ¬ s.heartbeatPublishTimers.hasOwn params.heartbeatTopic := by
    constructor
    · intro hnone hown
      obtain ⟨handle, hget⟩ := (JsObject.hasOwn_iff _ _).mp hown
      obtain ⟨callback, hmem⟩ := hlive _ handle hget
      exact hnone _ hmem (hs.publishTopic hget hmem)
    · exact fun hown p hp hname ↦
        hown ((JsObject.hasOwn_iff _ _).mpr ⟨p.1, hstored p.1 p.2 _ hp hname⟩)
  have hmethod_iff : ¬ (s.heartbeatPublishTimers.set params.heartbeatTopic s.timers.next).hasOwn
      "hasOwnProperty" ↔ params.heartbeatTopic ≠ "hasOwnProperty" := by
    rw [JsObject.hasOwn_set, Bool.or_eq_true, decide_eq_true_eq, not_or, and_iff_left hmethod,
      ne_comm]
  have hlive' : ∀ heartbeatTopic handle,
      (s.heartbeatPublishTimers.set params.heartbeatTopic s.timers.next).get? heartbeatTopic =
        some handle → ∃ callback, (handle, callback) ∈ (s.timers.set (.sendHeartbeat params.ip
          params.heartbeatTopic params.heartbeatTimeMs)).2.pending := by
    intro heartbeatTopic handle hget
    rw [JsObject.get?_set] at hget
    split at hget
    · obtain rfl := Option.some.inj hget
      exact ⟨_, List.mem_append_right _ (List.mem_singleton_self _)⟩
    · obtain ⟨callback, hmem⟩ := hlive heartbeatTopic handle hget
      exact ⟨callback, List.mem_append_left _ hmem⟩
  rw [heartbeatsTracked_iff hkeeps.linked, htimers, htable, hstored_iff, hnone_iff,
    and_iff_right hlive', hmethod_iff]
  exact and_congr_right fun _ ↦ (and_iff_right hproto).symm

/-- A deregistration keeps the intervals tracked. -/
theorem heartbeatsTracked_deregisterTopic (hs : s.Linked) (h : s.HeartbeatsTracked)
    (params : TopicParams) : (s.deregisterTopic params).HeartbeatsTracked := by
  have hkeeps : Keeps (fun _ ↦ True) s (s.deregisterTopic params) :=
    keeps_deregisterTopic hs trivial
  obtain ⟨hstored, hlive, hmethod⟩ := (heartbeatsTracked_iff hs).mp h
  rw [heartbeatsTracked_iff hkeeps.linked]
  rcases (deregisterTopic_timers s params).2 with
    ⟨_, htimers, htable⟩ | ⟨handle, hget, htimers, htable⟩
  · rw [htimers, htable]
    exact ⟨hstored, hlive, hmethod⟩
  · rw [htimers, htable]
    refine ⟨hstored.stop hget, fun heartbeatTopic handle' hget' ↦ ?_, fun hown ↦ ?_⟩
    · rw [JsObject.get?_erase] at hget'
      split at hget'
      · cases hget'
      · next hne =>
        obtain ⟨callback, hmem⟩ := hlive heartbeatTopic handle' hget'
        refine ⟨callback, Timers.mem_clear hmem ?_⟩
        rintro rfl
        exact hne (Option.some.inj
          ((hs.publishTopic hget' hmem).symm.trans (hs.publishTopic hget hmem)))
    · obtain ⟨handle', hget'⟩ := (JsObject.hasOwn_iff _ _).mp hown
      rw [JsObject.get?_erase] at hget'
      split at hget'
      · cases hget'
      · exact hmethod ((JsObject.hasOwn_iff _ _).mpr ⟨handle', hget'⟩)

/-- A listener that does not throw does what it does. -/
theorem eq_handle_of_topicStep {t : SensorStreamManager} {e : TopicEvent}
    (ht : topicStep s e = some t) : t = s.handle e := by
  cases e with
  | register params => exact (Option.some.inj ht).symm
  | deregister params =>
    simp only [topicStep] at ht
    split at ht
    · cases ht
    · exact (Option.some.inj ht).symm

/-- A topic event keeps the intervals tracked exactly if it starts no second one. -/
theorem heartbeatsTracked_step_iff {t : SensorStreamManager} {e : TopicEvent} (hs : s.Linked)
    (h : s.HeartbeatsTracked) (ht : topicStep s e = some t) :
    t.HeartbeatsTracked ↔ s.StartsNewHeartbeat e := by
  obtain rfl := eq_handle_of_topicStep ht
  cases e with
  | register params => exact heartbeatsTracked_registerTopic_iff hs h params
  | deregister params => exact iff_of_true (heartbeatsTracked_deregisterTopic hs h params) trivial

/-- A topic event takes no route away. -/
theorem keeps_handle (hs : s.Linked) (e : TopicEvent) : Keeps (fun _ ↦ True) s (s.handle e) := by
  cases e with
  | register params => exact keeps_registerTopic hs params
  | deregister params => exact keeps_deregisterTopic hs trivial

/-- The tables of timers lead to their own callbacks after any topic event. -/
theorem linked_topicStep {t : SensorStreamManager} {e : TopicEvent} (hs : s.Linked)
    (ht : topicStep s e = some t) : t.Linked := by
  obtain rfl := eq_handle_of_topicStep ht
  exact (keeps_handle hs e).linked

/-- A topic without an interval gets one by a registration for it only. -/
theorem heartbeatPublishTimers_run {heartbeatTopic : String} {es : List TopicEvent}
    (hes : ∀ params, .register params ∈ es → params.heartbeatTopic ≠ heartbeatTopic)
    {s t : SensorStreamManager} (hnone : s.heartbeatPublishTimers.get? heartbeatTopic = none)
    (hr : run topicStep s es = some t) : t.heartbeatPublishTimers.get? heartbeatTopic = none := by
  induction es generalizing s with
  | nil => exact Option.some.inj hr ▸ hnone
  | cons e es ih =>
    obtain ⟨u, hu, hr⟩ := Option.bind_eq_some_iff.mp hr
    apply ih (fun params hmem ↦ hes params (List.mem_cons_of_mem _ hmem)) _ hr
    obtain rfl := eq_handle_of_topicStep hu
    cases e with
    | register params =>
      rw [SensorStreamManager.handle, (registerTopic_timers s params).2.1, JsObject.assignValue]
      split
      · exact hnone
      · rw [JsObject.get?_set_ne _ _ (Ne.symm (hes params List.mem_cons_self))]
        exact hnone
    | deregister params =>
      rw [SensorStreamManager.handle]
      rcases (deregisterTopic_timers s params).2 with ⟨_, _, htable⟩ | ⟨_, _, _, htable⟩
      · rw [htable]
        exact hnone
      · rw [htable, JsObject.get?_erase]
        split
        · rfl
        · exact hnone

end Heartbeats

/-- In a run of topic events the live intervals are those of the table exactly if no
registration finds its heartbeat topic in the table or stores under a name that the table needs;
then no interval publishes to a topic from its deregistration to its next registration. -/
theorem heartbeats_tracked_run (localGatewayIp : String) (es : List TopicEvent) :
    (Always topicStep HeartbeatsTracked (initial localGatewayIp) es ↔
      EachStep topicStep StartsNewHeartbeat (initial localGatewayIp) es) ∧
    (EachStep topicStep StartsNewHeartbeat (initial localGatewayIp) es →
      ∀ before params after t, es = before ++ .deregister params :: after →
        (∀ params', .register params' ∈ after → params'.heartbeatTopic ≠ params.heartbeatTopic) →
        run topicStep (initial localGatewayIp) es = some t →
          ∀ ip, ¬ t.Publishes ip params.heartbeatTopic) := by
  have hinitial : (initial localGatewayIp).HeartbeatsTracked := by
    rw [heartbeatsTracked_iff (linked_initial localGatewayIp)]
    obtain ⟨htimers, htable, _⟩ := registerMQTTClient_timers _ localGatewayIp
    rw [initial, htimers, htable]
    refine ⟨Timers.stored_empty _ _, ?_, Bool.false_ne_true⟩
    intro topic handle hget
    cases hget
  have hiff : Always topicStep HeartbeatsTracked (initial localGatewayIp) es ↔
      EachStep topicStep StartsNewHeartbeat (initial localGatewayIp) es :=
    always_iff_eachStep topicStep (fun _ _ _ hs ht ↦ linked_topicStep hs ht)
      (fun _ _ _ hs h ht ↦ heartbeatsTracked_step_iff hs h ht) es (linked_initial localGatewayIp)
      hinitial
  refine ⟨hiff, ?_⟩
  rintro hsteps before params after t rfl hafter hrun ip ⟨handle, ms, hmem⟩
  have htracked := Always.last topicStep (hiff.mpr hsteps) hrun
  have hget := (htracked.exact handle params.heartbeatTopic).mp
    (mem_publishIntervals.mpr ⟨_, hmem, rfl⟩)
  obtain ⟨u, hu, hrest⟩ := Option.bind_eq_some_iff.mp ((run_append topicStep _ _ _).symm.trans hrun)
  obtain ⟨v, hv, hrest⟩ := Option.bind_eq_some_iff.mp hrest
  obtain rfl := eq_handle_of_topicStep hv
  have hnone : (u.deregisterTopic params).heartbeatPublishTimers.get? params.heartbeatTopic =
      none := by
    rcases (deregisterTopic_timers u params).2 with ⟨hnone, _, htable⟩ | ⟨_, _, _, htable⟩
    · rw [htable]
      exact hnone
    · rw [htable, JsObject.get?_erase, if_pos rfl]
  rw [heartbeatPublishTimers_run hafter hnone hrest] at hget
  cases hget

/-- A gateway asks twice for streams of one application, and once to stop. -/
def registeredTwice : List TopicEvent :=
  let params : TopicParams :=
    { ip := "10.0.0.2", sensors := ["s1"], topic := "app1", heartbeatTopic := "app1-10.0.0.1"
      heartbeatTimeMs := 60000 }
  [.register params, .register params, .deregister params]

/-- The first of two intervals publishes on after the deregistration. -/
theorem heartbeats_orphaned :
    ∃ t, run topicStep (initial "10.0.0.1") registeredTwice = some t ∧
      t.Publishes "10.0.0.2" "app1-10.0.0.1" ∧ ¬ t.HeartbeatsTracked := by
  have hfacts : (run topicStep (initial "10.0.0.1") registeredTwice).map (fun t ↦
      (t.timers.pending, t.heartbeatPublishTimers.get? "app1-10.0.0.1")) =
        some ([(0, .sendHeartbeat "10.0.0.2" "app1-10.0.0.1" 60000)], none) := by decide
  obtain ⟨t, ht, hfacts⟩ := Option.map_eq_some_iff.mp hfacts
  obtain ⟨hpending, hnone⟩ := Prod.mk.inj hfacts
  have hmem : (0, TimerCallback.sendHeartbeat "10.0.0.2" "app1-10.0.0.1" 60000) ∈
      t.timers.pending := by
    rw [hpending]
    exact List.mem_singleton_self _
  refine ⟨t, ht, ⟨0, 60000, hmem⟩, fun htracked ↦ ?_⟩
  have hget := (htracked.exact 0 "app1-10.0.0.1").mp (mem_publishIntervals.mpr ⟨_, hmem, rfl⟩)
  rw [hnone] at hget
  cases hget

end SensorStreamManager
end NexusEdge.Streams
