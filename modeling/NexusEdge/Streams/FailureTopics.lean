import NexusEdge.Base.JsString
import NexusEdge.Streams.Diagnostics

/-!
# Names of diagnostic timers

Library `Streams`. A heartbeat topic joins the topic of an application and the ip of a remote
gateway, `sensor-stream-manager.js:91`; when its diagnostic timer expires, both are read back from
it, `sensor-stream-manager.js:196–198`, and say whose streams are recomputed. The separator may
occur in the topic of an application, which is the id it was started with. The stored requests are
properties of an object: one called `__proto__` is not stored, and one called `hasOwnProperty` hides
the method that looks for them.
-/

namespace NexusEdge.Streams
open NexusEdge.Base NexusEdge.Platform

/-- `heartbeatTopic`, `sensor-stream-manager.js:91,148`. -/
def heartbeatTopic (appTopic ip : String) : String := appTopic ++ "-" ++ ip

/-- Registrations are made with it, and acceptance starts its timer. -/
theorem heartbeatTopic_registerToRemoteGateway (s : SensorStreamManager) (ip : String)
    (sensorIds : List String) (appTopic : String) :
    (s.registerToRemoteGateway ip sensorIds appTopic).params.heartbeatTopic =
      heartbeatTopic appTopic ip := rfl

namespace Monitor

/-- One event, with `sensorStreamRequests` a plain object; none when it cannot happen, or when the
handler of a failure throws. -/
def plainStep (s : Monitor) : MonitorEvent → Option Monitor
  | .requestStreams topic deviceIds linkGraph =>
    -- The assignment of the request, `sensor-stream-manager.js:551`.
    (s.step (.requestStreams topic deviceIds linkGraph)).map fun t ↦ { t with
      manager := { t.manager with
        sensorStreamRequests := s.manager.sensorStreamRequests.assignValue topic
          ⟨deviceIds, s.manager.optimalMapping deviceIds linkGraph⟩ } }
  | .expire handle =>
    -- The call of `sensorStreamRequests.hasOwnProperty`, `sensor-stream-manager.js:204`.
    if s.manager.sensorStreamRequests.hasOwn "hasOwnProperty" then none else s.step (.expire handle)
  | e => s.step e

end Monitor

/-- When the timer of the heartbeat topic expires, the topic identifies the application and the
gateway: both are read back, the streams of the application are to be recomputed and no others, and
the recovery asks no other gateways to stop than those of the application that have not failed. -/
structure Identified (s : Monitor) (handle : Nat) (topic ip : String) : Prop where
  readTopic : failureTopic (heartbeatTopic topic ip) = topic
  readGateway : (splitHyphen (heartbeatTopic topic ip))[1]? = some ip
  recomputed : ∃ t request, s.plainStep (.expire handle) = some t ∧
    s.manager.sensorStreamRequests.get? topic = some request ∧
    t.awaiting = s.awaiting ++ [⟨topic, request.sensorIds⟩]
  spared : ∀ r ∈ ((s.manager.timerExpired handle).handleRemoteGatewayFailure
    (heartbeatTopic topic ip)).2.1, r.params.topic = topic ∧ r.recipient ≠ ip

/-- The first part has no hyphen. -/
theorem hyphen_not_mem_failureTopic (mqttTopic : String) :
    '-' ∉ (failureTopic mqttTopic).toList := by
  have hsplit : splitHyphen mqttTopic ≠ [] := by
    rw [splitHyphen, Ne, List.map_eq_nil_iff]
    exact List.splitOn_ne_nil '-' _
  obtain ⟨part, parts, hparts⟩ := List.exists_cons_of_ne_nil hsplit
  have hmem : part ∈ splitHyphen mqttTopic := by
    rw [hparts]
    exact List.mem_cons_self
  rw [failureTopic, hparts]
  exact not_mem_of_mem_split hmem

/-- Without hyphens in them, the parts are what was joined. -/
theorem splitHyphen_heartbeatTopic {topic ip : String} (htopic : '-' ∉ topic.toList)
    (hip : '-' ∉ ip.toList) : splitHyphen (heartbeatTopic topic ip) = [topic, ip] := by
  have hsplit := split_append htopic ip
  rw [split_of_not_mem hip] at hsplit
  exact hsplit

/-- A recovery asks gateways of the assignment to stop, each for the topic read back and none of
them the gateway read back. -/
theorem requests_handleRemoteGatewayFailure (s : SensorStreamManager) (mqttTopic : String) :
    ∀ r ∈ (s.handleRemoteGatewayFailure mqttTopic).2.1,
      r.params.topic = failureTopic mqttTopic ∧
        some r.recipient ≠ (splitHyphen mqttTopic)[1]? := by
  simp only [SensorStreamManager.handleRemoteGatewayFailure]
  split
  · apply foldl_invariant (P := fun progress : SensorStreamManager × List RemoteRequest ↦
      ∀ r ∈ progress.2, r.params.topic = failureTopic mqttTopic ∧
        some r.recipient ≠ (splitHyphen mqttTopic)[1]?)
    · intro entry _ progress hprogress
      simp only [SensorStreamManager.stopGateway]
      split
      · next hentry =>
        intro r hr
        rcases List.mem_append.mp hr with hr | hr
        · exact hprogress r hr
        · rw [List.mem_singleton.mp hr]
          exact ⟨rfl, hentry.2⟩
      · exact hprogress
    · intro r hr
      cases hr
  · intro r hr
    cases hr

/-- Recomputed are the streams of the topic read back, if there is a request for it. -/
theorem recomputations_handleRemoteGatewayFailure (s : SensorStreamManager) (mqttTopic : String) :
    (s.handleRemoteGatewayFailure mqttTopic).2.2 =
      (s.sensorStreamRequests.get? (failureTopic mqttTopic)).toList.map fun request ↦
        ⟨failureTopic mqttTopic, request.sensorIds⟩ := by
  cases hrequest : s.sensorStreamRequests.get? (failureTopic mqttTopic) with
  | none =>
    simp only [SensorStreamManager.handleRemoteGatewayFailure, hrequest]
    rfl
  | some request =>
    exact (SensorStreamManager.handleRemoteGatewayFailure_spec hrequest).2.2.2

namespace Monitor

variable {s t : Monitor}

/-- Set-up stores a request, unless it is called `__proto__`; no other event stores any. -/
theorem hasOwn_plainStep {e : MonitorEvent} (ht : s.plainStep e = some t) (name : String) :
    t.manager.sensorStreamRequests.hasOwn name ↔
      s.manager.sensorStreamRequests.hasOwn name ∨ name ≠ "__proto__" ∧
        ∃ deviceIds linkGraph, e = .requestStreams name deviceIds linkGraph := by
  cases e with
  | topic e =>
    obtain rfl := Option.some.inj ht
    cases e with
    | register params => simp [SensorStreamManager.handle, s.manager.registerTopic_frame params]
    | deregister params => simp [SensorStreamManager.handle, s.manager.deregisterTopic_frame params]
  | requestStreams topic deviceIds linkGraph =>
    simp only [plainStep] at ht
    obtain ⟨u, hu, rfl⟩ := Option.map_eq_some_iff.mp ht
    simp only [JsObject.assignValue, MonitorEvent.requestStreams.injEq]
    by_cases hproto : topic = "__proto__"
    · rw [if_pos hproto]
      refine ⟨Or.inl, fun h ↦ h.elim id ?_⟩
      rintro ⟨hname, _, _, rfl, _⟩
      exact absurd hproto hname
    · rw [if_neg hproto, JsObject.hasOwn_set, Bool.or_eq_true, decide_eq_true_eq, or_comm]
      refine or_congr_right ⟨?_, ?_⟩
      · rintro rfl
        exact ⟨hproto, deviceIds, linkGraph, rfl, rfl, rfl⟩
      · rintro ⟨_, _, _, rfl, _⟩
        rfl
  | response k accepted =>
    obtain ⟨r, _, rfl⟩ := Option.map_eq_some_iff.mp ht
    cases accepted with
    | true => simp [SensorStreamManager.registrationAccepted]
    | false => simp
  | heartbeat mqttTopic =>
    obtain rfl := Option.some.inj ht
    simp only [SensorStreamManager.handleHeartbeatMessage]
    split
    · simp
    · simp
  | expire handle =>
    simp only [plainStep] at ht
    split at ht
    · cases ht
    · obtain ⟨mqttTopic, _, rfl⟩ := step_expire ht
      simp [Monitor.expire, SensorStreamManager.stored_handleRemoteGatewayFailure,
        SensorStreamManager.timerExpired]
  | linkGraph k answer =>
    obtain ⟨pending, _, rfl⟩ := Option.map_eq_some_iff.mp ht
    cases answer with
    | none => simp
    | some linkGraph => simp [SensorStreamManager.recomputeStreams, JsObject.hasOwn_modify]

/-- The stored requests of a run are those that have been set up under other names. -/
theorem hasOwn_run {localGatewayIp : String} {es : List MonitorEvent}
    (hrun : run plainStep (initial localGatewayIp) es = some s) (name : String) :
    s.manager.sensorStreamRequests.hasOwn name ↔ name ≠ "__proto__" ∧
      ∃ deviceIds linkGraph, .requestStreams name deviceIds linkGraph ∈ es := by
  refine run_history plainStep (P := fun es s ↦ s.manager.sensorStreamRequests.hasOwn name ↔
      name ≠ "__proto__" ∧ ∃ deviceIds linkGraph, .requestStreams name deviceIds linkGraph ∈ es)
    (fun before s e t hs ht ↦ ?_) es [] ?_ hrun
  · rw [hasOwn_plainStep ht, hs, ← and_or_left]
    simp only [List.mem_append, List.mem_singleton, exists_or, eq_comm]
  · have hempty : (initial localGatewayIp).manager.sensorStreamRequests = JsObject.empty :=
      (SensorStreamManager.registerMQTTClient_frame _ localGatewayIp).2
    rw [hempty]
    simp [JsObject.hasOwn]

end Monitor

/-- Without hyphens in them both are read back, and with them they are not. -/
theorem read_back_iff (topic ip : String) :
    (failureTopic (heartbeatTopic topic ip) = topic ∧
      (splitHyphen (heartbeatTopic topic ip))[1]? = some ip) ↔
      '-' ∉ topic.toList ∧ '-' ∉ ip.toList := by
  constructor
  · rintro ⟨htopic, hip⟩
    have hread := hyphen_not_mem_failureTopic (heartbeatTopic topic ip)
    rw [htopic] at hread
    exact ⟨hread, not_mem_of_mem_split (List.mem_of_getElem? hip)⟩
  · rintro ⟨htopic, hip⟩
    have hsplit := splitHyphen_heartbeatTopic htopic hip
    rw [failureTopic, hsplit, List.headD_cons]
    exact ⟨rfl, rfl⟩

/-- In every run the heartbeat topic identifies application and gateway exactly if neither has a
hyphen, the application is not called `__proto__`, and none is called `hasOwnProperty`. -/
theorem identified_iff {localGatewayIp : String} {es : List MonitorEvent} {s : Monitor}
    {topic ip : String} {deviceIds : List String} {linkGraph : LinkGraph} {handle : Nat}
    (hrun : run Monitor.plainStep (Monitor.initial localGatewayIp) es = some s)
    (hsetup : .requestStreams topic deviceIds linkGraph ∈ es)
    (htimer : s.manager.timers.pending.lookup handle =
      some (.remoteGatewayFailure (heartbeatTopic topic ip))) :
    Identified s handle topic ip ↔ ('-' ∉ topic.toList ∧ '-' ∉ ip.toList) ∧
      topic ≠ "__proto__" ∧
      ∀ deviceIds linkGraph, .requestStreams "hasOwnProperty" deviceIds linkGraph ∉ es := by
  have hmethod : ¬ s.manager.sensorStreamRequests.hasOwn "hasOwnProperty" ↔
      ∀ deviceIds linkGraph, .requestStreams "hasOwnProperty" deviceIds linkGraph ∉ es := by
    rw [Monitor.hasOwn_run hrun]
    simp
  have hstored : s.manager.sensorStreamRequests.hasOwn topic ↔ topic ≠ "__proto__" :=
    (Monitor.hasOwn_run hrun topic).trans (and_iff_left ⟨deviceIds, linkGraph, hsetup⟩)
  rw [← hmethod, ← hstored, ← read_back_iff]
  constructor
  · intro h
    obtain ⟨t, request, ht, hrequest, _⟩ := h.recomputed
    refine ⟨⟨h.readTopic, h.readGateway⟩, (JsObject.hasOwn_iff _ _).mpr ⟨request, hrequest⟩, ?_⟩
    intro hown
    rw [Monitor.plainStep, if_pos hown] at ht
    cases ht
  · rintro ⟨⟨htopic, hip⟩, hown, hmethod⟩
    obtain ⟨request, hrequest⟩ := (JsObject.hasOwn_iff _ _).mp hown
    refine ⟨htopic, hip, ?_, fun r hr ↦ ?_⟩
    · have hrecomputed := recomputations_handleRemoteGatewayFailure
        (s.manager.timerExpired handle) (heartbeatTopic topic ip)
      have hget : (s.manager.timerExpired handle).sensorStreamRequests.get? topic =
        some request := hrequest
      rw [htopic, hget] at hrecomputed
      refine ⟨s.expire handle (heartbeatTopic topic ip), request, ?_, hrequest, ?_⟩
      · simp only [Monitor.plainStep, if_neg hmethod, Monitor.step, htimer]
      · rw [Monitor.expire, hrecomputed]
        rfl
    · obtain ⟨hr, hrecipient⟩ := requests_handleRemoteGatewayFailure _ _ r hr
      rw [htopic] at hr
      rw [hip] at hrecipient
      exact ⟨hr, fun heq ↦ hrecipient (congrArg some heq)⟩

private def oneRemoteSensor : LinkGraph :=
  let device : Device :=
    { id := "s1", type := "temperature", handlerId := "h", controllerId := "c"
      isStreamingDevice := true }
  { graph := JsObject.empty
    data := JsObject.empty.set "b" { ip := "10.0.0.2", devices := [device], apps := [] } }

/-- Applications `my` and `my-app` get their streams from one remote gateway, which has accepted the
registrations of both. -/
def hyphenated : List MonitorEvent :=
  [.requestStreams "my" ["s1"] oneRemoteSensor, .requestStreams "my-app" ["s1"] oneRemoteSensor,
    .response 0 true, .response 0 true]

/-- The first of them is identified. -/
theorem application_identified :
    ∃ s, run Monitor.plainStep (Monitor.initial "10.0.0.1") hyphenated = some s ∧
      Identified s 0 "my" "10.0.0.2" := by
  have hfacts : (run Monitor.plainStep (Monitor.initial "10.0.0.1") hyphenated).map (fun s ↦
      s.manager.timers.pending.lookup 0) =
        some (some (.remoteGatewayFailure (heartbeatTopic "my" "10.0.0.2"))) := by decide
  obtain ⟨s, hs, htimer⟩ := Option.map_eq_some_iff.mp hfacts
  refine ⟨s, hs, (identified_iff hs List.mem_cons_self htimer).mpr ⟨by decide, by decide, ?_⟩⟩
  intro deviceIds linkGraph hmem
  simp [hyphenated] at hmem

/-- When the heartbeats for `my-app` stay away, the streams of `my` are recomputed, and those of
`my-app` are not. -/
theorem other_application_recovered :
    ∃ s t, run Monitor.plainStep (Monitor.initial "10.0.0.1") hyphenated = some s ∧
      s.manager.timers.pending.lookup 1 =
        some (.remoteGatewayFailure (heartbeatTopic "my-app" "10.0.0.2")) ∧
      s.plainStep (.expire 1) = some t ∧ t.awaiting = [⟨"my", ["s1"]⟩] ∧
      ¬ Identified s 1 "my-app" "10.0.0.2" := by
  have hfacts : (run Monitor.plainStep (Monitor.initial "10.0.0.1") hyphenated).map (fun s ↦
      (s.manager.timers.pending.lookup 1, (s.plainStep (.expire 1)).map (·.awaiting))) =
        some (some (.remoteGatewayFailure (heartbeatTopic "my-app" "10.0.0.2")),
          some [⟨"my", ["s1"]⟩]) := by decide
  obtain ⟨s, hs, hfacts⟩ := Option.map_eq_some_iff.mp hfacts
  obtain ⟨htimer, hexpire⟩ := Prod.mk.inj hfacts
  obtain ⟨t, ht, hawaiting⟩ := Option.map_eq_some_iff.mp hexpire
  refine ⟨s, t, hs, htimer, ht, hawaiting, fun h ↦ ?_⟩
  have hread := h.readTopic
  revert hread
  decide

end NexusEdge.Streams
