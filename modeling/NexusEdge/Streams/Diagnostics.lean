import NexusEdge.Streams.PublishTimers

/-!
# Diagnostic timers and their table

Library `Streams`. The manager of one gateway, the registrations it has posted and the
recomputations that wait for a link graph, `sensor-stream-manager.js:78–261`. A timer started by
an accepted registration declares the failure of the remote gateway unless a heartbeat or a
recovery withdraws it through the table. The table holds one handle for a heartbeat topic, and a
recovery withdraws the timers of the stored assignment only.
-/

namespace NexusEdge.Streams
open NexusEdge.Base NexusEdge.Platform

/-- A manager and what it waits for. -/
structure Monitor where
  manager : SensorStreamManager
  /-- Posted registrations without a response. -/
  registering : List RemoteRequest
  /-- Recomputations waiting for the link graph. -/
  awaiting : List Recomputation
  /-- Handles of the diagnostic timers of an application that were pending when a recovery of the
  application began. -/
  superseded : List Nat

/-- What the manager reacts to. -/
inductive MonitorEvent where
  | topic (e : TopicEvent)
  /-- `request-streams`, once its link graph is there. -/
  | requestStreams (topic : String) (deviceIds : List String) (linkGraph : LinkGraph)
  /-- The response to the `k`-th posted registration, with status 200 or not. -/
  | response (k : Nat) (accepted : Bool)
  | heartbeat (mqttTopic : String)
  /-- The timer with this handle expires. -/
  | expire (handle : Nat)
  /-- The link graph for the `k`-th recomputation arrives, or its request is rejected. -/
  | linkGraph (k : Nat) (answer : Option LinkGraph)

/-- The heartbeat topic whose failure the timer declares. -/
def diagnosticTopic? : TimerCallback → Option String
  | .remoteGatewayFailure heartbeatTopic => some heartbeatTopic
  | .sendHeartbeat _ _ _ => none

/-- The pending diagnostic timers of an application. -/
def SensorStreamManager.diagnosticTimersOf (s : SensorStreamManager) (topic : String) : List Nat :=
  (s.timers.pending.filter fun p ↦
    (diagnosticTopic? p.2).any fun heartbeatTopic ↦ failureTopic heartbeatTopic = topic).map Prod.fst

/-- A timer that has expired is no longer pending. -/
def SensorStreamManager.timerExpired (s : SensorStreamManager) (handle : Nat) :
    SensorStreamManager :=
  { s with timers := s.timers.clear handle }

namespace Monitor

/-- The started manager. -/
def initial (localGatewayIp : String) : Monitor :=
  ⟨SensorStreamManager.initial localGatewayIp, [], [], []⟩

/-- A diagnostic timer expires, `sensor-stream-manager.js:113,187,194`. -/
def expire (s : Monitor) (handle : Nat) (mqttTopic : String) : Monitor :=
  let manager := s.manager.timerExpired handle
  let after := manager.handleRemoteGatewayFailure mqttTopic
  { s with
    manager := after.1
    awaiting := s.awaiting ++ after.2.2
    superseded := s.superseded ++
      if manager.sensorStreamRequests.hasOwn (failureTopic mqttTopic) then
        manager.diagnosticTimersOf (failureTopic mqttTopic)
      else [] }

/-- One event; none when the event cannot happen. -/
def step (s : Monitor) : MonitorEvent → Option Monitor
  | .topic e => some { s with manager := s.manager.handle e }
  | .requestStreams topic deviceIds linkGraph =>
    let after := s.manager.requestStreams topic deviceIds linkGraph
    some { s with
      manager := after.1
      registering := s.registering ++ after.2 }
  | .response k accepted =>
    (s.registering[k]?).map fun r ↦ { s with
      registering := s.registering.eraseIdx k
      manager :=
        if accepted then s.manager.registrationAccepted r.params.heartbeatTopic else s.manager }
  | .heartbeat mqttTopic => some { s with manager := s.manager.handleHeartbeatMessage mqttTopic }
  | .expire handle =>
    match s.manager.timers.pending.lookup handle with
    | some (.remoteGatewayFailure mqttTopic) => some (s.expire handle mqttTopic)
    | _ => none
  | .linkGraph k answer =>
    (s.awaiting[k]?).map fun pending ↦
      let s := { s with awaiting := s.awaiting.eraseIdx k }
      match answer with
      | some linkGraph =>
        let after := s.manager.recomputeStreams pending linkGraph
        { s with
          manager := after.1
          registering := s.registering ++ after.2 }
      | none => s

/-- Every pending diagnostic timer is the one stored under its heartbeat topic, a heartbeat
withdraws every one of its topic, and no timer from before a recovery of its application is
left. -/
structure Tracked (s : Monitor) : Prop where
  stored : ∀ handle heartbeatTopic,
    (handle, TimerCallback.remoteGatewayFailure heartbeatTopic) ∈ s.manager.timers.pending →
      s.manager.heartbeatDiagnosticTimers.get? heartbeatTopic = some handle
  cancelled : ∀ handle heartbeatTopic,
    (handle, TimerCallback.remoteGatewayFailure heartbeatTopic) ∈ s.manager.timers.pending →
      ∀ p ∈ (s.manager.handleHeartbeatMessage heartbeatTopic).timers.pending, p.1 ≠ handle
  superseded : ∀ handle ∈ s.superseded, ∀ p ∈ s.manager.timers.pending, p.1 ≠ handle

/-- A registration is accepted when no diagnostic timer of its heartbeat topic is pending; a
recovery begins when every other pending diagnostic timer of the application is of a gateway of
its stored assignment. -/
def TimersInReach (s : Monitor) : MonitorEvent → Prop
  | .response k true => ∀ r, s.registering[k]? = some r → ∀ handle,
      (handle, TimerCallback.remoteGatewayFailure r.params.heartbeatTopic) ∉
        s.manager.timers.pending
  | .expire handle => ∀ mqttTopic request,
      s.manager.timers.pending.lookup handle = some (.remoteGatewayFailure mqttTopic) →
      s.manager.sensorStreamRequests.get? (failureTopic mqttTopic) = some request →
      ∀ handle' heartbeatTopic, handle' ≠ handle →
        (handle', TimerCallback.remoteGatewayFailure heartbeatTopic) ∈ s.manager.timers.pending →
        failureTopic heartbeatTopic = failureTopic mqttTopic →
          ∃ ip, request.optimalGatewayDeviceMapping.hasOwn ip ∧
            heartbeatTopic = failureTopic mqttTopic ++ "-" ++ ip
  | _ => True

/-- The tables lead to their own callbacks, and superseded handles have been given out. -/
structure Wf (s : Monitor) : Prop where
  linked : s.manager.Linked
  issued : ∀ handle ∈ s.superseded, handle < s.manager.timers.next

end Monitor

/-! ### What the operations do to the timers -/

namespace SensorStreamManager

/-- Every pending diagnostic timer is stored under its heartbeat topic. -/
def DiagnosticsStored (s : SensorStreamManager) : Prop :=
  s.timers.Stored s.heartbeatDiagnosticTimers diagnosticTopic?

/-- Handles are not given out again, and stored diagnostic timers stay stored. -/
structure Renews (s t : SensorStreamManager) : Prop where
  follows : Timers.Follows s.timers t.timers
  stored : s.DiagnosticsStored → t.DiagnosticsStored

namespace Renews

variable {s t u : SensorStreamManager}

/-- One after the other. -/
theorem trans (h : Renews s t) (h' : Renews t u) : Renews s u :=
  ⟨h.follows.trans h'.follows, fun hs ↦ h'.stored (h.stored hs)⟩

/-- The timers and their table are as before. -/
theorem of_same (htimers : t.timers = s.timers)
    (htable : t.heartbeatDiagnosticTimers = s.heartbeatDiagnosticTimers) : Renews s t := by
  refine ⟨?_, fun hs ↦ ?_⟩
  · rw [htimers]
    exact Timers.Follows.refl s.timers
  · rw [DiagnosticsStored, htimers, htable]
    exact hs

/-- A timer is withdrawn or has expired. -/
theorem clear {handle : Nat} (htimers : t.timers = s.timers.clear handle)
    (htable : t.heartbeatDiagnosticTimers = s.heartbeatDiagnosticTimers) : Renews s t := by
  refine ⟨?_, fun hs ↦ ?_⟩
  · rw [htimers]
    exact Timers.Follows.clear s.timers handle
  · rw [DiagnosticsStored, htimers, htable]
    exact Timers.Stored.clear hs handle

end Renews

variable (s : SensorStreamManager)

/-- Topic events are about heartbeat intervals. -/
theorem renews_handle (e : TopicEvent) : Renews s (s.handle e) := by
  cases e with
  | register params =>
    obtain ⟨htimers, _, htable⟩ := registerTopic_timers s params
    refine ⟨?_, fun hs ↦ ?_⟩
    · rw [handle, htimers]
      exact Timers.Follows.set s.timers _
    · rw [DiagnosticsStored, handle, htimers, htable]
      exact Timers.Stored.set hs rfl
  | deregister params =>
    obtain ⟨htable, ⟨_, htimers, _⟩ | ⟨timer, _, htimers, _⟩⟩ := deregisterTopic_timers s params
    · exact Renews.of_same htimers htable
    · exact Renews.clear htimers htable

/-- Set-up starts no timer; the responses to its requests do. -/
theorem renews_requestStreams (topic : String) (deviceIds : List String) (linkGraph : LinkGraph) :
    Renews s (s.requestStreams topic deviceIds linkGraph).1 := by
  simp only [requestStreams]
  apply foldl_invariant (P := fun progress : SensorStreamManager × List RemoteRequest ↦
    Renews s progress.1)
  · intro entry _ progress hprogress
    simp only [provideFromGateway]
    split
    · exact hprogress.trans (Renews.of_same rfl rfl)
    · exact hprogress
  · exact Renews.of_same rfl rfl

/-- A heartbeat replaces the timer of its topic, in the table as well. -/
theorem renews_handleHeartbeatMessage (hs : s.Linked) (mqttTopic : String) :
    Renews s (s.handleHeartbeatMessage mqttTopic) := by
  unfold handleHeartbeatMessage
  split
  · next timer hget =>
    refine ⟨(Timers.Follows.clear s.timers timer).trans (Timers.Follows.set _ _), fun hstored ↦ ?_⟩
    exact (Timers.Stored.store_iff (Timers.Stored.clear hstored timer) (hs.distinct.clear timer)
      rfl).mpr (Timers.Stored.not_mem_clear hstored hget)
  · exact Renews.of_same rfl rfl

/-- An accepted registration hides the timer that is pending for its heartbeat topic. -/
theorem stored_registrationAccepted_iff (hs : s.Linked) (hstored : s.DiagnosticsStored)
    (heartbeatTopic : String) :
    (s.registrationAccepted heartbeatTopic).DiagnosticsStored ↔
      ∀ handle, (handle, TimerCallback.remoteGatewayFailure heartbeatTopic) ∉ s.timers.pending := by
  refine (Timers.Stored.store_iff hstored hs.distinct rfl).trans ⟨fun h handle hmem ↦ ?_, ?_⟩
  · exact h _ hmem rfl
  · rintro h ⟨handle, callback⟩ hmem hname
    cases callback with
    | remoteGatewayFailure topic =>
      obtain rfl : topic = heartbeatTopic := Option.some.inj hname
      exact h handle hmem
    | sendHeartbeat ip topic ms => cases hname

/-- A withdrawn timer is deleted from the table. -/
theorem renews_stopDiagnosticTimer (timerId : String) :
    Renews s (s.stopDiagnosticTimer timerId) := by
  unfold stopDiagnosticTimer
  split
  · next handle hget =>
    exact ⟨Timers.Follows.clear s.timers handle, fun hstored ↦ Timers.Stored.stop hstored hget⟩
  · exact Renews.of_same rfl rfl

/-- A recovery withdraws timers. -/
theorem renews_handleRemoteGatewayFailure (mqttTopic : String) :
    Renews s (s.handleRemoteGatewayFailure mqttTopic).1 := by
  simp only [handleRemoteGatewayFailure]
  split
  · apply foldl_invariant (P := fun progress : SensorStreamManager × List RemoteRequest ↦
      Renews s progress.1)
    · intro entry _ progress hprogress
      exact hprogress.trans (renews_stopDiagnosticTimer progress.1 _)
    · exact Renews.of_same rfl rfl
  · exact Renews.of_same rfl rfl

variable {s}

-- Withdrawing by one name leaves what is stored under the others.
private theorem pending_stopDiagnosticTimer (timerId : String) (p : Nat × TimerCallback) :
    p ∈ (s.stopDiagnosticTimer timerId).timers.pending ↔
      p ∈ s.timers.pending ∧ s.heartbeatDiagnosticTimers.get? timerId ≠ some p.1 := by
  unfold stopDiagnosticTimer
  split
  · next handle hget =>
    rw [hget, Timers.clear, List.mem_filter, decide_eq_true_eq]
    exact and_congr_right fun _ ↦ not_congr (Option.some_inj.trans eq_comm).symm
  · next hget => simp [hget]

private theorem get?_stopDiagnosticTimer (timerId name : String) :
    (s.stopDiagnosticTimer timerId).heartbeatDiagnosticTimers.get? name =
      if name = timerId then none else s.heartbeatDiagnosticTimers.get? name := by
  unfold stopDiagnosticTimer
  split
  · rw [JsObject.get?_erase]
  · next hget =>
    split
    · next h => rw [h, hget]
    · rfl

/-- The loop over an assignment withdraws the timers of its gateways. -/
theorem pending_stopGateways (topic : String) (failedGatewayIp : Option String)
    (l : List (String × List String)) (s : SensorStreamManager) (requests : List RemoteRequest)
    (p : Nat × TimerCallback) :
    p ∈ (l.foldl (stopGateway topic failedGatewayIp) (s, requests)).1.timers.pending ↔
      p ∈ s.timers.pending ∧
        ∀ entry ∈ l, s.heartbeatDiagnosticTimers.get? (topic ++ "-" ++ entry.1) ≠ some p.1 := by
  induction l generalizing s requests with
  | nil => simp
  | cons entry l ih =>
    rw [List.foldl_cons]
    refine (ih (s.stopDiagnosticTimer (topic ++ "-" ++ entry.1)) _).trans ?_
    rw [pending_stopDiagnosticTimer, and_assoc, List.forall_mem_cons]
    refine and_congr_right fun _ ↦ and_congr_right fun hne ↦ forall₂_congr fun entry' _ ↦ ?_
    rw [get?_stopDiagnosticTimer]
    split
    · next h => simp [h, hne]
    · rfl

/-- A recovery leaves the timers that are not stored under a gateway of the assignment. -/
theorem pending_handleRemoteGatewayFailure {mqttTopic : String} {request : SensorStreamRequest}
    (hrequest : s.sensorStreamRequests.get? (failureTopic mqttTopic) = some request)
    (p : Nat × TimerCallback) :
    p ∈ (s.handleRemoteGatewayFailure mqttTopic).1.timers.pending ↔
      p ∈ s.timers.pending ∧ ∀ ip, request.optimalGatewayDeviceMapping.hasOwn ip →
        s.heartbeatDiagnosticTimers.get? (failureTopic mqttTopic ++ "-" ++ ip) ≠ some p.1 := by
  simp only [handleRemoteGatewayFailure, hrequest]
  rw [pending_stopGateways]
  refine and_congr_right fun _ ↦ ⟨fun h ip hown ↦ ?_, fun h entry hentry ↦ ?_⟩
  · obtain ⟨sensors, hget⟩ := (JsObject.hasOwn_iff _ _).mp hown
    exact h (ip, sensors) ((JsObject.mem_ownEntries_iff _ _ _).mpr hget)
  · exact h entry.1 ((JsObject.hasOwn_iff _ _).mpr
      ⟨entry.2, (JsObject.mem_ownEntries_iff _ _ _).mp hentry⟩)

/-- A stored timer is the only one of its heartbeat topic, so a heartbeat withdraws it. -/
theorem not_mem_handleHeartbeatMessage (hs : s.Linked) (hstored : s.DiagnosticsStored)
    {handle : Nat} {heartbeatTopic : String}
    (hmem : (handle, TimerCallback.remoteGatewayFailure heartbeatTopic) ∈ s.timers.pending) :
    ∀ p ∈ (s.handleHeartbeatMessage heartbeatTopic).timers.pending, p.1 ≠ handle := by
  have hget := hstored handle _ heartbeatTopic hmem rfl
  have hlt := hs.distinct.lt _ hmem
  simp only [handleHeartbeatMessage, hget]
  intro p hp
  rcases List.mem_append.mp hp with hp | hp
  · exact of_decide_eq_true (List.mem_filter.mp hp).2
  · rw [List.mem_singleton.mp hp]
    exact Nat.ne_of_gt hlt

/-- The pending diagnostic timers of an application by their heartbeat topics. -/
theorem mem_diagnosticTimersOf {topic : String} {handle : Nat} :
    handle ∈ s.diagnosticTimersOf topic ↔ ∃ heartbeatTopic,
      (handle, TimerCallback.remoteGatewayFailure heartbeatTopic) ∈ s.timers.pending ∧
        failureTopic heartbeatTopic = topic := by
  simp only [diagnosticTimersOf, List.mem_map, List.mem_filter]
  constructor
  · rintro ⟨⟨_, callback⟩, ⟨hmem, htopic⟩, rfl⟩
    cases callback with
    | remoteGatewayFailure heartbeatTopic =>
      exact ⟨heartbeatTopic, hmem, of_decide_eq_true htopic⟩
    | sendHeartbeat ip heartbeatTopic ms => cases htopic
  · rintro ⟨heartbeatTopic, hmem, htopic⟩
    exact ⟨_, ⟨hmem, decide_eq_true htopic⟩, rfl⟩

/-- In other words, without the names of the callbacks. -/
theorem diagnosticsStored_iff :
    s.DiagnosticsStored ↔ ∀ handle heartbeatTopic,
      (handle, TimerCallback.remoteGatewayFailure heartbeatTopic) ∈ s.timers.pending →
        s.heartbeatDiagnosticTimers.get? heartbeatTopic = some handle := by
  constructor
  · exact fun h handle heartbeatTopic hmem ↦ h handle _ heartbeatTopic hmem rfl
  · intro h handle callback name hmem hname
    cases callback with
    | remoteGatewayFailure heartbeatTopic =>
      obtain rfl := Option.some.inj hname
      exact h handle heartbeatTopic hmem
    | sendHeartbeat ip heartbeatTopic ms => cases hname

/-- A recovery withdraws the diagnostic timers of the application exactly if they are of gateways
of the stored assignment. -/
theorem withdrawn_handleRemoteGatewayFailure_iff (hs : s.Linked) (hstored : s.DiagnosticsStored)
    {mqttTopic : String} {request : SensorStreamRequest}
    (hrequest : s.sensorStreamRequests.get? (failureTopic mqttTopic) = some request) :
    (∀ handle ∈ s.diagnosticTimersOf (failureTopic mqttTopic),
      ∀ p ∈ (s.handleRemoteGatewayFailure mqttTopic).1.timers.pending, p.1 ≠ handle) ↔
      ∀ handle heartbeatTopic,
        (handle, TimerCallback.remoteGatewayFailure heartbeatTopic) ∈ s.timers.pending →
        failureTopic heartbeatTopic = failureTopic mqttTopic →
          ∃ ip, request.optimalGatewayDeviceMapping.hasOwn ip ∧
            heartbeatTopic = failureTopic mqttTopic ++ "-" ++ ip := by
  constructor
  · intro h handle heartbeatTopic hmem htopic
    have hgone := h handle (mem_diagnosticTimersOf.mpr ⟨heartbeatTopic, hmem, htopic⟩)
    by_contra hnone
    refine hgone _ ((pending_handleRemoteGatewayFailure hrequest _).mpr ⟨hmem, ?_⟩) rfl
    intro ip hown hget
    have hcallback := (hs.diagnostic _ _ hget).2 _ hmem
    exact hnone ⟨ip, hown, TimerCallback.remoteGatewayFailure.inj hcallback⟩
  · rintro h handle hhandle p hp rfl
    obtain ⟨heartbeatTopic, hmem, htopic⟩ := mem_diagnosticTimersOf.mp hhandle
    obtain ⟨ip, hown, hname⟩ := h p.1 heartbeatTopic hmem htopic
    have hkept := ((pending_handleRemoteGatewayFailure hrequest p).mp hp).2 ip hown
    rw [← hname, hstored p.1 _ heartbeatTopic hmem rfl] at hkept
    exact hkept rfl

end SensorStreamManager

/-! ### Events -/

namespace Monitor

open SensorStreamManager (Renews Linked)

variable {s t : Monitor}

/-- What a heartbeat withdraws follows from what is stored. -/
theorem tracked_iff (hs : s.Wf) :
    s.Tracked ↔ s.manager.DiagnosticsStored ∧
      ∀ handle ∈ s.superseded, ∀ p ∈ s.manager.timers.pending, p.1 ≠ handle := by
  constructor
  · exact fun h ↦ ⟨SensorStreamManager.diagnosticsStored_iff.mpr h.stored, h.superseded⟩
  · rintro ⟨hstored, hsuperseded⟩
    refine ⟨SensorStreamManager.diagnosticsStored_iff.mp hstored, ?_, hsuperseded⟩
    intro handle heartbeatTopic hmem
    exact SensorStreamManager.not_mem_handleHeartbeatMessage hs.linked hstored hmem

/-- Handles are given out once, so what is superseded stays so. -/
theorem Wf.of_follows (hs : s.Wf) (hlinked : t.manager.Linked)
    (hfollows : Timers.Follows s.manager.timers t.manager.timers)
    (hsuperseded : t.superseded = s.superseded) : t.Wf := by
  refine ⟨hlinked, fun handle hhandle ↦ ?_⟩
  rw [hsuperseded] at hhandle
  exact lt_of_lt_of_le (hs.issued handle hhandle) hfollows.next

/-- A timer from before a recovery does not come back. -/
theorem Wf.superseded_gone (hs : s.Wf) (h : s.Tracked)
    (hfollows : Timers.Follows s.manager.timers t.manager.timers) :
    ∀ handle ∈ s.superseded, ∀ p ∈ t.manager.timers.pending, p.1 ≠ handle :=
  fun handle hhandle ↦ hfollows.gone (hs.issued handle hhandle) (h.superseded handle hhandle)

/-- An event that renews the stored timers leaves all of them tracked. -/
theorem Tracked.of_renews (hs : s.Wf) (h : s.Tracked) (ht : t.Wf)
    (hrenews : Renews s.manager t.manager) (hsuperseded : t.superseded = s.superseded) :
    t.Tracked := by
  refine (tracked_iff ht).mpr ⟨hrenews.stored ((tracked_iff hs).mp h).1, ?_⟩
  rw [hsuperseded]
  exact hs.superseded_gone h hrenews.follows

/-- The manager once the expired timer is no longer pending. -/
private theorem expired (hs : s.Wf) {handle : Nat} {mqttTopic : String}
    (hmem : (handle, TimerCallback.remoteGatewayFailure mqttTopic) ∈ s.manager.timers.pending) :
    (s.manager.timerExpired handle).Linked ∧
      Renews s.manager (s.manager.timerExpired handle) := by
  have hkeeps : SensorStreamManager.Keeps (fun _ ↦ False) s.manager
      (s.manager.timerExpired handle) :=
    SensorStreamManager.keeps_expired hs.linked hmem
  exact ⟨hkeeps.linked, Renews.clear rfl rfl⟩

/-- The expiry of a diagnostic timer gives no handle out again. -/
theorem Wf.expire (hs : s.Wf) {handle : Nat} {mqttTopic : String}
    (hmem : (handle, TimerCallback.remoteGatewayFailure mqttTopic) ∈ s.manager.timers.pending) :
    (s.expire handle mqttTopic).Wf := by
  obtain ⟨hlinked, hrenews⟩ := expired hs hmem
  have hkeeps : SensorStreamManager.Keeps (fun _ ↦ False) _ (s.expire handle mqttTopic).manager :=
    SensorStreamManager.keeps_handleRemoteGatewayFailure hlinked mqttTopic
  have hfailure := SensorStreamManager.renews_handleRemoteGatewayFailure
    (s.manager.timerExpired handle) mqttTopic
  refine ⟨hkeeps.linked, fun handle' hhandle ↦ ?_⟩
  rcases List.mem_append.mp hhandle with hold | hnew
  · exact lt_of_lt_of_le (hs.issued handle' hold) (hrenews.trans hfailure).follows.next
  · split at hnew
    · obtain ⟨heartbeatTopic, hpending, _⟩ := SensorStreamManager.mem_diagnosticTimersOf.mp hnew
      exact lt_of_lt_of_le (hlinked.distinct.lt _ hpending) hfailure.follows.next
    · cases hnew

/-- The expiry of a diagnostic timer keeps the others tracked exactly if a recovery that it
starts withdraws those of its application. -/
theorem tracked_expire_iff (hs : s.Wf) (h : s.Tracked) {handle : Nat} {mqttTopic : String}
    (hmem : (handle, TimerCallback.remoteGatewayFailure mqttTopic) ∈ s.manager.timers.pending) :
    (s.expire handle mqttTopic).Tracked ↔ s.TimersInReach (.expire handle) := by
  obtain ⟨hlinked, hrenews⟩ := expired hs hmem
  have hfailure := SensorStreamManager.renews_handleRemoteGatewayFailure
    (s.manager.timerExpired handle) mqttTopic
  have hlookup := hs.linked.distinct.lookup hmem
  have hstored := hrenews.stored ((tracked_iff hs).mp h).1
  have hgone := hs.superseded_gone h (t := s.expire handle mqttTopic)
    (hrenews.trans hfailure).follows
  have hafter : (s.expire handle mqttTopic).manager.DiagnosticsStored := hfailure.stored hstored
  rw [tracked_iff (hs.expire hmem), and_iff_right hafter]
  cases hrequest : s.manager.sensorStreamRequests.get? (failureTopic mqttTopic) with
  | none =>
    have hown : (s.manager.timerExpired handle).sensorStreamRequests.hasOwn
        (failureTopic mqttTopic) = false := by
      rw [JsObject.hasOwn, SensorStreamManager.timerExpired, hrequest, Option.isSome_none]
    refine iff_of_true (fun handle' hhandle ↦ ?_) fun mqttTopic' request hlookup' hget ↦ ?_
    · simp only [Monitor.expire, hown, Bool.false_eq_true, if_false, List.append_nil] at hhandle
      exact hgone handle' hhandle
    · obtain rfl := TimerCallback.remoteGatewayFailure.inj
        (Option.some.inj (hlookup.symm.trans hlookup'))
      rw [hrequest] at hget
      cases hget
  | some request =>
    have hown : (s.manager.timerExpired handle).sensorStreamRequests.hasOwn
        (failureTopic mqttTopic) :=
      (JsObject.hasOwn_iff _ _).mpr ⟨request, hrequest⟩
    have hwithdrawn := SensorStreamManager.withdrawn_handleRemoteGatewayFailure_iff hlinked hstored
      hrequest
    simp only [Monitor.expire, hown, if_true, List.forall_mem_append]
    refine (and_iff_right hgone).trans (hwithdrawn.trans ⟨?_, ?_⟩)
    · intro hall mqttTopic' request' hlookup' hget handle' heartbeatTopic hne hpending htopic
      obtain rfl := TimerCallback.remoteGatewayFailure.inj
        (Option.some.inj (hlookup.symm.trans hlookup'))
      obtain rfl := Option.some.inj (hrequest.symm.trans hget)
      exact hall handle' heartbeatTopic (Timers.mem_clear hpending hne) htopic
    · intro hreach handle' heartbeatTopic hpending htopic
      obtain ⟨hpending, hne⟩ := List.mem_filter.mp hpending
      exact hreach mqttTopic request hlookup hrequest handle' heartbeatTopic
        (of_decide_eq_true hne) hpending htopic

/-- An accepted registration keeps the timers tracked exactly if none is pending for its
heartbeat topic. -/
theorem tracked_accepted_iff (hs : s.Wf) (h : s.Tracked) {heartbeatTopic : String} (ht : t.Wf)
    (hmanager : t.manager = s.manager.registrationAccepted heartbeatTopic)
    (hsuperseded : t.superseded = s.superseded) :
    t.Tracked ↔ ∀ handle,
      (handle, TimerCallback.remoteGatewayFailure heartbeatTopic) ∉ s.manager.timers.pending := by
  have hfollows : Timers.Follows s.manager.timers t.manager.timers := by
    rw [hmanager]
    exact Timers.Follows.set s.manager.timers _
  rw [tracked_iff ht, hsuperseded, and_iff_left (hs.superseded_gone h hfollows), hmanager]
  exact SensorStreamManager.stored_registrationAccepted_iff s.manager hs.linked
    ((tracked_iff hs).mp h).1 heartbeatTopic

/-- An expiry that happens is of a pending diagnostic timer. -/
theorem step_expire {handle : Nat} (ht : s.step (.expire handle) = some t) :
    ∃ mqttTopic, (handle, TimerCallback.remoteGatewayFailure mqttTopic) ∈ s.manager.timers.pending ∧
      t = s.expire handle mqttTopic := by
  simp only [step] at ht
  split at ht
  · next mqttTopic hlookup =>
    exact ⟨mqttTopic, Timers.mem_of_lookup hlookup, (Option.some.inj ht).symm⟩
  · cases ht

/-- Every event but an accepted registration and an expiry renews the stored timers. -/
theorem step_renews {e : MonitorEvent} (hs : s.Wf) (ht : s.step e = some t)
    (haccepted : ∀ k, e ≠ .response k true) (hexpire : ∀ handle, e ≠ .expire handle) :
    t.manager.Linked ∧ Renews s.manager t.manager ∧ t.superseded = s.superseded := by
  cases e with
  | topic e =>
    obtain rfl := Option.some.inj ht
    exact ⟨(SensorStreamManager.keeps_handle hs.linked e).linked, s.manager.renews_handle e, rfl⟩
  | requestStreams topic deviceIds linkGraph =>
    obtain rfl := Option.some.inj ht
    have hkeeps : s.manager.Keeps (fun _ ↦ False)
        (s.manager.requestStreams topic deviceIds linkGraph).1 :=
      SensorStreamManager.keeps_requestStreams hs.linked topic deviceIds linkGraph
    have hrenews := s.manager.renews_requestStreams topic deviceIds linkGraph
    generalize s.manager.requestStreams topic deviceIds linkGraph = after at hkeeps hrenews ⊢
    exact ⟨hkeeps.linked, hrenews, rfl⟩
  | response k accepted =>
    cases accepted with
    | true => exact absurd rfl (haccepted k)
    | false =>
      obtain ⟨r, _, rfl⟩ := Option.map_eq_some_iff.mp ht
      exact ⟨hs.linked, Renews.of_same rfl rfl, rfl⟩
  | heartbeat mqttTopic =>
    obtain rfl := Option.some.inj ht
    have hkeeps : s.manager.Keeps (fun _ ↦ False) (s.manager.handleHeartbeatMessage mqttTopic) :=
      SensorStreamManager.keeps_handleHeartbeatMessage hs.linked mqttTopic
    exact ⟨hkeeps.linked, s.manager.renews_handleHeartbeatMessage hs.linked mqttTopic, rfl⟩
  | expire handle => exact absurd rfl (hexpire handle)
  | linkGraph k answer =>
    obtain ⟨pending, _, rfl⟩ := Option.map_eq_some_iff.mp ht
    cases answer with
    | none => exact ⟨hs.linked, Renews.of_same rfl rfl, rfl⟩
    | some linkGraph =>
      have hkeeps : s.manager.Keeps (fun _ ↦ False)
          (s.manager.recomputeStreams pending linkGraph).1 :=
        SensorStreamManager.keeps_recomputeStreams hs.linked pending linkGraph
      exact ⟨hkeeps.linked, Renews.of_same rfl rfl, rfl⟩

/-- Every event gives out new handles only. -/
theorem Wf.step {e : MonitorEvent} (hs : s.Wf) (ht : s.step e = some t) : t.Wf := by
  by_cases hexpire : ∃ handle, e = .expire handle
  · obtain ⟨handle, rfl⟩ := hexpire
    obtain ⟨mqttTopic, hmem, rfl⟩ := step_expire ht
    exact hs.expire hmem
  by_cases haccepted : ∃ k, e = .response k true
  · obtain ⟨k, rfl⟩ := haccepted
    obtain ⟨r, _, rfl⟩ := Option.map_eq_some_iff.mp ht
    have hkeeps : s.manager.Keeps (fun _ ↦ False)
        (s.manager.registrationAccepted r.params.heartbeatTopic) :=
      SensorStreamManager.keeps_registrationAccepted hs.linked r.params.heartbeatTopic
    exact hs.of_follows hkeeps.linked (Timers.Follows.set s.manager.timers _) rfl
  · obtain ⟨hlinked, hrenews, hsuperseded⟩ :=
      step_renews hs ht (not_exists.mp haccepted) (not_exists.mp hexpire)
    exact hs.of_follows hlinked hrenews.follows hsuperseded

/-- An event keeps the timers tracked exactly if they are in reach. -/
theorem tracked_step_iff {e : MonitorEvent} (hs : s.Wf) (h : s.Tracked) (ht : s.step e = some t) :
    t.Tracked ↔ s.TimersInReach e := by
  have hwf := hs.step ht
  by_cases hexpire : ∃ handle, e = .expire handle
  · obtain ⟨handle, rfl⟩ := hexpire
    obtain ⟨mqttTopic, hmem, rfl⟩ := step_expire ht
    exact tracked_expire_iff hs h hmem
  by_cases haccepted : ∃ k, e = .response k true
  · obtain ⟨k, rfl⟩ := haccepted
    obtain ⟨r, hr, rfl⟩ := Option.map_eq_some_iff.mp ht
    refine (tracked_accepted_iff hs h hwf rfl rfl).trans ⟨fun hnone r' hr' ↦ ?_, fun hall ↦ ?_⟩
    · obtain rfl := Option.some.inj (hr.symm.trans hr')
      exact hnone
    · exact hall r hr
  · obtain ⟨_, hrenews, hsuperseded⟩ :=
      step_renews hs ht (not_exists.mp haccepted) (not_exists.mp hexpire)
    refine iff_of_true (h.of_renews hs hwf hrenews hsuperseded) ?_
    cases e with
    | topic e => trivial
    | requestStreams topic deviceIds linkGraph => trivial
    | response k accepted =>
      cases accepted with
      | true => exact absurd ⟨k, rfl⟩ haccepted
      | false => trivial
    | heartbeat mqttTopic => trivial
    | expire handle => exact absurd ⟨handle, rfl⟩ hexpire
    | linkGraph k answer => trivial

/-- A started manager has no timers. -/
theorem wf_initial (localGatewayIp : String) : (initial localGatewayIp).Wf :=
  ⟨SensorStreamManager.linked_initial localGatewayIp, nofun⟩

/-- In a run of registrations, responses, heartbeats, expiries and recoveries every diagnostic
timer is tracked exactly if the timers stay in reach. -/
theorem diagnostics_tracked_run (localGatewayIp : String) (es : List MonitorEvent) :
    Always step Tracked (initial localGatewayIp) es ↔
      EachStep step TimersInReach (initial localGatewayIp) es := by
  apply always_iff_eachStep step (fun _ _ _ hs ht ↦ Wf.step hs ht)
    (fun _ _ _ hs h ht ↦ tracked_step_iff hs h ht) es (wf_initial localGatewayIp)
  rw [tracked_iff (wf_initial localGatewayIp)]
  obtain ⟨htimers, _, _⟩ := SensorStreamManager.registerMQTTClient_timers _ localGatewayIp
  refine ⟨?_, nofun⟩
  rw [SensorStreamManager.DiagnosticsStored, initial, SensorStreamManager.initial, htimers]
  exact Timers.stored_empty _ _

/-- The streams of an application are requested again, as its restart does, and both registrations
are accepted; then a heartbeat arrives. -/
def requestedTwice : List MonitorEvent :=
  let device : Device :=
    { id := "s1", type := "temperature", handlerId := "h", controllerId := "c"
      isStreamingDevice := true }
  let linkGraph : LinkGraph :=
    { graph := JsObject.empty
      data := JsObject.empty.set "b" { ip := "10.0.0.2", devices := [device], apps := [] } }
  [.requestStreams "app1" ["s1"] linkGraph, .requestStreams "app1" ["s1"] linkGraph,
    .response 0 true, .response 0 true, .heartbeat "app1-10.0.0.2"]

/-- The heartbeat leaves the first of the two timers pending. -/
theorem diagnostics_hidden :
    ∃ t, run step (initial "10.0.0.1") requestedTwice = some t ∧
      (0, TimerCallback.remoteGatewayFailure "app1-10.0.0.2") ∈ t.manager.timers.pending ∧
      ¬ t.Tracked := by
  have hfacts : (run step (initial "10.0.0.1") requestedTwice).map (fun t ↦
      (t.manager.timers.pending, t.manager.heartbeatDiagnosticTimers.get? "app1-10.0.0.2")) =
        some ([(0, .remoteGatewayFailure "app1-10.0.0.2"),
          (2, .remoteGatewayFailure "app1-10.0.0.2")], some 2) := by decide
  obtain ⟨t, ht, hfacts⟩ := Option.map_eq_some_iff.mp hfacts
  obtain ⟨hpending, hstored⟩ := Prod.mk.inj hfacts
  have hmem : (0, TimerCallback.remoteGatewayFailure "app1-10.0.0.2") ∈
      t.manager.timers.pending := by
    rw [hpending]
    exact List.mem_cons_self
  refine ⟨t, ht, hmem, fun htracked ↦ ?_⟩
  have hget := htracked.stored 0 "app1-10.0.0.2" hmem
  rw [hstored] at hget
  cases hget

end Monitor
end NexusEdge.Streams
