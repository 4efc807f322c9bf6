import NexusEdge.Streams.Diagnostics

/-!
# When a gateway is taken to have failed

Library `Streams`. All managers with the times of their timers, the requests between them and the
heartbeats, `sensor-stream-manager.js:76–261,599–654` with `gateway-api-controller.js:262–272`.
Heartbeats come every minute, and a gateway that misses them for 65 seconds takes the other one to
have failed. As a registration is answered before the manager has processed it, the five seconds
have to suffice for that and for the way of a heartbeat. Subscriptions are taken to be made at
once.
-/

namespace NexusEdge.Streams
open NexusEdge.Base NexusEdge.Platform

/-- `heartbeatDiagnosticTimeMs`, `sensor-stream-manager.js:78`. -/
def heartbeatDiagnosticTimeMs : Nat := heartbeatTimeMs + 5 * 1000

/-- A registration with the time between heartbeats that managers ask for. -/
def RemoteRequest.Regular (r : RemoteRequest) : Prop :=
  r.kind = .register ∧ r.params.heartbeatTimeMs = heartbeatTimeMs

/-- A heartbeat on its way to the broker of a gateway. -/
structure Heartbeat where
  ip : String
  heartbeatTopic : String
  sent : Nat
  deriving DecidableEq

/-- The link graph for which a manager waits to set up streams anew. -/
structure AwaitedLinkGraph where
  gatewayIp : String
  pending : Recomputation
  deriving DecidableEq

/-- All gateways and what is under way between them. Times are in milliseconds. -/
structure TimedNetwork where
  now : Nat
  managers : String → SensorStreamManager
  running : String → Bool
  /-- When the timers of a gateway fire, by their handles. -/
  due : String → Nat → Nat
  posted : List RemoteRequest
  /-- Requests on their way from an api server to its manager, with the times of their answers. -/
  forwarded : List (RemoteRequest × Nat)
  /-- Registrations whose status 200 is under way. -/
  responses : List RemoteRequest
  heartbeats : List Heartbeat
  awaiting : List AwaitedLinkGraph
  /-- Where the failure of which heartbeat topic has been handled. -/
  declared : List (String × String)

/-- What can happen next. -/
inductive TimedEvent where
  | wait (ms : Nat)
  | requestStreams (gatewayIp topic : String) (deviceIds : List String) (linkGraph : LinkGraph)
  /-- An api server passes a request on to its manager and answers. -/
  | forward (r : RemoteRequest)
  | process (r : RemoteRequest) (time : Nat)
  | accept (r : RemoteRequest)
  /-- A request fails. -/
  | fail (r : RemoteRequest)
  /-- A response does not come in time. -/
  | timeout (r : RemoteRequest)
  /-- A timer of a gateway fires. -/
  | fire (gatewayIp : String) (handle : Nat)
  | message (heartbeat : Heartbeat)
  | linkGraphArrives (awaited : AwaitedLinkGraph) (linkGraph : LinkGraph)
  | linkGraphFails (awaited : AwaitedLinkGraph)
  | stop (gatewayIp : String)

namespace TimedNetwork

/-- All gateways after start-up. -/
def start : TimedNetwork :=
  { now := 0, managers := SensorStreamManager.initial, running := fun _ ↦ true
    due := fun _ _ ↦ 0, posted := [], forwarded := [], responses := [], heartbeats := []
    awaiting := [], declared := [] }

/-- The manager of one gateway changes; what it has started is due after the delay. -/
def withManager (s : TimedNetwork) (gatewayIp : String) (manager : SensorStreamManager)
    (delay : Nat) : TimedNetwork :=
  { s with
    managers := Function.update s.managers gatewayIp manager
    due := fun g handle ↦
      if g = gatewayIp ∧ (s.managers gatewayIp).timers.next ≤ handle then s.now + delay
      else s.due g handle }

/-- An interval fires, `sendHeartbeat`; it fires again after its time. -/
def beat (s : TimedNetwork) (gatewayIp : String) (handle : Nat) (ip heartbeatTopic : String)
    (ms : Nat) : TimedNetwork :=
  { s with
    heartbeats := s.heartbeats ++ [⟨ip, heartbeatTopic, s.now⟩]
    due := fun g handle' ↦
      if g = gatewayIp ∧ handle' = handle then s.now + ms else s.due g handle' }

/-- One event; none when it cannot happen. -/
def step (s : TimedNetwork) : TimedEvent → Option TimedNetwork
  | .wait ms => some { s with now := s.now + ms }
  | .requestStreams gatewayIp topic deviceIds linkGraph =>
    if s.running gatewayIp then
      let after := (s.managers gatewayIp).requestStreams topic deviceIds linkGraph
      some { s.withManager gatewayIp after.1 0 with posted := s.posted ++ after.2 }
    else none
  | .forward r =>
    if r ∈ s.posted ∧ s.running r.recipient then
      some { s with
        posted := s.posted.erase r
        forwarded := s.forwarded ++ [(r, s.now)]
        responses := if r.kind = .register then s.responses ++ [r] else s.responses }
    else none
  | .process r time =>
    if (r, time) ∈ s.forwarded ∧ s.running r.recipient then
      some { s.withManager r.recipient ((s.managers r.recipient).process r)
          r.params.heartbeatTimeMs with
        forwarded := s.forwarded.erase (r, time) }
    else none
  | .accept r =>
    if r ∈ s.responses ∧ s.running r.params.ip then
      some { s.withManager r.params.ip
          ((s.managers r.params.ip).registrationAccepted r.params.heartbeatTopic)
          heartbeatDiagnosticTimeMs with
        responses := s.responses.erase r }
    else none
  | .fail r => if r ∈ s.posted then some { s with posted := s.posted.erase r } else none
  | .timeout r =>
    if r ∈ s.responses then some { s with responses := s.responses.erase r } else none
  | .fire gatewayIp handle =>
    if s.running gatewayIp ∧ s.due gatewayIp handle ≤ s.now then
      match (s.managers gatewayIp).timers.pending.lookup handle with
      | some (.sendHeartbeat ip heartbeatTopic ms) =>
        some (s.beat gatewayIp handle ip heartbeatTopic ms)
      | some (.remoteGatewayFailure mqttTopic) =>
        let manager := (s.managers gatewayIp).timerExpired handle
        let after := manager.handleRemoteGatewayFailure mqttTopic
        some { s.withManager gatewayIp after.1 0 with
          posted := s.posted ++ after.2.1
          awaiting := s.awaiting ++ after.2.2.map fun pending ↦ ⟨gatewayIp, pending⟩
          declared := s.declared ++ [(gatewayIp, mqttTopic)] }
      | none => none
    else none
  | .message heartbeat =>
    if heartbeat ∈ s.heartbeats ∧ s.running heartbeat.ip then
      some { s.withManager heartbeat.ip
          ((s.managers heartbeat.ip).handleHeartbeatMessage heartbeat.heartbeatTopic)
          heartbeatDiagnosticTimeMs with
        heartbeats := s.heartbeats.erase heartbeat }
    else none
  | .linkGraphArrives awaited linkGraph =>
    if awaited ∈ s.awaiting ∧ s.running awaited.gatewayIp then
      let after := (s.managers awaited.gatewayIp).recomputeStreams awaited.pending linkGraph
      some { s.withManager awaited.gatewayIp after.1 0 with
        posted := s.posted ++ after.2
        awaiting := s.awaiting.erase awaited }
    else none
  | .linkGraphFails awaited =>
    if awaited ∈ s.awaiting then some { s with awaiting := s.awaiting.erase awaited } else none
  | .stop gatewayIp => some { s with running := Function.update s.running gatewayIp false }

/-- Timers fire when they are due; a manager gets what its api server has answered within `lag`,
and heartbeats arrive within `transit`. No gateway stops, and no registration is accepted while the
timer of an earlier one is pending. -/
def Steady (lag transit : Nat) (s : TimedNetwork) : TimedEvent → Prop
  | .wait ms =>
    (∀ g, s.running g → ∀ p ∈ (s.managers g).timers.pending, s.now + ms ≤ s.due g p.1) ∧
      (∀ p ∈ s.forwarded, s.now + ms ≤ p.2 + lag) ∧
      ∀ heartbeat ∈ s.heartbeats, s.now + ms ≤ heartbeat.sent + transit
  | .accept r => ∀ handle, (handle, TimerCallback.remoteGatewayFailure r.params.heartbeatTopic) ∉
      (s.managers r.params.ip).timers.pending
  | .stop _ => False
  | _ => True

/-- No gateway has been taken to have failed. -/
def Undeclared (s : TimedNetwork) : Prop := s.declared = []

end TimedNetwork

/-! ### One manager goes on -/

namespace SensorStreamManager

/-- Intervals go on, and at most one timer is new. -/
structure GoesOn (s t : SensorStreamManager) (callback : TimerCallback) : Prop where
  linked : t.Linked
  stored : t.DiagnosticsStored
  intervals : ∀ handle ip heartbeatTopic ms,
    (handle, TimerCallback.sendHeartbeat ip heartbeatTopic ms) ∈ s.timers.pending →
      (handle, TimerCallback.sendHeartbeat ip heartbeatTopic ms) ∈ t.timers.pending
  pending : ∀ p ∈ t.timers.pending, p ∈ s.timers.pending ∨ p = (s.timers.next, callback)

variable {s : SensorStreamManager}

/-- A registration starts an interval. -/
theorem goesOn_registerTopic (hs : s.Linked) (hstored : s.DiagnosticsStored)
    (params : TopicParams) : GoesOn s (s.registerTopic params)
      (.sendHeartbeat params.ip params.heartbeatTopic params.heartbeatTimeMs) := by
  have hkeeps : Keeps (fun _ ↦ False) s (s.registerTopic params) := keeps_registerTopic hs params
  have htimers := (registerTopic_timers s params).1
  refine ⟨hkeeps.linked, (renews_handle s (.register params)).stored hstored, ?_, ?_⟩
  · intro handle ip heartbeatTopic ms hmem
    rw [htimers]
    exact List.mem_append_left _ hmem
  · intro p hp
    rw [htimers] at hp
    exact (List.mem_append.mp hp).imp id List.mem_singleton.mp

/-- An accepted registration starts a diagnostic timer. -/
theorem goesOn_registrationAccepted (hs : s.Linked) (hstored : s.DiagnosticsStored)
    {heartbeatTopic : String}
    (hnone : ∀ handle, (handle, .remoteGatewayFailure heartbeatTopic) ∉ s.timers.pending) :
    GoesOn s (s.registrationAccepted heartbeatTopic) (.remoteGatewayFailure heartbeatTopic) := by
  have hkeeps : Keeps (fun _ ↦ False) s (s.registrationAccepted heartbeatTopic) :=
    keeps_registrationAccepted hs heartbeatTopic
  refine ⟨hkeeps.linked, (stored_registrationAccepted_iff s hs hstored _).mpr hnone, ?_, ?_⟩
  · exact fun handle ip heartbeatTopic ms hmem ↦ List.mem_append_left _ hmem
  · exact fun p hp ↦ (List.mem_append.mp hp).imp id List.mem_singleton.mp

/-- A heartbeat starts a diagnostic timer, at most. -/
theorem goesOn_handleHeartbeatMessage (hs : s.Linked) (hstored : s.DiagnosticsStored)
    (heartbeatTopic : String) : GoesOn s (s.handleHeartbeatMessage heartbeatTopic)
      (.remoteGatewayFailure heartbeatTopic) := by
  have hkeeps : Keeps (fun _ ↦ False) s (s.handleHeartbeatMessage heartbeatTopic) :=
    keeps_handleHeartbeatMessage hs heartbeatTopic
  refine ⟨hkeeps.linked, (renews_handleHeartbeatMessage s hs heartbeatTopic).stored hstored, ?_, ?_⟩
  · intro handle ip topic ms hmem
    unfold handleHeartbeatMessage
    split
    · next timer hget =>
      exact List.mem_append_left _ (hs.publishes_clear_diagnostic hget hmem)
    · exact hmem
  · intro p hp
    unfold handleHeartbeatMessage at hp
    split at hp
    · next timer hget =>
      rcases List.mem_append.mp hp with hp | hp
      · exact Or.inl (List.mem_of_mem_filter hp)
      · exact Or.inr (List.mem_singleton.mp hp)
    · exact Or.inl hp

/-- No timer from before a heartbeat of its topic is left. -/
theorem new_of_mem_handleHeartbeatMessage (hs : s.Linked) (hstored : s.DiagnosticsStored)
    {handle : Nat} {heartbeatTopic : String}
    (hmem : (handle, .remoteGatewayFailure heartbeatTopic) ∈
      (s.handleHeartbeatMessage heartbeatTopic).timers.pending) : handle = s.timers.next := by
  rcases (goesOn_handleHeartbeatMessage hs hstored heartbeatTopic).pending _ hmem with hold | hnew
  · exact absurd rfl (not_mem_handleHeartbeatMessage hs hstored hold _ hmem)
  · exact congrArg Prod.fst hnew

/-- Set-up starts no timer. -/
theorem timers_requestStreams (s : SensorStreamManager) (topic : String) (deviceIds : List String)
    (linkGraph : LinkGraph) : (s.requestStreams topic deviceIds linkGraph).1.timers = s.timers := by
  simp only [requestStreams]
  apply foldl_invariant (P := fun progress : SensorStreamManager × List RemoteRequest ↦
    progress.1.timers = s.timers)
  · intro entry _ progress hprogress
    simp only [provideFromGateway]
    split
    · exact hprogress
    · exact hprogress
  · rfl

/-- Set-up posts registrations. -/
theorem regular_requestStreams (s : SensorStreamManager) (topic : String) (deviceIds : List String)
    (linkGraph : LinkGraph) :
    ∀ r ∈ (s.requestStreams topic deviceIds linkGraph).2, r.Regular := by
  simp only [requestStreams]
  apply foldl_invariant (P := fun progress : SensorStreamManager × List RemoteRequest ↦
    ∀ r ∈ progress.2, r.Regular)
  · intro entry _ progress hprogress
    simp only [provideFromGateway]
    split
    · exact hprogress
    · intro r hr
      rcases List.mem_append.mp hr with hr | hr
      · exact hprogress r hr
      · rw [List.mem_singleton.mp hr]
        exact ⟨rfl, rfl⟩
  · exact fun _ hr ↦ absurd hr List.not_mem_nil

end SensorStreamManager

namespace TimedNetwork

/-! ### Heartbeats to come -/

section Coming

variable (lag transit : Nat) (s : TimedNetwork)

/-- A heartbeat for the gateway will have arrived by this time, and others after it. -/
inductive Lasting (ip heartbeatTopic : String) : Nat → Prop where
  | interval {g : String} {handle ms : Nat}
      (h : (handle, TimerCallback.sendHeartbeat ip heartbeatTopic ms) ∈
        (s.managers g).timers.pending) : Lasting ip heartbeatTopic (s.due g handle + transit)
  | request {p : RemoteRequest × Nat} (h : p ∈ s.forwarded) (hip : p.1.params.ip = ip)
      (htopic : p.1.params.heartbeatTopic = heartbeatTopic) :
      Lasting ip heartbeatTopic (p.2 + lag + heartbeatTimeMs + transit)

/-- From now on, too, a heartbeat will arrive soon enough. -/
def Sourced (ip heartbeatTopic : String) : Prop :=
  ∃ time ≤ s.now + lag + heartbeatTimeMs + transit, s.Lasting lag transit ip heartbeatTopic time

/-- A heartbeat will arrive before the deadline. -/
def Coming (ip heartbeatTopic : String) (deadline : Nat) : Prop :=
  ∃ time < deadline, s.Lasting lag transit ip heartbeatTopic time ∨
    ∃ heartbeat ∈ s.heartbeats, heartbeat.ip = ip ∧ heartbeat.heartbeatTopic = heartbeatTopic ∧
      time = heartbeat.sent + transit

end Coming

/-- Every timer that would declare a failure will be withdrawn by a heartbeat. -/
structure Attended (lag transit : Nat) (s : TimedNetwork) : Prop where
  linked : ∀ g, (s.managers g).Linked
  stored : ∀ g, (s.managers g).DiagnosticsStored
  running : ∀ g, s.running g
  posted : ∀ r ∈ s.posted, r.Regular
  forwarded : ∀ p ∈ s.forwarded, p.1.Regular ∧ s.now ≤ p.2 + lag
  timers : ∀ g, ∀ p ∈ (s.managers g).timers.pending, s.now ≤ s.due g p.1
  intervals : ∀ g handle ip heartbeatTopic ms,
    (handle, TimerCallback.sendHeartbeat ip heartbeatTopic ms) ∈ (s.managers g).timers.pending →
      ms = heartbeatTimeMs
  heartbeats : ∀ heartbeat ∈ s.heartbeats, s.now ≤ heartbeat.sent + transit ∧
    s.Sourced lag transit heartbeat.ip heartbeat.heartbeatTopic
  responses : ∀ r ∈ s.responses, s.Sourced lag transit r.params.ip r.params.heartbeatTopic
  watched : ∀ g handle heartbeatTopic,
    (handle, TimerCallback.remoteGatewayFailure heartbeatTopic) ∈ (s.managers g).timers.pending →
      s.Sourced lag transit g heartbeatTopic ∧
        s.Coming lag transit g heartbeatTopic (s.due g handle)
  awaiting : s.awaiting = []
  declared : s.declared = []

variable {lag transit : Nat} {s t : TimedNetwork} {ip heartbeatTopic : String}

/-- Heartbeats that last do so if each of them still comes, or others do from now on. -/
theorem Sourced.of_lasting (h : s.Sourced lag transit ip heartbeatTopic) (hnow : s.now ≤ t.now)
    (hlasting : ∀ time, s.Lasting lag transit ip heartbeatTopic time →
      ∃ time', t.Lasting lag transit ip heartbeatTopic time' ∧
        (time' ≤ time ∨ time' ≤ t.now + lag + heartbeatTimeMs + transit)) :
    t.Sourced lag transit ip heartbeatTopic := by
  obtain ⟨time, hle, htime⟩ := h
  obtain ⟨time', htime', hearly | hsoon⟩ := hlasting time htime
  · exact ⟨time', by omega, htime'⟩
  · exact ⟨time', hsoon, htime'⟩

/-- A heartbeat that comes is still to come if it does not come later. -/
theorem Coming.of_lasting {deadline : Nat} (h : s.Coming lag transit ip heartbeatTopic deadline)
    (hlasting : ∀ time, s.Lasting lag transit ip heartbeatTopic time → t.Coming lag transit ip
      heartbeatTopic (time + 1))
    (hheartbeats : ∀ heartbeat ∈ s.heartbeats, heartbeat.ip = ip →
      heartbeat.heartbeatTopic = heartbeatTopic → heartbeat ∈ t.heartbeats) :
    t.Coming lag transit ip heartbeatTopic deadline := by
  obtain ⟨time, hlt, htime | ⟨heartbeat, hmem, hip, htopic, rfl⟩⟩ := h
  · obtain ⟨time', hlt', htime'⟩ := hlasting time htime
    exact ⟨time', by omega, htime'⟩
  · exact ⟨_, hlt, Or.inr ⟨heartbeat, hheartbeats heartbeat hmem hip htopic, hip, htopic, rfl⟩⟩

/-- A heartbeat that lasts comes. -/
theorem Lasting.coming {time : Nat} (h : s.Lasting lag transit ip heartbeatTopic time) :
    s.Coming lag transit ip heartbeatTopic (time + 1) :=
  ⟨time, Nat.lt_succ_self _, Or.inl h⟩

/-- With the timers as they are and more requests, what lasts does so. -/
theorem Lasting.mono {time : Nat} (h : s.Lasting lag transit ip heartbeatTopic time)
    (hmanagers : t.managers = s.managers) (hdue : t.due = s.due)
    (hforwarded : ∀ p ∈ s.forwarded, p ∈ t.forwarded) :
    t.Lasting lag transit ip heartbeatTopic time := by
  cases h with
  | @interval k handle ms hpending =>
    rw [← hdue]
    rw [← hmanagers] at hpending
    exact .interval hpending
  | request hmem hip htopic => exact .request (hforwarded _ hmem) hip htopic

/-- Heartbeats still come from now on. -/
theorem Sourced.mono (h : s.Sourced lag transit ip heartbeatTopic) (hnow : s.now ≤ t.now)
    (hmanagers : t.managers = s.managers) (hdue : t.due = s.due)
    (hforwarded : ∀ p ∈ s.forwarded, p ∈ t.forwarded) :
    t.Sourced lag transit ip heartbeatTopic :=
  h.of_lasting hnow fun time htime ↦
    ⟨time, htime.mono hmanagers hdue hforwarded, Or.inl (le_refl _)⟩

/-- A heartbeat still comes if those for its gateway and topic stay. -/
theorem Coming.mono {deadline : Nat} (h : s.Coming lag transit ip heartbeatTopic deadline)
    (hmanagers : t.managers = s.managers) (hdue : t.due = s.due)
    (hforwarded : ∀ p ∈ s.forwarded, p ∈ t.forwarded)
    (hheartbeats : ∀ heartbeat ∈ s.heartbeats, heartbeat.ip = ip →
      heartbeat.heartbeatTopic = heartbeatTopic → heartbeat ∈ t.heartbeats) :
    t.Coming lag transit ip heartbeatTopic deadline :=
  h.of_lasting (fun _ htime ↦ (htime.mono hmanagers hdue hforwarded).coming) hheartbeats

/-- Heartbeats that last come in time for a timer that is started now. -/
theorem Sourced.coming (hlimit : lag + transit < 5000)
    (h : s.Sourced lag transit ip heartbeatTopic) :
    s.Coming lag transit ip heartbeatTopic (s.now + heartbeatDiagnosticTimeMs) := by
  obtain ⟨time, hle, htime⟩ := h
  refine ⟨time, ?_, Or.inl htime⟩
  show time < s.now + (heartbeatTimeMs + 5 * 1000)
  omega

/-- What is still to come has not come. -/
theorem Attended.lt (h : s.Attended lag transit) {deadline : Nat}
    (hcoming : s.Coming lag transit ip heartbeatTopic deadline) : s.now < deadline := by
  obtain ⟨time, hlt, htime | ⟨heartbeat, hmem, _, _, rfl⟩⟩ := hcoming
  · cases htime with
    | interval hpending =>
      have hdue := h.timers _ _ hpending
      simp only at hdue
      omega
    | request hmem =>
      have hnow := (h.forwarded _ hmem).2
      omega
  · have hnow := (h.heartbeats heartbeat hmem).1
    omega

/-! ### Steps -/

section Steps

variable {g : String} {manager : SensorStreamManager} {callback : TimerCallback} {delay : Nat}

private theorem managers_withManager (g' : String) :
    (s.withManager g manager delay).managers g' = if g' = g then manager else s.managers g' :=
  Function.update_apply _ _ _ _

/-- Timers that are pending are due as before. -/
theorem due_withManager (h : s.Attended lag transit) {g' : String} {p : Nat × TimerCallback}
    (hp : p ∈ (s.managers g').timers.pending) :
    (s.withManager g manager delay).due g' p.1 = s.due g' p.1 := by
  refine if_neg ?_
  rintro ⟨rfl, hle⟩
  exact absurd ((h.linked g').distinct.lt p hp) (Nat.not_lt.mpr hle)

/-- A new timer is due after the delay. -/
theorem due_new : (s.withManager g manager delay).due g (s.managers g).timers.next =
    s.now + delay :=
  if_pos ⟨rfl, le_refl _⟩

/-- Heartbeats that last go on. -/
theorem Attended.lasting_withManager (h : s.Attended lag transit)
    (hgoes : (s.managers g).GoesOn manager callback) {time : Nat}
    (htime : s.Lasting lag transit ip heartbeatTopic time) :
    (s.withManager g manager delay).Lasting lag transit ip heartbeatTopic time := by
  cases htime with
  | @interval k handle ms hpending =>
    have hdue : (s.withManager g manager delay).due k handle = s.due k handle :=
      due_withManager h hpending
    have hmem : (handle, TimerCallback.sendHeartbeat ip heartbeatTopic ms) ∈
        ((s.withManager g manager delay).managers k).timers.pending := by
      rw [managers_withManager]
      split
      · next hk =>
        rw [hk] at hpending
        exact hgoes.intervals _ _ _ _ hpending
      · exact hpending
    rw [← hdue]
    exact .interval hmem
  | request hmem hip htopic => exact .request hmem hip htopic

/-- A manager that goes on leaves every timer attended, if the one it starts is. -/
theorem Attended.withManager (hlimit : lag + transit < 5000) (h : s.Attended lag transit)
    (hgoes : (s.managers g).GoesOn manager callback)
    (hinterval : ∀ ip heartbeatTopic ms, callback = .sendHeartbeat ip heartbeatTopic ms →
      ms = heartbeatTimeMs)
    (hdiagnostic : ∀ heartbeatTopic, callback = .remoteGatewayFailure heartbeatTopic →
      delay = heartbeatDiagnosticTimeMs ∧ s.Sourced lag transit g heartbeatTopic) :
    (s.withManager g manager delay).Attended lag transit := by
  have hsourced {ip heartbeatTopic : String} (hs : s.Sourced lag transit ip heartbeatTopic) :
      (s.withManager g manager delay).Sourced lag transit ip heartbeatTopic :=
    hs.of_lasting (le_refl _) fun time htime ↦
      ⟨time, h.lasting_withManager hgoes htime, Or.inl (le_refl _)⟩
  have hpending {g' : String} {p : Nat × TimerCallback}
      (hp : p ∈ ((s.withManager g manager delay).managers g').timers.pending) :
      p ∈ (s.managers g').timers.pending ∨ g' = g ∧ p = ((s.managers g).timers.next, callback) := by
    rw [managers_withManager] at hp
    split at hp
    · next hg =>
      subst hg
      exact (hgoes.pending p hp).imp id fun hnew ↦ ⟨rfl, hnew⟩
    · exact Or.inl hp
  refine ⟨fun g' ↦ ?_, fun g' ↦ ?_, h.running, h.posted, h.forwarded, fun g' p hp ↦ ?_, ?_,
    fun heartbeat hmem ↦ ?_, fun r hr ↦ hsourced (h.responses r hr), ?_, h.awaiting, h.declared⟩
  · rw [managers_withManager]
    split
    · exact hgoes.linked
    · exact h.linked g'
  · rw [managers_withManager]
    split
    · exact hgoes.stored
    · exact h.stored g'
  · rcases hpending hp with hold | ⟨rfl, rfl⟩
    · rw [due_withManager h hold]
      exact h.timers g' p hold
    · rw [due_new]
      exact Nat.le_add_right _ _
  · intro g' handle ip heartbeatTopic ms hp
    rcases hpending hp with hold | ⟨_, hnew⟩
    · exact h.intervals g' handle ip heartbeatTopic ms hold
    · exact hinterval ip heartbeatTopic ms (congrArg Prod.snd hnew).symm
  · exact ⟨(h.heartbeats heartbeat hmem).1, hsourced (h.heartbeats heartbeat hmem).2⟩
  · intro g' handle heartbeatTopic hp
    rcases hpending hp with hold | ⟨rfl, hnew⟩
    · obtain ⟨hs, hcoming⟩ := h.watched g' handle heartbeatTopic hold
      have hdue : (s.withManager g manager delay).due g' handle = s.due g' handle :=
        due_withManager h hold
      refine ⟨hsourced hs, ?_⟩
      rw [hdue]
      exact hcoming.of_lasting (fun time htime ↦ (h.lasting_withManager hgoes htime).coming)
        fun heartbeat hmem _ _ ↦ hmem
    · obtain ⟨rfl, rfl⟩ := Prod.mk.inj hnew
      obtain ⟨rfl, hs⟩ := hdiagnostic heartbeatTopic rfl
      refine ⟨hsourced hs, ?_⟩
      rw [due_new]
      exact (hsourced hs).coming hlimit

/-- What is under way may change as long as heartbeats last and come. -/
theorem Attended.withRequests (h : s.Attended lag transit) {posted : List RemoteRequest}
    {forwarded : List (RemoteRequest × Nat)} {responses : List RemoteRequest}
    {heartbeats : List Heartbeat} (ht : t = { s with
      posted := posted, forwarded := forwarded, responses := responses, heartbeats := heartbeats })
    (hposted : ∀ r ∈ posted, r.Regular)
    (hforwarded : ∀ p ∈ forwarded, p.1.Regular ∧ s.now ≤ p.2 + lag)
    (hheartbeats : ∀ heartbeat ∈ heartbeats, heartbeat ∈ s.heartbeats)
    (hresponses : ∀ r ∈ responses, r ∈ s.responses ∨
      t.Sourced lag transit r.params.ip r.params.heartbeatTopic)
    (hlasting : ∀ ip heartbeatTopic time, s.Lasting lag transit ip heartbeatTopic time →
      ∃ time' ≤ time, t.Lasting lag transit ip heartbeatTopic time')
    (hcoming : ∀ g handle heartbeatTopic,
      (handle, TimerCallback.remoteGatewayFailure heartbeatTopic) ∈ (s.managers g).timers.pending →
      s.Coming lag transit g heartbeatTopic (s.due g handle) →
      t.Coming lag transit g heartbeatTopic (s.due g handle)) :
    t.Attended lag transit := by
  have hsourced (ip heartbeatTopic : String) (hs : s.Sourced lag transit ip heartbeatTopic) :
      t.Sourced lag transit ip heartbeatTopic := by
    refine hs.of_lasting (by rw [ht]) fun time htime ↦ ?_
    obtain ⟨time', hle, htime'⟩ := hlasting ip heartbeatTopic time htime
    exact ⟨time', htime', Or.inl hle⟩
  subst ht
  refine ⟨h.linked, h.stored, h.running, hposted, hforwarded, h.timers, h.intervals,
    fun heartbeat hmem ↦ ?_, fun r hr ↦ ?_, fun g handle heartbeatTopic hmem ↦ ?_, h.awaiting,
    h.declared⟩
  · obtain ⟨hnow, hs⟩ := h.heartbeats heartbeat (hheartbeats heartbeat hmem)
    exact ⟨hnow, hsourced _ _ hs⟩
  · exact (hresponses r hr).elim (fun hr ↦ hsourced _ _ (h.responses r hr)) id
  · obtain ⟨hs, hc⟩ := h.watched g handle heartbeatTopic hmem
    exact ⟨hsourced _ _ hs, hcoming g handle heartbeatTopic hmem hc⟩

/-- Requests and responses can be lost. -/
theorem Attended.lose (h : s.Attended lag transit) {posted responses : List RemoteRequest}
    (hposted : ∀ r ∈ posted, r.Regular) (hresponses : ∀ r ∈ responses, r ∈ s.responses) :
    { s with posted := posted, responses := responses }.Attended lag transit :=
  h.withRequests rfl hposted h.forwarded (fun _ hmem ↦ hmem) (fun r hr ↦ Or.inl (hresponses r hr))
    (fun _ _ time htime ↦ ⟨time, le_refl _, htime.mono rfl rfl fun _ hp ↦ hp⟩)
    fun _ _ _ _ hc ↦ hc.mono rfl rfl (fun _ hp ↦ hp) fun _ hmem _ _ ↦ hmem

/-- Time passes. -/
theorem attended_wait (h : s.Attended lag transit) {ms : Nat}
    (he : s.Steady lag transit (.wait ms)) :
    { s with now := s.now + ms }.Attended lag transit := by
  obtain ⟨htimers, hforwarded, hheartbeats⟩ := he
  have hsourced (ip heartbeatTopic : String) (hs : s.Sourced lag transit ip heartbeatTopic) :
      { s with now := s.now + ms }.Sourced lag transit ip heartbeatTopic :=
    hs.mono (Nat.le_add_right _ _) rfl rfl fun _ hp ↦ hp
  refine ⟨h.linked, h.stored, h.running, h.posted,
    fun p hp ↦ ⟨(h.forwarded p hp).1, hforwarded p hp⟩, fun g p hp ↦ htimers g (h.running g) p hp,
    h.intervals, fun heartbeat hmem ↦ ?_, fun r hr ↦ hsourced _ _ (h.responses r hr),
    fun g handle heartbeatTopic hmem ↦ ?_, h.awaiting, h.declared⟩
  · exact ⟨hheartbeats heartbeat hmem, hsourced _ _ (h.heartbeats heartbeat hmem).2⟩
  · obtain ⟨hs, hc⟩ := h.watched g handle heartbeatTopic hmem
    exact ⟨hsourced _ _ hs, hc.mono rfl rfl (fun _ hp ↦ hp) fun _ hmem _ _ ↦ hmem⟩

/-- A registration is passed on and answered. -/
theorem attended_forward (h : s.Attended lag transit) {r : RemoteRequest} (hr : r ∈ s.posted) :
    { s with
      posted := s.posted.erase r
      forwarded := s.forwarded ++ [(r, s.now)]
      responses :=
        if r.kind = RequestKind.register then s.responses ++ [r]
        else s.responses }.Attended lag transit := by
  refine h.withRequests rfl (fun r' hr' ↦ h.posted r' (List.mem_of_mem_erase hr')) ?_
    (fun _ hmem ↦ hmem) ?_ ?_ ?_
  · intro p hp
    rcases List.mem_append.mp hp with hp | hp
    · exact h.forwarded p hp
    · rw [List.mem_singleton.mp hp]
      exact ⟨h.posted r hr, Nat.le_add_right _ _⟩
  · intro r' hr'
    rw [if_pos (h.posted r hr).1] at hr'
    refine (List.mem_append.mp hr').imp id fun hr' ↦ ?_
    obtain rfl := List.mem_singleton.mp hr'
    exact ⟨_, le_refl _, Lasting.request (p := (r', s.now))
      (List.mem_append_right _ (List.mem_singleton_self _)) rfl rfl⟩
  · exact fun _ _ time htime ↦
      ⟨time, le_refl _, htime.mono rfl rfl fun _ hp ↦ List.mem_append_left _ hp⟩
  · exact fun _ _ _ _ hc ↦
      hc.mono rfl rfl (fun _ hp ↦ List.mem_append_left _ hp) fun _ hmem _ _ ↦ hmem

/-- A request under way can be forgotten once its heartbeats have begun. -/
theorem Attended.begun (h : s.Attended lag transit) {r : RemoteRequest} {time : Nat} {g : String}
    {handle ms : Nat}
    (hpending : (handle, TimerCallback.sendHeartbeat r.params.ip r.params.heartbeatTopic ms) ∈
      (s.managers g).timers.pending) (hdue : s.due g handle ≤ time + lag + heartbeatTimeMs) :
    { s with forwarded := s.forwarded.erase (r, time) }.Attended lag transit := by
  have hlasting (ip heartbeatTopic : String) (time' : Nat)
      (htime : s.Lasting lag transit ip heartbeatTopic time') :
      ∃ time'' ≤ time', { s with forwarded := s.forwarded.erase (r, time) }.Lasting lag transit ip
        heartbeatTopic time'' := by
    cases htime with
    | interval hmem => exact ⟨_, le_refl _, .interval hmem⟩
    | @request p hmem hip htopic =>
      by_cases hp : p = (r, time)
      · subst hp hip htopic
        exact ⟨_, Nat.add_le_add_right hdue transit, .interval hpending⟩
      · exact ⟨_, le_refl _, .request ((List.mem_erase_of_ne hp).mpr hmem) hip htopic⟩
  refine h.withRequests rfl h.posted (fun p hp ↦ h.forwarded p (List.mem_of_mem_erase hp))
    (fun _ hmem ↦ hmem) (fun _ hr ↦ Or.inl hr) hlasting fun g' _ topic _ hc ↦ ?_
  refine hc.of_lasting (fun time' htime ↦ ?_) fun _ hmem _ _ ↦ hmem
  obtain ⟨time'', hle, htime'⟩ := hlasting g' topic time' htime
  exact ⟨time'', Nat.lt_succ_of_le hle, Or.inl htime'⟩

/-- A registration is processed, and its heartbeats begin. -/
theorem attended_process (hlimit : lag + transit < 5000) (h : s.Attended lag transit)
    {r : RemoteRequest} {time : Nat} (hr : (r, time) ∈ s.forwarded) :
    { s.withManager r.recipient ((s.managers r.recipient).process r) r.params.heartbeatTimeMs with
      forwarded := s.forwarded.erase (r, time) }.Attended lag transit := by
  obtain ⟨⟨hkind, hms⟩, hnow⟩ := h.forwarded _ hr
  simp only at hkind hms hnow
  have hprocess : (s.managers r.recipient).process r =
      (s.managers r.recipient).registerTopic r.params := by
    rw [SensorStreamManager.process, hkind]
  rw [hprocess]
  have hgoes := SensorStreamManager.goesOn_registerTopic (h.linked r.recipient)
    (h.stored r.recipient) r.params
  have hafter : (s.withManager r.recipient ((s.managers r.recipient).registerTopic r.params)
      r.params.heartbeatTimeMs).Attended lag transit :=
    h.withManager hlimit hgoes
      (fun _ _ _ heq ↦ (TimerCallback.sendHeartbeat.inj heq).2.2 ▸ hms) nofun
  have hpending : ((s.managers r.recipient).timers.next, TimerCallback.sendHeartbeat r.params.ip
      r.params.heartbeatTopic r.params.heartbeatTimeMs) ∈
      ((s.withManager r.recipient ((s.managers r.recipient).registerTopic r.params)
        r.params.heartbeatTimeMs).managers r.recipient).timers.pending := by
    rw [managers_withManager, if_pos rfl,
      (SensorStreamManager.registerTopic_timers (s.managers r.recipient) r.params).1]
    exact List.mem_append_right _ (List.mem_singleton_self _)
  refine hafter.begun hpending ?_
  rw [due_new, hms]
  exact Nat.add_le_add_right hnow _

/-- A response starts a diagnostic timer. -/
theorem attended_accept (hlimit : lag + transit < 5000) (h : s.Attended lag transit)
    {r : RemoteRequest} (hr : r ∈ s.responses) (he : s.Steady lag transit (.accept r)) :
    { s.withManager r.params.ip
        ((s.managers r.params.ip).registrationAccepted r.params.heartbeatTopic)
        heartbeatDiagnosticTimeMs with
      responses := s.responses.erase r }.Attended lag transit := by
  have hgoes := SensorStreamManager.goesOn_registrationAccepted (h.linked r.params.ip)
    (h.stored r.params.ip) he
  have hafter : (s.withManager r.params.ip
      ((s.managers r.params.ip).registrationAccepted r.params.heartbeatTopic)
      heartbeatDiagnosticTimeMs).Attended lag transit := by
    refine h.withManager hlimit hgoes nofun fun heartbeatTopic heq ↦ ⟨rfl, ?_⟩
    rw [← TimerCallback.remoteGatewayFailure.inj heq]
    exact h.responses r hr
  exact hafter.lose hafter.posted fun _ ↦ List.mem_of_mem_erase

/-- An interval fires, and its next time is set. -/
theorem attended_beat (h : s.Attended lag transit) {g : String} {handle ms : Nat}
    (hpending : (handle, TimerCallback.sendHeartbeat ip heartbeatTopic ms) ∈
      (s.managers g).timers.pending) :
    (s.beat g handle ip heartbeatTopic ms).Attended lag transit := by
  have hms := h.intervals g handle ip heartbeatTopic ms hpending
  have hagain : (s.beat g handle ip heartbeatTopic ms).Lasting lag transit ip heartbeatTopic
      (s.now + heartbeatTimeMs + transit) := by
    have hdue : (s.beat g handle ip heartbeatTopic ms).due g handle = s.now + ms :=
      if_pos ⟨rfl, rfl⟩
    rw [← hms, ← hdue]
    exact .interval hpending
  have hsoon : s.now + heartbeatTimeMs + transit ≤ s.now + lag + heartbeatTimeMs + transit := by
    omega
  -- The interval that fires will do so again in a minute; the others are as before.
  have hlasting (ip' topic : String) (time : Nat) (htime : s.Lasting lag transit ip' topic time) :
      (ip' = ip ∧ topic = heartbeatTopic ∧ s.now + transit ≤ time) ∨
      (s.beat g handle ip heartbeatTopic ms).Lasting lag transit ip' topic time := by
    cases htime with
    | @interval k handle' ms' hmem =>
      by_cases hfired : k = g ∧ handle' = handle
      · obtain ⟨rfl, rfl⟩ := hfired
        have hsame := (h.linked k).distinct.eq hmem hpending
        obtain ⟨rfl, rfl, rfl⟩ := TimerCallback.sendHeartbeat.inj hsame
        exact Or.inl ⟨rfl, rfl, Nat.add_le_add_right (h.timers k _ hpending) transit⟩
      · have hdue : (s.beat g handle ip heartbeatTopic ms).due k handle' = s.due k handle' :=
          if_neg hfired
        rw [← hdue]
        exact Or.inr (.interval hmem)
    | request hmem hip htopic => exact Or.inr (.request hmem hip htopic)
  have hsourced (ip' topic : String) (hs : s.Sourced lag transit ip' topic) :
      (s.beat g handle ip heartbeatTopic ms).Sourced lag transit ip' topic := by
    refine hs.of_lasting (le_refl _) fun time htime ↦ ?_
    rcases hlasting ip' topic time htime with ⟨rfl, rfl, _⟩ | hsame
    · exact ⟨_, hagain, Or.inr hsoon⟩
    · exact ⟨time, hsame, Or.inl (le_refl _)⟩
  refine ⟨h.linked, h.stored, h.running, h.posted, h.forwarded, fun g' p hp ↦ ?_, h.intervals,
    fun heartbeat hmem ↦ ?_, fun r hr ↦ hsourced _ _ (h.responses r hr),
    fun g' handle' topic hmem ↦ ?_, h.awaiting, h.declared⟩
  · show s.now ≤ if g' = g ∧ p.1 = handle then s.now + ms else s.due g' p.1
    split
    · exact Nat.le_add_right _ _
    · exact h.timers g' p hp
  · rcases List.mem_append.mp hmem with hmem | hmem
    · exact ⟨(h.heartbeats heartbeat hmem).1, hsourced _ _ (h.heartbeats heartbeat hmem).2⟩
    · rw [List.mem_singleton.mp hmem]
      exact ⟨Nat.le_add_right _ _, _, hsoon, hagain⟩
  · obtain ⟨hs, hc⟩ := h.watched g' handle' topic hmem
    refine ⟨hsourced _ _ hs, ?_⟩
    have hdue : (s.beat g handle ip heartbeatTopic ms).due g' handle' = s.due g' handle' := by
      refine if_neg ?_
      rintro ⟨rfl, rfl⟩
      cases (h.linked g').distinct.eq hmem hpending
    rw [hdue]
    refine hc.of_lasting (fun time htime ↦ ?_) fun _ hmem _ _ ↦ List.mem_append_left _ hmem
    rcases hlasting g' topic time htime with ⟨rfl, rfl, hle⟩ | hsame
    · exact ⟨s.now + transit, Nat.lt_succ_of_le hle, Or.inr ⟨_, List.mem_append_right _
        (List.mem_singleton_self _), rfl, rfl, rfl⟩⟩
    · exact hsame.coming

/-- A heartbeat starts its timer anew. -/
theorem attended_message (hlimit : lag + transit < 5000) (h : s.Attended lag transit)
    {heartbeat : Heartbeat} (hmem : heartbeat ∈ s.heartbeats) :
    { s.withManager heartbeat.ip
        ((s.managers heartbeat.ip).handleHeartbeatMessage heartbeat.heartbeatTopic)
        heartbeatDiagnosticTimeMs with
      heartbeats := s.heartbeats.erase heartbeat }.Attended lag transit := by
  have hlinked := h.linked heartbeat.ip
  have hstored := h.stored heartbeat.ip
  have hgoes := SensorStreamManager.goesOn_handleHeartbeatMessage hlinked hstored
    heartbeat.heartbeatTopic
  have hafter : (s.withManager heartbeat.ip
      ((s.managers heartbeat.ip).handleHeartbeatMessage heartbeat.heartbeatTopic)
      heartbeatDiagnosticTimeMs).Attended lag transit := by
    refine h.withManager hlimit hgoes nofun fun topic heq ↦ ⟨rfl, ?_⟩
    rw [← TimerCallback.remoteGatewayFailure.inj heq]
    exact (h.heartbeats heartbeat hmem).2
  refine hafter.withRequests rfl h.posted h.forwarded (fun _ ↦ List.mem_of_mem_erase)
    (fun _ hr ↦ Or.inl hr) (fun _ _ time htime ↦ ⟨time, le_refl _, htime.mono rfl rfl
      fun _ hp ↦ hp⟩) fun g handle topic hpending hc ↦ ?_
  by_cases hsame : g = heartbeat.ip ∧ topic = heartbeat.heartbeatTopic
  · obtain ⟨rfl, rfl⟩ := hsame
    have hsourced := (hafter.watched _ _ _ hpending).1
    rw [managers_withManager, if_pos rfl] at hpending
    obtain rfl := SensorStreamManager.new_of_mem_handleHeartbeatMessage hlinked hstored hpending
    rw [due_new]
    exact Sourced.coming hlimit (hsourced.mono (le_refl _) rfl rfl fun _ hp ↦ hp)
  · refine hc.mono rfl rfl (fun _ hp ↦ hp) fun heartbeat' hmem' hip htopic ↦ ?_
    refine (List.mem_erase_of_ne ?_).mpr hmem'
    rintro rfl
    exact hsame ⟨hip.symm, htopic.symm⟩

/-- Streams are set up. -/
theorem attended_requestStreams (hlimit : lag + transit < 5000) (h : s.Attended lag transit)
    (g topic : String) (deviceIds : List String) (linkGraph : LinkGraph) :
    { s.withManager g ((s.managers g).requestStreams topic deviceIds linkGraph).1 0 with
      posted := s.posted ++
        ((s.managers g).requestStreams topic deviceIds linkGraph).2 }.Attended lag transit := by
  have htimers := (s.managers g).timers_requestStreams topic deviceIds linkGraph
  have hkeeps : SensorStreamManager.Keeps (fun _ ↦ False) (s.managers g)
      ((s.managers g).requestStreams topic deviceIds linkGraph).1 :=
    SensorStreamManager.keeps_requestStreams (h.linked g) topic deviceIds linkGraph
  have hgoes : (s.managers g).GoesOn
      ((s.managers g).requestStreams topic deviceIds linkGraph).1
        (.sendHeartbeat "" "" heartbeatTimeMs) := by
    refine ⟨hkeeps.linked, (SensorStreamManager.renews_requestStreams (s.managers g) topic
      deviceIds linkGraph).stored (h.stored g), ?_, ?_⟩
    · rw [htimers]
      exact fun _ _ _ _ hmem ↦ hmem
    · rw [htimers]
      exact fun _ hp ↦ Or.inl hp
  have hafter : (s.withManager g
      ((s.managers g).requestStreams topic deviceIds linkGraph).1 0).Attended lag transit :=
    h.withManager hlimit hgoes
      (fun _ _ _ heq ↦ (TimerCallback.sendHeartbeat.inj heq).2.2.symm) nofun
  refine hafter.lose (fun r hr ↦ ?_) fun _ hr ↦ hr
  exact (List.mem_append.mp hr).elim (h.posted r)
    (SensorStreamManager.regular_requestStreams _ topic deviceIds linkGraph r)

/-- What happens in time leaves every timer attended, so that none expires. -/
theorem attended_step (hlimit : lag + transit < 5000) (h : s.Attended lag transit)
    {e : TimedEvent} (he : s.Steady lag transit e) (ht : s.step e = some t) :
    t.Attended lag transit := by
  cases e with
  | wait ms =>
    obtain rfl := Option.some.inj ht
    exact attended_wait h he
  | requestStreams g topic deviceIds linkGraph =>
    simp only [step] at ht
    split at ht
    · obtain rfl := Option.some.inj ht
      exact attended_requestStreams hlimit h g topic deviceIds linkGraph
    · cases ht
  | forward r =>
    simp only [step] at ht
    split at ht
    · next hr =>
      obtain rfl := Option.some.inj ht
      exact attended_forward h hr.1
    · cases ht
  | process r time =>
    simp only [step] at ht
    split at ht
    · next hr =>
      obtain rfl := Option.some.inj ht
      exact attended_process hlimit h hr.1
    · cases ht
  | accept r =>
    simp only [step] at ht
    split at ht
    · next hr =>
      obtain rfl := Option.some.inj ht
      exact attended_accept hlimit h hr.1 he
    · cases ht
  | fail r =>
    simp only [step] at ht
    split at ht
    · obtain rfl := Option.some.inj ht
      exact h.lose (fun r' hr' ↦ h.posted r' (List.mem_of_mem_erase hr')) fun _ hr' ↦ hr'
    · cases ht
  | timeout r =>
    simp only [step] at ht
    split at ht
    · obtain rfl := Option.some.inj ht
      exact h.lose h.posted fun _ ↦ List.mem_of_mem_erase
    · cases ht
  | fire g handle =>
    simp only [step] at ht
    split at ht
    · next hdue =>
      split at ht
      · next ip heartbeatTopic ms hlookup =>
        obtain rfl := Option.some.inj ht
        exact attended_beat h (Timers.mem_of_lookup hlookup)
      · next mqttTopic hlookup =>
        have hcoming := (h.watched g handle mqttTopic (Timers.mem_of_lookup hlookup)).2
        exact absurd (h.lt hcoming) (Nat.not_lt.mpr hdue.2)
      · cases ht
    · cases ht
  | message heartbeat =>
    simp only [step] at ht
    split at ht
    · next hmem =>
      obtain rfl := Option.some.inj ht
      exact attended_message hlimit h hmem.1
    · cases ht
  | linkGraphArrives awaited linkGraph =>
    simp only [step, h.awaiting] at ht
    split at ht
    · next hmem => exact absurd hmem.1 List.not_mem_nil
    · cases ht
  | linkGraphFails awaited =>
    simp only [step, h.awaiting] at ht
    split at ht
    · next hmem => exact absurd hmem List.not_mem_nil
    · cases ht
  | stop g => exact he.elim

/-- After start-up there are no timers. -/
theorem attended_start : start.Attended lag transit := by
  have htimers (g : String) : (start.managers g).timers = Timers.empty := by
    rfl
  refine ⟨SensorStreamManager.linked_initial, fun g ↦ ?_, fun _ ↦ rfl, nofun, nofun,
    fun g p hp ↦ ?_, fun g _ _ _ _ hp ↦ ?_, nofun, nofun, fun g _ _ hp ↦ ?_, rfl, rfl⟩
  · rw [SensorStreamManager.DiagnosticsStored, htimers]
    exact Timers.stored_empty _ _
  · rw [htimers] at hp
    cases hp
  · rw [htimers] at hp
    cases hp
  · rw [htimers] at hp
    cases hp

end Steps

/-! ### The limit -/

/-- Longer limits allow more. -/
theorem steady_mono {lag' transit' : Nat} (hlag : lag' ≤ lag) (htransit : transit' ≤ transit)
    (s : TimedNetwork) (e : TimedEvent) (he : s.Steady lag' transit' e) :
    s.Steady lag transit e := by
  cases e with
  | wait ms =>
    obtain ⟨htimers, hforwarded, hheartbeats⟩ := he
    exact ⟨htimers, fun p hp ↦ (hforwarded p hp).trans (Nat.add_le_add_left hlag _),
      fun heartbeat hmem ↦ (hheartbeats heartbeat hmem).trans (Nat.add_le_add_left htransit _)⟩
  | accept r => exact he
  | stop g => exact he
  | requestStreams g topic deviceIds linkGraph => trivial
  | forward r => trivial
  | process r time => trivial
  | fail r => trivial
  | timeout r => trivial
  | fire g handle => trivial
  | message heartbeat => trivial
  | linkGraphArrives awaited linkGraph => trivial
  | linkGraphFails awaited => trivial

/-- A link graph with one sensor. -/
def sensorElsewhere : LinkGraph :=
  { graph := JsObject.empty
    data := JsObject.empty.set "B"
      { ip := "10.0.0.2", devices := [⟨"s1", "PowerBlade", "h1", "c1", true⟩], apps := [] } }

/-- The registration for it. -/
def registerElsewhere : RemoteRequest :=
  ⟨.register, "10.0.0.2", ⟨"10.0.0.1", ["s1"], "app1", "app1-10.0.0.2", heartbeatTimeMs⟩⟩

/-- The manager is late to process a registration, and the heartbeat is late to arrive. -/
def lateHeartbeat (lag transit : Nat) : List TimedEvent :=
  [.requestStreams "10.0.0.1" "app1" ["s1"] sensorElsewhere, .forward registerElsewhere,
    .accept registerElsewhere, .wait lag, .process registerElsewhere 0, .wait heartbeatTimeMs,
    .fire "10.0.0.2" 0, .wait transit, .fire "10.0.0.1" 0]

private theorem requests_lateHeartbeat : ((SensorStreamManager.initial "10.0.0.1").requestStreams
    "app1" ["s1"] sensorElsewhere).2 = [registerElsewhere] := by
  decide

private theorem timers_initial (ip : String) :
    (SensorStreamManager.initial ip).timers = Timers.empty := rfl

section Late

variable (h : lag + transit = 5000)
include h

/-- It is too late when together they take five seconds. -/
theorem declared_lateHeartbeat : (run step start (lateHeartbeat lag transit)).map (·.declared) =
    some [("10.0.0.1", "app1-10.0.0.2")] := by
  have hdue : heartbeatDiagnosticTimeMs ≤ lag + heartbeatTimeMs + transit := by
    show heartbeatTimeMs + 5 * 1000 ≤ _
    omega
  simp [lateHeartbeat, run, step, start, withManager, beat, requests_lateHeartbeat, timers_initial,
    registerElsewhere, SensorStreamManager.process, SensorStreamManager.registrationAccepted,
    SensorStreamManager.timers_requestStreams, SensorStreamManager.registerTopic_timers, Timers.set,
    Timers.empty, hdue]

/-- Both are within their limits. -/
theorem steady_lateHeartbeat :
    EachStep step (Steady lag transit) start (lateHeartbeat lag transit) := by
  have hdiagnostic : heartbeatDiagnosticTimeMs = heartbeatTimeMs + 5000 := rfl
  have hheartbeat : heartbeatTimeMs = 60000 := rfl
  have htransit : transit ≤ heartbeatTimeMs := by omega
  simp [lateHeartbeat, EachStep, step, Steady, start, withManager, beat, requests_lateHeartbeat,
    timers_initial, registerElsewhere, SensorStreamManager.process,
    SensorStreamManager.registrationAccepted, SensorStreamManager.timers_requestStreams,
    SensorStreamManager.registerTopic_timers, Timers.set, Timers.empty, Function.update_apply]
  -- Each time it waits, only these two gateways have timers.
  refine ⟨fun g a b hmem ↦ ?_, fun g a b hmem ↦ ?_, fun g a b hmem ↦ ?_⟩
  all_goals
    by_cases hhere : g = "10.0.0.1"
    · subst hhere
      simp
      omega
    · by_cases hthere : g = "10.0.0.2"
      · subst hthere
        revert hmem
        simp +contextual [SensorStreamManager.registerTopic_timers, timers_initial, Timers.set,
          Timers.empty, htransit]
      · simp [hhere, hthere, timers_initial, Timers.empty] at hmem

end Late

/-- In steady runs no gateway is ever taken to have failed, exactly if `lag` and `transit` together
are less than five seconds. -/
theorem undeclared_iff (lag transit : Nat) :
    (∀ es, EachStep step (Steady lag transit) start es → Always step Undeclared start es) ↔
      lag + transit < 5000 := by
  constructor
  · intro hall
    by_contra hlimit
    obtain ⟨lag', transit', hlag, htransit, hsum⟩ :
        ∃ lag' transit', lag' ≤ lag ∧ transit' ≤ transit ∧ lag' + transit' = 5000 :=
      ⟨min lag 5000, 5000 - min lag 5000, by omega, by omega, by omega⟩
    obtain ⟨s, hs, hdeclared⟩ := Option.map_eq_some_iff.mp (declared_lateHeartbeat hsum)
    have hsteady := (steady_lateHeartbeat hsum).imp step (steady_mono hlag htransit)
    have hnone : s.declared = [] := (hall _ hsteady).last step hs
    rw [hnone] at hdeclared
    cases hdeclared
  · intro hlimit es hes
    have hattended := always_of_eachStep step (I := Attended lag transit)
      (fun s e t h he ht ↦ attended_step hlimit h he ht) es attended_start hes
    exact hattended.imp step fun s h ↦ h.declared

end TimedNetwork
end NexusEdge.Streams
