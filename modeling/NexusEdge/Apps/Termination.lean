import NexusEdge.Apps.AppManager
import NexusEdge.Streams.Heartbeats

/-!
# Termination and the streams

Library `Apps`. The application managers and stream managers of all gateways. An application
manager asks the stream manager of its gateway for the streams of an application it starts; it
says nothing to it when the application is terminated, so the streams stay: routes, stored
request, heartbeats and diagnostic timers.
-/

namespace NexusEdge.Apps
open NexusEdge.Base NexusEdge.Platform NexusEdge.Dao NexusEdge.Streams

/-- A set-up of streams that waits for the link graph, `sensor-stream-manager.js:566–567`. -/
structure SetUp where
  gatewayIp : String
  topic : String
  deviceIds : List String

/-- The managers of the gateways by ip, and what is under way. -/
structure Gateways where
  appManagers : String → AppManager
  network : Network
  settingUp : List SetUp
  /-- Heartbeats published and not yet received, with the ip of the broker. -/
  heartbeats : List (String × String)

/-- What happens at the gateways. -/
inductive GatewayEvent where
  | app (gatewayIp : String) (e : AppEvent)
  /-- The first `request-streams` message of the gateway is processed. -/
  | requestStreams (gatewayIp : String)
  /-- The link graph for the `k`-th set-up arrives, or its request is rejected. -/
  | linkGraph (k : Nat) (answer : Option LinkGraph)
  /-- The request for the link graph of a recomputation is rejected. -/
  | recomputationFails (gatewayIp : String) (pending : Recomputation)
  /-- The interval of a heartbeat is over. -/
  | heartbeatTimer (gatewayIp : String) (handle : Nat)
  /-- The `k`-th heartbeat under way arrives. -/
  | heartbeat (k : Nat)
  /-- A diagnostic timer expires. -/
  | diagnosticTimer (gatewayIp : String) (handle : Nat)
  /-- What happens between stream managers, with the link graph served and the live gateways. -/
  | network (linkGraph : LinkGraph) (live : String → Bool) (e : NetworkEvent)

namespace Gateways

/-- The started gateways, with the files and databases of earlier processes. -/
def initial (files : String → FileSystem) (databases : String → JsObject (JsObject Dao.App)) :
    Gateways where
  appManagers gatewayIp := AppManager.initial (files gatewayIp) (databases gatewayIp)
  network := ⟨fun gatewayIp ↦ SensorStreamManager.initial gatewayIp, [], [], []⟩
  settingUp := []
  heartbeats := []

/-- The application manager of one gateway changes. -/
def withAppManager (s : Gateways) (gatewayIp : String) (a : AppManager) : Gateways :=
  { s with appManagers := Function.update s.appManagers gatewayIp a }

/-- The stream manager of one gateway changes. -/
def withStreamManager (s : Gateways) (gatewayIp : String) (m : SensorStreamManager) : Gateways :=
  { s with network := s.network.withManager gatewayIp m }

/-- Streams are set up with a link graph, `sensor-stream-manager.js:545–565,571–590`. -/
def setUpStreams (s : Gateways) (setUp : SetUp) (linkGraph : LinkGraph) : Gateways :=
  { s with
    network := s.network.requestStreams setUp.gatewayIp setUp.topic setUp.deviceIds linkGraph }

/-- The `request-streams` listener with the metadata it has read,
`sensor-stream-manager.js:533–594`. -/
def provideStreams (s : Gateways) (gatewayIp : String) (request : StreamsRequest)
    (metadata : AppMetadata) : Gateways :=
  match metadata.deviceIds, request.linkGraph with
  | some deviceIds, some linkGraph => s.setUpStreams ⟨gatewayIp, request.topic, deviceIds⟩ linkGraph
  | some deviceIds, none =>
    { s with settingUp := s.settingUp ++ [⟨gatewayIp, request.topic, deviceIds⟩] }
  | none, _ => s

/-- A diagnostic timer expires, `sensor-stream-manager.js:113,188,196`. -/
def expireDiagnosticTimer (s : Gateways) (gatewayIp : String) (handle : Nat)
    (mqttTopic : String) : Gateways :=
  let m := s.network.managers gatewayIp
  let s := s.withStreamManager gatewayIp { m with timers := m.timers.clear handle }
  { s with network := s.network.detectFailure gatewayIp mqttTopic }

section Steps

variable (env : String → Installation)

/-- The listener takes the first message; an exception of `readJsonSync` ends the platform of the
gateway, `platform-manager.js:126–130`. -/
def processRequest (s : Gateways) (gatewayIp : String) : Option Gateways :=
  let a := s.appManagers gatewayIp
  match a.requests with
  | request :: rest =>
    match (env gatewayIp).readJson a.machine.files request.metadataPath with
    | .ok metadata => some ((s.withAppManager gatewayIp { a with requests := rest }).provideStreams
        gatewayIp request metadata)
    | .error _ => none
  | [] => none

/-- One event; none when the event cannot happen. -/
def step (s : Gateways) : GatewayEvent → Option Gateways
  | .app gatewayIp e =>
    (AppManager.step (env gatewayIp) (s.appManagers gatewayIp) e).map (s.withAppManager gatewayIp)
  | .requestStreams gatewayIp => s.processRequest env gatewayIp
  | .linkGraph k answer =>
    (s.settingUp[k]?).map fun setUp ↦
      let s := { s with settingUp := s.settingUp.eraseIdx k }
      match answer with
      | some linkGraph => s.setUpStreams setUp linkGraph
      | none => s
  | .recomputationFails gatewayIp pending =>
    (s.network.dropRecomputation gatewayIp pending).map fun network ↦
      { s with network := network }
  | .heartbeatTimer gatewayIp handle =>
    match (s.network.managers gatewayIp).timers.pending.lookup handle with
    | some (.sendHeartbeat ip heartbeatTopic _) =>
      some { s with heartbeats := s.heartbeats ++ [(ip, heartbeatTopic)] }
    | _ => none
  | .heartbeat k =>
    (s.heartbeats[k]?).map fun (ip, heartbeatTopic) ↦
      { s with heartbeats := s.heartbeats.eraseIdx k }.withStreamManager ip
        ((s.network.managers ip).handleHeartbeatMessage heartbeatTopic)
  | .diagnosticTimer gatewayIp handle =>
    match (s.network.managers gatewayIp).timers.pending.lookup handle with
    | some (.remoteGatewayFailure mqttTopic) =>
      some (s.expireDiagnosticTimer gatewayIp handle mqttTopic)
    | _ => none
  | .network linkGraph live e =>
    (s.network.step linkGraph live e).map fun network ↦ { s with network := network }

end Steps

/-! ### What a run keeps -/

/-- The event is the deregistration of the heartbeat at the gateway. -/
def Stops (e : GatewayEvent) (gatewayIp heartbeatTopic : String) : Prop :=
  ∃ linkGraph live e', e = .network linkGraph live e' ∧ Network.Stops e' gatewayIp heartbeatTopic

/-- The timers of every stream manager are in order. -/
def Linked (s : Gateways) : Prop := ∀ g, (s.network.managers g).Linked

/-- The started gateways. -/
theorem linked_initial (files : String → FileSystem)
    (databases : String → JsObject (JsObject Dao.App)) : (initial files databases).Linked :=
  fun g ↦ SensorStreamManager.linked_initial g

section Steps

variable {env : String → Installation}

/-- The metadata decides whether streams are set up, have to wait, or are not needed. -/
theorem keeps_provideStreams {stopped : String → String → Prop} {s : Gateways} (hs : s.Linked)
    (gatewayIp : String) (request : StreamsRequest) (metadata : AppMetadata) (g : String) :
    (s.network.managers g).Keeps (stopped g)
      ((s.provideStreams gatewayIp request metadata).network.managers g) := by
  unfold provideStreams
  split
  · exact Network.keeps_requestStreams hs _ _ _ _ g
  · exact SensorStreamManager.Keeps.refl (hs g)
  · exact SensorStreamManager.Keeps.refl (hs g)

/-- No step takes routes or stored requests away, and only the deregistration of a heartbeat
stops it. -/
theorem keeps_step {s t : Gateways} {e : GatewayEvent} (hs : s.Linked)
    (ht : step env s e = some t) (g : String) :
    (s.network.managers g).Keeps (Stops e g) (t.network.managers g) := by
  cases e with
  | app gatewayIp e =>
    obtain ⟨a, _, rfl⟩ := Option.map_eq_some_iff.mp ht
    exact SensorStreamManager.Keeps.refl (hs g)
  | requestStreams gatewayIp =>
    simp only [step, processRequest] at ht
    split at ht
    · split at ht
      · cases ht
        exact keeps_provideStreams (s := s.withAppManager gatewayIp _) hs gatewayIp _ _ g
      · cases ht
    · cases ht
  | linkGraph k answer =>
    obtain ⟨setUp, _, rfl⟩ := Option.map_eq_some_iff.mp ht
    split
    · exact Network.keeps_requestStreams hs _ _ _ _ g
    · exact SensorStreamManager.Keeps.refl (hs g)
  | recomputationFails gatewayIp pending =>
    obtain ⟨n, hn, rfl⟩ := Option.map_eq_some_iff.mp ht
    exact Network.keeps_dropRecomputation hs hn g
  | heartbeatTimer gatewayIp handle =>
    simp only [step] at ht
    split at ht
    · cases ht
      exact SensorStreamManager.Keeps.refl (hs g)
    · cases ht
  | heartbeat k =>
    obtain ⟨⟨ip, heartbeatTopic⟩, _, rfl⟩ := Option.map_eq_some_iff.mp ht
    exact Network.keeps_withManager hs ip
      (SensorStreamManager.keeps_handleHeartbeatMessage (hs ip) heartbeatTopic) g
  | diagnosticTimer gatewayIp handle =>
    simp only [step] at ht
    split at ht
    · next mqttTopic hlookup =>
      cases ht
      have hexpired : ∀ g, (s.network.managers g).Keeps
          (Stops (.diagnosticTimer gatewayIp handle) g) _ :=
        Network.keeps_withManager hs gatewayIp
          (SensorStreamManager.keeps_expired (hs gatewayIp) (Timers.mem_of_lookup hlookup))
      exact (hexpired g).trans
        (Network.keeps_detectFailure (fun g ↦ (hexpired g).linked) gatewayIp mqttTopic g)
    · cases ht
  | network linkGraph live e =>
    obtain ⟨n, hn, rfl⟩ := Option.map_eq_some_iff.mp ht
    exact (Network.keeps_step hs hn g).mono fun heartbeatTopic h ↦ ⟨linkGraph, live, e, rfl, h⟩

/-- The same for runs. -/
theorem keeps_run {es : List GatewayEvent} {s t : Gateways} (hs : s.Linked)
    (ht : run (step env) s es = some t) (g : String) :
    (s.network.managers g).Keeps (fun heartbeatTopic ↦ ∃ e ∈ es, Stops e g heartbeatTopic)
      (t.network.managers g) := by
  induction es generalizing s with
  | nil =>
    obtain rfl := Option.some.inj ht
    exact SensorStreamManager.Keeps.refl (hs g)
  | cons e es ih =>
    obtain ⟨u, hu, ht⟩ := Option.bind_eq_some_iff.mp ht
    have hfirst := keeps_step hs hu
    have hrest := ih (fun g ↦ (hfirst g).linked) ht
    refine SensorStreamManager.Keeps.trans ((hfirst g).mono ?_) (hrest.mono ?_)
    · exact fun heartbeatTopic h ↦ ⟨e, List.mem_cons_self, h⟩
    · rintro heartbeatTopic ⟨e', he', h⟩
      exact ⟨e', List.mem_cons_of_mem _ he', h⟩

/-- A pending diagnostic timer can expire; with a stored request for its topic the streams are
then computed anew. -/
theorem restarts_of_diagnosticTimer {s : Gateways} (hs : s.Linked) {g : String} {handle : Nat}
    {heartbeatTopic : String} (hmem : (handle, TimerCallback.remoteGatewayFailure heartbeatTopic) ∈
      (s.network.managers g).timers.pending)
    (hstored : (s.network.managers g).sensorStreamRequests.hasOwn (failureTopic heartbeatTopic)) :
    ∃ u, step env s (.diagnosticTimer g handle) = some u ∧
      ∃ pending, (g, pending) ∈ u.network.awaiting ∧
        pending.topic = failureTopic heartbeatTopic := by
  have hexpires : step env s (.diagnosticTimer g handle) =
      some (s.expireDiagnosticTimer g handle heartbeatTopic) := by
    simp only [step, (hs g).distinct.lookup hmem]
  refine ⟨_, hexpires, Network.awaiting_detectFailure ?_⟩
  simp only [withStreamManager, Network.withManager, Function.update_self]
  exact hstored

/-- Termination tells the stream managers nothing. -/
theorem step_terminateApp (s : Gateways) (gatewayIp appId : String) :
    step env s (.app gatewayIp (.terminateApp appId)) =
      some (s.withAppManager gatewayIp ((s.appManagers gatewayIp).terminateApp appId)) := rfl

/-- Nor does it send anything. -/
theorem requests_terminateApp (a : AppManager) (appId : String) :
    (a.terminateApp appId).requests = a.requests := by
  unfold AppManager.terminateApp
  split <;> rfl

/-- Terminating an application releases none of its streams. When the termination is complete
every stream manager is as before and no message to one has been added; in every later state the
routes and the stored request of the application are still there, its heartbeats go on until they
are deregistered, and a diagnostic timer of it that is pending can expire, after which the streams
are computed anew. -/
theorem terminateApp_keeps_streams (env : String → Installation) (files : String → FileSystem)
    (databases : String → JsObject (JsObject Dao.App)) {before after : List GatewayEvent}
    {s t : Gateways} {gatewayIp id : String}
    (hs : run (step env) (initial files databases) before = some s)
    (ht : run (step env) s (.app gatewayIp (.terminateApp id) :: after) = some t) :
    (∃ u, step env s (.app gatewayIp (.terminateApp id)) = some u ∧ u.network = s.network ∧
      u.settingUp = s.settingUp ∧ u.heartbeats = s.heartbeats ∧
      ∀ g, (u.appManagers g).requests = (s.appManagers g).requests) ∧
    (∀ g sensor ip, s.network.routes g sensor ip id ≤ t.network.routes g sensor ip id) ∧
    (∀ g, (s.network.managers g).sensorStreamRequests.hasOwn id →
      (t.network.managers g).sensorStreamRequests.hasOwn id) ∧
    (∀ g ip heartbeatTopic, (∀ e ∈ after, ¬ Stops e g heartbeatTopic) →
      (s.network.managers g).Publishes ip heartbeatTopic →
      (t.network.managers g).Publishes ip heartbeatTopic) ∧
    ∀ g handle heartbeatTopic, failureTopic heartbeatTopic = id →
      (handle, TimerCallback.remoteGatewayFailure heartbeatTopic) ∈
        (t.network.managers g).timers.pending →
      (s.network.managers g).sensorStreamRequests.hasOwn id →
      ∃ u, step env t (.diagnosticTimer g handle) = some u ∧
        ∃ pending, (g, pending) ∈ u.network.awaiting ∧ pending.topic = id := by
  have hlinked : s.Linked := run_invariant (step env) (P := Linked)
    (fun _ _ _ hs ht g ↦ (keeps_step hs ht g).linked) before (linked_initial files databases) hs
  have hkeeps : ∀ g, (s.network.managers g).Keeps
      (fun heartbeatTopic ↦ ∃ e ∈ after, Stops e g heartbeatTopic) (t.network.managers g) := by
    obtain ⟨u, hu, ht⟩ := Option.bind_eq_some_iff.mp ht
    obtain rfl := Option.some.inj hu
    exact keeps_run (s := s.withAppManager gatewayIp _) hlinked ht
  refine ⟨⟨_, step_terminateApp s gatewayIp id, rfl, rfl, rfl, fun g ↦ ?_⟩,
    fun g sensor ip ↦ (hkeeps g).routes sensor ip id, fun g ↦ (hkeeps g).requests id,
    fun g ip heartbeatTopic hnot ↦ (hkeeps g).heartbeats ip heartbeatTopic ?_,
    fun g handle heartbeatTopic hid hmem hstored ↦ ?_⟩
  · simp only [withAppManager]
    by_cases hg : g = gatewayIp
    · rw [hg, Function.update_self, requests_terminateApp]
    · rw [Function.update_of_ne hg]
  · rintro ⟨e, he, h⟩
    exact hnot e he h
  · rw [← hid] at hstored ⊢
    exact restarts_of_diagnosticTimer (fun g ↦ (hkeeps g).linked) hmem
      ((hkeeps g).requests _ hstored)

end Steps

/-- The metadata of an application for node that needs two sensors. -/
def sensorMetadata : String :=
  "\x7b\"runtime\":\"nodejs\",\"devices\":\x7b\"ids\":[\"s1\",\"s2\"]\x7d\x7d"

/-- An installation, as far as it parses this metadata. -/
def sensorInstallation : Installation where
  dirname := ["platform", "app-manager"]
  parse text := if text = sensorMetadata then .ok ⟨"nodejs", some ["s1", "s2"]⟩
    else .error "SyntaxError"

/-- The second gateway has the first sensor, the first gateway the second one. -/
def twoGateways : LinkGraph where
  graph := (JsObject.empty.set "g1" ["g2"]).set "g2" ["g1"]
  data := (JsObject.empty.set "g1" ⟨"10.0.0.1", [⟨"s2", "ble", "h", "c", true⟩], []⟩).set "g2"
    ⟨"10.0.0.2", [⟨"s1", "ble", "h", "c", true⟩], []⟩

/-- What the first gateway asks the second one for. -/
def remoteShare : RemoteRequest where
  kind := .register
  recipient := "10.0.0.2"
  params := ⟨"10.0.0.1", ["s1"], "a", "a-10.0.0.2", 60000⟩

/-- An application is executed on the first gateway, and its streams are set up. -/
def streamsSetUp : List GatewayEvent :=
  [.app "10.0.0.1" (.upload ["uploads", "app.js"] ""),
    .app "10.0.0.1" (.upload ["uploads", "metadata.json"] sensorMetadata),
    .app "10.0.0.1" (.executeApp ⟨"a", some twoGateways, ["uploads", "app.js"],
      ["uploads", "metadata.json"]⟩),
    .app "10.0.0.1" (.metadataRead 0 1), .app "10.0.0.1" (.readFile 0), .app "10.0.0.1" (.load 0),
    .app "10.0.0.1" .run, .requestStreams "10.0.0.1",
    .network twoGateways (fun _ ↦ true) (.deliver remoteShare),
    .network twoGateways (fun _ ↦ true) (.accept remoteShare)]

/-- The diagnostic timer expires: the streams are asked for once more. -/
def streamsRestarted : List GatewayEvent :=
  [.diagnosticTimer "10.0.0.1" 0,
    .network twoGateways (fun _ ↦ true) (.linkGraphArrives "10.0.0.1" ⟨"a", ["s1", "s2"]⟩),
    .network twoGateways (fun _ ↦ true) (.deliver remoteShare)]

/-- After the termination the second gateway routes the sensor to the application twice. -/
theorem streams_restart_after_termination :
    ∃ s t, run (step fun _ ↦ sensorInstallation)
        (initial (fun _ _ ↦ none) fun _ ↦ JsObject.empty) streamsSetUp = some s ∧
      run (step fun _ ↦ sensorInstallation) s
        (.app "10.0.0.1" (.terminateApp "a") :: streamsRestarted) = some t ∧
      (∀ g sensor ip, s.network.routes g sensor ip "a" ≤ t.network.routes g sensor ip "a") ∧
      t.network.routes "10.0.0.2" "s1" "10.0.0.1" "a" = 2 := by
  have hrun : (run (step fun _ ↦ sensorInstallation)
      (initial (fun _ _ ↦ none) fun _ ↦ JsObject.empty)
      (streamsSetUp ++ .app "10.0.0.1" (.terminateApp "a") :: streamsRestarted)).map
        (fun t ↦ t.network.routes "10.0.0.2" "s1" "10.0.0.1" "a") = some 2 := by
    decide +kernel
  obtain ⟨t, hall, hroutes⟩ := Option.map_eq_some_iff.mp hrun
  rw [run_append] at hall
  obtain ⟨s, hs, ht⟩ := Option.bind_eq_some_iff.mp hall
  exact ⟨s, t, hs, ht, (terminateApp_keeps_streams (fun _ ↦ sensorInstallation) (fun _ _ ↦ none)
    (fun _ ↦ JsObject.empty) hs ht).2.1, hroutes⟩

/-- The termination is complete: nothing is under way at the application manager of the gateway
or between stream managers. -/
structure Complete (s : Gateways) (gatewayIp : String) : Prop where
  inFlight : s.network.inFlight = []
  accepted : s.network.accepted = []
  awaiting : s.network.awaiting = []
  settingUp : s.settingUp = []
  heartbeats : s.heartbeats = []
  requests : (s.appManagers gatewayIp).requests = []
  removing : (s.appManagers gatewayIp).removing = []
  loading : (s.appManagers gatewayIp).db.loading = []
  ready : (s.appManagers gatewayIp).db.ready = []

/-- No stream manager routes to the topic, publishes a heartbeat for it or has a diagnostic timer
for it. -/
structure Released (s : Gateways) (id : String) : Prop where
  routes : ∀ g sensor ip, s.network.routes g sensor ip id = 0
  heartbeats : ∀ g ip remote, ¬ (s.network.managers g).Publishes ip (id ++ "-" ++ remote)
  diagnostics : ∀ g remote handle, (handle, .remoteGatewayFailure (id ++ "-" ++ remote)) ∉
    (s.network.managers g).timers.pending

/-- The application is terminated, and all of that completes. -/
def terminated : List GatewayEvent :=
  streamsSetUp ++ [.app "10.0.0.1" (.terminateApp "a"), .app "10.0.0.1" (.removed 0),
    .app "10.0.0.1" (.removed 0), .app "10.0.0.1" .run]

/-- The second gateway still routes its sensor to the application. -/
theorem terminated_not_released :
    ¬ ∀ t, run (step fun _ ↦ sensorInstallation)
        (initial (fun _ _ ↦ none) fun _ ↦ JsObject.empty) terminated = some t →
      t.Complete "10.0.0.1" → t.Released "a" := by
  intro h
  have hrun : (run (step fun _ ↦ sensorInstallation)
      (initial (fun _ _ ↦ none) fun _ ↦ JsObject.empty) terminated).map (fun t ↦
        let a := t.appManagers "10.0.0.1"
        ([t.network.inFlight.length, t.network.accepted.length, t.network.awaiting.length,
          t.settingUp.length, t.heartbeats.length, a.requests.length, a.removing.length,
          a.db.loading.length, a.db.ready.length],
          t.network.routes "10.0.0.2" "s1" "10.0.0.1" "a")) =
        some ([0, 0, 0, 0, 0, 0, 0, 0, 0], 1) := by
    decide +kernel
  obtain ⟨t, ht, hstate⟩ := Option.map_eq_some_iff.mp hrun
  simp only [Prod.mk.injEq, List.cons.injEq, List.length_eq_zero_iff, and_true, and_assoc]
    at hstate
  obtain ⟨hinFlight, haccepted, hawaiting, hsettingUp, hheartbeats, hrequests, hremoving, hloading,
    hready, hroutes⟩ := hstate
  have hreleased := h t ht ⟨hinFlight, haccepted, hawaiting, hsettingUp, hheartbeats, hrequests,
    hremoving, hloading, hready⟩
  rw [hreleased.routes] at hroutes
  cases hroutes

end Gateways
end NexusEdge.Apps
