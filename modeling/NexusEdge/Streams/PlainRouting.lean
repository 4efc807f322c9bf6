import NexusEdge.Streams.PlainObjects
import NexusEdge.Streams.Routing

/-!
# Routing from plain objects

Library `Streams`. The process that routes under a policy, `sensor-stream-manager.js:305–365`, with
the route table, the clients and the rule of the policy plain objects. A list that is added to
`Object.prototype` through a sensor `__proto__` is found in place of the dictionary of a sensor
that has none, with indices where gateways are expected; no gateway has a client under an index.
-/

namespace NexusEdge.Streams
open NexusEdge.Base NexusEdge.Platform NexusEdge.Policy

/-- The names in a policy. -/
def policyNames (p : PolicyFormat) : List String :=
  namesOf p.sensorSpecific ++ namesOf p.appSpecific ++ namesOf p.appSensor
where
  /-- Keys and entry names of one part. -/
  namesOf {n : Nat} (part : Option (Entries String n)) : List String :=
    (part.elim [] Nested.paths).flatMap fun path ↦ path.1.1.toList ++ [path.1.2]

/-- The names under which the listener for an event stores something. -/
def ProcessEvent.names : ProcessEvent → List String
  | .requestStreams topic deviceIds linkGraph =>
    topic :: deviceIds ++ linkGraph.data.entries.map fun entry ↦ entry.2.ip
  | .registerTopic params => params.ip :: params.sensors
  | .updatePolicy (some policy) _ _ => policyNames policy
  | .recomputeStreams _ linkGraph => linkGraph.data.entries.map fun entry ↦ entry.2.ip
  | _ => []

/-- None of them is a name of `Object.prototype`. -/
def ProcessEvent.OrdinaryNames (e : ProcessEvent) : Prop :=
  ∀ name ∈ e.names, name ∉ prototypeNames

instance : DecidablePred ProcessEvent.OrdinaryNames := fun e ↦
  inferInstanceAs (Decidable (∀ name ∈ e.names, name ∉ prototypeNames))

/-- The process with what has been added to `Object.prototype`. -/
structure PlainProcess (C : CronParser) where
  process : Process C
  added : JsObject (List String)

namespace PlainProcess

variable {C : CronParser}

/-- The manager of the routes. -/
def plain (s : PlainProcess C) : PlainManager := ⟨s.process.manager, s.added⟩

/-- The process after the manager has done something. -/
def withManager (s : PlainProcess C) (m : PlainManager) : PlainProcess C :=
  ⟨{ s.process with manager := m.manager }, m.added⟩

/-- The process after start-up, `sensor-stream-manager.js:371–411`. -/
def initial (localGatewayIp timeZone : String) : PlainProcess C :=
  withManager ⟨Process.initial localGatewayIp timeZone, JsObject.empty⟩
    (PlainManager.initial localGatewayIp)

/-- `list.includes(topic)` of a list that has been found. -/
def listed (found : Found (List String) (List String)) (topic : String) : Bool :=
  match found with
  | .own topics | .added topics => topics.contains topic
  | .prototype | .method | .undefined => false

/-- `appSensor[sensorId][ip].includes(topic)`. Where a list is found in place of the dictionary of a
sensor, its topics include their parts. -/
def listedForSensor (appSensor : JsObject (JsObject (List String))) (added : JsObject (List String))
    (sensorId ip topic : String) : Bool :=
  match appSensor.find added sensorId with
  | .own ips => listed (ips.find added ip) topic
  | .added topics =>
    match (arrayIndex? ip).bind fun index ↦ topics[index]? with
    | some text => decide (topic.toList <:+: text.toList)
    | none => (added.get? ip).any fun topics ↦ topics.contains topic
  | .prototype | .method => (added.get? ip).any fun topics ↦ topics.contains topic
  | .undefined => false

/-- `isBlocked`, `policy.js:316–333`, for an ip that is routed to; no method is found under it. -/
def isBlocked (s : PlainProcess C) (sensorId ip topic : String) : Bool :=
  let rule := s.process.policyHelper.rule
  let sensorSpecific : List String := rule.sensorSpecific
  if sensorSpecific.contains sensorId then true
  else if listed (JsObject.find rule.appSpecific s.added ip) topic then true
  else if listedForSensor rule.appSensor s.added sensorId ip topic then true
  else false

/-- Another listener than those for topics is followed for ordinary names, as long as nothing is
added to `Object.prototype`. -/
def otherStep (s : PlainProcess C) (e : ProcessEvent) : Option (PlainProcess C) :=
  if s.added = JsObject.empty ∧ e.OrdinaryNames then
    (s.process.step e).map fun process ↦ ⟨process, s.added⟩
  else none

/-- One event; none when it cannot happen, or when its listener throws. -/
def step (s : PlainProcess C) : ProcessEvent → Option (PlainProcess C)
  | .registerTopic params => (s.plain.registerTopic params).map s.withManager
  | .deregisterTopic params => (s.plain.deregisterTopic params).map s.withManager
  | e => s.otherStep e

/-- The publications of a reading of the sensor. -/
def publications (s : PlainProcess C) (deviceId : String) : List (String × String) :=
  s.plain.routeSensorStreamsToApps s.isBlocked deviceId

/-- Readings are published on the routes of their sensor that are not blocked, each as often
as it is listed, and no publication fails for want of a client. -/
def RoutesExactly (s : PlainProcess C) : Prop :=
  ∀ deviceId,
    s.publications deviceId = (s.plain.table.routes deviceId).filter
      (fun route ↦ !s.isBlocked deviceId route.1 route.2) ∧
    ∀ route ∈ s.plain.table.routes deviceId,
      s.process.manager.publishData route.1 route.2 = some route

/-! ### Names that plain objects do not inherit -/

variable {s t : PlainProcess C}

/-- Everything is under names that plain objects do not inherit, and gateways are connected. -/
structure Connected (s : PlainProcess C) : Prop where
  ordinary : s.plain.Ordinary
  connected : s.process.manager.Connected

private theorem find_inherited {α : Type} {o : JsObject α} {name : String}
    (h : o.get? name = none) :
    o.find (JsObject.empty : JsObject (List String)) name = .prototype ∨
      o.find (JsObject.empty : JsObject (List String)) name = .method ∨
      o.find (JsObject.empty : JsObject (List String)) name = .undefined :=
  JsObject.find_empty_of_none h

/-- What is found by such a name before anything is added is own. -/
private theorem listed_find (o : JsObject (List String)) (name topic : String) :
    listed (o.find (JsObject.empty : JsObject (List String)) name) topic =
      (o.get? name).any fun topics ↦ topics.contains topic := by
  cases hget : o.get? name with
  | some topics =>
    rw [JsObject.find_of_get? hget]
    rfl
  | none =>
    rcases find_inherited hget with hfound | hfound | hfound
    all_goals
      rw [hfound]
      rfl

private theorem listedForSensor_empty (appSensor : JsObject (JsObject (List String)))
    (sensorId ip topic : String) :
    listedForSensor appSensor JsObject.empty sensorId ip topic =
      (appSensor.get? sensorId).any fun ips ↦
        (ips.get? ip).any fun topics ↦ topics.contains topic := by
  rw [listedForSensor]
  cases hget : appSensor.get? sensorId with
  | some ips =>
    rw [JsObject.find_of_get? hget]
    exact listed_find ips ip topic
  | none =>
    rcases find_inherited hget with hfound | hfound | hfound
    all_goals
      rw [hfound]
      rfl

/-- The rule blocks by its own properties. -/
theorem isBlocked_of_ordinary (hs : s.added = JsObject.empty) (sensorId ip topic : String) :
    s.isBlocked sensorId ip topic = s.process.policyHelper.isBlocked sensorId ip topic := by
  simp only [isBlocked, PolicyEnforcer.isBlocked, hs, listed_find, listedForSensor_empty]

/-- Readings are routed as they would be from the own properties. -/
theorem publications_of_ordinary (hs : s.added = JsObject.empty) (deviceId : String) :
    s.publications deviceId = s.process.publications deviceId := by
  have hblocked : s.isBlocked = s.process.policyHelper.isBlocked := by
    funext sensorId ip topic
    exact isBlocked_of_ordinary hs sensorId ip topic
  have hroutes : s.plain.routeSensorStreamsToApps s.isBlocked deviceId =
      s.process.manager.routeSensorStreamsToApps s.isBlocked deviceId :=
    PlainManager.routeSensorStreamsToApps_of_ordinary hs s.isBlocked deviceId
  rw [publications, hroutes, hblocked, Process.publications]

/-- Connected gateways are routed to exactly. -/
theorem Connected.routesExactly (hs : s.Connected) : s.RoutesExactly := by
  have hadded : s.added = JsObject.empty := hs.ordinary.table.added
  intro deviceId
  obtain ⟨hpublished, hclients⟩ := Process.routesExactly_of_connected hs.connected deviceId
  have hroutes : s.plain.table.routes deviceId =
      s.process.manager.sensorStreamRouteTable.routes deviceId :=
    PlainTable.routes_of_ordinary hadded deviceId
  rw [publications_of_ordinary hadded, hroutes]
  refine ⟨hpublished.trans ?_, hclients⟩
  apply List.filter_congr
  intro route _
  rw [isBlocked_of_ordinary hadded]

/-- Set-up stores the sensors that the application asked for. -/
theorem ordinary_requestStreams (hs : s.plain.Ordinary) (topic : String) (linkGraph : LinkGraph)
    {deviceIds : List String} (hids : ∀ id ∈ deviceIds, id ∉ prototypeNames) :
    PlainManager.Ordinary
      ⟨(s.process.manager.requestStreams topic deviceIds linkGraph).1, s.added⟩ := by
  simp only [SensorStreamManager.requestStreams]
  apply foldl_invariant (P := fun progress : SensorStreamManager × List RemoteRequest ↦
    PlainManager.Ordinary ⟨progress.1, s.added⟩)
  · intro entry hentry progress hprogress
    have hsensors : ∀ sensor ∈ entry.2, sensor ∉ prototypeNames := fun sensor hsensor ↦
      hids sensor (SensorStreamManager.mem_optimalMapping _ hentry hsensor).1
    simp only [SensorStreamManager.provideFromGateway]
    split
    · exact ⟨hprogress.table.registerToLocalGateway hsensors, hprogress.clients⟩
    · exact hprogress
  · exact ⟨hs.table, hs.clients⟩

/-- The handler of a failure leaves the table and the clients alone. -/
theorem ordinary_handleRemoteGatewayFailure (hs : s.plain.Ordinary) (mqttTopic : String) :
    PlainManager.Ordinary
      ⟨(s.process.manager.handleRemoteGatewayFailure mqttTopic).1, s.added⟩ := by
  simp only [SensorStreamManager.handleRemoteGatewayFailure]
  split
  · apply foldl_invariant (P := fun progress : SensorStreamManager × List RemoteRequest ↦
      PlainManager.Ordinary ⟨progress.1, s.added⟩)
    · intro entry _ progress hprogress
      simp only [SensorStreamManager.stopGateway, SensorStreamManager.stopDiagnosticTimer]
      split
      · exact ⟨hprogress.table, hprogress.clients⟩
      · exact hprogress
    · exact hs
  · exact hs

/-- What the process does for ordinary names leaves everything under ordinary names. -/
theorem ordinary_step {e : ProcessEvent} {process : Process C} (hs : s.plain.Ordinary)
    (he : e.OrdinaryNames) (ht : s.process.step e = some process)
    (htopic : ∀ params, e ≠ .registerTopic params ∧ e ≠ .deregisterTopic params) :
    PlainManager.Ordinary ⟨process.manager, s.added⟩ := by
  cases e with
  | requestStreams topic deviceIds linkGraph =>
    have hafter := ordinary_requestStreams hs topic linkGraph fun id hid ↦
      he id (List.mem_cons_of_mem topic (List.mem_append_left _ hid))
    simp only [Process.step, Option.some.injEq] at ht
    simpa only [← ht] using hafter
  | registerTopic params => exact absurd rfl (htopic params).1
  | deregisterTopic params => exact absurd rfl (htopic params).2
  | updatePolicy policy now timerNow =>
    cases ht
    unfold Process.updatePolicy
    split
    · exact hs
    · exact hs
  | policyTimer handle now timerNow =>
    simp only [Process.step] at ht
    split at ht
    · cases ht
      exact hs
    · cases ht
  | registrationAccepted heartbeatTopic =>
    cases ht
    exact ⟨hs.table, hs.clients⟩
  | remoteGatewayFailure mqttTopic =>
    have hafter := ordinary_handleRemoteGatewayFailure hs mqttTopic
    simp only [Process.step, Option.some.injEq] at ht
    simpa only [← ht] using hafter
  | recomputeStreams pending linkGraph =>
    cases ht
    exact ⟨hs.table, hs.clients⟩

/-- Another listener keeps the gateways connected. -/
theorem Connected.otherStep {e : ProcessEvent} (hs : s.Connected) (he : e.OrdinaryNames)
    (htopic : ∀ params, e ≠ .registerTopic params ∧ e ≠ .deregisterTopic params)
    (ht : s.otherStep e = some t) : t.Connected := by
  rw [PlainProcess.otherStep, if_pos ⟨hs.ordinary.table.added, he⟩] at ht
  obtain ⟨process, hprocess, rfl⟩ := Option.map_eq_some_iff.mp ht
  have hordinary : PlainManager.Ordinary ⟨process.manager, s.added⟩ :=
    ordinary_step hs.ordinary he hprocess htopic
  exact ⟨hordinary, Process.connected_step hs.connected hprocess⟩

/-- Every event with ordinary names keeps the gateways connected. -/
theorem Connected.step {e : ProcessEvent} (hs : s.Connected) (he : e.OrdinaryNames)
    (ht : s.step e = some t) : t.Connected := by
  cases e with
  | registerTopic params =>
    obtain ⟨m, hm, rfl⟩ := Option.map_eq_some_iff.mp ht
    have hnames : PlainManager.OrdinaryNames params :=
      ⟨he params.ip List.mem_cons_self, fun sensor hmem ↦ he sensor (List.mem_cons_of_mem _ hmem)⟩
    have hordinary : m.Ordinary := hs.ordinary.handle (e := .register params)
      (fun params' heq ↦ by cases heq; exact hnames) hm
    rw [PlainManager.registerTopic_of_ordinary hs.ordinary.table.added hnames] at hm
    cases hm
    exact ⟨hordinary, SensorStreamManager.connected_registerTopic hs.connected params⟩
  | deregisterTopic params =>
    obtain ⟨m, hm, rfl⟩ := Option.map_eq_some_iff.mp ht
    have hordinary : m.Ordinary := hs.ordinary.handle (e := .deregister params)
      (fun params' heq ↦ by cases heq) hm
    obtain ⟨htable, _, _, hip⟩ := PlainManager.deregisterTopic_spec hm
    have hroutes : m.manager.sensorStreamRouteTable =
        s.process.manager.sensorStreamRouteTable.deregisterFromLocalGateway params.ip
          params.sensors params.topic := congrArg PlainTable.table htable
    refine ⟨hordinary, ?_, fun sensor ip hserves ↦ ?_⟩
    · have hlocal : m.manager.mqttClients.hasOwn s.plain.manager.localGatewayIp :=
        PlainManager.hasOwn_of_deregisterTopic hm hs.connected.localGateway
      rw [← hip] at hlocal
      exact hlocal
    · have hbefore : s.process.manager.sensorStreamRouteTable.Serves sensor ip := by
        apply RouteTable.serves_deregisterFromLocalGateway
        rw [← hroutes]
        exact hserves
      exact PlainManager.hasOwn_of_deregisterTopic hm (hs.connected.routed sensor ip hbefore)
  | requestStreams topic deviceIds linkGraph => exact hs.otherStep he (by simp) ht
  | updatePolicy policy now timerNow => exact hs.otherStep he (by simp) ht
  | policyTimer handle now timerNow => exact hs.otherStep he (by simp) ht
  | registrationAccepted heartbeatTopic => exact hs.otherStep he (by simp) ht
  | remoteGatewayFailure mqttTopic => exact hs.otherStep he (by simp) ht
  | recomputeStreams pending linkGraph => exact hs.otherStep he (by simp) ht

/-- The started process, at an ip that plain objects do not inherit. -/
theorem connected_initial {localGatewayIp : String} (hip : localGatewayIp ∉ prototypeNames)
    (timeZone : String) : (initial localGatewayIp timeZone : PlainProcess C).Connected := by
  have hordinary := PlainManager.ordinary_initial localGatewayIp
  have hroutes : (PlainManager.initial localGatewayIp).manager.sensorStreamRouteTable =
      JsObject.empty := congrArg PlainTable.table (PlainManager.table_initial localGatewayIp)
  have hmanager : PlainManager.initial localGatewayIp =
      { manager := SensorStreamManager.registerMQTTClient
          { SensorStreamManager.initial localGatewayIp with mqttClients := JsObject.empty }
          localGatewayIp
        added := JsObject.empty } :=
    PlainManager.registerMQTTClient_of_ordinary rfl hip
  have hlocal : (PlainManager.initial localGatewayIp).manager.localGatewayIp = localGatewayIp := by
    rw [hmanager]
    refine (SensorStreamManager.registerMQTTClient_frame _ localGatewayIp).1.trans ?_
    exact (SensorStreamManager.registerMQTTClient_frame _ localGatewayIp).1
  have hclient : (PlainManager.initial localGatewayIp).manager.mqttClients.hasOwn
      (PlainManager.initial localGatewayIp).manager.localGatewayIp := by
    rw [hlocal, hmanager]
    exact (SensorStreamManager.hasOwn_registerMQTTClient _ localGatewayIp localGatewayIp).mpr
      (Or.inl rfl)
  refine ⟨hordinary, ?_, fun sensor ip hserves ↦ ?_⟩
  · exact hclient
  · have hempty : RouteTable.Serves JsObject.empty sensor ip := hroutes ▸ hserves
    obtain ⟨ipTable, hget, _⟩ := hempty
    cases hget

/-- In every state of every run whose events name no property of `Object.prototype` readings are
routed exactly. -/
theorem routesExactly_run {localGatewayIp : String} (hip : localGatewayIp ∉ prototypeNames)
    (timeZone : String) {es : List ProcessEvent} (hes : ∀ e ∈ es, e.OrdinaryNames) :
    Always step RoutesExactly (initial localGatewayIp timeZone : PlainProcess C) es := by
  have hconnected : Always step Connected (initial localGatewayIp timeZone : PlainProcess C) es :=
    always_of_eachStep step (fun s e t hs he ht ↦ Connected.step hs he ht) es
      (connected_initial hip timeZone) (eachStep_of_forall step (fun e he _ ↦ hes e he) _)
  exact Always.imp step (fun _ hs ↦ hs.routesExactly) hconnected

private def blockedPair : PolicyFormat where
  sensorSpecific := none
  appSpecific := none
  appSensor := some (JsObject.empty.set "s1" (JsObject.empty.set "10.0.0.3"
    (JsObject.empty.set "app1" ⟨true, "0-29 * * * * *"⟩)))

private def request (ip sensor : String) : ProcessEvent :=
  .registerTopic { ip := ip, sensors := [sensor], topic := "A", heartbeatTopic := "A-10.0.0.1"
                   heartbeatTimeMs := 60000 }

/-- A policy in force and a registration. -/
theorem routesExactly_registration :
    Always step RoutesExactly
      (initial "10.0.0.1" "UTC" : PlainProcess PolicyEnforcer.firstHalves)
      [.updatePolicy (some blockedPair) 0 0, request "10.0.0.2" "s1"] :=
  routesExactly_run (by decide) "UTC" (by decide)

/-- An application asks for a sensor `__proto__` at an ip that is the id of a sensor. A reading of
the sensor is routed to an index, which has no client. -/
theorem unregistered_client :
    ¬ Always step RoutesExactly
      (initial "10.0.0.1" "UTC" : PlainProcess PolicyEnforcer.firstHalves)
      [.updatePolicy (some blockedPair) 0 0, request "s1" "__proto__"] := by
  intro h
  have hfacts : (run step (initial "10.0.0.1" "UTC" : PlainProcess PolicyEnforcer.firstHalves)
      [.updatePolicy (some blockedPair) 0 0, request "s1" "__proto__"]).map (fun s ↦
        (decide (("0", "A") ∈ s.plain.table.routes "s1"), s.isBlocked "s1" "0" "A",
          s.process.manager.publishData "0" "A")) = some (true, false, none) := by decide
  obtain ⟨s, hs, hfacts⟩ := Option.map_eq_some_iff.mp hfacts
  obtain ⟨hroute, hrest⟩ := Prod.mk.inj hfacts
  obtain ⟨_, hnone⟩ := Prod.mk.inj hrest
  have hpublished := ((Always.last step h hs) "s1").2 ("0", "A") (of_decide_eq_true hroute)
  rw [hnone] at hpublished
  cases hpublished

end PlainProcess
end NexusEdge.Streams
