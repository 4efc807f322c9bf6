import Mathlib.Data.List.Count
import NexusEdge.Streams.PlainObjects
import NexusEdge.Streams.PublishTimers
import NexusEdge.Streams.Routing

/-!
# Streams of different applications

Library `Streams`. The routes of one application under the topic events of all of them,
`sensor-stream-manager.js:21–54,605–654`. Topics share their lists, from which an index is removed;
how often a topic is listed, and how often a reading is published to it, depends on the events
that name the topic only. This is so unless a registration names a property of `Object.prototype`:
a topic registered for the sensor `__proto__` appears in the dictionaries of other applications.
-/

namespace NexusEdge.Streams
open NexusEdge.Base

/-- The application topic of an event. -/
def TopicEvent.topic : TopicEvent → String
  | .register params => params.topic
  | .deregister params => params.topic

/-- How many entries of its topic an event adds for a sensor and an ip. -/
def TopicEvent.added : TopicEvent → String → String → Nat
  | .register params => fun sensor ip ↦ if ip = params.ip then params.sensors.count sensor else 0
  | .deregister _ => fun _ _ ↦ 0

/-- A registration names no property of `Object.prototype`. Handles are looked for by the method
`hasOwnProperty`; of the names of handles only this one matters. -/
def TopicEvent.OrdinaryNames : TopicEvent → Prop
  | .register params => PlainManager.OrdinaryNames params ∧
      params.heartbeatTopic ≠ "hasOwnProperty"
  | .deregister _ => True

instance : DecidablePred TopicEvent.OrdinaryNames := fun e ↦
  match e with
  | .register params => inferInstanceAs (Decidable (PlainManager.OrdinaryNames params ∧
      params.heartbeatTopic ≠ "hasOwnProperty"))
  | .deregister _ => inferInstanceAs (Decidable True)

/-- A topic is among the routes of a sensor as often as it is listed. -/
theorem RouteTable.count_routes (table : RouteTable) (sensor ip topic : String) :
    (table.routes sensor).count (ip, topic) = table.routeCount sensor ip topic := by
  unfold routes routeCount topics
  cases hsensor : table.get? sensor with
  | none => rfl
  | some ipTable =>
    have hentry : ∀ entry : String × List String,
        (entry.2.map fun t ↦ (entry.1, t)).count (ip, topic) =
          if entry.1 = ip then entry.2.count topic else 0 := by
      intro entry
      split
      · next hip =>
        have hinjective : Function.Injective fun t : String ↦ (entry.1, t) := fun _ _ h ↦
          (Prod.mk.inj h).2
        rw [← hip]
        exact List.count_map_of_injective entry.2 _ hinjective topic
      · next hip =>
        rw [List.count_eq_zero]
        intro hmem
        obtain ⟨t, _, ht⟩ := List.mem_map.mp hmem
        exact hip (Prod.mk.inj ht).1
    simp only [List.count_flatMap, Function.comp_def, hentry, ipTable.sum_ownEntries ip,
      Option.bind_some]
    cases ipTable.get? ip with
    | none => rfl
    | some topics => rfl

/-- A reading is published to a topic as often as the topic is listed, unless it is blocked. -/
theorem SensorStreamManager.RoutedToClients.count_published {s : SensorStreamManager}
    (hs : s.RoutedToClients) (isBlocked : String → String → String → Bool)
    (sensor ip topic : String) :
    (s.routeSensorStreamsToApps isBlocked sensor).count (ip, topic) =
      if isBlocked sensor ip topic then 0
      else s.sensorStreamRouteTable.routeCount sensor ip topic := by
  rw [hs.routeSensorStreamsToApps]
  split
  · next hblocked =>
    rw [List.count_eq_zero, List.mem_filter]
    rintro ⟨_, hroute⟩
    simp [hblocked] at hroute
  · next hblocked =>
    rw [List.count_filter (by simpa using hblocked), RouteTable.count_routes]

namespace PlainManager

/-- How often a topic is listed, by sensor and ip. -/
def multiplicity (topic : String) (s : PlainManager) (sensor ip : String) : Nat :=
  s.table.routeCount sensor ip topic

/-- Everything is under names that plain objects do not inherit, handles can be looked for, and
every gateway in the route table has a client. -/
structure Serving (s : PlainManager) : Prop where
  ordinary : s.Ordinary
  method : ¬ s.manager.heartbeatPublishTimers.hasOwn "hasOwnProperty"
  routed : s.manager.RoutedToClients

variable {s : PlainManager}

/-- Readings go out as often as their topics are listed, unless they are blocked. -/
theorem Serving.count_published (hs : s.Serving) (isBlocked : String → String → String → Bool)
    (sensor ip topic : String) :
    (s.routeSensorStreamsToApps isBlocked sensor).count (ip, topic) =
      if isBlocked sensor ip topic then 0 else multiplicity topic s sensor ip := by
  rw [routeSensorStreamsToApps_of_ordinary hs.ordinary.table.added, hs.routed.count_published,
    multiplicity, PlainTable.routeCount_of_ordinary hs.ordinary.table.added]
  rfl

/-- A registration adds to the multiplicity of its topic. -/
theorem Serving.registerTopic (hs : s.Serving) {params : TopicParams}
    (hnames : (TopicEvent.register params).OrdinaryNames) :
    ∃ t, s.handle (.register params) = some t ∧ t.Serving ∧ ∀ topic sensor ip,
      multiplicity topic t sensor ip = multiplicity topic s sensor ip +
        if params.topic = topic then TopicEvent.added (.register params) sensor ip else 0 := by
  have hadded := hs.ordinary.table.added
  have hstep : s.handle (.register params) =
      some { s with manager := s.manager.registerTopic params } :=
    registerTopic_of_ordinary hadded hnames.1
  have hordinary := hs.ordinary.handle
    (fun params' heq ↦ by cases heq; exact hnames.1) hstep
  refine ⟨_, hstep, ⟨hordinary, ?_, ?_⟩, fun topic sensor ip ↦ ?_⟩
  · have htimers : (s.manager.registerTopic params).heartbeatPublishTimers =
        s.manager.heartbeatPublishTimers.assignValue params.heartbeatTopic s.manager.timers.next :=
      (SensorStreamManager.registerTopic_timers s.manager params).2.1
    rw [htimers, JsObject.assignValue]
    split
    · exact hs.method
    · rw [JsObject.hasOwn_set, Bool.or_eq_true, decide_eq_true_eq, not_or]
      exact ⟨Ne.symm hnames.2, hs.method⟩
  · exact SensorStreamManager.routedToClients_registerTopic hs.routed params
  · rw [multiplicity, multiplicity, PlainTable.routeCount_of_ordinary hordinary.table.added,
      PlainTable.routeCount_of_ordinary hadded]
    simp only [table, SensorStreamManager.routeTable_registerTopic,
      RouteTable.routeCount_registerToLocalGateway, TopicEvent.added]
    by_cases htopic : params.topic = topic
    · simp [htopic]
    · simp [htopic, Ne.symm htopic]

/-- A deregistration goes through and changes no multiplicity. -/
theorem Serving.deregisterTopic (hs : s.Serving) (params : TopicParams) :
    ∃ t, s.handle (.deregister params) = some t ∧ t.Serving ∧ ∀ topic sensor ip,
      multiplicity topic t sensor ip = multiplicity topic s sensor ip := by
  obtain ⟨t, ht⟩ : ∃ t, s.handle (.deregister params) = some t := by
    rw [handle, PlainManager.deregisterTopic, if_neg hs.method]
    exact ⟨_, rfl⟩
  have hadded := hs.ordinary.table.added
  have hordinary := hs.ordinary.handle (fun params' heq ↦ by cases heq) ht
  obtain ⟨htable, _, htimers, _⟩ := deregisterTopic_spec ht
  have hroutes : t.manager.sensorStreamRouteTable =
      s.manager.sensorStreamRouteTable.deregisterFromLocalGateway params.ip params.sensors
        params.topic := congrArg PlainTable.table htable
  refine ⟨t, ht, ⟨hordinary, ?_, ?_⟩, fun topic sensor ip ↦ ?_⟩
  · rw [htimers]
    rcases (SensorStreamManager.deregisterTopic_timers s.manager params).2 with
      ⟨_, _, hsame⟩ | ⟨_, _, _, herased⟩
    · rw [hsame]
      exact hs.method
    · rw [herased, JsObject.hasOwn_erase, Bool.and_eq_true]
      exact fun hown ↦ hs.method hown.2
  · intro sensor ip hserves
    rw [hroutes] at hserves
    exact hasOwn_of_deregisterTopic ht
      (hs.routed sensor ip (RouteTable.serves_deregisterFromLocalGateway hserves))
  · rw [multiplicity, multiplicity, PlainTable.routeCount_of_ordinary hordinary.table.added,
      PlainTable.routeCount_of_ordinary hadded, table, hroutes,
      RouteTable.routeCount_deregisterFromLocalGateway]
    rfl

/-- An event adds to the multiplicity of its own topic, whatever else is listed. -/
theorem Serving.handle (hs : s.Serving) {e : TopicEvent} (he : e.OrdinaryNames) :
    ∃ t, s.handle e = some t ∧ t.Serving ∧ ∀ topic sensor ip,
      multiplicity topic t sensor ip = multiplicity topic s sensor ip +
        if e.topic = topic then TopicEvent.added e sensor ip else 0 := by
  cases e with
  | register params => exact hs.registerTopic he
  | deregister params =>
    obtain ⟨t, ht, hserving, hcount⟩ := hs.deregisterTopic params
    refine ⟨t, ht, hserving, fun topic sensor ip ↦ ?_⟩
    rw [hcount, TopicEvent.added, ite_self, Nat.add_zero]

/-- The multiplicity of a topic after a run is what the events of the topic have added. -/
theorem Serving.run (hs : s.Serving) {events : List TopicEvent}
    (hnames : ∀ e ∈ events, e.OrdinaryNames) :
    ∃ t, Base.run PlainManager.handle s events = some t ∧ t.Serving ∧ ∀ topic sensor ip,
      multiplicity topic t sensor ip = multiplicity topic s sensor ip +
        ((events.filter fun e ↦ e.topic = topic).map fun e ↦ TopicEvent.added e sensor ip).sum := by
  induction events generalizing s with
  | nil => exact ⟨s, rfl, hs, fun topic sensor ip ↦ (Nat.add_zero _).symm⟩
  | cons e events ih =>
    obtain ⟨he, hevents⟩ := List.forall_mem_cons.mp hnames
    obtain ⟨u, hu, hserving, hcount⟩ := hs.handle he
    obtain ⟨t, ht, hserving', hcount'⟩ := ih hserving hevents
    refine ⟨t, ?_, hserving', fun topic sensor ip ↦ ?_⟩
    · rw [Base.run, hu, Option.bind_some, ht]
    · rw [hcount', hcount, List.filter_cons, Nat.add_assoc]
      split
      · next htopic => rw [if_pos (by simpa using htopic), List.map_cons, List.sum_cons]
      · next htopic => rw [if_neg (by simpa using htopic), Nat.zero_add]

/-- The started process. -/
theorem serving_initial (localGatewayIp : String) : (initial localGatewayIp).Serving := by
  have hroutes : (initial localGatewayIp).manager.sensorStreamRouteTable = JsObject.empty :=
    congrArg PlainTable.table (table_initial localGatewayIp)
  have htimers : (initial localGatewayIp).manager.heartbeatPublishTimers = JsObject.empty := by
    have hclient := (SensorStreamManager.registerMQTTClient_timers · localGatewayIp |>.2.1)
    rcases registerMQTTClient_spec ⟨{ SensorStreamManager.initial localGatewayIp with
        mqttClients := JsObject.empty }, JsObject.empty⟩ localGatewayIp with heq | ⟨_, heq⟩
    · rw [initial, heq]
      exact hclient _
    · rw [initial, heq]
      exact (hclient _).trans (hclient _)
  refine ⟨ordinary_initial localGatewayIp, ?_, ?_⟩
  · rw [htimers]
    exact Bool.false_ne_true
  · intro sensor ip hserves
    rw [hroutes] at hserves
    obtain ⟨ipTable, hget, _⟩ := hserves
    cases hget

/-- After a run a topic is listed for every sensor and gateway as often, and every reading is
published to it as often, as after its own events only. -/
def Isolated (localGatewayIp : String) (events : List TopicEvent) (topic : String) : Prop :=
  ∃ s t, Base.run PlainManager.handle (initial localGatewayIp) events = some s ∧
    Base.run PlainManager.handle (initial localGatewayIp)
      (events.filter fun e ↦ e.topic = topic) = some t ∧
    (∀ sensor ip, s.table.routeCount sensor ip topic = t.table.routeCount sensor ip topic) ∧
    ∀ isBlocked sensor ip, (s.routeSensorStreamsToApps isBlocked sensor).count (ip, topic) =
      (t.routeSensorStreamsToApps isBlocked sensor).count (ip, topic)

/-- Whatever topic events other applications cause, a topic is isolated from them if none of the
registrations names a property of `Object.prototype`. -/
theorem topic_isolated (localGatewayIp : String) {events : List TopicEvent}
    (hnames : ∀ e ∈ events, e.OrdinaryNames) (topic : String) :
    Isolated localGatewayIp events topic := by
  have hstart := serving_initial localGatewayIp
  obtain ⟨s, hs, hserving, hcount⟩ := hstart.run hnames
  have hown : ∀ e ∈ events.filter (fun e ↦ e.topic = topic), e.OrdinaryNames :=
    fun e he ↦ hnames e (List.mem_filter.mp he).1
  obtain ⟨t, ht, hserving', hcount'⟩ := hstart.run hown
  have hsame : ∀ sensor ip, multiplicity topic s sensor ip = multiplicity topic t sensor ip := by
    intro sensor ip
    rw [hcount, hcount', List.filter_filter]
    simp only [Bool.and_self]
  refine ⟨s, t, hs, ht, hsame, fun isBlocked sensor ip ↦ ?_⟩
  rw [hserving.count_published, hserving'.count_published, hsame]

private def registration (sensor topic : String) : TopicEvent :=
  .register
    { ip := "10.0.0.2", sensors := [sensor], topic := topic
      heartbeatTopic := topic ++ "-10.0.0.1", heartbeatTimeMs := 60000 }

/-- Two applications at one gateway with different sensors. -/
theorem topic_isolated_sensors :
    Isolated "10.0.0.1" [registration "s1" "A", registration "s2" "B"] "A" :=
  topic_isolated "10.0.0.1" (by decide) "A"

/-- The first of two applications asks for a sensor `__proto__`: its topic is listed for the sensor
of the other one. -/
theorem topic_inherited :
    ¬ Isolated "10.0.0.1" [registration "__proto__" "A", registration "s1" "B"] "A" := by
  rintro ⟨s, t, hs, ht, hcount, _⟩
  have hlisted := hcount "s1" "10.0.0.2"
  obtain rfl := Option.some.inj hs
  obtain rfl := Option.some.inj ht
  revert hlisted
  decide

end PlainManager
end NexusEdge.Streams
