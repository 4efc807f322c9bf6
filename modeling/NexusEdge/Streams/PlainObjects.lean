import NexusEdge.Streams.Manager

/-!
# Routes in plain objects

Library `Streams`. The listeners for `register-topic` and `deregister-topic`,
`sensor-stream-manager.js:21–54,267–286,605–654`, on the plain objects that `mqttClients` and
`sensorStreamRouteTable` with its dictionaries are. Under a sensor `__proto__` the dictionary of
the gateways is `Object.prototype`: what is registered there is found under that ip for every
sensor, and registrations of other topics are added to it. For names that plain objects do not
inherit the routes are those of the own properties.
-/

namespace NexusEdge.Streams
open NexusEdge.Base

/-- `sensorStreamRouteTable`, and the lists of topics that have been added to `Object.prototype`. -/
structure PlainTable where
  table : RouteTable
  added : JsObject (List String)
  deriving DecidableEq

namespace PlainTable

/-- A topic of a sensor with a dictionary of its own, made if it is missing,
`sensor-stream-manager.js:23–28`. None when it throws, as `push` of what is no list does. -/
def registerIp (ip topic : String) (t : PlainTable) (id : String) : Option PlainTable :=
  match ((t.table.get? id).getD JsObject.empty).find t.added ip with
  | .own _ | .undefined => some { t with table := t.table.registerSensor ip topic id }
  | .added topics =>
    some { table := t.table.ensureSensor id, added := t.added.set ip (topics ++ [topic]) }
  | .prototype | .method => none

/-- Body of the loop of `registerToLocalGateway`, `sensor-stream-manager.js:23–29`. None when it
throws, and when it stores topics in a function or in a list, which is not followed. -/
def registerSensor (ip topic : String) (t : PlainTable) (id : String) : Option PlainTable :=
  match t.table.find t.added id with
  | .own _ | .undefined => t.registerIp ip topic id
  | .prototype =>
    if ip ∈ prototypeNames ∨ ip ∈ builtInNames then none
    else some { t with added := t.added.set ip ((t.added.get? ip).getD [] ++ [topic]) }
  | .added _ | .method => none

/-- `registerToLocalGateway`, `sensor-stream-manager.js:21–31`. -/
def registerToLocalGateway (t : PlainTable) (ip : String) (sensorIds : List String)
    (topic : String) : Option PlainTable :=
  run (registerSensor ip topic) t sensorIds

/-- Own properties, and those of `Object.prototype` that they do not hide. -/
def enumerate (t : PlainTable) (own : List (String × List String)) : List (String × List String) :=
  own ++ t.added.ownEntries.filter fun entry ↦ entry.1 ∉ own.map Prod.fst

/-- What `for (const gatewayIp in sensorStreamRouteTable[sensor])` goes through. A list that is
found in place of a dictionary has its topics under their indices; to loop over one of these is to
loop over its characters. -/
def entries (t : PlainTable) (sensor : String) : List (String × List String) :=
  match t.table.find t.added sensor with
  | .own ipTable => t.enumerate ipTable.ownEntries
  | .added topics => t.enumerate (topics.mapIdx fun index topic ↦
      (toString index, topic.toList.map String.singleton))
  | .prototype | .method => t.added.ownEntries
  | .undefined => []

/-- `sensorStreamRouteTable[sensor][ip]`. -/
def topics (t : PlainTable) (sensor ip : String) : List String :=
  ((t.entries sensor).lookup ip).getD []

/-- How often a topic is routed for a sensor at an ip. -/
def routeCount (t : PlainTable) (sensor ip topic : String) : Nat :=
  (t.topics sensor ip).count topic

/-- The ip and topic pairs of a sensor as they are enumerated. -/
def routes (t : PlainTable) (sensor : String) : List (String × String) :=
  (t.entries sensor).flatMap fun (gatewayIp, topics) ↦ topics.map fun topic ↦ (gatewayIp, topic)

end PlainTable

/-- A `sensor-stream-manager` process with what has been added to `Object.prototype`. -/
structure PlainManager where
  manager : SensorStreamManager
  added : JsObject (List String)
  deriving DecidableEq

namespace PlainManager

/-- The route table as a plain object. -/
def table (s : PlainManager) : PlainTable := ⟨s.manager.sensorStreamRouteTable, s.added⟩

/-- `registerMQTTClient`, `sensor-stream-manager.js:267–286`; whatever is found under the ip is
taken for its client. -/
def registerMQTTClient (s : PlainManager) (ip : String) : PlainManager :=
  match s.manager.mqttClients.find s.added ip with
  | .undefined => { s with manager := s.manager.registerMQTTClient ip }
  | _ => s

/-- The process after start-up, `sensor-stream-manager.js:371–411`. -/
def initial (localGatewayIp : String) : PlainManager :=
  registerMQTTClient
    { manager := { SensorStreamManager.initial localGatewayIp with mqttClients := JsObject.empty }
      added := JsObject.empty } localGatewayIp

/-- The `register-topic` listener, `sensor-stream-manager.js:605–626`. None when it throws or is
not followed; heartbeats that are to be published by what is no client end the process as well. -/
def registerTopic (s : PlainManager) (params : TopicParams) : Option PlainManager :=
  let s := s.registerMQTTClient params.ip
  if s.manager.mqttClients.hasOwn params.ip then
    (s.table.registerToLocalGateway params.ip params.sensors params.topic).map fun t ↦
      { manager := { s.manager.registerTopic params with sensorStreamRouteTable := t.table }
        added := t.added }
  else none

/-- The `deregister-topic` listener, `sensor-stream-manager.js:628–654`, which asks for own
properties. None when a handle hides the method that it calls. -/
def deregisterTopic (s : PlainManager) (params : TopicParams) : Option PlainManager :=
  if s.manager.heartbeatPublishTimers.hasOwn "hasOwnProperty" then none
  else some { s with
    manager := { s.manager.deregisterTopic params with
      mqttClients := (s.registerMQTTClient params.ip).manager.mqttClients } }

/-- The listener for the event. -/
def handle (s : PlainManager) : TopicEvent → Option PlainManager
  | .register params => s.registerTopic params
  | .deregister params => s.deregisterTopic params

/-- The `message` listener of `routeSensorStreamsToApps`, `sensor-stream-manager.js:345–364`. -/
def routeSensorStreamsToApps (s : PlainManager) (isBlocked : String → String → String → Bool)
    (sensorId : String) : List (String × String) :=
  (s.table.entries sensorId).flatMap fun (gatewayIp, topics) ↦
    topics.filterMap fun topic ↦
      if !isBlocked sensorId gatewayIp topic then s.manager.publishData gatewayIp topic else none

end PlainManager

/-! ### Names that plain objects do not inherit -/

namespace PlainTable

variable {t t' : PlainTable} {ip topic id : String}

/-- Nothing has been added to `Object.prototype`, and no dictionary of the table is under one of
its names. -/
structure Ordinary (t : PlainTable) : Prop where
  added : t.added = JsObject.empty
  sensors : ∀ sensor, t.table.hasOwn sensor → sensor ∉ prototypeNames

/-- Any other name is found if it is own. -/
private theorem find_of_ordinary {α : Type} (o : JsObject α) {name : String}
    (hname : name ∉ prototypeNames) :
    (∃ value, o.find (JsObject.empty : JsObject (List String)) name = .own value) ∨
      o.find (JsObject.empty : JsObject (List String)) name = .undefined := by
  cases hget : o.get? name with
  | some value => exact Or.inl ⟨value, JsObject.find_of_get? hget _⟩
  | none => exact Or.inr (JsObject.find_empty_of_not_mem hget hname)

/-- One sensor is registered among the own properties. -/
theorem registerSensor_of_ordinary (ht : t.added = JsObject.empty) (hid : id ∉ prototypeNames)
    (hip : ip ∉ prototypeNames) :
    registerSensor ip topic t id = some { t with table := t.table.registerSensor ip topic id } := by
  have hlist : registerIp ip topic t id =
      some { t with table := t.table.registerSensor ip topic id } := by
    rw [registerIp, ht]
    rcases find_of_ordinary ((t.table.get? id).getD JsObject.empty) hip with ⟨_, hfound⟩ | hfound
    · rw [hfound]
    · rw [hfound]
  have hfind : t.table.find t.added id = t.table.find JsObject.empty id := by rw [ht]
  rw [registerSensor, hfind]
  rcases find_of_ordinary t.table hid with ⟨_, hfound⟩ | hfound
  · rw [hfound]
    exact hlist
  · rw [hfound]
    exact hlist

/-- So are several. -/
theorem registerToLocalGateway_of_ordinary (ht : t.added = JsObject.empty)
    (hip : ip ∉ prototypeNames) {sensorIds : List String}
    (hids : ∀ id ∈ sensorIds, id ∉ prototypeNames) :
    t.registerToLocalGateway ip sensorIds topic =
      some { t with table := t.table.registerToLocalGateway ip sensorIds topic } := by
  induction sensorIds generalizing t with
  | nil => rfl
  | cons id sensorIds ih =>
    rw [List.forall_mem_cons] at hids
    rw [registerToLocalGateway, run, registerSensor_of_ordinary ht hids.1 hip, Option.bind_some]
    exact ih ht hids.2

/-- Only the own dictionaries are enumerated. -/
theorem entries_of_ordinary (ht : t.added = JsObject.empty) (sensor : String) :
    t.entries sensor = ((t.table.get? sensor).map JsObject.ownEntries).getD [] := by
  have hown : (JsObject.empty : JsObject (List String)).ownEntries = [] := rfl
  rw [entries, ht, JsObject.find]
  cases t.table.get? sensor with
  | some ipTable => simp [enumerate, ht, hown]
  | none =>
    simp only [JsObject.get?_empty, Option.map_none, Option.getD_none]
    by_cases hproto : sensor = "__proto__"
    · simp only [if_pos hproto, hown]
    · rw [if_neg hproto]
      by_cases hname : sensor ∈ prototypeNames
      · simp only [if_pos hname, hown]
      · simp only [if_neg hname]

/-- The routes are those of the own properties. -/
theorem routes_of_ordinary (ht : t.added = JsObject.empty) (sensor : String) :
    t.routes sensor = t.table.routes sensor := by
  rw [routes, entries_of_ordinary ht, RouteTable.routes]
  cases t.table.get? sensor with
  | some ipTable => rfl
  | none => rfl

/-- They are counted as those of the own properties. -/
theorem routeCount_of_ordinary (ht : t.added = JsObject.empty) (sensor ip topic : String) :
    t.routeCount sensor ip topic = t.table.routeCount sensor ip topic := by
  rw [routeCount, topics, entries_of_ordinary ht, RouteTable.routeCount, RouteTable.topics]
  cases t.table.get? sensor with
  | some ipTable => rw [Option.map_some, Option.getD_some, JsObject.lookup_ownEntries,
      Option.bind_some]
  | none => rfl

/-- Registration of sensors with other names makes dictionaries for these only. -/
theorem Ordinary.registerToLocalGateway (ht : t.Ordinary) {sensorIds : List String}
    (hids : ∀ id ∈ sensorIds, id ∉ prototypeNames) :
    Ordinary { t with table := t.table.registerToLocalGateway ip sensorIds topic } := by
  refine ⟨ht.added, ?_⟩
  apply foldl_invariant (P := fun table : RouteTable ↦
    ∀ sensor, table.hasOwn sensor → sensor ∉ prototypeNames) sensorIds _ t.table ht.sensors
  intro id hid table htable sensor hown
  rw [RouteTable.hasOwn_registerSensor, Bool.or_eq_true, decide_eq_true_eq] at hown
  rcases hown with rfl | hown
  · exact hids sensor hid
  · exact htable sensor hown

/-- Deregistration makes no dictionary. -/
theorem Ordinary.deregisterFromLocalGateway (ht : t.Ordinary) (sensorIds : List String) :
    Ordinary { t with table := t.table.deregisterFromLocalGateway ip sensorIds topic } := by
  refine ⟨ht.added, ?_⟩
  apply foldl_invariant (P := fun table : RouteTable ↦
    ∀ sensor, table.hasOwn sensor → sensor ∉ prototypeNames) sensorIds _ t.table ht.sensors
  intro id _ table htable sensor hown
  unfold RouteTable.deregisterSensor at hown
  split at hown
  · split at hown
    · rw [RouteTable.modifyTopics, JsObject.hasOwn_modify] at hown
      exact htable sensor hown
    · exact htable sensor hown
  · exact htable sensor hown

/-- Registration in a dictionary of its own. -/
theorem registerIp_spec (h : registerIp ip topic t id = some t') :
    (∀ sensor, t'.table.hasOwn sensor → sensor = id ∨ t.table.hasOwn sensor) ∧
      (t.added.get? ip).getD [] ⊆ (t'.added.get? ip).getD [] := by
  unfold registerIp at h
  split at h
  · obtain rfl := Option.some.inj h
    refine ⟨fun sensor hsensor ↦ ?_, List.Subset.refl _⟩
    rw [RouteTable.hasOwn_registerSensor, Bool.or_eq_true, decide_eq_true_eq] at hsensor
    exact hsensor
  · obtain rfl := Option.some.inj h
    refine ⟨fun sensor hsensor ↦ ?_, List.Subset.refl _⟩
    rw [RouteTable.hasOwn_registerSensor, Bool.or_eq_true, decide_eq_true_eq] at hsensor
    exact hsensor
  · next topics hfound =>
    obtain rfl := Option.some.inj h
    refine ⟨fun sensor hsensor ↦ ?_, ?_⟩
    · unfold RouteTable.ensureSensor at hsensor
      split at hsensor
      · exact Or.inr hsensor
      · rw [JsObject.hasOwn_set, Bool.or_eq_true, decide_eq_true_eq] at hsensor
        exact hsensor
    · rw [JsObject.get?_set_self, JsObject.get?_of_find_added hfound]
      exact List.subset_append_left topics [topic]
  · cases h
  · cases h

/-- What a registration that goes through leaves: no dictionary under a name of
`Object.prototype`, and the topic in the prototype if the sensor is `__proto__`. -/
theorem registerSensor_spec (h : registerSensor ip topic t id = some t')
    (hown : ∀ sensor, t.table.hasOwn sensor → sensor ∉ prototypeNames) :
    (∀ sensor, t'.table.hasOwn sensor → sensor ∉ prototypeNames) ∧
      (id = "__proto__" ∨ id ∉ prototypeNames) ∧
      (t.added.get? ip).getD [] ⊆ (t'.added.get? ip).getD [] ∧
      (id = "__proto__" → topic ∈ (t'.added.get? ip).getD []) := by
  have hordinary (hid : id ∉ prototypeNames) (h : registerIp ip topic t id = some t') :
      (∀ sensor, t'.table.hasOwn sensor → sensor ∉ prototypeNames) ∧
        (id = "__proto__" ∨ id ∉ prototypeNames) ∧
        (t.added.get? ip).getD [] ⊆ (t'.added.get? ip).getD [] ∧
        (id = "__proto__" → topic ∈ (t'.added.get? ip).getD []) := by
    obtain ⟨hdictionary, hadded⟩ := registerIp_spec h
    refine ⟨fun sensor hsensor ↦ ?_, Or.inr hid, hadded, ?_⟩
    · rcases hdictionary sensor hsensor with rfl | hsensor
      · exact hid
      · exact hown sensor hsensor
    · rintro rfl
      exact absurd (by decide) hid
  unfold registerSensor at h
  split at h
  · next ipTable hfound =>
    refine hordinary (hown id ?_) h
    exact (JsObject.hasOwn_iff _ _).mpr ⟨ipTable, JsObject.get?_of_find_own hfound⟩
  · next hfound => exact hordinary (JsObject.not_mem_of_find_undefined hfound) h
  · next hfound =>
    split at h
    · cases h
    · obtain rfl := Option.some.inj h
      rw [JsObject.get?_set_self, Option.getD_some]
      exact ⟨hown, Or.inl (JsObject.eq_of_find_prototype hfound), List.subset_append_left _ _,
        fun _ ↦ List.mem_append_right _ (List.mem_singleton_self topic)⟩
  · cases h
  · cases h

/-- The same for several sensors. -/
theorem registerToLocalGateway_spec {sensorIds : List String}
    (h : t.registerToLocalGateway ip sensorIds topic = some t')
    (hown : ∀ sensor, t.table.hasOwn sensor → sensor ∉ prototypeNames) :
    (∀ sensor, t'.table.hasOwn sensor → sensor ∉ prototypeNames) ∧
      (∀ id ∈ sensorIds, id = "__proto__" ∨ id ∉ prototypeNames) ∧
      (t.added.get? ip).getD [] ⊆ (t'.added.get? ip).getD [] ∧
      ("__proto__" ∈ sensorIds → topic ∈ (t'.added.get? ip).getD []) := by
  induction sensorIds generalizing t with
  | nil =>
    obtain rfl := Option.some.inj h
    exact ⟨hown, fun _ hid ↦ (List.not_mem_nil hid).elim, List.Subset.refl _,
      fun hid ↦ (List.not_mem_nil hid).elim⟩
  | cons id sensorIds ih =>
    obtain ⟨u, hu, h⟩ := Option.bind_eq_some_iff.mp h
    obtain ⟨hdictionary, hid, hadded, htopic⟩ := registerSensor_spec hu hown
    obtain ⟨hdictionary', hids, hadded', htopic'⟩ := ih h hdictionary
    refine ⟨hdictionary', List.forall_mem_cons.mpr ⟨hid, hids⟩, fun _ hx ↦ hadded' (hadded hx), ?_⟩
    intro hproto
    rcases List.mem_cons.mp hproto with heq | hproto
    · exact hadded' (htopic heq.symm)
    · exact htopic' hproto

/-- What is in `Object.prototype` is found for a method in place of a sensor. -/
theorem topics_method (hown : ∀ sensor, t.table.hasOwn sensor → sensor ∉ prototypeNames)
    (ip : String) : t.topics "constructor" ip = (t.added.get? ip).getD [] := by
  have hget : t.table.get? "constructor" = none :=
    JsObject.get?_of_not_hasOwn fun h ↦ hown _ h (by decide)
  have hfound : t.table.find t.added "constructor" = .method := by
    rw [JsObject.find, hget]
    rfl
  rw [topics, entries, hfound, JsObject.lookup_ownEntries]

end PlainTable

namespace PlainManager

variable {s t : PlainManager} {params : TopicParams}

/-- The names of an event are those of no property of `Object.prototype`. -/
def OrdinaryNames (params : TopicParams) : Prop :=
  params.ip ∉ prototypeNames ∧ ∀ sensor ∈ params.sensors, sensor ∉ prototypeNames

instance (params : TopicParams) : Decidable (OrdinaryNames params) :=
  inferInstanceAs (Decidable (_ ∧ _))

/-- Nothing has been added to `Object.prototype`, and no dictionary or client is stored under one
of its names. -/
structure Ordinary (s : PlainManager) : Prop where
  table : s.table.Ordinary
  clients : ∀ ip, s.manager.mqttClients.hasOwn ip → ip ∉ prototypeNames

/-- A client is connected only if nothing is found, and nothing else changes. -/
theorem registerMQTTClient_spec (s : PlainManager) (ip : String) :
    s.registerMQTTClient ip = s ∨
      ip ∉ prototypeNames ∧
        s.registerMQTTClient ip = { s with manager := s.manager.registerMQTTClient ip } := by
  unfold registerMQTTClient
  split
  · next hfound => exact Or.inr ⟨JsObject.not_mem_of_find_undefined hfound, rfl⟩
  · exact Or.inl rfl

/-- Clients of other names are stored. -/
theorem Ordinary.clients_registerMQTTClient (hs : s.Ordinary) (ip : String) :
    ∀ ip', (s.registerMQTTClient ip).manager.mqttClients.hasOwn ip' → ip' ∉ prototypeNames := by
  intro ip' hown
  rcases registerMQTTClient_spec s ip with heq | ⟨hip, heq⟩
  · rw [heq] at hown
    exact hs.clients ip' hown
  · rw [heq] at hown
    rcases (s.manager.hasOwn_registerMQTTClient ip ip').mp hown with rfl | hown
    · exact hip
    · exact hs.clients ip' hown

/-- For other names the client is that of the own properties. -/
theorem registerMQTTClient_of_ordinary (hs : s.added = JsObject.empty) {ip : String}
    (hip : ip ∉ prototypeNames) :
    s.registerMQTTClient ip = { s with manager := s.manager.registerMQTTClient ip } := by
  have hfind : s.manager.mqttClients.find s.added ip =
      s.manager.mqttClients.find JsObject.empty ip := by rw [hs]
  unfold registerMQTTClient
  rw [hfind]
  cases hget : s.manager.mqttClients.get? ip with
  | some client =>
    have hown : s.manager.mqttClients.hasOwn ip := (JsObject.hasOwn_iff _ _).mpr ⟨client, hget⟩
    rw [JsObject.find_of_get? hget, SensorStreamManager.registerMQTTClient, if_pos hown]
  | none => rw [JsObject.find_empty_of_not_mem hget hip]

/-- A registration of other names is that of the own properties. -/
theorem registerTopic_of_ordinary (hs : s.added = JsObject.empty) (hnames : OrdinaryNames params) :
    s.registerTopic params = some { s with manager := s.manager.registerTopic params } := by
  have hclient : (s.manager.registerMQTTClient params.ip).mqttClients.hasOwn params.ip :=
    (s.manager.hasOwn_registerMQTTClient params.ip params.ip).mpr (Or.inl rfl)
  have hagain : (s.manager.registerMQTTClient params.ip).registerTopic params =
      s.manager.registerTopic params := by
    have hidem : (s.manager.registerMQTTClient params.ip).registerMQTTClient params.ip =
        s.manager.registerMQTTClient params.ip := if_pos hclient
    rw [SensorStreamManager.registerTopic, SensorStreamManager.registerTopic, hidem]
  have htable := s.manager.routeTable_registerTopic params
  have hroutes : PlainTable.registerToLocalGateway
      (table { s with manager := s.manager.registerMQTTClient params.ip }) params.ip params.sensors
      params.topic = some { s.table with
        table := s.table.table.registerToLocalGateway params.ip params.sensors params.topic } := by
    rw [PlainTable.registerToLocalGateway_of_ordinary hs hnames.1 hnames.2]
    simp only [table, SensorStreamManager.routeTable_registerMQTTClient]
  simp only [registerTopic, registerMQTTClient_of_ordinary hs hnames.1, hclient, if_true, hroutes,
    Option.map_some, hagain]
  rw [show s.table.table = s.manager.sensorStreamRouteTable from rfl, ← htable]
  rfl

/-- The routes after a deregistration that goes through are those of the own properties. -/
theorem deregisterTopic_spec (ht : s.deregisterTopic params = some t) :
    t.table = { s.table with table :=
        s.table.table.deregisterFromLocalGateway params.ip params.sensors params.topic } ∧
      t.manager.mqttClients = (s.registerMQTTClient params.ip).manager.mqttClients ∧
      t.manager.heartbeatPublishTimers =
        (s.manager.deregisterTopic params).heartbeatPublishTimers ∧
      t.manager.localGatewayIp = s.manager.localGatewayIp := by
  unfold deregisterTopic at ht
  split at ht
  · cases ht
  · obtain rfl := Option.some.inj ht
    refine ⟨?_, rfl, rfl, (SensorStreamManager.deregisterTopic_frame s.manager params).1⟩
    rw [table, SensorStreamManager.routeTable_deregisterTopic]
    rfl

/-- A deregistration adds nothing to `Object.prototype`, and changes the routes as that of the own
properties does. -/
theorem routes_of_deregisterTopic (hs : s.added = JsObject.empty)
    (ht : s.deregisterTopic params = some t) :
    t.added = JsObject.empty ∧ t.manager.sensorStreamRouteTable =
      s.manager.sensorStreamRouteTable.deregisterFromLocalGateway params.ip params.sensors
        params.topic := by
  have htable := (deregisterTopic_spec ht).1
  exact ⟨(congrArg PlainTable.added htable).trans hs, congrArg PlainTable.table htable⟩

/-- A deregistration disconnects no gateway. -/
theorem hasOwn_of_deregisterTopic (ht : s.deregisterTopic params = some t) {ip : String}
    (hown : s.manager.mqttClients.hasOwn ip) : t.manager.mqttClients.hasOwn ip := by
  rw [(deregisterTopic_spec ht).2.1]
  rcases registerMQTTClient_spec s params.ip with heq | ⟨_, heq⟩
  · rw [heq]
    exact hown
  · rw [heq]
    exact (s.manager.hasOwn_registerMQTTClient params.ip ip).mpr (Or.inr hown)

/-- A deregistration and a registration of other names leave everything under other names. -/
theorem Ordinary.handle {e : TopicEvent} (hs : s.Ordinary)
    (hnames : ∀ params, e = .register params → OrdinaryNames params) (ht : s.handle e = some t) :
    t.Ordinary := by
  cases e with
  | register params =>
    rw [PlainManager.handle, registerTopic_of_ordinary hs.table.added (hnames params rfl)] at ht
    obtain rfl := Option.some.inj ht
    refine ⟨?_, fun ip hown ↦ ?_⟩
    · rw [PlainManager.table, SensorStreamManager.routeTable_registerTopic]
      exact hs.table.registerToLocalGateway (hnames params rfl).2
    · have hclients : (s.manager.registerTopic params).mqttClients.hasOwn ip ↔
          ip = params.ip ∨ s.manager.mqttClients.hasOwn ip :=
        s.manager.hasOwn_registerMQTTClient params.ip ip
      rcases hclients.mp hown with rfl | hown
      · exact (hnames params rfl).1
      · exact hs.clients ip hown
  | deregister params =>
    obtain ⟨htable, hclients, _, _⟩ := deregisterTopic_spec ht
    refine ⟨?_, fun ip hown ↦ ?_⟩
    · rw [htable]
      exact hs.table.deregisterFromLocalGateway params.sensors
    · rw [hclients] at hown
      exact hs.clients_registerMQTTClient params.ip ip hown

/-- The started process routes nothing. -/
theorem table_initial (localGatewayIp : String) :
    (initial localGatewayIp).table = ⟨JsObject.empty, JsObject.empty⟩ := by
  have hempty : (SensorStreamManager.initial localGatewayIp).sensorStreamRouteTable =
      JsObject.empty := by
    rw [SensorStreamManager.initial, SensorStreamManager.routeTable_registerMQTTClient]
  rcases registerMQTTClient_spec ⟨{ SensorStreamManager.initial localGatewayIp with
      mqttClients := JsObject.empty }, JsObject.empty⟩ localGatewayIp with heq | ⟨_, heq⟩
  · rw [initial, heq, table, hempty]
  · rw [initial, heq, table, SensorStreamManager.routeTable_registerMQTTClient, hempty]

/-- The started process has no property of `Object.prototype` to look after. -/
theorem ordinary_initial (localGatewayIp : String) : (initial localGatewayIp).Ordinary := by
  have htable (s : PlainManager) (hs : s.table = ⟨JsObject.empty, JsObject.empty⟩) :
      s.table.Ordinary := by
    rw [hs]
    refine ⟨rfl, fun sensor hown ↦ ?_⟩
    cases hown
  have hstart : Ordinary ⟨{ SensorStreamManager.initial localGatewayIp with
      mqttClients := JsObject.empty }, JsObject.empty⟩ := by
    refine ⟨htable _ ?_, fun ip hown ↦ ?_⟩
    · rw [table, SensorStreamManager.initial, SensorStreamManager.routeTable_registerMQTTClient]
    · cases hown
  exact ⟨htable _ (table_initial localGatewayIp),
    fun ip hown ↦ hstart.clients_registerMQTTClient localGatewayIp ip hown⟩

/-- A reading is published as it would be from the own properties. -/
theorem routeSensorStreamsToApps_of_ordinary (hs : s.added = JsObject.empty)
    (isBlocked : String → String → String → Bool) (sensorId : String) :
    s.routeSensorStreamsToApps isBlocked sensorId =
      s.manager.routeSensorStreamsToApps isBlocked sensorId := by
  rw [routeSensorStreamsToApps, PlainTable.entries_of_ordinary hs,
    SensorStreamManager.routeSensorStreamsToApps]
  rw [show s.table.table = s.manager.sensorStreamRouteTable from rfl]
  cases s.manager.sensorStreamRouteTable.get? sensorId with
  | some ipTable => rfl
  | none => rfl

end PlainManager

/-! ### Registration counts over whole runs -/

/-- Occurrences expected of (sensor, ip, topic). -/
abbrev Tally := String → String → String → Nat

/-- Expected occurrences: each registration of a triple counts one up, each deregistration
one down, never below zero. -/
def tally (count : Tally) : TopicEvent → Tally
  | .register params => fun sensor ip topic ↦
      count sensor ip topic +
        if ip = params.ip ∧ topic = params.topic then params.sensors.count sensor else 0
  | .deregister params => fun sensor ip topic ↦
      count sensor ip topic -
        if ip = params.ip ∧ topic = params.topic then params.sensors.count sensor else 0

/-- The manager and the expected counts after one event. -/
def tallyStep (s : PlainManager × Tally) (e : TopicEvent) : Option (PlainManager × Tally) :=
  (s.1.handle e).map fun t ↦ (t, tally s.2 e)

/-- The route table agrees with the expected counts, and a triple that is expected nowhere
receives no reading, whatever the policy blocks. -/
def AgreesWithTally (s : PlainManager × Tally) : Prop :=
  ∀ sensor ip topic, s.1.table.routeCount sensor ip topic = s.2 sensor ip topic ∧
    (s.2 sensor ip topic = 0 →
      ∀ isBlocked, (ip, topic) ∉ s.1.routeSensorStreamsToApps isBlocked sensor)

/-- A registration names no property of `Object.prototype`, and a deregistration finds none of its
triples registered. -/
def KeepsTally (s : PlainManager × Tally) : TopicEvent → Prop
  | .register params => PlainManager.OrdinaryNames params
  | .deregister params => ∀ sensor ∈ params.sensors, s.2 sensor params.ip params.topic = 0

section Tallies

variable {s t : PlainManager × Tally}

/-- As long as nothing has been added to `Object.prototype`, agreement is a matter of the counts of
the own properties alone. -/
theorem agreesWithTally_iff (hs : s.1.added = JsObject.empty) :
    AgreesWithTally s ↔ ∀ sensor ip topic,
      s.1.manager.sensorStreamRouteTable.routeCount sensor ip topic = s.2 sensor ip topic := by
  have hcount (sensor ip topic : String) : s.1.table.routeCount sensor ip topic =
      s.1.manager.sensorStreamRouteTable.routeCount sensor ip topic :=
    PlainTable.routeCount_of_ordinary hs sensor ip topic
  constructor
  · intro h sensor ip topic
    rw [← hcount]
    exact (h sensor ip topic).1
  · intro h sensor ip topic
    refine ⟨(hcount sensor ip topic).trans (h sensor ip topic), fun hz isBlocked hp ↦ ?_⟩
    rw [PlainManager.routeSensorStreamsToApps_of_ordinary hs] at hp
    have hpos := SensorStreamManager.routeCount_pos_of_published hp
    rw [h sensor ip topic, hz] at hpos
    exact Nat.lt_irrefl 0 hpos

/-- An event that meets the condition keeps the agreement. -/
theorem agreesWithTally_step {e : TopicEvent} (hs : AgreesWithTally s) (hordinary : s.1.Ordinary)
    (he : KeepsTally s e) (ht : tallyStep s e = some t) : AgreesWithTally t := by
  obtain ⟨u, hu, rfl⟩ := Option.map_eq_some_iff.mp ht
  have hadded := hordinary.table.added
  rw [agreesWithTally_iff hadded] at hs
  cases e with
  | register params =>
    rw [PlainManager.handle, PlainManager.registerTopic_of_ordinary hadded he] at hu
    have hu := Option.some.inj hu
    have hafter : u.added = JsObject.empty := by
      rw [← hu]
      exact hadded
    have hroutes : u.manager.sensorStreamRouteTable =
        s.1.manager.sensorStreamRouteTable.registerToLocalGateway params.ip params.sensors
          params.topic := by
      rw [← hu, SensorStreamManager.routeTable_registerTopic]
    refine (agreesWithTally_iff hafter).mpr fun sensor ip topic ↦ ?_
    rw [hroutes, RouteTable.routeCount_registerToLocalGateway, hs]
    rfl
  | deregister params =>
    obtain ⟨hafter, hroutes⟩ := PlainManager.routes_of_deregisterTopic hadded hu
    refine (agreesWithTally_iff hafter).mpr fun sensor ip topic ↦ ?_
    rw [hroutes, RouteTable.routeCount_deregisterFromLocalGateway, hs]
    simp only [tally]
    split
    · next hip =>
      obtain ⟨rfl, rfl⟩ := hip
      by_cases hm : sensor ∈ params.sensors
      · rw [he sensor hm, Nat.zero_sub]
      · rw [List.count_eq_zero_of_not_mem hm, Nat.sub_zero]
    · rw [Nat.sub_zero]

/-- A registration that keeps the agreement names no property of `Object.prototype`: a topic
registered for the sensor `__proto__` is found for every other sensor as well. -/
theorem ordinaryNames_of_agrees {params : TopicParams} (hs : AgreesWithTally s)
    (hordinary : s.1.Ordinary) (ht : tallyStep s (.register params) = some t)
    (hagrees : AgreesWithTally t) : PlainManager.OrdinaryNames params := by
  obtain ⟨u, hu, rfl⟩ := Option.map_eq_some_iff.mp ht
  simp only [PlainManager.handle, PlainManager.registerTopic] at hu
  split at hu
  · next hclient =>
    have hip := hordinary.clients_registerMQTTClient params.ip params.ip hclient
    obtain ⟨routes, hroutes, rfl⟩ := Option.map_eq_some_iff.mp hu
    have hsame : (s.1.registerMQTTClient params.ip).table = s.1.table := by
      rcases s.1.registerMQTTClient_spec params.ip with heq | ⟨_, heq⟩
      · rw [heq]
      · rw [heq, PlainManager.table, SensorStreamManager.routeTable_registerMQTTClient]
        rfl
    rw [hsame] at hroutes
    obtain ⟨hown, hids, _, htopic⟩ :=
      PlainTable.registerToLocalGateway_spec hroutes hordinary.table.sensors
    refine ⟨hip, fun sensor hsensor ↦ (hids sensor hsensor).resolve_left ?_⟩
    rintro rfl
    -- Read for a method of `Object.prototype`, the topic is there and is not expected.
    have hexpected := (hagrees "constructor" params.ip params.topic).1
    have hbefore := (hs "constructor" params.ip params.topic).1
    have hmethod : "constructor" ∉ params.sensors := fun hmem ↦ by
      rcases hids "constructor" hmem with heq | hnames
      · revert heq
        decide
      · exact hnames (by decide)
    have hnone : s.1.table.topics "constructor" params.ip = [] := by
      rw [PlainTable.topics_method hordinary.table.sensors, hordinary.table.added]
      rfl
    have hfound : params.topic ∈ routes.topics "constructor" params.ip := by
      rw [PlainTable.topics_method hown]
      exact htopic hsensor
    rw [PlainTable.routeCount, hnone, List.count_nil] at hbefore
    have hzero : routes.routeCount "constructor" params.ip params.topic = 0 := by
      refine hexpected.trans ?_
      simp only [tally, ← hbefore, and_self, if_true, Nat.zero_add]
      exact List.count_eq_zero_of_not_mem hmethod
    exact List.count_eq_zero.mp hzero hfound
  · cases hu

/-- An event that keeps the agreement meets the condition. -/
theorem keepsTally_of_agrees {e : TopicEvent} (hs : AgreesWithTally s) (hordinary : s.1.Ordinary)
    (ht : tallyStep s e = some t) (hagrees : AgreesWithTally t) : KeepsTally s e := by
  cases e with
  | register params => exact ordinaryNames_of_agrees hs hordinary ht hagrees
  | deregister params =>
    obtain ⟨u, hu, rfl⟩ := Option.map_eq_some_iff.mp ht
    have hadded := hordinary.table.added
    obtain ⟨hafter, hroutes⟩ := PlainManager.routes_of_deregisterTopic hadded hu
    intro sensor hm
    have hc := (agreesWithTally_iff hafter).mp hagrees sensor params.ip params.topic
    have hpos : 0 < params.sensors.count sensor := List.count_pos_iff.mpr hm
    rw [hroutes, RouteTable.routeCount_deregisterFromLocalGateway,
      (agreesWithTally_iff hadded).mp hs] at hc
    simp only [tally, and_self, if_true] at hc
    omega

end Tallies

/-- Deregistration undoes registration in a run from start-up exactly when no registration of the
run names a property of `Object.prototype` and no deregistration meets a registered triple. -/
theorem deregistration_undoes_registration_iff (localGatewayIp : String)
    (events : List TopicEvent) :
    Always tallyStep AgreesWithTally
        (PlainManager.initial localGatewayIp, fun _ _ _ ↦ 0) events ↔
      EachStep tallyStep KeepsTally
        (PlainManager.initial localGatewayIp, fun _ _ _ ↦ 0) events := by
  have hordinary := PlainManager.ordinary_initial localGatewayIp
  apply always_iff_eachStep_of_imp tallyStep (I := fun _ ↦ True)
    (Q := fun s ↦ AgreesWithTally s ∧ s.1.Ordinary) (fun _ h ↦ h.1) (fun _ _ _ _ _ ↦ trivial)
  · rintro s e t _ ⟨hs, hs'⟩ he ht
    refine ⟨agreesWithTally_step hs hs' he ht, ?_⟩
    obtain ⟨u, hu, rfl⟩ := Option.map_eq_some_iff.mp ht
    exact hs'.handle (fun params heq ↦ by rw [heq] at he; exact he) hu
  · exact fun s e t _ h ht hagrees ↦ keepsTally_of_agrees h.1 h.2 ht hagrees
  · trivial
  · refine ⟨(agreesWithTally_iff hordinary.table.added).mpr fun sensor ip topic ↦ ?_, hordinary⟩
    have htable : (PlainManager.initial localGatewayIp).manager.sensorStreamRouteTable =
        JsObject.empty := congrArg PlainTable.table (PlainManager.table_initial localGatewayIp)
    rw [htable]
    rfl

private def sample : TopicParams :=
  { ip := "10.0.0.2", sensors := ["s1"], topic := "app1", heartbeatTopic := "app1-10.0.0.1",
    heartbeatTimeMs := 60000 }

/-- One registration followed by its deregistration leaves the topic routed. -/
theorem deregistration_keeps_topic :
    ¬ Always tallyStep AgreesWithTally
      (PlainManager.initial "10.0.0.1", fun _ _ _ ↦ 0)
      [.register sample, .deregister sample] := by
  intro h
  have hcount := ((Always.last tallyStep h rfl) "s1" "10.0.0.2" "app1").1
  revert hcount
  decide

end NexusEdge.Streams
