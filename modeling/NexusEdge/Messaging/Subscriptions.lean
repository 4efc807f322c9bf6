import NexusEdge.Base.Loop
import NexusEdge.Messaging.MqttController

/-!
# Subscriptions and callbacks

Library `Messaging`. The clients of `mqtt-controller.js`, the lists of callbacks and the
subscriptions at the brokers agree throughout a run, and the list of an ip and a topic is what was
subscribed since it was last unsubscribed. A message therefore invokes these callbacks, as long as
none of them throws.
-/

namespace NexusEdge.Messaging
open NexusEdge.Base

variable {Callback : Type}

/-! ### What a message invokes -/

/-- The callbacks are invoked in order until one throws. -/
structure Invoked (throws : Callback → Bool) (callbacks called : List Callback) : Prop where
  inOrder : called <+: callbacks
  onlyLastThrows : ∀ callback ∈ called.dropLast, throws callback = false
  complete : called = callbacks ∨ ∃ callback ∈ called.getLast?, throws callback = true

/-- This is what `forEach` does. -/
theorem invoked_forEach (throws : Callback → Bool) (callbacks : List Callback) :
    Invoked throws callbacks (forEach throws callbacks) := by
  induction callbacks with
  | nil => exact ⟨List.prefix_rfl, nofun, Or.inl rfl⟩
  | cons callback callbacks ih =>
    rw [forEach]
    by_cases hthrows : throws callback = true
    · rw [if_pos hthrows]
      exact ⟨List.prefix_append [callback] callbacks, nofun, Or.inr ⟨callback, rfl, hthrows⟩⟩
    · rw [if_neg hthrows]
      refine ⟨List.cons_prefix_cons.mpr ⟨rfl, ih.inOrder⟩, ?_, ?_⟩
      · intro other hother
        cases hrest : forEach throws callbacks with
        | nil =>
          rw [hrest] at hother
          cases hother
        | cons next rest =>
          rw [hrest, List.dropLast_cons_cons] at hother
          rcases List.mem_cons.mp hother with rfl | hother
          · simpa using hthrows
          · apply ih.onlyLastThrows other
            rw [hrest]
            exact hother
      · rcases ih.complete with hall | ⟨last, hlast, hthrown⟩
        · exact Or.inl (congrArg (callback :: ·) hall)
        · right
          refine ⟨last, ?_, hthrown⟩
          rw [Option.mem_def] at hlast ⊢
          rw [List.getLast?_cons, hlast, Option.getD_some]

/-- If none of the callbacks throws, all are invoked. -/
theorem Invoked.eq_of_returns {throws : Callback → Bool} {callbacks called : List Callback}
    (h : Invoked throws callbacks called) (hreturns : ∀ callback ∈ callbacks,
      throws callback = false) : called = callbacks := by
  rcases h.complete with hall | ⟨last, hlast, hthrown⟩
  · exact hall
  · have hmem : last ∈ callbacks := h.inOrder.subset (List.mem_of_getLast? hlast)
    rw [hreturns last hmem] at hthrown
    cases hthrown

/-- What an event adds to the callbacks of an ip and a topic, or that it ends them. -/
def record (ip topic : String) (callbacks : List Callback) : MqttEvent Callback → List Callback
  | .subscribe ip' topic' callback =>
    if ip = ip' ∧ topic = topic' then callbacks ++ [callback] else callbacks
  | .unsubscribe ip' topic' => if ip = ip' ∧ topic = topic' then [] else callbacks
  | .publish .. => callbacks
  | .message .. => callbacks

/-- The callbacks subscribed to an ip and a topic since they were last unsubscribed from. -/
def subscribed (ip topic : String) (es : List (MqttEvent Callback)) : List Callback :=
  es.foldl (record ip topic) []

namespace MqttController

/-! ### Clients, callback maps and subscriptions -/

/-- References lead to the clients of their ips, clients are subscribed to the keys of the callback
maps of their ips, and there are no callbacks for ips without client. -/
structure Wf (s : MqttController Callback) : Prop where
  references : ∀ ip c, s.mqttClientMap.get? ip = some c ↔
    ∃ client, s.clients[c]? = some client ∧ client.ip = ip
  subscriptions : ∀ client ∈ s.clients, ∀ topic,
    topic ∈ client.subscriptions ↔ (s.callbackMap client.ip).hasOwn topic
  connected : ∀ ip topic, (s.callbackMap ip).hasOwn topic → ∃ client ∈ s.clients, client.ip = ip

/-- Nothing is connected. -/
theorem wf_initial : (initial : MqttController Callback).Wf :=
  ⟨fun _ _ ↦ iff_of_false nofun nofun, nofun, nofun⟩

section Keep

variable {s t : MqttController Callback}

/-- Only clients and callback maps matter. -/
theorem Wf.of_eq (hs : s.Wf) (hclients : t.clients = s.clients)
    (hmap : t.mqttClientMap = s.mqttClientMap)
    (hcallbacks : ∀ ip topic, (t.callbackMap ip).hasOwn topic = (s.callbackMap ip).hasOwn topic) :
    t.Wf := by
  constructor
  · rw [hclients, hmap]
    exact hs.references
  · rw [hclients]
    intro client hclient topic
    rw [hcallbacks]
    exact hs.subscriptions client hclient topic
  · rw [hclients]
    intro ip topic h
    rw [hcallbacks] at h
    exact hs.connected ip topic h

/-- An ip without reference has no client. -/
theorem Wf.ip_ne_of_get?_eq_none (hs : s.Wf) {ip : String} (hip : s.mqttClientMap.get? ip = none) :
    ∀ client ∈ s.clients, client.ip ≠ ip := by
  intro client hclient heq
  obtain ⟨c, hc⟩ := List.mem_iff_getElem?.mp hclient
  have hfound := (hs.references ip c).mpr ⟨client, hc, heq⟩
  rw [hip] at hfound
  cases hfound

/-- The reference of a new client leads to it. -/
theorem references_createMqttClient (hs : s.Wf) {ip : String}
    (hip : s.mqttClientMap.get? ip = none) (ip' : String) (c : Nat) :
    (s.createMqttClient ip).mqttClientMap.get? ip' = some c ↔
      ∃ client, (s.createMqttClient ip).clients[c]? = some client ∧ client.ip = ip' := by
  have hnone := hs.ip_ne_of_get?_eq_none hip
  simp only [createMqttClient, JsObject.get?_set, List.getElem?_append]
  by_cases hsame : ip' = ip
  · rw [if_pos hsame]
    constructor
    · intro h
      cases h
      exact ⟨⟨ip, []⟩, by simp, hsame.symm⟩
    · rintro ⟨client, hclient, hclientIp⟩
      split at hclient
      · rw [hsame] at hclientIp
        exact absurd hclientIp (hnone client (List.mem_of_getElem? hclient))
      · next hlength =>
        have hlast := (List.getElem?_eq_some_iff.mp hclient).1
        simp only [List.length_singleton] at hlast
        congr 1
        omega
  · rw [if_neg hsame, hs.references]
    constructor
    · rintro ⟨client, hclient, hclientIp⟩
      have hlength := (List.getElem?_eq_some_iff.mp hclient).1
      exact ⟨client, by rw [if_pos hlength, hclient], hclientIp⟩
    · rintro ⟨client, hclient, hclientIp⟩
      split at hclient
      · exact ⟨client, hclient, hclientIp⟩
      · have hnew := List.mem_singleton.mp (List.mem_of_getElem? hclient)
        rw [hnew] at hclientIp
        exact absurd hclientIp.symm hsame

/-- A client is created where there is none. -/
theorem wf_createMqttClient (hs : s.Wf) {ip : String} (hip : s.mqttClientMap.get? ip = none) :
    (s.createMqttClient ip).Wf := by
  constructor
  · exact references_createMqttClient hs hip
  · intro client hclient topic
    show _ ↔ (s.callbackMap client.ip).hasOwn topic
    rcases List.mem_append.mp hclient with hclient | hclient
    · exact hs.subscriptions client hclient topic
    · rw [List.mem_singleton.mp hclient]
      apply iff_of_false nofun
      intro hown
      obtain ⟨client', hclient', heq⟩ := hs.connected ip topic hown
      exact hs.ip_ne_of_get?_eq_none hip client' hclient' heq
  · intro ip' topic h
    obtain ⟨client, hclient, heq⟩ := hs.connected ip' topic h
    exact ⟨client, List.mem_append_left _ hclient, heq⟩

/-- After it has been asked for, there is a client. -/
theorem wf_getMqttClient (hs : s.Wf) (ip : String) :
    (s.getMqttClient ip).Wf ∧ ∃ c, (s.getMqttClient ip).mqttClientMap.get? ip = some c := by
  unfold getMqttClient
  split
  · next h => exact ⟨hs, (JsObject.hasOwn_iff _ _).mp h⟩
  · next h =>
    exact ⟨wf_createMqttClient hs (JsObject.get?_of_not_hasOwn h), s.clients.length,
      JsObject.get?_set_self _ _ _⟩

/-- Callback maps are created empty. -/
theorem wf_getCallbackMap (hs : s.Wf) (ip : String) : (s.getCallbackMap ip).Wf := by
  apply hs.of_eq (clients_getCallbackMap s ip) (mqttClientMap_getCallbackMap s ip)
  intro ip' topic
  rw [callbackMap_getCallbackMap]

/-- Before a subscription changes there are a client and a callback map. -/
theorem wf_ready (hs : s.Wf) (ip : String) : ((s.getMqttClient ip).getCallbackMap ip).Wf ∧
    ∃ c, ((s.getMqttClient ip).getCallbackMap ip).mqttClientMap.get? ip = some c := by
  obtain ⟨hwf, hclient⟩ := wf_getMqttClient hs ip
  rw [mqttClientMap_getCallbackMap]
  exact ⟨wf_getCallbackMap hwf ip, hclient⟩

/-- A method of the client at an ip changes the only client with this ip. -/
theorem clients_atClient (hs : s.Wf) {ip : String} {c : Nat}
    (hc : s.mqttClientMap.get? ip = some c) (f : MqttClient → MqttClient) :
    (s.atClient ip f).clients =
      s.clients.map fun client ↦ if client.ip = ip then f client else client := by
  have hclients : (s.atClient ip f).clients = s.clients.modify c f := by
    simp only [atClient, hc]
  rw [hclients]
  apply List.ext_getElem?
  intro i
  rw [List.getElem?_modify, List.getElem?_map, Option.map_eq_map]
  apply Option.map_congr
  intro client hclient
  have hip : client.ip = ip ↔ c = i := by
    constructor
    · intro heq
      have hfound := (hs.references ip i).mpr ⟨client, hclient, heq⟩
      rw [hc] at hfound
      exact Option.some.inj hfound
    · intro heq
      obtain ⟨owner, howner, hownerIp⟩ := (hs.references ip c).mp hc
      rw [heq, hclient] at howner
      rw [Option.some.inj howner, hownerIp]
  simp only [hip]

/-- The keys of a callback map change together with the subscriptions of the client. -/
theorem wf_atClient (hs : s.Wf) {ip : String} {c : Nat} (hc : s.mqttClientMap.get? ip = some c)
    (callbackMap' : JsObject (List Callback)) {f : MqttClient → MqttClient}
    (hf : ∀ client, (f client).ip = client.ip)
    (htopics : ∀ client ∈ s.clients, client.ip = ip → ∀ topic,
      topic ∈ (f client).subscriptions ↔ callbackMap'.hasOwn topic) :
    ((s.setCallbackMap ip callbackMap').atClient ip f).Wf := by
  have hclients : ((s.setCallbackMap ip callbackMap').atClient ip f).clients =
      s.clients.map fun client ↦ if client.ip = ip then f client else client := by
    rw [← clients_atClient hs hc f]
    simp only [atClient, setCallbackMap, hc]
  have hmap : ((s.setCallbackMap ip callbackMap').atClient ip f).mqttClientMap =
      s.mqttClientMap := by
    simp only [atClient, setCallbackMap, hc]
  have hip : ∀ client : MqttClient,
      (if client.ip = ip then f client else client).ip = client.ip := by
    intro client
    split
    · exact hf client
    · rfl
  constructor
  · intro ip' i
    rw [hclients, hmap, hs.references, List.getElem?_map]
    constructor
    · rintro ⟨client, hclient, heq⟩
      exact ⟨_, by rw [hclient, Option.map_some], (hip client).trans heq⟩
    · rintro ⟨client', hclient', heq⟩
      obtain ⟨client, hclient, rfl⟩ := Option.map_eq_some_iff.mp hclient'
      exact ⟨client, hclient, (hip client).symm.trans heq⟩
  · intro client' hclient' topic
    rw [hclients] at hclient'
    obtain ⟨client, hclient, rfl⟩ := List.mem_map.mp hclient'
    rw [callbackMap_atClient, callbackMap_setCallbackMap, hip]
    by_cases hsame : client.ip = ip
    · rw [if_pos hsame, if_pos hsame]
      exact htopics client hclient hsame topic
    · rw [if_neg hsame, if_neg hsame]
      exact hs.subscriptions client hclient topic
  · intro ip' topic h
    rw [callbackMap_atClient, callbackMap_setCallbackMap] at h
    have hconnected : ∃ client ∈ s.clients, client.ip = ip' := by
      by_cases hsame : ip' = ip
      · obtain ⟨owner, howner, hownerIp⟩ := (hs.references ip c).mp hc
        exact ⟨owner, List.mem_of_getElem? howner, hownerIp.trans hsame.symm⟩
      · rw [if_neg hsame] at h
        exact hs.connected ip' topic h
    obtain ⟨client, hclient, heq⟩ := hconnected
    rw [hclients]
    exact ⟨_, List.mem_map_of_mem hclient, (hip client).trans heq⟩

end Keep

/-- A subscription keeps the agreement. -/
theorem wf_subscribe {s : MqttController Callback} (hs : s.Wf) (ip topic : String)
    (callback : Callback) : (s.subscribe ip topic callback).Wf := by
  obtain ⟨hwf, c, hmap⟩ := wf_ready hs ip
  unfold subscribe
  generalize (s.getMqttClient ip).getCallbackMap ip = t at hwf hmap
  cases hcallbacks : (t.callbackMap ip).get? topic with
  | some callbacks =>
    simp only [hcallbacks]
    refine hwf.of_eq ?_ ?_ fun ip' topic' ↦ ?_
    · rfl
    · rfl
    · rw [callbackMap_setCallbackMap]
      split
      · next hip =>
        rw [JsObject.hasOwn_set, hip]
        by_cases htopic : topic' = topic
        · rw [htopic, JsObject.hasOwn, hcallbacks]
          simp
        · simp [htopic]
      · rfl
  | none =>
    simp only [hcallbacks]
    apply wf_atClient hwf hmap
    · exact fun client ↦ client.ip_subscribe topic
    · intro client hmem hip topic'
      rw [client.mem_subscribe, JsObject.hasOwn_set, Bool.or_eq_true, decide_eq_true_eq,
        hwf.subscriptions client hmem, hip]

/-- So does the end of one. -/
theorem wf_unsubscribe {s : MqttController Callback} (hs : s.Wf) (ip topic : String) :
    (s.unsubscribe ip topic).Wf := by
  obtain ⟨hwf, c, hmap⟩ := wf_ready hs ip
  unfold unsubscribe
  generalize (s.getMqttClient ip).getCallbackMap ip = t at hwf hmap
  simp only []
  split
  · apply wf_atClient hwf hmap
    · exact fun client ↦ client.ip_unsubscribe topic
    · intro client hmem hip topic'
      rw [client.mem_unsubscribe, JsObject.hasOwn_erase, Bool.and_eq_true, decide_eq_true_eq,
        hwf.subscriptions client hmem, hip]
  · exact hwf

/-- Every event keeps the agreement. -/
theorem wf_step (throws : Callback → String → Bool) {s : MqttController Callback} (hs : s.Wf)
    (e : MqttEvent Callback) : (s.step throws e).Wf := by
  cases e with
  | subscribe ip topic callback => exact wf_subscribe hs ip topic callback
  | unsubscribe ip topic => exact wf_unsubscribe hs ip topic
  | publish ip topic message => exact (wf_getMqttClient hs ip).1.of_eq rfl rfl fun _ _ ↦ rfl
  | message client topic message =>
    simp only [step, onMessage]
    split
    · exact hs
    · split
      · exact (wf_getCallbackMap hs _).of_eq rfl rfl fun _ _ ↦ rfl
      · exact wf_getCallbackMap hs _

/-- The list of an ip and a topic changes as recorded. -/
theorem callbacks_step (throws : Callback → String → Bool) (s : MqttController Callback)
    (e : MqttEvent Callback) (ip topic : String) :
    (((s.step throws e).callbackMap ip).get? topic).getD [] =
      record ip topic (((s.callbackMap ip).get? topic).getD []) e := by
  cases e with
  | subscribe ip' topic' callback =>
    rw [step, get?_callbackMap_subscribe, record]
    split
    · next hsame => rw [hsame.1, hsame.2, Option.getD_some]
    · rfl
  | unsubscribe ip' topic' =>
    rw [step, get?_callbackMap_unsubscribe, record]
    split <;> rfl
  | publish ip' topic' message => rw [step, callbackMap_publish, record]
  | message client topic' message => rw [step, callbackMap_onMessage, record]

/-- A message to a client invokes the list of its topic. -/
theorem invoked_onMessage (throws : Callback → String → Bool) {s : MqttController Callback}
    {c : Nat} {client : MqttClient} (hclient : s.clients[c]? = some client)
    (topic message : String) :
    (s.onMessage throws c topic message).invoked = s.invoked ++
      (forEach (throws · message) (((s.callbackMap client.ip).get? topic).getD [])).map
        fun callback ↦ (callback, message) := by
  simp only [onMessage, hclient, callbackMap_getCallbackMap]
  cases (s.callbackMap client.ip).get? topic with
  | some callbacks => rw [Option.getD_some, invoked_getCallbackMap]
  | none =>
    rw [Option.getD_none, forEach, List.map_nil, List.append_nil]
    exact invoked_getCallbackMap s client.ip

/-- Nothing else invokes callbacks. -/
theorem invoked_step (throws : Callback → String → Bool) (s : MqttController Callback)
    {e : MqttEvent Callback} (he : ∀ client topic message, e ≠ .message client topic message) :
    (s.step throws e).invoked = s.invoked := by
  cases e with
  | subscribe ip topic callback =>
    simp only [step, subscribe]
    split
    · rw [invoked_setCallbackMap, invoked_getCallbackMap, invoked_getMqttClient]
    · rw [invoked_atClient, invoked_setCallbackMap, invoked_getCallbackMap, invoked_getMqttClient]
  | unsubscribe ip topic =>
    simp only [step, unsubscribe]
    split
    · rw [invoked_atClient, invoked_setCallbackMap, invoked_getCallbackMap, invoked_getMqttClient]
    · rw [invoked_getCallbackMap, invoked_getMqttClient]
  | publish ip topic message => exact invoked_getMqttClient s ip
  | message client topic message => exact absurd rfl (he client topic message)

/-! ### Runs -/

/-- What holds after a sequence of events: no ip has two clients, and references lead to them;
clients are subscribed to the keys of the callback maps of their ips, and only ips with a client
have callbacks; a message to a client invokes what is subscribed to its ip and topic, in order and
until a callback throws, and nothing else invokes callbacks. -/
structure Consistent (throws : Callback → String → Bool) (es : List (MqttEvent Callback))
    (s : MqttController Callback) : Prop where
  oneClient : (s.clients.map MqttClient.ip).Nodup
  references : ∀ ip c, s.mqttClientMap.get? ip = some c ↔
    ∃ client, s.clients[c]? = some client ∧ client.ip = ip
  subscriptions : ∀ client ∈ s.clients, ∀ topic,
    topic ∈ client.subscriptions ↔ (s.callbackMap client.ip).hasOwn topic
  connected : ∀ ip topic, (s.callbackMap ip).hasOwn topic → ∃ client ∈ s.clients, client.ip = ip
  invokes : ∀ c client topic message, s.clients[c]? = some client →
    ∃ called, Invoked (throws · message) (subscribed client.ip topic es) called ∧
      (s.step throws (.message c topic message)).invoked =
        s.invoked ++ called.map fun callback ↦ (callback, message)
  quiet : ∀ e : MqttEvent Callback, (∀ client topic message, e ≠ .message client topic message) →
    (s.step throws e).invoked = s.invoked

/-- After every sequence of events all of this holds. -/
theorem subscriptions_run (throws : Callback → String → Bool) (es : List (MqttEvent Callback)) :
    Consistent throws es (es.foldl (step throws) initial) := by
  have hwf : (es.foldl (step throws) initial).Wf :=
    foldl_invariant (P := Wf) es (fun e _ _ hs ↦ wf_step throws hs e) initial wf_initial
  have hcallbacks : ∀ ip topic, subscribed ip topic es =
      (((es.foldl (step throws) initial).callbackMap ip).get? topic).getD [] := by
    intro ip topic
    have hrun : es.foldl (record ip topic)
        ((((initial : MqttController Callback).callbackMap ip).get? topic).getD []) =
        (((es.foldl (step throws) initial).callbackMap ip).get? topic).getD [] :=
      List.foldl_hom (fun s : MqttController Callback ↦ ((s.callbackMap ip).get? topic).getD [])
        fun s e ↦ (callbacks_step throws s e ip topic).symm
    exact hrun
  generalize es.foldl (step throws) initial = s at hwf hcallbacks
  refine ⟨?_, hwf.references, hwf.subscriptions, hwf.connected, ?_, fun e ↦ invoked_step throws s⟩
  · rw [List.nodup_iff_getElem?_ne_getElem?]
    intro i j hij hj heq
    rw [List.length_map] at hj
    rw [List.getElem?_map, List.getElem?_map, List.getElem?_eq_getElem hj,
      List.getElem?_eq_getElem (hij.trans hj)] at heq
    have hi := (hwf.references _ i).mpr ⟨_, List.getElem?_eq_getElem (hij.trans hj), rfl⟩
    have hj := (hwf.references _ j).mpr ⟨_, List.getElem?_eq_getElem hj, rfl⟩
    rw [Option.some.inj heq, hj] at hi
    exact hij.ne' (Option.some.inj hi)
  · intro c client topic message hclient
    refine ⟨_, invoked_forEach (throws · message) _, ?_⟩
    rw [hcallbacks]
    exact invoked_onMessage throws hclient topic message

/-- Two callbacks are subscribed to one topic, and get a message that the first one cannot parse. -/
def malformedMessage : List (MqttEvent Nat) :=
  [.subscribe "localhost" "nexusedge-data" 0, .subscribe "localhost" "nexusedge-data" 1,
    .message 0 "nexusedge-data" "no JSON"]

/-- The second one is not invoked. -/
theorem second_not_invoked :
    subscribed "localhost" "nexusedge-data" malformedMessage = [0, 1] ∧
      (malformedMessage.foldl (step fun callback _ ↦ callback == 0) initial).invoked =
        [(0, "no JSON")] := by
  constructor
  · decide
  · decide

end MqttController
end NexusEdge.Messaging
