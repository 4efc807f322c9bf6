import NexusEdge.Base.JsObject

/-!
# MQTT clients

Library `Messaging`. `MqttController` of `utils/mqtt-controller.js:18–159`: clients are created when
an ip is first used, callbacks are kept in lists by ip and topic, and a topic is subscribed to at
the broker while it has a list. Messages of a client invoke the callbacks in the list of their
topic; an exception of a callback abandons the rest of them.
-/

namespace NexusEdge.Messaging
open NexusEdge.Base

/-- A client of the broker at an ip, and the topics that it is subscribed to there. -/
structure MqttClient where
  ip : String
  subscriptions : List String
  deriving DecidableEq

namespace MqttClient

/-- `client.subscribe(topic)`. -/
def subscribe (client : MqttClient) (topic : String) : MqttClient :=
  if topic ∈ client.subscriptions then client
  else { client with subscriptions := client.subscriptions ++ [topic] }

/-- `client.unsubscribe(topic)`. -/
def unsubscribe (client : MqttClient) (topic : String) : MqttClient :=
  { client with subscriptions := client.subscriptions.filter (· ≠ topic) }

/-- A client stays with its broker. -/
@[simp] theorem ip_subscribe (client : MqttClient) (topic : String) :
    (client.subscribe topic).ip = client.ip := by
  unfold subscribe
  split <;> rfl

/-- So it does when it unsubscribes. -/
@[simp] theorem ip_unsubscribe (client : MqttClient) (topic : String) :
    (client.unsubscribe topic).ip = client.ip := rfl

/-- The topic is added. -/
theorem mem_subscribe (client : MqttClient) (topic t : String) :
    t ∈ (client.subscribe topic).subscriptions ↔ t = topic ∨ t ∈ client.subscriptions := by
  unfold subscribe
  split
  · next h =>
    constructor
    · exact Or.inr
    · rintro (rfl | ht)
      · exact h
      · exact ht
  · simp [or_comm]

/-- The topic is removed. -/
theorem mem_unsubscribe (client : MqttClient) (topic t : String) :
    t ∈ (client.unsubscribe topic).subscriptions ↔ t ≠ topic ∧ t ∈ client.subscriptions := by
  simp [unsubscribe, and_comm]

end MqttClient

/-- `callbacks.forEach(callback => callback(message))`: the callbacks that are invoked. -/
def forEach {Callback : Type} (throws : Callback → Bool) : List Callback → List Callback
  | [] => []
  | callback :: callbacks => callback :: if throws callback then [] else forEach throws callbacks

/-- The state of the controller and its clients, and what has been published and invoked. -/
structure MqttController (Callback : Type) where
  /-- The clients ever created, by reference. -/
  clients : List MqttClient
  mqttClientMap : JsObject Nat
  callbackMapDirectory : JsObject (JsObject (List Callback))
  published : List (Nat × String × String)
  invoked : List (Callback × String)

/-- Calls of the controller, and messages to one of its clients. -/
inductive MqttEvent (Callback : Type) where
  | subscribe (ip topic : String) (callback : Callback)
  | unsubscribe (ip topic : String)
  | publish (ip topic message : String)
  | message (client : Nat) (topic message : String)

namespace MqttController

variable {Callback : Type}

/-- A new instance, `mqtt-controller.js:20–27`. -/
def initial : MqttController Callback := ⟨[], .empty, .empty, [], []⟩

/-- `_createMqttClient`, `mqtt-controller.js:126–142`. -/
def createMqttClient (s : MqttController Callback) (ip : String) : MqttController Callback :=
  { s with
    clients := s.clients ++ [⟨ip, []⟩]
    mqttClientMap := s.mqttClientMap.set ip s.clients.length }

/-- `_getMqttClient`, `mqtt-controller.js:113–119`, with the client at `mqttClientMap[ip]`. -/
def getMqttClient (s : MqttController Callback) (ip : String) : MqttController Callback :=
  if s.mqttClientMap.hasOwn ip then s else s.createMqttClient ip

/-- `_getCallbackMap`, `mqtt-controller.js:150–156`. -/
def getCallbackMap (s : MqttController Callback) (ip : String) : MqttController Callback :=
  if s.callbackMapDirectory.hasOwn ip then s
  else { s with callbackMapDirectory := s.callbackMapDirectory.set ip .empty }

/-- `callbackMapDirectory[ip]`. -/
def callbackMap (s : MqttController Callback) (ip : String) : JsObject (List Callback) :=
  (s.callbackMapDirectory.get? ip).getD .empty

/-- A change of `callbackMap`. -/
def setCallbackMap (s : MqttController Callback) (ip : String)
    (callbackMap : JsObject (List Callback)) : MqttController Callback :=
  { s with callbackMapDirectory := s.callbackMapDirectory.set ip callbackMap }

/-- A call of a method of `mqttClientMap[ip]`. -/
def atClient (s : MqttController Callback) (ip : String) (f : MqttClient → MqttClient) :
    MqttController Callback :=
  match s.mqttClientMap.get? ip with
  | some c => { s with clients := s.clients.modify c f }
  | none => s

/-- `subscribe`, `mqtt-controller.js:60–76`. -/
def subscribe (s : MqttController Callback) (ip topic : String) (callback : Callback) :
    MqttController Callback :=
  let s := (s.getMqttClient ip).getCallbackMap ip
  match (s.callbackMap ip).get? topic with
  | some callbacks => s.setCallbackMap ip ((s.callbackMap ip).set topic (callbacks ++ [callback]))
  | none =>
    (s.setCallbackMap ip ((s.callbackMap ip).set topic [callback])).atClient ip
      (·.subscribe topic)

/-- `unsubscribe`, `mqtt-controller.js:91–107`. -/
def unsubscribe (s : MqttController Callback) (ip topic : String) : MqttController Callback :=
  let s := (s.getMqttClient ip).getCallbackMap ip
  if (s.callbackMap ip).hasOwn topic then
    (s.setCallbackMap ip ((s.callbackMap ip).erase topic)).atClient ip (·.unsubscribe topic)
  else s

/-- `publish`, `mqtt-controller.js:41–44`. -/
def publish (s : MqttController Callback) (ip topic message : String) : MqttController Callback :=
  let s := s.getMqttClient ip
  { s with
    published := s.published ++
      (s.mqttClientMap.get? ip).toList.map fun client ↦ (client, topic, message) }

/-- The listener of a client's messages, `mqtt-controller.js:133–141`. -/
def onMessage (throws : Callback → String → Bool) (s : MqttController Callback) (client : Nat)
    (topic message : String) : MqttController Callback :=
  match s.clients[client]? with
  | none => s
  | some client =>
    let s := s.getCallbackMap client.ip
    match (s.callbackMap client.ip).get? topic with
    | some callbacks => { s with
        invoked := s.invoked ++
          (forEach (throws · message) callbacks).map fun callback ↦ (callback, message) }
    | none => s

/-- One event; `throws` tells which callbacks throw on which messages. -/
def step (throws : Callback → String → Bool) (s : MqttController Callback) :
    MqttEvent Callback → MqttController Callback
  | .subscribe ip topic callback => s.subscribe ip topic callback
  | .unsubscribe ip topic => s.unsubscribe ip topic
  | .publish ip topic message => s.publish ip topic message
  | .message client topic message => s.onMessage throws client topic message

/-! ### What the internal methods leave alone -/

section Frame

variable (s : MqttController Callback) (ip : String)

/-- A new callback map changes no client. -/
@[simp] theorem clients_getCallbackMap : (s.getCallbackMap ip).clients = s.clients := by
  unfold getCallbackMap
  split <;> rfl

/-- References stay, too. -/
@[simp] theorem mqttClientMap_getCallbackMap :
    (s.getCallbackMap ip).mqttClientMap = s.mqttClientMap := by
  unfold getCallbackMap
  split <;> rfl

/-- It invokes nothing. -/
@[simp] theorem invoked_getCallbackMap : (s.getCallbackMap ip).invoked = s.invoked := by
  unfold getCallbackMap
  split <;> rfl

/-- A change of callbacks invokes none of them. -/
@[simp] theorem invoked_setCallbackMap (callbackMap' : JsObject (List Callback)) :
    (s.setCallbackMap ip callbackMap').invoked = s.invoked := rfl

/-- Neither does a new client. -/
@[simp] theorem invoked_getMqttClient : (s.getMqttClient ip).invoked = s.invoked := by
  unfold getMqttClient
  split <;> rfl

/-- Nor do methods of clients. -/
@[simp] theorem invoked_atClient (f : MqttClient → MqttClient) :
    (s.atClient ip f).invoked = s.invoked := by
  unfold atClient
  split <;> rfl

end Frame

/-! ### Callback maps -/

section CallbackMap

variable (s : MqttController Callback) (ip ip' : String)

/-- A new map is empty. -/
@[simp] theorem callbackMap_getCallbackMap :
    (s.getCallbackMap ip).callbackMap ip' = s.callbackMap ip' := by
  unfold getCallbackMap
  split
  · rfl
  · next h =>
    rw [callbackMap, JsObject.get?_set]
    split
    · next hip => rw [hip, callbackMap, JsObject.get?_of_not_hasOwn h, Option.getD_some,
        Option.getD_none]
    · rfl

/-- A change reaches the map of its ip. -/
@[simp] theorem callbackMap_setCallbackMap (callbackMap' : JsObject (List Callback)) :
    (s.setCallbackMap ip callbackMap').callbackMap ip' =
      if ip' = ip then callbackMap' else s.callbackMap ip' := by
  rw [callbackMap, setCallbackMap, JsObject.get?_set]
  split <;> rfl

/-- Clients are created without callbacks. -/
@[simp] theorem callbackMap_getMqttClient :
    (s.getMqttClient ip).callbackMap ip' = s.callbackMap ip' := by
  unfold getMqttClient
  split <;> rfl

/-- Methods of clients do not concern callbacks. -/
@[simp] theorem callbackMap_atClient (f : MqttClient → MqttClient) :
    (s.atClient ip f).callbackMap ip' = s.callbackMap ip' := by
  unfold atClient
  split <;> rfl

/-- A subscription adds its callback to the list of its ip and topic. -/
theorem get?_callbackMap_subscribe (topic topic' : String) (callback : Callback) :
    ((s.subscribe ip topic callback).callbackMap ip').get? topic' =
      if ip' = ip ∧ topic' = topic then
        some (((s.callbackMap ip).get? topic).getD [] ++ [callback])
      else (s.callbackMap ip').get? topic' := by
  simp only [subscribe, callbackMap_getCallbackMap, callbackMap_getMqttClient]
  cases hcallbacks : (s.callbackMap ip).get? topic with
  | some callbacks =>
    rw [callbackMap_setCallbackMap]
    by_cases hip : ip' = ip
    · rw [if_pos hip, JsObject.get?_set]
      simp [hip]
    · simp [hip]
  | none =>
    rw [callbackMap_atClient, callbackMap_setCallbackMap]
    by_cases hip : ip' = ip
    · rw [if_pos hip, JsObject.get?_set]
      simp [hip]
    · simp [hip]

/-- The list of a topic that is unsubscribed from is gone. -/
theorem get?_callbackMap_unsubscribe (topic topic' : String) :
    ((s.unsubscribe ip topic).callbackMap ip').get? topic' =
      if ip' = ip ∧ topic' = topic then none else (s.callbackMap ip').get? topic' := by
  simp only [unsubscribe, callbackMap_getCallbackMap, callbackMap_getMqttClient]
  split
  · rw [callbackMap_atClient, callbackMap_setCallbackMap]
    by_cases hip : ip' = ip
    · rw [if_pos hip, JsObject.get?_erase]
      simp [hip]
    · simp [hip]
  · next habsent =>
    rw [callbackMap_getCallbackMap, callbackMap_getMqttClient]
    by_cases hboth : ip' = ip ∧ topic' = topic
    · rw [if_pos hboth, hboth.1, hboth.2]
      exact JsObject.get?_of_not_hasOwn habsent
    · rw [if_neg hboth]

/-- Publishing does not concern callbacks. -/
@[simp] theorem callbackMap_publish (topic message : String) :
    (s.publish ip topic message).callbackMap ip' = s.callbackMap ip' :=
  callbackMap_getMqttClient s ip ip'

/-- Neither does a message, for the maps. -/
@[simp] theorem callbackMap_onMessage (throws : Callback → String → Bool) (client : Nat)
    (topic message : String) :
    (s.onMessage throws client topic message).callbackMap ip' = s.callbackMap ip' := by
  unfold onMessage
  split
  · rfl
  · next client' _ =>
    have hmap := callbackMap_getCallbackMap s client'.ip ip'
    simp only []
    split
    · exact hmap
    · exact hmap

end CallbackMap

end MqttController
end NexusEdge.Messaging
