import NexusEdge.Streams.Routing

/-!
# The client of the local broker

Library `Streams`. The process with its MQTT client at the local gateway,
`sensor-stream-manager.js:271–296,344–365`. The `connect` callback attaches the routing listener,
so the listeners count the connections of the client, and a message is routed once for each of
them. The manager never registers a second client for its own gateway (`Connected`).
-/

namespace NexusEdge.Streams
open NexusEdge.Base NexusEdge.Platform NexusEdge.Policy

/-- The MQTT client of the local broker. -/
structure LocalMqttClient where
  connected : Bool
  /-- The `message` listeners attached by `routeSensorStreamsToApps`. -/
  routingListeners : Nat
  deriving DecidableEq

namespace LocalMqttClient

/-- `mqtt.connect(url)`. -/
def initial : LocalMqttClient := ⟨false, 0⟩

/-- `routeSensorStreamsToApps(client)`, `sensor-stream-manager.js:344–345`. -/
def routeSensorStreamsToApps (client : LocalMqttClient) : LocalMqttClient :=
  { client with routingListeners := client.routingListeners + 1 }

/-- The `connect` callback for the local gateway, `sensor-stream-manager.js:271–282`. The broker
delivers a message once, however often its topic is subscribed to. -/
def onConnect (client : LocalMqttClient) : LocalMqttClient :=
  { client with connected := true }.routeSensorStreamsToApps

/-- The connection is lost; the listeners stay attached. -/
def onDisconnect (client : LocalMqttClient) : LocalMqttClient :=
  { client with connected := false }

end LocalMqttClient

/-- The process with its local client. -/
structure ClientProcess (C : CronParser) where
  process : Process C
  client : LocalMqttClient

/-- What the process and its client react to. -/
inductive ClientEvent where
  /-- The client is connected, for the first time or again. -/
  | connect
  | disconnect
  | process (e : ProcessEvent)

/-- The event is a connection of the client. -/
def ClientEvent.isConnect : ClientEvent → Bool
  | .connect => true
  | .disconnect | .process _ => false

namespace ClientProcess

variable {C : CronParser}

/-- The process after start-up. -/
def initial (localGatewayIp timeZone : String) : ClientProcess C :=
  ⟨Process.initial localGatewayIp timeZone, LocalMqttClient.initial⟩

/-- One event; none when the event cannot happen. -/
def step (s : ClientProcess C) : ClientEvent → Option (ClientProcess C)
  | .connect => some { s with client := s.client.onConnect }
  | .disconnect => some { s with client := s.client.onDisconnect }
  | .process e => (s.process.step e).map fun process ↦ { s with process := process }

/-- The publications of a message with a reading of the sensor: every listener routes it. -/
def publications (s : ClientProcess C) (deviceId : String) : List (String × String) :=
  (List.replicate s.client.routingListeners (s.process.publications deviceId)).flatten

/-- A message that arrives is handled by one routing listener, and its reading is published once
for each route of its sensor that is not blocked. -/
def RoutedOnce (s : ClientProcess C) : Prop :=
  s.client.connected →
    s.client.routingListeners = 1 ∧
      ∀ deviceId, s.publications deviceId =
        (s.process.manager.sensorStreamRouteTable.routes deviceId).filter fun route ↦
          !s.process.policyHelper.isBlocked deviceId route.1 route.2

/-- A connection finds no routing listener attached. -/
def ConnectsFirst (s : ClientProcess C) : ClientEvent → Prop
  | .connect => s.client.routingListeners = 0
  | .disconnect | .process _ => True

/-- The listeners count the connections. -/
theorem routingListeners_run (es : List ClientEvent) {s t : ClientProcess C}
    (hrun : run step s es = some t) :
    t.client.routingListeners = s.client.routingListeners + es.countP ClientEvent.isConnect := by
  induction es generalizing s with
  | nil =>
    obtain rfl := Option.some.inj hrun
    rfl
  | cons e es ih =>
    obtain ⟨u, hu, hrest⟩ := Option.bind_eq_some_iff.mp hrun
    rw [ih hrest, List.countP_cons]
    cases e with
    | connect =>
      obtain rfl := Option.some.inj hu
      simp only [LocalMqttClient.onConnect, LocalMqttClient.routeSensorStreamsToApps,
        ClientEvent.isConnect, if_true]
      omega
    | disconnect =>
      obtain rfl := Option.some.inj hu
      simp [LocalMqttClient.onDisconnect, ClientEvent.isConnect]
    | process e =>
      obtain ⟨process, _, rfl⟩ := Option.map_eq_some_iff.mp hu
      simp [ClientEvent.isConnect]

/-- The gateways that are routed to stay connected. -/
theorem connected_step {s t : ClientProcess C} {e : ClientEvent}
    (h : s.process.manager.Connected) (ht : step s e = some t) : t.process.manager.Connected := by
  cases e with
  | connect =>
    obtain rfl := Option.some.inj ht
    exact h
  | disconnect =>
    obtain rfl := Option.some.inj ht
    exact h
  | process e =>
    obtain ⟨process, hprocess, rfl⟩ := Option.map_eq_some_iff.mp ht
    exact Process.connected_step h hprocess

/-- With its gateways connected, the process routes a message once if one listener is attached. -/
theorem routedOnce_iff {s : ClientProcess C} (h : s.process.manager.Connected) :
    s.RoutedOnce ↔ (s.client.connected → s.client.routingListeners = 1) := by
  refine forall_congr' fun _ ↦ and_iff_left_of_imp fun hone deviceId ↦ ?_
  rw [publications, hone, List.replicate_one, List.flatten_singleton]
  exact (Process.routesExactly_of_connected h deviceId).1

/-- An event keeps messages routed once exactly if it is not a further connection. -/
theorem routedOnce_step_iff {s t : ClientProcess C} {e : ClientEvent}
    (h : s.process.manager.Connected) (hs : s.RoutedOnce) (ht : step s e = some t) :
    t.RoutedOnce ↔ s.ConnectsFirst e := by
  rw [routedOnce_iff (connected_step h ht)]
  cases e with
  | connect =>
    obtain rfl := Option.some.inj ht
    simp [ConnectsFirst, LocalMqttClient.onConnect, LocalMqttClient.routeSensorStreamsToApps]
  | disconnect =>
    obtain rfl := Option.some.inj ht
    simp [ConnectsFirst, LocalMqttClient.onDisconnect]
  | process e =>
    obtain ⟨process, _, rfl⟩ := Option.map_eq_some_iff.mp ht
    exact iff_of_true ((routedOnce_iff h).mp hs) trivial

/-- In a run messages are routed once throughout exactly if the client is never connected
again. -/
theorem routedOnce_run (localGatewayIp timeZone : String) (es : List ClientEvent) :
    Always step RoutedOnce (initial localGatewayIp timeZone : ClientProcess C) es ↔
      EachStep step ConnectsFirst (initial localGatewayIp timeZone : ClientProcess C) es := by
  have hconnected : (initial localGatewayIp timeZone : ClientProcess C).process.manager.Connected :=
    SensorStreamManager.connected_initial localGatewayIp
  apply always_iff_eachStep step (fun _ _ _ h ht ↦ connected_step h ht)
    (fun _ _ _ h hs ht ↦ routedOnce_step_iff h hs ht) es hconnected
  rw [routedOnce_iff hconnected]
  exact nofun

/-- A gateway asks for streams, and the connection to the local broker is lost once. -/
def reconnected : List ClientEvent :=
  [.connect,
    .process (.registerTopic
      { ip := "10.0.0.2", sensors := ["s1"], topic := "app1", heartbeatTopic := "app1-10.0.0.1"
        heartbeatTimeMs := 60000 }),
    .disconnect, .connect]

/-- After the second connection a reading is published twice on its only route. -/
theorem routed_twice :
    ∃ t : ClientProcess PolicyEnforcer.firstHalves,
      run step (initial "10.0.0.1" "UTC") reconnected = some t ∧ t.client.connected ∧
      t.process.manager.sensorStreamRouteTable.routes "s1" = [("10.0.0.2", "app1")] ∧
      t.publications "s1" = [("10.0.0.2", "app1"), ("10.0.0.2", "app1")] ∧ ¬ t.RoutedOnce := by
  have hfacts : (run step (initial "10.0.0.1" "UTC") reconnected).map
      (fun t : ClientProcess PolicyEnforcer.firstHalves ↦ (t.client.connected,
        t.process.manager.sensorStreamRouteTable.routes "s1", t.publications "s1")) =
        some (true, [("10.0.0.2", "app1")], [("10.0.0.2", "app1"), ("10.0.0.2", "app1")]) := by
    decide
  obtain ⟨t, ht, hfacts⟩ := Option.map_eq_some_iff.mp hfacts
  simp only [Prod.mk.injEq] at hfacts
  obtain ⟨hconnected, hroutes, hpublications⟩ := hfacts
  refine ⟨t, ht, hconnected, hroutes, hpublications, fun hrouted ↦ ?_⟩
  have hone := (hrouted hconnected).1
  rw [routingListeners_run reconnected ht] at hone
  cases hone

end ClientProcess
end NexusEdge.Streams
