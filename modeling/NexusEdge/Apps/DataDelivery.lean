import NexusEdge.Apps.DataPath
import NexusEdge.Streams.Accounting

/-!
# Readings that reach the application

Library `Apps`. How often the process of an application gets a reading, on the way of
`sensor-stream-manager.js:88–261,344–364,520–654` and `oracle/index.js:28–39`. Messages are neither
lost nor made up between gateway and oracle, and an application whose streams are set up gets each
reading of its sensors from the gateway that serves them.
-/

namespace NexusEdge.Apps
open NexusEdge.Base NexusEdge.Platform NexusEdge.Policy NexusEdge.Streams

variable {C : CronParser} {N Callback : Type}

namespace DataPath

section Events

variable (J : JsonText N)

/-- The messages that events deliver. -/
def delivered (es : List (DataEvent N Callback)) : List BrokerMessage :=
  es.filterMap fun
    | .deliver message => some message
    | _ => none

/-- The messages that an event publishes. -/
def published (s : DataPath C N Callback) : DataEvent N Callback → List BrokerMessage
  | .reading gatewayIp payload =>
    (deviceId? payload).elim [] fun deviceId ↦ s.routed J gatewayIp deviceId payload
  | _ => []

/-- How often a text is due for an application: for a reading with this text as often as the
gateway has been assigned its device. -/
def due (linkGraph : LinkGraph) (ip : String) (deviceIds : List String) (text : String) :
    DataEvent N Callback → Nat
  | .reading gatewayIp payload =>
    if J.stringify payload = text then
      (deviceId? payload).elim 0 (Network.share linkGraph ip deviceIds gatewayIp).count
    else 0
  | _ => 0

/-- The event neither concerns the streams of the application nor is a reading of one of its
devices that is blocked. -/
def Undisturbed (ip topic : String) (deviceIds : List String) (s : DataPath C N Callback) :
    DataEvent N Callback → Prop
  | .streams e => ¬ e.Concerns ip topic
  | .reading gatewayIp payload => ∀ deviceId ∈ deviceIds, deviceId? payload = some deviceId →
      (s.policies gatewayIp).isBlocked deviceId ip topic = false
  | _ => True

end Events

variable {J : JsonText N} {R : String → String → OracleRuntime N Callback} {timeZone : String}
  {es : List (DataEvent N Callback)} {s t : DataPath C N Callback}

/-! ### Parts of a run -/

/-- The managers make a run of their own. -/
theorem network_run (hs : run (step J R) (start timeZone) es = some s) :
    run Network.streamStep Network.initial (streams es) = some s.network := by
  refine run_history (step J R) (P := fun before s ↦
    run Network.streamStep Network.initial (streams before) = some s.network) ?_ es [] rfl hs
  intro before s e t h ht
  rw [streams, List.filterMap_append, run_append]
  refine (congrArg (Option.bind · _) h).trans ?_
  cases e with
  | streams e =>
    obtain ⟨network, hstep, rfl⟩ := Option.map_eq_some_iff.mp ht
    show (Network.streamStep s.network e).bind _ = _
    rw [hstep]
    rfl
  | updatePolicy gatewayIp policy now timerNow =>
    obtain rfl := Option.some.inj ht
    rfl
  | policyTimer gatewayIp handle now timerNow =>
    simp only [step] at ht
    split at ht
    · obtain rfl := Option.some.inj ht
      rfl
    · cases ht
  | reading gatewayIp payload =>
    obtain ⟨deviceId, _, rfl⟩ := Option.map_eq_some_iff.mp ht
    rfl
  | deliver message =>
    simp only [step] at ht
    split at ht
    · obtain ⟨oracle, _, rfl⟩ := Option.map_eq_some_iff.mp ht
      rfl
    · cases ht
  | application ip topic e =>
    simp only [step] at ht
    split at ht
    · obtain ⟨oracle, _, rfl⟩ := Option.map_eq_some_iff.mp ht
      rfl
    · cases ht

/-- What is published is delivered or under way. -/
theorem delivered_step {e : DataEvent N Callback} (ht : step J R s e = some t) :
    (delivered [e] ++ t.inFlight).Perm (s.inFlight ++ s.published J e) := by
  cases e with
  | streams e =>
    obtain ⟨network, _, rfl⟩ := Option.map_eq_some_iff.mp ht
    exact List.Perm.of_eq (List.append_nil _).symm
  | updatePolicy gatewayIp policy now timerNow =>
    obtain rfl := Option.some.inj ht
    exact List.Perm.of_eq (List.append_nil _).symm
  | policyTimer gatewayIp handle now timerNow =>
    simp only [step] at ht
    split at ht
    · obtain rfl := Option.some.inj ht
      exact List.Perm.of_eq (List.append_nil _).symm
    · cases ht
  | reading gatewayIp payload =>
    obtain ⟨deviceId, hdevice, rfl⟩ := Option.map_eq_some_iff.mp ht
    rw [published, hdevice]
    exact List.Perm.refl _
  | deliver message =>
    simp only [step] at ht
    split at ht
    · next hmem =>
      obtain ⟨oracle, _, rfl⟩ := Option.map_eq_some_iff.mp ht
      show (message :: s.inFlight.erase message).Perm (s.inFlight ++ [])
      rw [List.append_nil]
      exact (List.perm_cons_erase hmem).symm
    · cases ht
  | application ip topic e =>
    simp only [step] at ht
    split at ht
    · obtain ⟨oracle, _, rfl⟩ := Option.map_eq_some_iff.mp ht
      exact List.Perm.of_eq (List.append_nil _).symm
    · cases ht

/-- A text is sent along a route as often as the route is listed. -/
theorem count_routed (s : DataPath C N Callback) (gatewayIp deviceId : String) (payload : Json N)
    (ip topic text : String) :
    (s.routed J gatewayIp deviceId payload).count ⟨ip, topic, text⟩ =
      if J.stringify payload = text then
        ((s.process gatewayIp).publications deviceId).count (ip, topic)
      else 0 := by
  rw [routed]
  split
  · next htext =>
    have hinjective : Function.Injective fun route : String × String ↦
        (⟨route.1, route.2, J.stringify payload⟩ : BrokerMessage) := by
      intro a b h
      injection h with hip htopic
      exact Prod.ext hip htopic
    rw [← htext]
    exact List.count_map_of_injective _ _ hinjective (ip, topic)
  · next htext =>
    rw [List.count_eq_zero]
    intro hmem
    obtain ⟨route, _, hroute⟩ := List.mem_map.mp hmem
    exact htext (congrArg BrokerMessage.text hroute)

section Served

variable {ip topic : String} {deviceIds : List String} {linkGraph : LinkGraph}
  {earlier later : List StreamEvent}

/-- While nothing concerns the application, an event publishes for it what is due. -/
theorem count_published (hs : run (step J R) (start timeZone) es = some s)
    (hes : streams es = earlier ++ .requestStreams ip topic deviceIds linkGraph :: later)
    (hother : ∀ e ∈ earlier ++ later, ¬ e.Concerns ip topic)
    (hquiet : s.network.Quiet ip topic) {e : DataEvent N Callback}
    (he : s.Undisturbed ip topic deviceIds e) (text : String) :
    (s.published J e).count ⟨ip, topic, text⟩ = due J linkGraph ip deviceIds text e := by
  have hnetwork := network_run hs
  rw [hes] at hnetwork
  cases e with
  | reading gatewayIp payload =>
    rw [published, due]
    cases hdevice : deviceId? payload with
    | none =>
      simp
    | some deviceId =>
      simp only [Option.elim_some, count_routed]
      refine if_congr Iff.rfl ?_ rfl
      have hcount := Network.count_published_run hnetwork gatewayIp (s.policies gatewayIp).isBlocked
        deviceId ip topic
      have hroutes := Network.routes_of_quiet hnetwork hother hquiet gatewayIp deviceId
      refine hcount.trans ?_
      by_cases hrequired : deviceId ∈ deviceIds
      · rw [he deviceId hrequired hdevice, if_neg Bool.false_ne_true, hroutes]
      · have hshare : (Network.share linkGraph ip deviceIds gatewayIp).count deviceId = 0 :=
          List.count_eq_zero.mpr fun h ↦ hrequired (Network.required_of_mem_share h)
        rw [hroutes, hshare, ite_self]
  | streams e => rfl
  | updatePolicy gatewayIp policy now timerNow => rfl
  | policyTimer gatewayIp handle now timerNow => rfl
  | deliver message => rfl
  | application ip' topic' e => rfl

end Served

end DataPath
end NexusEdge.Apps
