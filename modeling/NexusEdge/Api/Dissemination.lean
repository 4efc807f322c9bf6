import Mathlib.Data.List.Count
import NexusEdge.Api.LinkGraphController
import NexusEdge.Api.PlatformApiController
import NexusEdge.Base.Transition

/-!
# Dissemination across the platform

Library `Api`. The handlers of `platform-api-controller.js:12–101` at all gateways, with the
requests that wait for a link graph and the posts under way between gateways. Whatever the order
of arrivals, the copies of a call are those that its link graph asked for, and no gateway passes
on what another one sent.
-/

namespace NexusEdge.Api
open NexusEdge.Base NexusEdge.Platform

universe u

/-- A request of an application to its own gateway. -/
structure LocalCall (Data : Type u) where
  gatewayIp : String
  platformAPIFunction : PlatformFunction
  data : Data
  deriving DecidableEq

/-- A post with the gateway that made it. -/
structure Sent (Data : Type u) where
  sender : String
  post : Post Data
  deriving DecidableEq

/-- What a gateway publishes on its local broker. -/
structure Publication (Data : Type u) where
  gatewayIp : String
  topic : String
  data : Data
  deriving DecidableEq

/-- What the recipient of a post publishes. -/
def Sent.publication {Data : Type u} (sent : Sent Data) : Publication Data :=
  ⟨sent.post.gatewayIP, mqttTopic, sent.post.data⟩

/-- The posts that a call makes once its link graph is there. -/
def LocalCall.copies {Data : Type u} (call : LocalCall Data) (linkGraph : LinkGraph) :
    List (Sent Data) :=
  (forwardToOthers call.gatewayIp call.platformAPIFunction call.data linkGraph).map
    (Sent.mk call.gatewayIp)

/-- The request of an application, which reaches its gateway as `localhost`. -/
def LocalCall.request {Data : Type u} (call : LocalCall Data) : ApiRequest Data :=
  ⟨"127.0.0.1", "127.0.0.1", call.data⟩

/-- The request of a gateway, as it arrives. -/
def Sent.request {Data : Type u} (sent : Sent Data) : ApiRequest Data :=
  ⟨sent.post.gatewayIP, sent.sender, sent.post.data⟩

/-- How often a call is published at the gateway if none of its posts is lost. -/
def LocalCall.audience {Data : Type u} (call : LocalCall Data) (linkGraph : LinkGraph)
    (gatewayIp : String) : Nat :=
  if gatewayIp = call.gatewayIp then 0 else (getGatewayIPAddressList linkGraph).count gatewayIp

/-- All gateways, by their ips: handlers that wait, handlers that have gone on, handlers whose
request for the link graph was rejected, posts under way, arrived and lost, and publications. -/
structure Dissemination (Data : Type u) where
  waiting : List (LocalCall Data)
  forwarded : List (LocalCall Data × LinkGraph)
  abandoned : List (LocalCall Data)
  inFlight : List (Sent Data)
  received : List (Sent Data)
  lost : List (Sent Data)
  published : List (Publication Data)

/-- What can happen next. -/
inductive DisseminationEvent (Data : Type u) where
  /-- An application asks its gateway. -/
  | request (call : LocalCall Data)
  | linkGraph (call : LocalCall Data) (linkGraph : LinkGraph)
  | linkGraphFails (call : LocalCall Data)
  | deliver (sent : Sent Data)
  | fail (sent : Sent Data)

namespace Dissemination

variable {Data : Type u}

/-- Before the first request. -/
def initial : Dissemination Data := ⟨[], [], [], [], [], [], []⟩

/-- The handler of a request at the gateway. -/
def handle (s : Dissemination Data) (gatewayIp : String) (platformAPIFunction : PlatformFunction)
    (req : ApiRequest Data) : Dissemination Data :=
  match platformAPICallHelper (.ok gatewayIp) platformAPIFunction req with
  | .rejected _ => s
  | .awaitsLinkGraph ipAddress platformAPIFunction data =>
    { s with waiting := s.waiting ++ [⟨ipAddress, platformAPIFunction, data⟩] }
  | .publishes topic data _ => { s with published := s.published ++ [⟨gatewayIp, topic, data⟩] }

variable [DecidableEq Data]

/-- One event; none when it cannot happen. -/
def step (s : Dissemination Data) : DisseminationEvent Data → Option (Dissemination Data)
  | .request call =>
    some (s.handle call.gatewayIp call.platformAPIFunction call.request)
  | .linkGraph call linkGraph =>
    if call ∈ s.waiting then
      some { s with
        waiting := s.waiting.erase call
        forwarded := s.forwarded ++ [(call, linkGraph)]
        inFlight := s.inFlight ++ call.copies linkGraph }
    else none
  | .linkGraphFails call =>
    if call ∈ s.waiting then
      some { s with waiting := s.waiting.erase call, abandoned := s.abandoned ++ [call] }
    else none
  | .deliver sent =>
    if sent ∈ s.inFlight then
      some (handle { s with
          inFlight := s.inFlight.erase sent
          received := s.received ++ [sent] }
        sent.post.gatewayIP sent.post.platformAPIFunction sent.request)
    else none
  | .fail sent =>
    if sent ∈ s.inFlight then
      some { s with inFlight := s.inFlight.erase sent, lost := s.lost ++ [sent] }
    else none

/-! ### Handlers -/

omit [DecidableEq Data] in
/-- A local request waits for the link graph. -/
theorem handle_local (s : Dissemination Data) (call : LocalCall Data) :
    s.handle call.gatewayIp call.platformAPIFunction call.request =
      { s with waiting := s.waiting ++ [call] } := rfl

omit [DecidableEq Data] in
/-- A request of another gateway is published. -/
theorem handle_remote (s : Dissemination Data) {sent : Sent Data}
    (h : sent.sender ≠ sent.post.gatewayIP) :
    s.handle sent.post.gatewayIP sent.post.platformAPIFunction sent.request =
      { s with published := s.published ++ [sent.publication] } := by
  have hremote : ¬ sent.request.localAddress = sent.request.remoteAddress := h.symm
  simp only [handle, platformAPICallHelper, if_neg hremote]
  rfl

omit [DecidableEq Data] in
/-- A copy goes to another gateway of the link graph and carries what was asked for. -/
theorem mem_copies {call : LocalCall Data} {linkGraph : LinkGraph} {sent : Sent Data}
    (h : sent ∈ call.copies linkGraph) :
    sent.sender = call.gatewayIp ∧ sent.post.gatewayIP ≠ call.gatewayIp ∧
      sent.post.gatewayIP ∈ getGatewayIPAddressList linkGraph ∧
      sent.post.platformAPIFunction = call.platformAPIFunction ∧ sent.post.data = call.data := by
  obtain ⟨post, hpost, rfl⟩ := List.mem_map.mp h
  obtain ⟨hlisted, hne, hfunction, hdata⟩ := (mem_forwardToOthers post).mp hpost
  exact ⟨rfl, hne, hlisted, hfunction, hdata⟩

/-! ### Nothing appears or disappears -/

/-- All copies of the calls that have been forwarded. -/
def asked (forwarded : List (LocalCall Data × LinkGraph)) : List (Sent Data) :=
  forwarded.flatMap fun entry ↦ entry.1.copies entry.2

/-- The requests of applications among the events. -/
def requests (es : List (DisseminationEvent Data)) : List (LocalCall Data) :=
  es.filterMap fun
    | .request call => some call
    | _ => none

omit [DecidableEq Data] in
private theorem asked_append (forwarded : List (LocalCall Data × LinkGraph))
    (call : LocalCall Data) (linkGraph : LinkGraph) :
    asked (forwarded ++ [(call, linkGraph)]) = asked forwarded ++ call.copies linkGraph := by
  simp [asked]

/-- Handlers stem from requests of applications, posts from handlers that went on, and
publications from posts that arrived. -/
structure Accounted (requested : List (LocalCall Data)) (s : Dissemination Data) : Prop where
  calls : (s.waiting ++ (s.forwarded.map Prod.fst ++ s.abandoned)).Perm requested
  posts : (s.inFlight ++ (s.received ++ s.lost)).Perm (asked s.forwarded)
  published : s.published = s.received.map Sent.publication

omit [DecidableEq Data] in
/-- At the start there is nothing to account for. -/
theorem accounted_initial : Accounted [] (initial : Dissemination Data) :=
  ⟨List.Perm.nil, List.Perm.nil, rfl⟩

omit [DecidableEq Data] in
/-- A post never arrives where it comes from. -/
theorem Accounted.sender_ne {requested : List (LocalCall Data)} {s : Dissemination Data}
    (h : Accounted requested s) {sent : Sent Data} (hsent : sent ∈ s.inFlight) :
    sent.sender ≠ sent.post.gatewayIP := by
  have hasked : sent ∈ asked s.forwarded := h.posts.subset (List.mem_append_left _ hsent)
  obtain ⟨entry, _, hcopy⟩ := List.mem_flatMap.mp hasked
  obtain ⟨hsender, hne, _⟩ := mem_copies hcopy
  rw [hsender]
  exact hne.symm

private theorem perm_move {α : Type u} [DecidableEq α] {a : α} {l m n : List α} (h : a ∈ l) :
    (l.erase a ++ (m ++ [a] ++ n)).Perm (l ++ (m ++ n)) := by
  have hl : l.Perm (a :: l.erase a) := List.perm_cons_erase h
  have hm : (m ++ [a] ++ n).Perm (a :: (m ++ n)) := by
    rw [List.append_assoc]
    exact List.perm_middle
  calc (l.erase a ++ (m ++ [a] ++ n)).Perm (l.erase a ++ a :: (m ++ n)) := hm.append_left _
    _ |>.Perm (a :: (l.erase a ++ (m ++ n))) := List.perm_middle
    _ |>.Perm (l ++ (m ++ n)) := (hl.append_right (m ++ n)).symm

/-- Every event keeps the accounts. -/
theorem accounted_step {requested : List (LocalCall Data)} {s t : Dissemination Data}
    {e : DisseminationEvent Data} (h : Accounted requested s) (ht : step s e = some t) :
    Accounted (requested ++ requests [e]) t := by
  cases e with
  | request call =>
    obtain rfl := Option.some.inj ht
    rw [handle_local]
    refine ⟨?_, h.posts, h.published⟩
    have hcalls : (s.waiting ++ [call] ++ (s.forwarded.map Prod.fst ++ s.abandoned)).Perm
        (s.waiting ++ (s.forwarded.map Prod.fst ++ s.abandoned) ++ [call]) := by
      rw [List.append_assoc, List.append_assoc]
      exact List.perm_append_comm.append_left _
    exact hcalls.trans (h.calls.append_right [call])
  | linkGraph call linkGraph =>
    simp only [step] at ht
    split at ht
    · next hmem =>
      obtain rfl := Option.some.inj ht
      refine ⟨?_, ?_, h.published⟩
      · rw [requests, List.filterMap_cons, List.filterMap_nil, List.append_nil, List.map_append]
        exact (perm_move hmem).trans h.calls
      · show (s.inFlight ++ _ ++ _).Perm (asked (s.forwarded ++ [_]))
        rw [asked_append, List.append_assoc]
        have hposts := h.posts.append_right (call.copies linkGraph)
        rw [List.append_assoc] at hposts
        exact (List.perm_append_comm.append_left _).trans hposts
    · cases ht
  | linkGraphFails call =>
    simp only [step] at ht
    split at ht
    · next hmem =>
      obtain rfl := Option.some.inj ht
      refine ⟨?_, h.posts, h.published⟩
      rw [requests, List.filterMap_cons, List.filterMap_nil, List.append_nil]
      have hmove := perm_move (m := s.forwarded.map Prod.fst ++ s.abandoned) (n := []) hmem
      rw [List.append_nil, List.append_nil, List.append_assoc] at hmove
      exact hmove.trans h.calls
    · cases ht
  | deliver sent =>
    simp only [step] at ht
    split at ht
    · next hmem =>
      obtain rfl := Option.some.inj ht
      rw [handle_remote _ (h.sender_ne hmem)]
      refine ⟨?_, ?_, ?_⟩
      · rw [requests, List.filterMap_cons, List.filterMap_nil, List.append_nil]
        exact h.calls
      · exact (perm_move hmem).trans h.posts
      · rw [List.map_append, ← h.published]
        rfl
    · cases ht
  | fail sent =>
    simp only [step] at ht
    split at ht
    · next hmem =>
      obtain rfl := Option.some.inj ht
      refine ⟨?_, ?_, h.published⟩
      · rw [requests, List.filterMap_cons, List.filterMap_nil, List.append_nil]
        exact h.calls
      · have hmove := perm_move (m := s.received ++ s.lost) (n := []) hmem
        rw [List.append_nil, List.append_nil, List.append_assoc] at hmove
        exact hmove.trans h.posts
    · cases ht

omit [DecidableEq Data] in
private theorem handle_frame (s : Dissemination Data) (gatewayIp : String)
    (platformAPIFunction : PlatformFunction) (req : ApiRequest Data) :
    (∃ new, (s.handle gatewayIp platformAPIFunction req).published = s.published ++ new) ∧
      (s.handle gatewayIp platformAPIFunction req).forwarded = s.forwarded := by
  unfold handle
  split
  · exact ⟨⟨[], (List.append_nil _).symm⟩, rfl⟩
  · exact ⟨⟨[], (List.append_nil _).symm⟩, rfl⟩
  · exact ⟨⟨_, rfl⟩, rfl⟩

/-- The handlers that an event lets go on. -/
def resumed : DisseminationEvent Data → List (LocalCall Data × LinkGraph)
  | .linkGraph call linkGraph => [(call, linkGraph)]
  | _ => []

/-- Publications are only added, and handlers go on when their link graph arrives. -/
theorem step_frame {s t : Dissemination Data} {e : DisseminationEvent Data}
    (ht : step s e = some t) :
    (∃ new, t.published = s.published ++ new) ∧ t.forwarded = s.forwarded ++ resumed e := by
  cases e with
  | request call =>
    obtain rfl := Option.some.inj ht
    obtain ⟨hnew, hforwarded⟩ := handle_frame s call.gatewayIp call.platformAPIFunction
      call.request
    exact ⟨hnew, hforwarded.trans (List.append_nil _).symm⟩
  | linkGraph call linkGraph =>
    simp only [step] at ht
    split at ht
    · obtain rfl := Option.some.inj ht
      exact ⟨⟨[], (List.append_nil _).symm⟩, rfl⟩
    · cases ht
  | linkGraphFails call =>
    simp only [step] at ht
    split at ht
    · obtain rfl := Option.some.inj ht
      exact ⟨⟨[], (List.append_nil _).symm⟩, (List.append_nil _).symm⟩
    · cases ht
  | deliver sent =>
    simp only [step] at ht
    split at ht
    · obtain rfl := Option.some.inj ht
      obtain ⟨hnew, hforwarded⟩ := handle_frame { s with
          inFlight := s.inFlight.erase sent
          received := s.received ++ [sent] }
        sent.post.gatewayIP sent.post.platformAPIFunction sent.request
      exact ⟨hnew, hforwarded.trans (List.append_nil _).symm⟩
    · cases ht
  | fail sent =>
    simp only [step] at ht
    split at ht
    · obtain rfl := Option.some.inj ht
      exact ⟨⟨[], (List.append_nil _).symm⟩, (List.append_nil _).symm⟩
    · cases ht

/-- Every run keeps the accounts. -/
theorem accounted_run {requested : List (LocalCall Data)} {s t : Dissemination Data}
    {es : List (DisseminationEvent Data)} (h : Accounted requested s)
    (ht : run step s es = some t) : Accounted (requested ++ requests es) t := by
  induction es generalizing requested s with
  | nil =>
    obtain rfl := Option.some.inj ht
    rwa [requests, List.filterMap_nil, List.append_nil]
  | cons e es ih =>
    obtain ⟨u, hu, ht⟩ := Option.bind_eq_some_iff.mp ht
    have hrest := ih (accounted_step h hu) ht
    rwa [List.append_assoc, requests, requests, ← List.filterMap_append,
      List.singleton_append] at hrest

/-! ### Publications -/

/-- Nothing waits, is under way, or has been lost. -/
structure Complete (s : Dissemination Data) : Prop where
  waiting : s.waiting = []
  inFlight : s.inFlight = []
  abandoned : s.abandoned = []
  lost : s.lost = []

/-- Copies of a call to a gateway. -/
theorem count_copies (call : LocalCall Data) (linkGraph : LinkGraph) (gatewayIp : String)
    (data : Data) :
    ((call.copies linkGraph).map Sent.publication).count ⟨gatewayIp, mqttTopic, data⟩ =
      if call.data = data then call.audience linkGraph gatewayIp else 0 := by
  have hcount : ((call.copies linkGraph).map Sent.publication).count
      ⟨gatewayIp, mqttTopic, data⟩ =
        (forwardToOthers call.gatewayIp call.platformAPIFunction call.data linkGraph).countP
          fun post ↦ decide (post.gatewayIP = gatewayIp) && decide (call.data = data) := by
    rw [LocalCall.copies, List.map_map, List.count, List.countP_map]
    apply List.countP_congr
    intro post hpost
    have hdata := ((mem_forwardToOthers post).mp hpost).2.2.2
    simp [Sent.publication, hdata]
  rw [hcount]
  split
  · next hdata =>
    simp only [hdata, decide_true, Bool.and_true]
    rw [countP_forwardToOthers, LocalCall.audience]
  · next hdata => simp [hdata]

omit [DecidableEq Data] in
private theorem count_flatMap {α : Type u} (f : α → List (Sent Data)) (l : List α)
    [DecidableEq Data] (p : Publication Data) :
    ((l.flatMap f).map Sent.publication).count p =
      (l.map fun a ↦ ((f a).map Sent.publication).count p).sum := by
  rw [List.map_flatMap, List.count_flatMap]
  rfl

/-- With the posts under way and lost there is a publication for each time the gateway is listed
in the link graph of a call. -/
theorem Accounted.count_published {requested : List (LocalCall Data)} {s : Dissemination Data}
    (h : Accounted requested s) (gatewayIp : String) (data : Data) :
    s.published.count ⟨gatewayIp, mqttTopic, data⟩ +
        ((s.inFlight ++ s.lost).map Sent.publication).count ⟨gatewayIp, mqttTopic, data⟩ =
      (s.forwarded.map fun entry ↦
        if entry.1.data = data then entry.1.audience entry.2 gatewayIp else 0).sum := by
  have hposts := (h.posts.map Sent.publication).count_eq ⟨gatewayIp, mqttTopic, data⟩
  rw [asked, count_flatMap] at hposts
  simp only [count_copies] at hposts
  rw [← hposts, h.published]
  simp only [List.map_append, List.count_append]
  omega

/-- In every run the handlers that wait, went on or gave up are one for each request of an
application, so that nothing is passed on; what a gateway publishes was asked for at another one;
and with the posts under way and lost there is a publication for each time its ip is listed in the
link graph of the call, none at the gateway of the call. -/
theorem dissemination_run {es : List (DisseminationEvent Data)} {t : Dissemination Data}
    (ht : run step initial es = some t) :
    (t.waiting ++ (t.forwarded.map Prod.fst ++ t.abandoned)).Perm (requests es) ∧
      (∀ p ∈ t.published, p.topic = mqttTopic ∧
        ∃ call ∈ requests es, call.data = p.data ∧ call.gatewayIp ≠ p.gatewayIp) ∧
      ∀ gatewayIp data, t.published.count ⟨gatewayIp, mqttTopic, data⟩ +
          ((t.inFlight ++ t.lost).map Sent.publication).count ⟨gatewayIp, mqttTopic, data⟩ =
        (t.forwarded.map fun entry ↦
          if entry.1.data = data then entry.1.audience entry.2 gatewayIp else 0).sum := by
  have haccounted : Accounted (requests es) t := accounted_run accounted_initial ht
  refine ⟨haccounted.calls, ?_, haccounted.count_published⟩
  · intro p hp
    rw [haccounted.published] at hp
    obtain ⟨sent, hsent, rfl⟩ := List.mem_map.mp hp
    have hasked : sent ∈ asked t.forwarded := haccounted.posts.subset
      (List.mem_append_right _ (List.mem_append_left _ hsent))
    obtain ⟨entry, hentry, hcopy⟩ := List.mem_flatMap.mp hasked
    obtain ⟨_, hne, _, _, hdata⟩ := mem_copies hcopy
    have hcall : entry.1 ∈ requests es := haccounted.calls.subset
      (List.mem_append_right _ (List.mem_append_left _ (List.mem_map_of_mem hentry)))
    exact ⟨rfl, entry.1, hcall, hdata.symm, hne.symm⟩

/-- The link graph of two gateways. -/
def twoGateways : LinkGraph :=
  ⟨(JsObject.empty.set "A" ["B"]).set "B" ["A"],
    (JsObject.empty.set "A" ⟨"10.0.0.1", [], []⟩).set "B" ⟨"10.0.0.2", [], []⟩⟩

/-- An application at `A` calls all gateways, and the post to `B` arrives. -/
def oneCall : List (DisseminationEvent Nat) :=
  let call : LocalCall Nat := ⟨"10.0.0.1", .disseminateAll, 7⟩
  [.request call, .linkGraph call twoGateways,
    .deliver ⟨"10.0.0.1", "10.0.0.2", .disseminateAll, 7⟩]

/-- It is published at `B`. -/
theorem dissemination_run_oneCall : ∃ t, run step initial oneCall = some t ∧
    t.published = [⟨"10.0.0.2", mqttTopic, 7⟩] ∧
    ∃ call ∈ requests oneCall, call.data = 7 ∧ call.gatewayIp ≠ "10.0.0.2" := by
  obtain ⟨t, ht⟩ : ∃ t, run step initial oneCall = some t :=
    Option.isSome_iff_exists.mp (by decide)
  have hpublished : (run step initial oneCall).map published =
      some [⟨"10.0.0.2", mqttTopic, 7⟩] := by decide
  rw [ht] at hpublished
  have hpublished : t.published = [⟨"10.0.0.2", mqttTopic, 7⟩] := Option.some.inj hpublished
  refine ⟨t, ht, hpublished, ?_⟩
  apply ((dissemination_run ht).2.1 ⟨"10.0.0.2", mqttTopic, 7⟩ _).2
  rw [hpublished]
  exact List.mem_singleton_self _

/-! ### Complete runs -/

/-- A link graph in which no ip occurs twice lists every gateway at most once. -/
theorem nodup_getGatewayIPAddressList {linkGraph : LinkGraph}
    (h : ∀ id id' d d', linkGraph.data.get? id = some d → linkGraph.data.get? id' = some d' →
      d.ip = d'.ip → id = id') : (getGatewayIPAddressList linkGraph).Nodup := by
  have hkeys : linkGraph.data.ownEntries.Nodup := List.Nodup.of_map Prod.fst
    linkGraph.data.nodup_keys
  refine List.Nodup.map_on ?_ hkeys
  rintro ⟨id, d⟩ hentry ⟨id', d'⟩ hentry' hip
  rw [JsObject.mem_ownEntries_iff] at hentry hentry'
  obtain rfl := h id id' d d' hentry hentry' hip
  rw [hentry] at hentry'
  rw [Option.some.inj hentry']

/-- From the one gateway the other is reached along gateways that answer, and answers itself. -/
def Hears (network : GatewayNetwork) (ids : String → String) (gatewayIp otherIp : String) : Prop :=
  ∃ node, Reachable network ⟨ids gatewayIp, gatewayIp⟩ node ∧ node.ip = otherIp ∧
    Answers network node

/-- The link graph is the one that the gateway's own traversal returns. -/
def Serves (network : GatewayNetwork) (ids : String → String) (gatewayIp : String)
    (linkGraph : LinkGraph) : Prop :=
  ∃ s, Returns network ⟨ids gatewayIp, gatewayIp⟩ s ∧ s.linkGraph = linkGraph

/-- No two gateways that are reached from this one share an ip. -/
def DistinctIps (network : GatewayNetwork) (ids : String → String) (gatewayIp : String) : Prop :=
  ∀ a b, Reachable network ⟨ids gatewayIp, gatewayIp⟩ a →
    Reachable network ⟨ids gatewayIp, gatewayIp⟩ b → a.ip = b.ip → a = b

section Served

variable {network : GatewayNetwork} {ids : String → String}

private theorem reported_eq_some {node : GatewayAddress} {d : GatewayData}
    (h : reported network node = some d) : Answers network node ∧ d.ip = node.ip := by
  obtain ⟨partialLinkGraph, hanswer, rfl⟩ := Option.map_eq_some_iff.mp h
  exact ⟨Option.isSome_iff_exists.mpr ⟨_, hanswer⟩, rfl⟩

private theorem exists_reported {node : GatewayAddress} (h : Answers network node) :
    ∃ d, reported network node = some d ∧ d.ip = node.ip := by
  obtain ⟨partialLinkGraph, hanswer⟩ := Option.isSome_iff_exists.mp h
  exact ⟨_, Option.map_eq_some_iff.mpr ⟨_, hanswer, rfl⟩, rfl⟩

open Classical in
/-- A link graph that is served lists exactly the gateways that are heard, once each. -/
theorem count_getGatewayIPAddressList (hnetwork : network.Consistent) {gatewayIp : String}
    (hips : DistinctIps network ids gatewayIp) {linkGraph : LinkGraph}
    (h : Serves network ids gatewayIp linkGraph) (otherIp : String) :
    (getGatewayIPAddressList linkGraph).count otherIp =
      if Hears network ids gatewayIp otherIp then 1 else 0 := by
  obtain ⟨s, hs, rfl⟩ := h
  have hdata := get?_data_of_returns hnetwork hs
  have hnodup : (getGatewayIPAddressList s.linkGraph).Nodup := by
    apply nodup_getGatewayIPAddressList
    intro id id' d d' hd hd' hip
    obtain ⟨node, hreach, rfl, hreported⟩ := (hdata id d).mp hd
    obtain ⟨node', hreach', rfl, hreported'⟩ := (hdata id' d').mp hd'
    rw [(reported_eq_some hreported).2, (reported_eq_some hreported').2] at hip
    rw [hips node node' hreach hreach' hip]
  have hmem : otherIp ∈ getGatewayIPAddressList s.linkGraph ↔
      Hears network ids gatewayIp otherIp := by
    rw [getGatewayIPAddressList, List.mem_map]
    constructor
    · rintro ⟨⟨id, d⟩, hentry, rfl⟩
      rw [JsObject.mem_ownEntries_iff] at hentry
      obtain ⟨node, hreach, _, hreported⟩ := (hdata id d).mp hentry
      obtain ⟨hanswers, hip⟩ := reported_eq_some hreported
      exact ⟨node, hreach, hip.symm, hanswers⟩
    · rintro ⟨node, hreach, rfl, hanswers⟩
      obtain ⟨d, hreported, hip⟩ := exists_reported hanswers
      refine ⟨(node.id, d), ?_, hip⟩
      rw [JsObject.mem_ownEntries_iff, hdata]
      exact ⟨node, hreach, rfl, hreported⟩
  rw [hnodup.count]
  simp only [hmem]

end Served

private theorem countP_eq_sum {α : Type u} (p : α → Bool) (l : List α) :
    l.countP p = (l.map fun a ↦ if p a then 1 else 0).sum := by
  induction l with
  | nil => rfl
  | cons a l ih => rw [List.countP_cons, List.map_cons, List.sum_cons, ih, Nat.add_comm]

open Classical in
/-- Once nothing waits and nothing was lost, every request of an application has been published
exactly once at every other gateway that its own gateway hears, and nowhere else. -/
theorem disseminated_once {network : GatewayNetwork} {ids : String → String}
    (hnetwork : network.Consistent) {es : List (DisseminationEvent Data)}
    (hips : ∀ call ∈ requests es, DistinctIps network ids call.gatewayIp)
    {t : Dissemination Data} (ht : run step initial es = some t) (hcomplete : t.Complete)
    (hgraphs : ∀ entry ∈ t.forwarded, Serves network ids entry.1.gatewayIp entry.2)
    (gatewayIp : String) (data : Data) :
    t.published.count ⟨gatewayIp, mqttTopic, data⟩ =
      (requests es).countP fun call ↦ call.data = data ∧ call.gatewayIp ≠ gatewayIp ∧
        Hears network ids call.gatewayIp gatewayIp := by
  have haccounted : Accounted (requests es) t := accounted_run accounted_initial ht
  have hcount := haccounted.count_published gatewayIp data
  have hcalls := haccounted.calls
  rw [hcomplete.inFlight, hcomplete.lost, List.append_nil, List.map_nil, List.count_nil,
    Nat.add_zero] at hcount
  rw [hcomplete.waiting, hcomplete.abandoned, List.append_nil, List.nil_append] at hcalls
  rw [hcount, ← hcalls.countP_eq, List.countP_map, countP_eq_sum]
  refine congrArg List.sum (List.map_congr_left fun entry hentry ↦ ?_)
  have hcall : entry.1 ∈ requests es := hcalls.subset (List.mem_map_of_mem hentry)
  have hlisted := count_getGatewayIPAddressList hnetwork (hips entry.1 hcall)
    (hgraphs entry hentry) gatewayIp
  rw [LocalCall.audience, hlisted]
  by_cases hdata : entry.1.data = data
  · by_cases hown : gatewayIp = entry.1.gatewayIp
    · simp [hdata, hown]
    · simp [hdata, hown, Ne.symm hown]
  · simp [hdata]

/-- Two gateways that list each other. -/
def twoNeighbors : GatewayNetwork :=
  (JsObject.empty.set "10.0.0.1" ⟨[⟨"B", "10.0.0.2"⟩], [], []⟩).set "10.0.0.2"
    ⟨[⟨"A", "10.0.0.1"⟩], [], []⟩

/-- Their ids. -/
def idOf (gatewayIp : String) : String := if gatewayIp = "10.0.0.1" then "A" else "B"

/-- The call of `A` is published once at `B`. -/
theorem disseminated_once_oneCall : ∃ t, run step initial oneCall = some t ∧
    t.published.count ⟨"10.0.0.2", mqttTopic, 7⟩ = 1 := by
  obtain ⟨t, ht⟩ : ∃ t, run step initial oneCall = some t :=
    Option.isSome_iff_exists.mp (by decide)
  have hview : (run step initial oneCall).map (fun t ↦
      (t.waiting, t.inFlight, t.abandoned, t.lost, t.forwarded)) =
        some ([], [], [], [], [(⟨"10.0.0.1", .disseminateAll, 7⟩, twoGateways)]) := rfl
  rw [ht] at hview
  simp only [Option.map_some, Option.some.injEq, Prod.mk.injEq] at hview
  obtain ⟨hwaiting, hinFlight, habandoned, hlost, hforwarded⟩ := hview
  have hreached (node : GatewayAddress) (h : Reachable twoNeighbors ⟨"A", "10.0.0.1"⟩ node) :
      node ∈ ([⟨"A", "10.0.0.1"⟩, ⟨"B", "10.0.0.2"⟩] : List GatewayAddress) := by
    induction h with
    | root => exact List.mem_cons_self
    | next _ hnext _ ih =>
      rcases List.mem_pair.mp ih with rfl | rfl
      · rw [List.mem_singleton.mp hnext]
        decide
      · rw [List.mem_singleton.mp hnext]
        decide
  have hheard : Hears twoNeighbors idOf "10.0.0.1" "10.0.0.2" :=
    ⟨⟨"B", "10.0.0.2"⟩, Reached.next Reached.root (by decide) (by decide), rfl, by decide⟩
  refine ⟨t, ht, ?_⟩
  rw [@disseminated_once Nat _ twoNeighbors idOf (by decide) _ ?_ _ ht
    ⟨hwaiting, hinFlight, habandoned, hlost⟩ ?_]
  · simp [oneCall, requests, hheard]
  · intro call hcall
    rw [List.mem_singleton.mp hcall]
    intro a b ha hb hip
    rcases List.mem_pair.mp (hreached a ha) with rfl | rfl <;>
      rcases List.mem_pair.mp (hreached b hb) with rfl | rfl
    · rfl
    · exact absurd hip (by decide)
    · exact absurd hip (by decide)
    · rfl
  · intro entry hentry
    rw [hforwarded] at hentry
    rw [List.mem_singleton.mp hentry]
    have hgraph : (getLinkGraphData twoNeighbors ⟨"A", "10.0.0.1"⟩ 3).map Traversal.linkGraph =
        some twoGateways := by decide
    obtain ⟨s, hs, hlinkGraph⟩ := Option.map_eq_some_iff.mp hgraph
    exact ⟨s, ⟨3, hs⟩, hlinkGraph⟩

end Dissemination
end NexusEdge.Api
