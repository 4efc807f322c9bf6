import NexusEdge.Api.Dissemination

/-!
# Applications that call all gateways

Library `Apps`. The messages of `disseminateAll` and `queryAll`, `oracle/index.js:42–47,93–121`, and
the platform together with applications whose listeners answer them with further calls. Once
everything has arrived, the calls made are the first ones and those of the listeners, and the
messages emitted are the copies of the calls. If listeners answer with calls of lower rank only, as
in `example-apps/query-app`, everything ends.
-/

namespace NexusEdge.Apps
open NexusEdge.Base NexusEdge.Platform NexusEdge.Api

/-- `fullData`, `oracle/index.js:96–101,112–118`. A tag that is `undefined` is not sent. -/
structure PlatformMessage (D : Type) where
  originAddress : String
  api : String
  tag : Option String
  replyTag : Option String
  data : D
  deriving DecidableEq

variable {D : Type}

/-- `disseminateAll`, `oracle/index.js:93–107`: the request to the local API server. -/
def disseminateAll (ipAddress : String) (tag : Option String) (data : D) :
    LocalCall (PlatformMessage D) :=
  ⟨ipAddress, .disseminateAll, ⟨ipAddress, "disseminate-all", tag, none, data⟩⟩

/-- `queryAll`, `oracle/index.js:109–124`. -/
def queryAll (ipAddress : String) (tag replyTag : Option String) (data : D) :
    LocalCall (PlatformMessage D) :=
  ⟨ipAddress, .queryAll, ⟨ipAddress, "query-all", tag, replyTag, data⟩⟩

/-- The calls that the listeners of the applications at a gateway make for a message. -/
abbrev Listeners (D : Type) := String → PlatformMessage D → List (LocalCall (PlatformMessage D))

/-- The platform, messages published that the oracles have not emitted yet, those emitted, and
calls on their way to the local API server. -/
structure AppNetwork (D : Type) where
  network : Dissemination (PlatformMessage D)
  unread : List (Publication (PlatformMessage D))
  emitted : List (Publication (PlatformMessage D))
  calls : List (LocalCall (PlatformMessage D))

/-- What can happen next. -/
inductive AppNetworkEvent (D : Type) where
  | call (call : LocalCall (PlatformMessage D))
  | linkGraph (call : LocalCall (PlatformMessage D))
  | linkGraphFails (call : LocalCall (PlatformMessage D))
  | deliver (sent : Sent (PlatformMessage D))
  | fail (sent : Sent (PlatformMessage D))
  | emit (message : Publication (PlatformMessage D))

namespace AppNetwork

/-- Applications are about to make these calls. -/
def start (calls : List (LocalCall (PlatformMessage D))) : AppNetwork D :=
  ⟨.initial, [], [], calls⟩

variable [DecidableEq D] (graphs : String → LinkGraph) (listeners : Listeners D)

/-- An event of the platform, and what is published by it. -/
def within (s : AppNetwork D) (e : DisseminationEvent (PlatformMessage D)) :
    Option (AppNetwork D) :=
  (s.network.step e).map fun network ↦
    { s with
      network := network
      unread := s.unread ++ network.published.drop s.network.published.length }

/-- One event; every gateway is served its link graph. -/
def step (s : AppNetwork D) : AppNetworkEvent D → Option (AppNetwork D)
  | .call call =>
    if call ∈ s.calls then within { s with calls := s.calls.erase call } (.request call) else none
  | .linkGraph call => s.within (.linkGraph call (graphs call.gatewayIp))
  | .linkGraphFails call => s.within (.linkGraphFails call)
  | .deliver sent => s.within (.deliver sent)
  | .fail sent => s.within (.fail sent)
  | .emit message =>
    if message ∈ s.unread then
      some { s with
        unread := s.unread.erase message
        emitted := s.emitted ++ [message]
        calls := s.calls ++ listeners message.gatewayIp message.data }
    else none

/-! ### Where calls and messages come from -/

/-- Calls are the first ones and those of the listeners; messages emitted or unread are those
published; handlers have gone on with the link graph of their gateway. -/
structure Balanced (first : List (LocalCall (PlatformMessage D))) (s : AppNetwork D) : Prop where
  calls : ∃ requested, s.network.Accounted requested ∧ (s.calls ++ requested).Perm
    (first ++ s.emitted.flatMap fun message ↦ listeners message.gatewayIp message.data)
  published : (s.unread ++ s.emitted).Perm s.network.published
  graphs : ∀ entry ∈ s.network.forwarded, entry.2 = graphs entry.1.gatewayIp

omit [DecidableEq D] in
/-- At the start the calls are the first ones. -/
theorem balanced_start (first : List (LocalCall (PlatformMessage D))) :
    Balanced graphs listeners first (start first) := by
  refine ⟨⟨[], Dissemination.accounted_initial, ?_⟩, List.Perm.nil, fun _ h ↦ ?_⟩
  · rw [start, List.flatMap_nil]
  · exact absurd h List.not_mem_nil

/-- Events of the platform other than requests keep the balance. -/
theorem balanced_within {first : List (LocalCall (PlatformMessage D))} {s t : AppNetwork D}
    (hs : Balanced graphs listeners first s) {e : DisseminationEvent (PlatformMessage D)}
    (he : Dissemination.requests [e] = [])
    (hgraph : ∀ entry ∈ Dissemination.resumed e, entry.2 = graphs entry.1.gatewayIp)
    (ht : s.within e = some t) : Balanced graphs listeners first t := by
  obtain ⟨network, hstep, rfl⟩ := Option.map_eq_some_iff.mp ht
  obtain ⟨⟨new, hnew⟩, hforwarded⟩ := Dissemination.step_frame hstep
  obtain ⟨requested, haccounted, hcalls⟩ := hs.calls
  have haccounted' := Dissemination.accounted_step haccounted hstep
  rw [he, List.append_nil] at haccounted'
  refine ⟨⟨requested, haccounted', hcalls⟩, ?_, ?_⟩
  · show (s.unread ++ network.published.drop s.network.published.length ++ s.emitted).Perm
      network.published
    rw [hnew, List.drop_left, List.append_assoc]
    calc (s.unread ++ (new ++ s.emitted)).Perm (s.unread ++ (s.emitted ++ new)) :=
        List.perm_append_comm.append_left _
      _ |>.Perm (s.network.published ++ new) := by
        rw [← List.append_assoc]
        exact hs.published.append_right new
  · intro entry hentry
    rcases List.mem_append.mp (hforwarded ▸ hentry) with hentry | hentry
    · exact hs.graphs entry hentry
    · exact hgraph entry hentry

/-- Every event keeps the balance. -/
theorem balanced_step {first : List (LocalCall (PlatformMessage D))} {s t : AppNetwork D}
    (hs : Balanced graphs listeners first s) {e : AppNetworkEvent D}
    (ht : step graphs listeners s e = some t) : Balanced graphs listeners first t := by
  cases e with
  | call call =>
    simp only [step] at ht
    split at ht
    · next hmem =>
      obtain ⟨network, hstep, rfl⟩ := Option.map_eq_some_iff.mp ht
      obtain ⟨requested, haccounted, hcalls⟩ := hs.calls
      obtain rfl := Option.some.inj hstep
      refine ⟨⟨requested ++ [call], Dissemination.accounted_step haccounted hstep, ?_⟩, ?_,
        hs.graphs⟩
      · have hmove : (s.calls.erase call ++ (requested ++ [call])).Perm
            (s.calls ++ requested) := by
          have hperm := (List.perm_cons_erase hmem).append_right requested
          rw [← List.append_assoc]
          exact (List.perm_append_singleton _ _).trans hperm.symm
        exact hmove.trans hcalls
      · show (s.unread ++ s.network.published.drop s.network.published.length ++ s.emitted).Perm _
        rw [List.drop_length, List.append_nil]
        exact hs.published
    · cases ht
  | linkGraph call =>
    exact balanced_within graphs listeners hs rfl
      (fun entry hentry ↦ by rw [List.mem_singleton.mp hentry]) ht
  | linkGraphFails call =>
    exact balanced_within graphs listeners hs rfl (fun _ h ↦ absurd h List.not_mem_nil) ht
  | deliver sent =>
    exact balanced_within graphs listeners hs rfl (fun _ h ↦ absurd h List.not_mem_nil) ht
  | fail sent =>
    exact balanced_within graphs listeners hs rfl (fun _ h ↦ absurd h List.not_mem_nil) ht
  | emit message =>
    simp only [step] at ht
    split at ht
    · next hmem =>
      obtain rfl := Option.some.inj ht
      obtain ⟨requested, haccounted, hcalls⟩ := hs.calls
      refine ⟨⟨requested, haccounted, ?_⟩, ?_, hs.graphs⟩
      · simp only [List.flatMap_append, List.flatMap_cons, List.flatMap_nil, List.append_nil]
        rw [← List.append_assoc]
        have hcalls' := hcalls.append_right (listeners message.gatewayIp message.data)
        refine List.Perm.trans ?_ hcalls'
        rw [List.append_assoc, List.append_assoc]
        exact List.perm_append_comm.append_left _
      · have hread := (List.perm_cons_erase hmem).append_right s.emitted
        have hmove : (s.unread.erase message ++ (s.emitted ++ [message])).Perm
            (message :: s.unread.erase message ++ s.emitted) := by
          rw [← List.append_assoc]
          exact List.perm_append_singleton _ _
        exact (hmove.trans hread.symm).trans hs.published
    · cases ht

/-- Every run does. -/
theorem balanced_run {first : List (LocalCall (PlatformMessage D))} {t : AppNetwork D}
    {es : List (AppNetworkEvent D)} (ht : run (step graphs listeners) (start first) es = some t) :
    Balanced graphs listeners first t :=
  run_invariant _ (fun _ _ _ hs hstep ↦ balanced_step graphs listeners hs hstep) es
    (balanced_start graphs listeners first) ht

/-! ### When everything has arrived -/

/-- No call waits, no post is under way, no message is unread, and nothing was lost. -/
structure Settled (s : AppNetwork D) : Prop where
  network : s.network.Complete
  unread : s.unread = []
  calls : s.calls = []

/-- What a call leads the oracles to emit if nothing is lost. -/
def heard (call : LocalCall (PlatformMessage D)) : List (Publication (PlatformMessage D)) :=
  (call.copies (graphs call.gatewayIp)).map Sent.publication

/-- The calls made are the first ones and those of the listeners, and the messages emitted are
their copies. -/
theorem settled_run {first : List (LocalCall (PlatformMessage D))} {t : AppNetwork D}
    {es : List (AppNetworkEvent D)} (ht : run (step graphs listeners) (start first) es = some t)
    (hsettled : t.Settled) : ∃ made : List (LocalCall (PlatformMessage D)),
      made.Perm (first ++ t.emitted.flatMap fun message ↦
        listeners message.gatewayIp message.data) ∧
      t.emitted.Perm (made.flatMap (heard graphs)) := by
  obtain ⟨⟨requested, haccounted, hcalls⟩, hpublished, hgraphs⟩ :=
    balanced_run graphs listeners ht
  have hmade := haccounted.calls
  rw [hsettled.network.waiting, hsettled.network.abandoned, List.append_nil,
    List.nil_append] at hmade
  rw [hsettled.calls, List.nil_append] at hcalls
  rw [hsettled.unread, List.nil_append] at hpublished
  have hposts := haccounted.posts
  rw [hsettled.network.inFlight, hsettled.network.lost, List.append_nil,
    List.nil_append] at hposts
  refine ⟨t.network.forwarded.map Prod.fst, hmade.trans hcalls, hpublished.trans ?_⟩
  rw [haccounted.published]
  refine (hposts.map Sent.publication).trans (List.Perm.of_eq ?_)
  rw [Dissemination.asked, List.map_flatMap, List.flatMap_map]
  apply List.flatMap_congr
  intro entry hentry
  rw [hgraphs entry hentry, heard]

/-- A message is emitted as often as its calls reach the gateway. -/
theorem count_heard (made : List (LocalCall (PlatformMessage D))) (gatewayIp : String)
    (message : PlatformMessage D) :
    (made.flatMap (heard graphs)).count ⟨gatewayIp, mqttTopic, message⟩ =
      (made.map fun call ↦ if call.data = message then
        call.audience (graphs call.gatewayIp) gatewayIp else 0).sum := by
  rw [List.count_flatMap]
  apply congrArg List.sum
  apply List.map_congr_left
  intro call _
  exact Dissemination.count_copies call (graphs call.gatewayIp) gatewayIp message

omit [DecidableEq D] in
/-- What is emitted for a call is its message. -/
theorem mem_heard {call : LocalCall (PlatformMessage D)} {p : Publication (PlatformMessage D)}
    (h : p ∈ heard graphs call) : p.topic = mqttTopic ∧ p.data = call.data := by
  obtain ⟨sent, hsent, rfl⟩ := List.mem_map.mp h
  exact ⟨rfl, (Dissemination.mem_copies hsent).2.2.2.2⟩

/-! ### Everything ends -/

/-- Listeners make at most `k` calls for a message, all of lower rank. -/
def Ranked (rank : PlatformMessage D → Nat) (k : Nat) (listeners : Listeners D) : Prop :=
  ∀ gatewayIp message, (listeners gatewayIp message).length ≤ k ∧
    ∀ call ∈ listeners gatewayIp message, rank call.data < rank message

/-- Events that follow when a message of this rank is emitted, that one included, if no link graph
lists more than `B` gateways. -/
def readCost (B k : Nat) : Nat → Nat
  | 0 => 1
  | r + 1 => 1 + k * (2 + B * (1 + readCost B k r))

/-- Events that follow when a call of this rank is made. -/
def callCost (B k r : Nat) : Nat := 2 + B * (1 + readCost B k r)

/-- Costs grow with the rank. -/
theorem readCost_mono (B k : Nat) : Monotone (readCost B k) := by
  apply monotone_nat_of_le_succ
  intro r
  induction r with
  | zero => exact Nat.le_add_right 1 _
  | succ r ih =>
    have hcall : 2 + B * (1 + readCost B k r) ≤ 2 + B * (1 + readCost B k (r + 1)) :=
      Nat.add_le_add_left (Nat.mul_le_mul_left B (Nat.add_le_add_left ih 1)) 2
    exact Nat.add_le_add_left (Nat.mul_le_mul_left k hcall) 1

section Ends

variable (rank : PlatformMessage D → Nat) (B k : Nat)

/-- The events that can still happen. -/
def remaining (s : AppNetwork D) : Nat :=
  (s.calls.map fun call ↦ callCost B k (rank call.data)).sum +
    ((s.network.waiting.map fun call ↦ 1 + B * (1 + readCost B k (rank call.data))).sum +
      ((s.network.inFlight.map fun sent ↦ 1 + readCost B k (rank sent.post.data)).sum +
        (s.unread.map fun message ↦ readCost B k (rank message.data)).sum))

private theorem sum_erase {α : Type} [DecidableEq α] (f : α → Nat) {a : α} {l : List α}
    (h : a ∈ l) : (l.map f).sum = f a + ((l.erase a).map f).sum := by
  rw [((List.perm_cons_erase h).map f).sum_nat, List.map_cons, List.sum_cons]

private theorem sum_le_length_mul {α : Type} (f : α → Nat) (K : Nat) {l : List α}
    (h : ∀ a ∈ l, f a ≤ K) : (l.map f).sum ≤ l.length * K := by
  induction l with
  | nil => exact Nat.zero_le _
  | cons a l ih =>
    have ha := h a List.mem_cons_self
    have hl := ih fun b hb ↦ h b (List.mem_cons_of_mem a hb)
    rw [List.map_cons, List.sum_cons, List.length_cons, Nat.add_mul]
    omega

omit [DecidableEq D] in
/-- The copies of a call cost what the call has left. -/
theorem sum_copies_le {linkGraph : LinkGraph} (hB : (getGatewayIPAddressList linkGraph).length ≤ B)
    (call : LocalCall (PlatformMessage D)) :
    ((call.copies linkGraph).map fun sent ↦ 1 + readCost B k (rank sent.post.data)).sum ≤
      B * (1 + readCost B k (rank call.data)) := by
  have hlength : (call.copies linkGraph).length ≤ B := by
    rw [LocalCall.copies, forwardToOthers, List.length_map, List.length_map]
    exact (List.length_filter_le _ _).trans hB
  refine (sum_le_length_mul _ (1 + readCost B k (rank call.data)) ?_).trans
    (Nat.mul_le_mul_right _ hlength)
  intro sent hsent
  rw [(Dissemination.mem_copies hsent).2.2.2.2]

omit [DecidableEq D] in
/-- The calls of a listener cost less than the message that leads to them. -/
theorem sum_listeners_lt (hranked : Ranked rank k listeners) (gatewayIp : String)
    (message : PlatformMessage D) :
    ((listeners gatewayIp message).map fun call ↦ callCost B k (rank call.data)).sum <
      readCost B k (rank message) := by
  obtain ⟨hlength, hrank⟩ := hranked gatewayIp message
  cases hr : rank message with
  | zero =>
    have hnone : listeners gatewayIp message = [] := by
      apply List.eq_nil_iff_forall_not_mem.mpr
      intro call hcall
      have hlt := hrank call hcall
      omega
    rw [hnone]
    exact Nat.one_pos
  | succ r =>
    have hcost : ∀ call ∈ listeners gatewayIp message,
        callCost B k (rank call.data) ≤ callCost B k r := by
      intro call hcall
      have hle : rank call.data ≤ r := by
        have hlt := hrank call hcall
        omega
      exact Nat.add_le_add_left
        (Nat.mul_le_mul_left B (Nat.add_le_add_left (readCost_mono B k hle) 1)) 2
    have hsum := (sum_le_length_mul _ _ hcost).trans
      (Nat.mul_le_mul_right (callCost B k r) hlength)
    rw [readCost]
    unfold callCost at hsum ⊢
    omega

/-- Every event leaves fewer events to happen. -/
theorem remaining_step (hranked : Ranked rank k listeners)
    (hB : ∀ gatewayIp, (getGatewayIPAddressList (graphs gatewayIp)).length ≤ B)
    {requested : List (LocalCall (PlatformMessage D))} {s t : AppNetwork D}
    (hs : s.network.Accounted requested) {e : AppNetworkEvent D}
    (ht : step graphs listeners s e = some t) : remaining rank B k t < remaining rank B k s := by
  cases e with
  | call call =>
    simp only [step] at ht
    split at ht
    · next hmem =>
      obtain ⟨network, hstep, rfl⟩ := Option.map_eq_some_iff.mp ht
      obtain rfl := Option.some.inj hstep
      rw [Dissemination.handle_local]
      have hcalls := sum_erase (fun c ↦ callCost B k (rank c.data)) hmem
      simp only [remaining, List.drop_length, List.append_nil, List.map_append, List.sum_append,
        List.map_cons, List.map_nil, List.sum_cons, List.sum_nil] at hcalls ⊢
      simp only [callCost] at hcalls ⊢
      omega
    · cases ht
  | linkGraph call =>
    obtain ⟨network, hstep, rfl⟩ := Option.map_eq_some_iff.mp ht
    simp only [Dissemination.step] at hstep
    split at hstep
    · next hmem =>
      obtain rfl := Option.some.inj hstep
      have hwaiting := sum_erase (fun c : LocalCall (PlatformMessage D) ↦
        1 + B * (1 + readCost B k (rank c.data))) hmem
      have hcopies := sum_copies_le rank B k (hB call.gatewayIp) call
      simp only [remaining, List.drop_length, List.append_nil, List.map_append, List.sum_append]
      omega
    · cases hstep
  | linkGraphFails call =>
    obtain ⟨network, hstep, rfl⟩ := Option.map_eq_some_iff.mp ht
    simp only [Dissemination.step] at hstep
    split at hstep
    · next hmem =>
      obtain rfl := Option.some.inj hstep
      have hwaiting := sum_erase (fun c : LocalCall (PlatformMessage D) ↦
        1 + B * (1 + readCost B k (rank c.data))) hmem
      simp only [remaining, List.drop_length, List.append_nil]
      omega
    · cases hstep
  | deliver sent =>
    obtain ⟨network, hstep, rfl⟩ := Option.map_eq_some_iff.mp ht
    simp only [Dissemination.step] at hstep
    split at hstep
    · next hmem =>
      obtain rfl := Option.some.inj hstep
      rw [Dissemination.handle_remote _ (hs.sender_ne hmem)]
      have hinFlight := sum_erase (fun sent : Sent (PlatformMessage D) ↦
        1 + readCost B k (rank sent.post.data)) hmem
      simp only [remaining, List.drop_left, List.map_append, List.sum_append, List.map_cons,
        List.map_nil, List.sum_cons, List.sum_nil, Sent.publication]
      omega
    · cases hstep
  | fail sent =>
    obtain ⟨network, hstep, rfl⟩ := Option.map_eq_some_iff.mp ht
    simp only [Dissemination.step] at hstep
    split at hstep
    · next hmem =>
      obtain rfl := Option.some.inj hstep
      have hinFlight := sum_erase (fun sent : Sent (PlatformMessage D) ↦
        1 + readCost B k (rank sent.post.data)) hmem
      simp only [remaining, List.drop_length, List.append_nil]
      omega
    · cases hstep
  | emit message =>
    simp only [step] at ht
    split at ht
    · next hmem =>
      obtain rfl := Option.some.inj ht
      have hunread := sum_erase (fun p : Publication (PlatformMessage D) ↦
        readCost B k (rank p.data)) hmem
      have hcalls := sum_listeners_lt listeners rank B k hranked message.gatewayIp message.data
      simp only [remaining, List.map_append, List.sum_append]
      omega
    · cases ht

/-- Nothing waits, is under way or is unread. -/
structure Quiet (s : AppNetwork D) : Prop where
  calls : s.calls = []
  waiting : s.network.waiting = []
  inFlight : s.network.inFlight = []
  unread : s.unread = []

/-- As long as something waits, is under way or unread, something can happen. -/
theorem quiet_of_stuck {s : AppNetwork D} (h : ∀ e, step graphs listeners s e = none) :
    s.Quiet := by
  refine ⟨?_, ?_, ?_, ?_⟩
  · apply List.eq_nil_iff_forall_not_mem.mpr
    intro call hmem
    have hnone := h (.call call)
    simp only [step, if_pos hmem] at hnone
    cases hnone
  · apply List.eq_nil_iff_forall_not_mem.mpr
    intro call hmem
    have hnone := h (.linkGraph call)
    simp only [step, within, Dissemination.step, if_pos hmem] at hnone
    cases hnone
  · apply List.eq_nil_iff_forall_not_mem.mpr
    intro sent hmem
    have hnone := h (.deliver sent)
    simp only [step, within, Dissemination.step, if_pos hmem] at hnone
    cases hnone
  · apply List.eq_nil_iff_forall_not_mem.mpr
    intro message hmem
    have hnone := h (.emit message)
    simp only [step, if_pos hmem] at hnone
    cases hnone

/-- If listeners answer with calls of lower rank, the calls made at first bound the length of every
run, whatever is lost, and where a run cannot go on nothing is left to be done. -/
theorem run_ends (hranked : Ranked rank k listeners)
    (hB : ∀ gatewayIp, (getGatewayIPAddressList (graphs gatewayIp)).length ≤ B)
    (first : List (LocalCall (PlatformMessage D))) {t : AppNetwork D} {es : List (AppNetworkEvent D)}
    (ht : run (step graphs listeners) (start first) es = some t) :
    es.length ≤ (first.map fun call ↦ callCost B k (rank call.data)).sum ∧
      ((∀ e, step graphs listeners t e = none) → t.Quiet) := by
  refine ⟨?_, quiet_of_stuck graphs listeners⟩
  have hlength := length_le_of_measure (step graphs listeners)
    (I := Balanced graphs listeners first) (m := remaining rank B k) (fun s e t hs hstep ↦ ?_) es
    (balanced_start graphs listeners first) ht
  · exact hlength
  · obtain ⟨requested, haccounted, _⟩ := hs.calls
    exact ⟨balanced_step graphs listeners hs hstep,
      remaining_step graphs listeners rank B k hranked hB haccounted hstep⟩

end Ends

end AppNetwork

/-! ### Queries -/

section QueryApp

/-- `query-app/listen.js:4–13` on the gateways where it runs: a query is answered under the tag it
asks for. -/
def listen (listening : String → Bool) (response : D) : Listeners D := fun gatewayIp message ↦
  if listening gatewayIp ∧ message.api = "query-all" ∧ message.tag = some "queryData" then
    [disseminateAll gatewayIp message.replyTag response]
  else []

/-- `query-app/send.js:5–7`. -/
def send (gatewayIp : String) (data : D) : LocalCall (PlatformMessage D) :=
  queryAll gatewayIp (some "queryData") (some "queryDataResponse") data

/-- The response of a gateway. -/
def reply (gatewayIp : String) (response : D) : LocalCall (PlatformMessage D) :=
  disseminateAll gatewayIp (some "queryDataResponse") response

variable {listening : String → Bool} {response : D}

/-- Listeners only disseminate. -/
theorem api_of_mem_listen {gatewayIp : String} {message : PlatformMessage D}
    {call : LocalCall (PlatformMessage D)}
    (h : call ∈ listen listening response gatewayIp message) :
    call.data.api = "disseminate-all" := by
  unfold listen at h
  split at h
  · rw [List.mem_singleton.mp h]
    rfl
  · exact absurd h List.not_mem_nil

private theorem sum_ite_eq {α : Type} [DecidableEq α] (a : α) (k : Nat) (l : List α) :
    (l.map fun b ↦ if b = a then k else 0).sum = l.count a * k := by
  induction l with
  | nil => rw [List.map_nil, List.sum_nil, List.count_nil, Nat.zero_mul]
  | cons b l ih =>
    rw [List.map_cons, List.sum_cons, ih, List.count_cons]
    by_cases h : b = a
    · simp [h, Nat.add_mul, Nat.add_comm]
    · simp [h]

/-- The response of a gateway is made for the copy of the query that arrives there. -/
theorem count_listen [DecidableEq D] (data : D) (gatewayIp responder : String)
    {p : Publication (PlatformMessage D)} (htopic : p.topic = mqttTopic)
    (hdata : p.data = (send gatewayIp data).data ∨ p.data.api = "disseminate-all") :
    (listen listening response p.gatewayIp p.data).count (reply responder response) =
      if p = ⟨responder, mqttTopic, (send gatewayIp data).data⟩ then
        if listening responder then 1 else 0
      else 0 := by
  obtain ⟨ip, topic, message⟩ := p
  obtain rfl : topic = mqttTopic := htopic
  rcases hdata with rfl | hapi
  · have hasked : (send gatewayIp data).data.api = "query-all" ∧
        (send gatewayIp data).data.tag = some "queryData" := ⟨rfl, rfl⟩
    simp only [listen, hasked, and_true, Publication.mk.injEq]
    by_cases hip : ip = responder
    · subst hip
      rw [if_pos rfl]
      split
      · exact List.count_singleton_self
      · rfl
    · rw [if_neg hip]
      have hne : disseminateAll ip (send gatewayIp data).data.replyTag response ≠
          reply responder response := fun h ↦ hip (congrArg LocalCall.gatewayIp h)
      split
      · rw [List.count_singleton, if_neg (by simpa using hne)]
      · rfl
  · have hne : message ≠ (send gatewayIp data).data := by
      rintro rfl
      exact absurd hapi (by show "query-all" ≠ "disseminate-all"; decide)
    have hother : message.api ≠ "query-all" := by
      intro h
      exact absurd (h.symm.trans hapi) (by decide)
    simp [listen, hother, hne]

/-- What is emitted after a query are copies of it and of disseminations. -/
theorem emitted_of_query {graphs : String → LinkGraph} {data : D} {gatewayIp : String}
    {emitted : List (Publication (PlatformMessage D))} {made : List (LocalCall (PlatformMessage D))}
    (hmade : made.Perm ([send gatewayIp data] ++ emitted.flatMap fun message ↦
      listen listening response message.gatewayIp message.data))
    (hemitted : emitted.Perm (made.flatMap (AppNetwork.heard graphs)))
    {p : Publication (PlatformMessage D)} (hp : p ∈ emitted) : p.topic = mqttTopic ∧
      (p.data = (send gatewayIp data).data ∨ p.data.api = "disseminate-all") := by
  obtain ⟨call, hcall, hheard⟩ := List.mem_flatMap.mp (hemitted.subset hp)
  obtain ⟨htopic, hdata⟩ := AppNetwork.mem_heard graphs hheard
  refine ⟨htopic, ?_⟩
  rcases List.mem_append.mp (hmade.subset hcall) with hfirst | hanswer
  · rw [List.mem_singleton.mp hfirst] at hdata
    exact Or.inl hdata
  · obtain ⟨message, _, hanswer⟩ := List.mem_flatMap.mp hanswer
    rw [hdata]
    exact Or.inr (api_of_mem_listen hanswer)

/-- Calls that carry the query are the query, and calls that carry a response are that response. -/
theorem call_of_query {data : D} {gatewayIp : String}
    {emitted : List (Publication (PlatformMessage D))} {call : LocalCall (PlatformMessage D)}
    (h : call ∈ [send gatewayIp data] ++ emitted.flatMap fun message ↦
      listen listening response message.gatewayIp message.data) :
    (call.data = (send gatewayIp data).data ↔ call = send gatewayIp data) ∧
      ∀ responder, call.data = (reply responder response).data ↔
        call = reply responder response := by
  have hapi : (send gatewayIp data).data.api ≠ "disseminate-all" := by
    show "query-all" ≠ "disseminate-all"
    decide
  rcases List.mem_append.mp h with hfirst | hanswer
  · rw [List.mem_singleton.mp hfirst]
    refine ⟨iff_of_true rfl rfl, fun responder ↦ iff_of_false ?_ ?_⟩
    · exact fun hdata ↦ hapi (congrArg PlatformMessage.api hdata)
    · exact fun hcall ↦ hapi (congrArg (fun c ↦ c.data.api) hcall)
  · obtain ⟨message, _, hanswer⟩ := List.mem_flatMap.mp hanswer
    have hdisseminates := api_of_mem_listen hanswer
    refine ⟨iff_of_false ?_ ?_, fun responder ↦ ⟨fun hdata ↦ ?_, fun hcall ↦ hcall ▸ rfl⟩⟩
    · exact fun hdata ↦ hapi (hdata ▸ hdisseminates)
    · rintro rfl
      exact hapi hdisseminates
    · unfold listen at hanswer
      split at hanswer
      · rw [List.mem_singleton.mp hanswer] at hdata ⊢
        have horigin := congrArg PlatformMessage.originAddress hdata
        have htag := congrArg PlatformMessage.tag hdata
        simp only [disseminateAll, reply] at horigin htag ⊢
        rw [horigin, htag]
      · exact absurd hanswer List.not_mem_nil

variable [DecidableEq D]

/-- Once everything has arrived, the gateway that sent the query has got one response from a
gateway where the application listens for each time its own link graph lists that gateway and the
other's lists it, and no response from gateways where nobody listens. -/
theorem query_answered (graphs : String → LinkGraph) (listening : String → Bool) (data response : D)
    (gatewayIp : String) {es : List (AppNetworkEvent D)} {t : AppNetwork D}
    (ht : run (AppNetwork.step graphs (listen listening response))
      (AppNetwork.start [send gatewayIp data]) es = some t)
    (hsettled : t.Settled) (responder : String) :
    t.emitted.count ⟨gatewayIp, mqttTopic, (reply responder response).data⟩ =
      if listening responder then
        (send gatewayIp data).audience (graphs gatewayIp) responder *
          (reply responder response).audience (graphs responder) gatewayIp
      else 0 := by
  obtain ⟨made, hmade, hemitted⟩ := AppNetwork.settled_run graphs _ ht hsettled
  -- Emissions of a message whose calls are all the same one.
  have hcount (ip : String) (call : LocalCall (PlatformMessage D))
      (hcall : ∀ c ∈ made, c.data = call.data ↔ c = call) :
      t.emitted.count ⟨ip, mqttTopic, call.data⟩ = made.count call *
        call.audience (graphs call.gatewayIp) ip := by
    rw [hemitted.count_eq, AppNetwork.count_heard, ← sum_ite_eq]
    refine congrArg List.sum (List.map_congr_left fun c hc ↦ ?_)
    by_cases h : c = call
    · rw [h, if_pos rfl, if_pos rfl]
    · rw [if_neg h, if_neg (mt (hcall c hc).mp h)]
  have hresponses (c : LocalCall (PlatformMessage D)) (hc : c ∈ made) :=
    (call_of_query (hmade.subset hc)).2 responder
  rw [hcount gatewayIp (reply responder response) hresponses]
  -- The response is made once for each copy of the query.
  have hmadeCount : made.count (reply responder response) =
      t.emitted.count ⟨responder, mqttTopic, (send gatewayIp data).data⟩ *
        if listening responder then 1 else 0 := by
    have hfirst : ([send gatewayIp data] : List (LocalCall (PlatformMessage D))).count
        (reply responder response) = 0 := by
      rw [List.count_eq_zero, List.mem_singleton]
      intro h
      have hapi : "disseminate-all" = "query-all" := congrArg (fun c ↦ c.data.api) h
      exact absurd hapi (by decide)
    rw [hmade.count_eq, List.count_append, hfirst, Nat.zero_add, List.count_flatMap, ← sum_ite_eq]
    refine congrArg List.sum (List.map_congr_left fun p hp ↦ ?_)
    obtain ⟨htopic, hdata⟩ := emitted_of_query hmade hemitted hp
    exact count_listen data gatewayIp responder htopic hdata
  have hquery : made.count (send gatewayIp data) = 1 := by
    rw [hmade.count_eq, List.count_append, List.count_singleton_self]
    apply Nat.add_eq_left.mpr
    rw [List.count_eq_zero]
    intro h
    obtain ⟨message, _, hanswer⟩ := List.mem_flatMap.mp h
    have hapi : "query-all" = "disseminate-all" := api_of_mem_listen hanswer
    exact absurd hapi (by decide)
  rw [hmadeCount, hcount responder (send gatewayIp data)
    (fun c hc ↦ (call_of_query (hmade.subset hc)).1), hquery, Nat.one_mul]
  split
  · rw [Nat.mul_one]
    rfl
  · rw [Nat.mul_zero, Nat.zero_mul]

/-- A query has rank one: it is answered by disseminations, and these by nothing. -/
def queryRank (message : PlatformMessage D) : Nat := if message.api = "query-all" then 1 else 0

omit [DecidableEq D] in
/-- The application answers with calls of lower rank. -/
theorem ranked_listen : AppNetwork.Ranked queryRank 1 (listen listening response) := by
  intro gatewayIp message
  unfold listen
  split
  · next h =>
    refine ⟨Nat.le_refl 1, fun call hcall ↦ ?_⟩
    rw [List.mem_singleton.mp hcall, queryRank, queryRank, if_pos h.2.1,
      if_neg (by show "disseminate-all" ≠ "query-all"; decide)]
    exact Nat.one_pos
  · exact ⟨Nat.zero_le 1, fun call hcall ↦ absurd hcall List.not_mem_nil⟩

/-- A query in a platform of at most `B` gateways leads to a bounded number of events, in whatever
order they come; where none is left, everything has been answered. -/
theorem query_ends (graphs : String → LinkGraph) {B : Nat}
    (hB : ∀ gatewayIp, (getGatewayIPAddressList (graphs gatewayIp)).length ≤ B)
    (listening : String → Bool) (data response : D) (gatewayIp : String)
    {es : List (AppNetworkEvent D)} {t : AppNetwork D}
    (ht : run (AppNetwork.step graphs (listen listening response))
      (AppNetwork.start [send gatewayIp data]) es = some t) :
    es.length ≤ 2 + B * (4 + 2 * B) ∧
      ((∀ e, AppNetwork.step graphs (listen listening response) t e = none) → t.Quiet) := by
  obtain ⟨hlength, hquiet⟩ := AppNetwork.run_ends graphs _ queryRank B 1 ranked_listen hB _ ht
  refine ⟨hlength.trans (Nat.le_of_eq ?_), hquiet⟩
  have hrank : queryRank (send gatewayIp data).data = 1 := if_pos rfl
  simp only [List.map_cons, List.map_nil, List.sum_cons, List.sum_nil, hrank, AppNetwork.callCost,
    AppNetwork.readCost]
  have hcost : 1 + (1 + 1 * (2 + B * (1 + 1))) = 4 + 2 * B := by omega
  rw [hcost, Nat.add_zero]

end QueryApp

/-- One of two gateways asks, the other one listens. -/
def queryRun : List (AppNetworkEvent Nat) :=
  let query : LocalCall (PlatformMessage Nat) := send "10.0.0.1" 1
  let response : LocalCall (PlatformMessage Nat) := reply "10.0.0.2" 2
  [.call query, .linkGraph query, .deliver ⟨"10.0.0.1", "10.0.0.2", .queryAll, query.data⟩,
    .emit ⟨"10.0.0.2", mqttTopic, query.data⟩, .call response, .linkGraph response,
    .deliver ⟨"10.0.0.2", "10.0.0.1", .disseminateAll, response.data⟩,
    .emit ⟨"10.0.0.1", mqttTopic, response.data⟩]

/-- The query is answered once. -/
theorem query_answered_queryRun : ∃ t, run (AppNetwork.step (fun _ ↦ Dissemination.twoGateways)
      (listen (fun gatewayIp ↦ gatewayIp = "10.0.0.2") 2))
      (AppNetwork.start [send "10.0.0.1" 1]) queryRun = some t ∧
    t.emitted.count ⟨"10.0.0.1", mqttTopic, (reply "10.0.0.2" 2).data⟩ = 1 := by
  have hrun : (run (AppNetwork.step (fun _ ↦ Dissemination.twoGateways)
      (listen (fun gatewayIp ↦ gatewayIp = "10.0.0.2") 2))
      (AppNetwork.start [send "10.0.0.1" 1]) queryRun).map
        (fun t ↦ ((t.network.waiting, t.network.inFlight), (t.network.abandoned, t.network.lost),
          (t.unread, t.calls))) = some (([], []), ([], []), ([], [])) := rfl
  obtain ⟨t, ht, hview⟩ := Option.map_eq_some_iff.mp hrun
  simp only [Prod.mk.injEq] at hview
  obtain ⟨⟨hwaiting, hinFlight⟩, ⟨habandoned, hlost⟩, hunread, hcalls⟩ := hview
  refine ⟨t, ht, ?_⟩
  rw [query_answered (fun _ ↦ Dissemination.twoGateways) _ 1 2 "10.0.0.1" ht
    ⟨⟨hwaiting, hinFlight, habandoned, hlost⟩, hunread, hcalls⟩ "10.0.0.2"]
  decide

/-- It takes eight of the at most eighteen events. -/
theorem query_ends_queryRun : queryRun.length ≤ 2 + 2 * (4 + 2 * 2) := by
  have hrun : (run (AppNetwork.step (fun _ ↦ Dissemination.twoGateways)
      (listen (fun gatewayIp ↦ gatewayIp = "10.0.0.2") 2))
      (AppNetwork.start [send "10.0.0.1" 1]) queryRun).isSome := rfl
  obtain ⟨t, ht⟩ := Option.isSome_iff_exists.mp hrun
  have hlisted : (getGatewayIPAddressList Dissemination.twoGateways).length ≤ 2 := by decide
  exact (query_ends _ (fun _ ↦ hlisted) _ 1 2 "10.0.0.1" ht).1

end NexusEdge.Apps
