import NexusEdge.Messaging.MessagingService

/-!
# Correlation of responses

Library `Messaging`. Every query, response and listener stays tied to the service and the
event of its call. A promise therefore settles when its response arrives, but with whatever
arrives first under its event name: promises hold their own responses exactly as long as
no other promise of the service waits for the event that arrives.
-/

namespace NexusEdge.Messaging
open NexusEdge.Base

variable {P R : Type}

/-! ### What ties a response to its call -/

/-- The promise of the call belongs to the service and waits for the event. -/
def System.Expects (s : System P R) (call : Nat) (service event : String) : Prop :=
  ∃ p, s.promises[call]? = some p ∧ p.service = service ∧ p.event = event

/-- The promise of the call is resolved. -/
def System.Settled (s : System P R) (call : Nat) : Prop :=
  ∃ p data, s.promises[call]? = some p ∧ p.result = some data

/-- Queries carry the service and event of their call; responses are addressed to them. -/
def Payload.Wired (s : System P R) (recipient event : String) : Payload P R → Prop
  | .query q => s.Expects q.call q.metadata.sender (responseEvent q.metadata.event)
  | .response _ call => s.Expects call recipient event

/-- Everything under way is tied to its call, and answered calls are settled. -/
structure System.Wired (s : System P R) : Prop where
  toPlatform : ∀ data ∈ s.toPlatform, data.payload.Wired s data.metadata.recipient data.metadata.event
  toServices : ∀ emission ∈ s.toServices,
    emission.message.data.Wired s emission.recipient emission.event
  received : ∀ q ∈ s.received, s.Expects q.call q.metadata.sender (responseEvent q.metadata.event)
  answered : ∀ call ∈ s.answered, s.Settled call

/-- Promises stay, with their service, their event and their result. -/
def Extends (s t : System P R) : Prop :=
  ∀ (call : Nat) (p : QueryPromise P R), s.promises[call]? = some p →
    ∃ p' : QueryPromise P R, t.promises[call]? = some p' ∧ p'.service = p.service ∧
      p'.event = p.event ∧ ∀ data, p.result = some data → p'.result = some data

section Monotone

variable {s t : System P R}

/-- No promise changes. -/
theorem Extends.of_eq (h : t.promises = s.promises) : Extends s t := by
  intro call p hp
  exact ⟨p, by rw [h, hp], rfl, rfl, fun _ hdata ↦ hdata⟩

/-- Calls stay tied. -/
theorem System.Expects.mono (h : Extends s t) {call : Nat} {service event : String}
    (hs : s.Expects call service event) : t.Expects call service event := by
  obtain ⟨p, hp, hservice, hevent⟩ := hs
  obtain ⟨p', hp', hservice', hevent', _⟩ := h call p hp
  exact ⟨p', hp', hservice'.trans hservice, hevent'.trans hevent⟩

/-- Promises stay settled. -/
theorem System.Settled.mono (h : Extends s t) {call : Nat} (hs : s.Settled call) :
    t.Settled call := by
  obtain ⟨p, data, hp, hdata⟩ := hs
  obtain ⟨p', hp', _, _, hresult⟩ := h call p hp
  exact ⟨p', data, hp', hresult data hdata⟩

/-- Payloads stay tied. -/
theorem Payload.Wired.mono (h : Extends s t) {recipient event : String} {payload : Payload P R}
    (hs : payload.Wired s recipient event) : payload.Wired t recipient event := by
  cases payload with
  | query q => exact System.Expects.mono h hs
  | response r call => exact System.Expects.mono h hs

end Monotone

private theorem extends_query (sender recipient query : String) (queryParams : P)
    (s : System P R) : Extends s (s.query sender recipient query queryParams) := by
  intro call p hp
  refine ⟨p, ?_, rfl, rfl, fun _ hdata ↦ hdata⟩
  rw [System.query, List.getElem?_append_left (List.getElem?_eq_some_iff.mp hp).1, hp]

private theorem promises_receive (emission : Emission P R) (s : System P R) (call : Nat) :
    (s.receive emission).promises[call]? = s.promises[call]?.map fun p ↦
      if p.service = emission.recipient ∧ p.event = emission.event then
        p.resolve emission.message.data
      else p :=
  List.getElem?_map

private theorem extends_receive (emission : Emission P R) (s : System P R) :
    Extends s (s.receive emission) := by
  intro call p hp
  refine ⟨_, by rw [promises_receive, hp, Option.map_some], ?_, ?_, ?_⟩
  · split <;> rfl
  · split <;> rfl
  · intro data hdata
    split
    · rw [QueryPromise.resolve, hdata, Option.some_or]
    · exact hdata

/-! ### Wiring is kept -/

section Wired

variable {s : System P R}

private theorem wired_mono {t : System P R} (hs : s.Wired) (h : Extends s t)
    (hplatform : ∀ data ∈ t.toPlatform, data ∈ s.toPlatform ∨
      data.payload.Wired t data.metadata.recipient data.metadata.event)
    (hservices : ∀ emission ∈ t.toServices, emission ∈ s.toServices ∨
      emission.message.data.Wired t emission.recipient emission.event)
    (hreceived : ∀ q ∈ t.received, q ∈ s.received ∨
      t.Expects q.call q.metadata.sender (responseEvent q.metadata.event))
    (hanswered : ∀ call ∈ t.answered, call ∈ s.answered ∨ t.Settled call) : t.Wired where
  toPlatform data hm := (hplatform data hm).elim (fun hm ↦ (hs.toPlatform data hm).mono h) id
  toServices emission hm :=
    (hservices emission hm).elim (fun hm ↦ (hs.toServices emission hm).mono h) id
  received q hm := (hreceived q hm).elim (fun hm ↦ (hs.received q hm).mono h) id
  answered call hm := (hanswered call hm).elim (fun hm ↦ (hs.answered call hm).mono h) id

/-- Start. -/
theorem wired_initial : (System.initial : System P R).Wired where
  toPlatform _ hm := absurd hm List.not_mem_nil
  toServices _ hm := absurd hm List.not_mem_nil
  received _ hm := absurd hm List.not_mem_nil
  answered _ hm := absurd hm List.not_mem_nil

private theorem wired_registerSocket (service : String) (hs : s.Wired) :
    (s.registerSocket service).Wired := by
  unfold System.registerSocket
  split
  · exact wired_mono hs (Extends.of_eq rfl) (fun _ ↦ Or.inl) (fun _ ↦ Or.inl) (fun _ ↦ Or.inl)
      fun _ ↦ Or.inl
  · exact hs

private theorem wired_query (sender recipient query : String) (queryParams : P) (hs : s.Wired) :
    (s.query sender recipient query queryParams).Wired := by
  apply wired_mono hs (extends_query sender recipient query queryParams s) _ (fun _ ↦ Or.inl)
    (fun _ ↦ Or.inl) (fun _ ↦ Or.inl)
  intro data hm
  rcases List.mem_append.mp hm with hm | hm
  · exact Or.inl hm
  · rw [List.mem_singleton.mp hm]
    refine Or.inr ⟨⟨sender, responseEvent query, none⟩, ?_, rfl, rfl⟩
    exact List.getElem?_concat_length

private theorem wired_respondToQuery {query : Query P} (response : R) (hs : s.Wired)
    (hq : s.Expects query.call query.metadata.sender (responseEvent query.metadata.event)) :
    (s.respondToQuery query response).Wired := by
  refine wired_mono hs (Extends.of_eq rfl) ?_ (fun _ ↦ Or.inl) (fun _ ↦ Or.inl) (fun _ ↦ Or.inl)
  intro data hm
  rcases List.mem_append.mp hm with hm | hm
  · exact Or.inl hm
  · rw [List.mem_singleton.mp hm]
    exact Or.inr hq

private theorem wired_forward {data : Forward P R} (hs : s.Wired)
    (hdata : data.payload.Wired s data.metadata.recipient data.metadata.event) :
    (s.forward data).Wired := by
  unfold System.forward
  split
  · refine wired_mono hs (Extends.of_eq rfl) (fun _ ↦ Or.inl) ?_ (fun _ ↦ Or.inl) (fun _ ↦ Or.inl)
    intro emission hm
    rcases List.mem_append.mp hm with hm | hm
    · exact Or.inl hm
    · rw [List.mem_singleton.mp hm]
      exact Or.inr hdata
  · exact hs

-- The listener of the call is on the event, so the promise is settled afterwards.
private theorem settled_receive {emission : Emission P R} {call : Nat}
    (h : s.Expects call emission.recipient emission.event) : (s.receive emission).Settled call := by
  obtain ⟨p, hp, hservice, hevent⟩ := h
  have hreceived : (s.receive emission).promises[call]? = some (p.resolve emission.message.data) := by
    rw [promises_receive, hp, Option.map_some, if_pos ⟨hservice, hevent⟩]
  cases hresult : p.result with
  | some data => exact ⟨_, data, hreceived, by rw [QueryPromise.resolve, hresult, Option.some_or]⟩
  | none => exact ⟨_, _, hreceived, by rw [QueryPromise.resolve, hresult, Option.none_or]⟩

private theorem wired_receive {emission : Emission P R} (hs : s.Wired)
    (hemission : emission.message.data.Wired s emission.recipient emission.event) :
    (s.receive emission).Wired := by
  have hextends := extends_receive emission s
  apply wired_mono hs hextends (fun _ ↦ Or.inl) (fun _ ↦ Or.inl)
  · intro q hm
    rcases List.mem_append.mp hm with hm | hm
    · exact Or.inl hm
    · apply Or.inr
      cases hpayload : emission.message.data with
      | response r call =>
        rw [hpayload] at hm
        cases hm
      | query q' =>
        rw [hpayload] at hm hemission
        rw [List.mem_singleton.mp hm]
        exact System.Expects.mono hextends hemission
  · intro call hm
    rcases List.mem_append.mp hm with hm | hm
    · exact Or.inl hm
    · apply Or.inr
      cases hpayload : emission.message.data with
      | query q =>
        rw [hpayload] at hm
        cases hm
      | response r call' =>
        rw [hpayload] at hm hemission
        rw [List.mem_singleton.mp hm]
        exact settled_receive hemission

/-- Every event keeps the wiring. -/
theorem wired_step {t : System P R} {e : Event P R} (hs : s.Wired) (h : step s e = some t) :
    t.Wired := by
  cases e with
  | registerSocket service =>
    obtain rfl := Option.some.inj h
    exact wired_registerSocket service hs
  | query sender recipient query queryParams =>
    obtain rfl := Option.some.inj h
    exact wired_query sender recipient query queryParams hs
  | forward i =>
    obtain ⟨data, hdata, rfl⟩ := Option.map_eq_some_iff.mp h
    apply wired_forward
    · exact wired_mono hs (Extends.of_eq rfl) (fun _ hm ↦ Or.inl (List.mem_of_mem_eraseIdx hm))
        (fun _ ↦ Or.inl) (fun _ ↦ Or.inl) fun _ ↦ Or.inl
    · exact (hs.toPlatform data (List.mem_of_getElem? hdata)).mono (Extends.of_eq rfl)
  | receive i =>
    obtain ⟨emission, hemission, rfl⟩ := Option.map_eq_some_iff.mp h
    apply wired_receive
    · exact wired_mono hs (Extends.of_eq rfl) (fun _ ↦ Or.inl)
        (fun _ hm ↦ Or.inl (List.mem_of_mem_eraseIdx hm)) (fun _ ↦ Or.inl) fun _ ↦ Or.inl
    · exact (hs.toServices emission (List.mem_of_getElem? hemission)).mono (Extends.of_eq rfl)
  | respond i response =>
    obtain ⟨query, hquery, rfl⟩ := Option.map_eq_some_iff.mp h
    exact wired_respondToQuery response hs (hs.received query (List.mem_of_getElem? hquery))

end Wired

/-! ### Promises and their own responses -/

/-- Every settled promise holds a response to its own call, and every call whose response
has arrived is settled. -/
structure System.Correlated (s : System P R) : Prop where
  own : ∀ (call : Nat) (p : QueryPromise P R) (data : Payload P R), s.promises[call]? = some p →
    p.result = some data → data.call? = some call
  answered : ∀ call ∈ s.answered, s.Settled call

/-- The promise waits for the event of the emission. -/
def QueryPromise.Awaits (p : QueryPromise P R) (emission : Emission P R) : Prop :=
  p.service = emission.recipient ∧ p.event = emission.event ∧ p.result = none

/-- When a message is received, no promise waits for its event but that of the call it
answers. -/
def OnlyAwaited (s : System P R) : Event P R → Prop
  | .receive i => ∀ emission, s.toServices[i]? = some emission →
      ∀ (call : Nat) (p : QueryPromise P R), s.promises[call]? = some p → p.Awaits emission →
        emission.message.data.call? = some call
  | _ => True

section Correlated

variable {s t : System P R}

private theorem own_query (sender recipient query : String) (queryParams : P) (hs : s.Correlated)
    (call : Nat) (p : QueryPromise P R) (data : Payload P R)
    (hp : (s.query sender recipient query queryParams).promises[call]? = some p)
    (hdata : p.result = some data) : data.call? = some call := by
  rw [System.query, List.getElem?_append] at hp
  split at hp
  · exact hs.own call p data hp hdata
  · rw [List.mem_singleton.mp (List.mem_of_getElem? hp)] at hdata
    cases hdata

-- A received message is put into exactly the promises that wait for its event.
private theorem own_receive_iff (emission : Emission P R) (hs : s.Correlated) :
    (∀ (call : Nat) (p : QueryPromise P R) (data : Payload P R),
      (s.receive emission).promises[call]? = some p → p.result = some data →
        data.call? = some call) ↔
    ∀ (call : Nat) (p : QueryPromise P R), s.promises[call]? = some p → p.Awaits emission →
      emission.message.data.call? = some call := by
  constructor
  · intro h call p hp ⟨hservice, hevent, hnone⟩
    apply h call (p.resolve emission.message.data)
    · rw [promises_receive, hp, Option.map_some, if_pos ⟨hservice, hevent⟩]
    · rw [QueryPromise.resolve, hnone, Option.none_or]
  · intro h call p data hp hdata
    rw [promises_receive] at hp
    obtain ⟨before, hbefore, rfl⟩ := Option.map_eq_some_iff.mp hp
    split at hdata
    · next hmatch =>
      cases hresult : before.result with
      | some data' =>
        rw [QueryPromise.resolve, hresult, Option.some_or] at hdata
        exact Option.some.inj hdata ▸ hs.own call before data' hbefore hresult
      | none =>
        rw [QueryPromise.resolve, hresult, Option.none_or] at hdata
        exact Option.some.inj hdata ▸ h call before hbefore ⟨hmatch.1, hmatch.2, hresult⟩
    · exact hs.own call before data hbefore hdata

private theorem correlated_step_iff {e : Event P R} (hwired : s.Wired) (hs : s.Correlated)
    (h : step s e = some t) : t.Correlated ↔ OnlyAwaited s e := by
  have hanswered := (wired_step hwired h).answered
  cases e with
  | registerSocket service =>
    obtain rfl := Option.some.inj h
    refine iff_of_true ⟨?_, hanswered⟩ trivial
    unfold System.registerSocket
    split <;> exact hs.own
  | query sender recipient query queryParams =>
    obtain rfl := Option.some.inj h
    exact iff_of_true ⟨own_query sender recipient query queryParams hs, hanswered⟩ trivial
  | forward i =>
    obtain ⟨data, _, rfl⟩ := Option.map_eq_some_iff.mp h
    refine iff_of_true ⟨?_, hanswered⟩ trivial
    unfold System.forward
    split <;> exact hs.own
  | receive i =>
    obtain ⟨emission, hemission, rfl⟩ := Option.map_eq_some_iff.mp h
    have hown := own_receive_iff (s := { s with toServices := s.toServices.eraseIdx i }) emission
      ⟨hs.own, hs.answered⟩
    rw [OnlyAwaited]
    constructor
    · intro hcorrelated emission' hemission'
      obtain rfl := Option.some.inj (hemission.symm.trans hemission')
      exact hown.mp hcorrelated.own
    · intro honly
      exact ⟨hown.mpr (honly emission hemission), hanswered⟩
  | respond i response =>
    obtain ⟨query, _, rfl⟩ := Option.map_eq_some_iff.mp h
    exact iff_of_true ⟨hs.own, hanswered⟩ trivial

private theorem correlated_initial : (System.initial : System P R).Correlated where
  own _ _ _ hp := by cases hp
  answered _ hm := absurd hm List.not_mem_nil

/-- From start-up on, promises hold their own responses in every state passed through
exactly if at every reception no other promise of the service waits for the event. -/
theorem responses_correlated_iff (events : List (Event P R)) :
    Always step System.Correlated System.initial events ↔
      EachStep step OnlyAwaited System.initial events :=
  always_iff_eachStep step (fun _ _ _ hs h ↦ wired_step hs h)
    (fun _ _ _ hwired hs h ↦ correlated_step_iff hwired hs h) events wired_initial
    correlated_initial

end Correlated

/-- Two applications are terminated at the same time; the first call is told about the
second application. -/
def concurrentTerminations : List (Event String String) :=
  [.registerSocket "api-server", .registerSocket "app-manager",
    .query "api-server" "app-manager" "terminate-app" "app1",
    .query "api-server" "app-manager" "terminate-app" "app2",
    .forward 0, .forward 0, .receive 0, .receive 0,
    .respond 1 "app2 terminated", .forward 0, .receive 0]

/-- Both promises settle with the response to the second call. -/
theorem responses_crossed : ¬ ∀ (events : List (Event String String)) t,
    run step System.initial events = some t → t.Correlated := by
  intro h
  obtain ⟨t, ht⟩ : ∃ t, run step System.initial concurrentTerminations = some t :=
    Option.isSome_iff_exists.mp (by decide)
  have hfirst : (run step System.initial concurrentTerminations).map
      (fun t ↦ t.promises[0]?.map QueryPromise.result) =
        some (some (some (.response "app2 terminated" 1))) := by decide
  rw [ht, Option.map_some, Option.some.injEq] at hfirst
  obtain ⟨p, hp, hresult⟩ := Option.map_eq_some_iff.mp hfirst
  have hown := (h concurrentTerminations t ht).own 0 p _ hp hresult
  cases hown

end NexusEdge.Messaging
