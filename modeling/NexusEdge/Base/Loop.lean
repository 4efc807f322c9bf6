import Mathlib.Algebra.Ring.Nat
import Mathlib.Logic.Basic

/-!
# Loops and statements that may throw

Library `Base`. A statement leaves a state and possibly an exception; an exception
abandons the rest of a loop but keeps the state reached so far. The rules reduce a
property that each iteration can only add to, to the contributions of the elements.
A `while` loop runs on fuel; its rules are an invariant and a decreasing measure. A list is mapped
by a statement that may throw.
-/

namespace NexusEdge.Base

universe u v w

/-- A property that every iteration extends by its own contribution holds after the
loop exactly when it held before or some element contributes it. -/
theorem foldl_iff_exists {α : Type u} {σ : Type v} {f : σ → α → σ} {P : σ → Prop}
    {Q : α → Prop} (h : ∀ s a, P (f s a) ↔ P s ∨ Q a) (l : List α) (s : σ) :
    P (l.foldl f s) ↔ P s ∨ ∃ a ∈ l, Q a := by
  induction l generalizing s with
  | nil => simp
  | cons a l ih =>
    rw [List.foldl_cons, ih, h, or_assoc]
    simp only [List.mem_cons, exists_eq_or_imp]

/-- An invariant of every iteration is an invariant of the loop. -/
theorem foldl_invariant {α : Type u} {σ : Type v} {f : σ → α → σ} {P : σ → Prop} (l : List α)
    (h : ∀ a ∈ l, ∀ s, P s → P (f s a)) (s : σ) (hs : P s) : P (l.foldl f s) := by
  induction l generalizing s with
  | nil => exact hs
  | cons a l ih =>
    rw [List.foldl_cons]
    exact ih (fun b hb ↦ h b (List.mem_cons_of_mem a hb)) _ (h a List.mem_cons_self s hs)

/-- What is observed of the state at the end depends on the relevant elements only, when the others
do not change the observation and a relevant one changes it alike in states observed alike. -/
theorem foldl_filter_observed {α : Type u} {σ : Type v} {ω : Type w} {f : σ → α → σ}
    {observe : σ → ω} {relevant : α → Bool}
    (hother : ∀ s a, relevant a = false → observe (f s a) = observe s)
    (hrelevant : ∀ s t a, relevant a = true → observe s = observe t →
      observe (f s a) = observe (f t a))
    (l : List α) {s t : σ} (hst : observe s = observe t) :
    observe (l.foldl f s) = observe ((l.filter relevant).foldl f t) := by
  induction l generalizing s t with
  | nil => exact hst
  | cons a l ih =>
    rw [List.foldl_cons, List.filter_cons]
    split
    · next ha => exact ih (hrelevant s t a ha hst)
    · next ha =>
      apply ih
      rw [hother s a (by simpa using ha), hst]

/-- A measure to which every iteration adds its own amount grows by the sum of them. -/
theorem foldl_measure {α : Type u} {σ : Type v} {f : σ → α → σ} {I : σ → Prop} {m : σ → Nat}
    {c : α → Nat} (h : ∀ s a, I s → I (f s a) ∧ m (f s a) = m s + c a) (l : List α) (s : σ)
    (hs : I s) : I (l.foldl f s) ∧ m (l.foldl f s) = m s + (l.map c).sum := by
  induction l generalizing s with
  | nil => exact ⟨hs, rfl⟩
  | cons a l ih =>
    obtain ⟨hI, hm⟩ := h s a hs
    obtain ⟨hlI, hlm⟩ := ih (f s a) hI
    rw [List.foldl_cons, List.map_cons, List.sum_cons, hlm, hm]
    exact ⟨hlI, Nat.add_assoc _ _ _⟩

/-- A `while` loop; a body without successor ends it. No result when the fuel runs out. -/
def whileLoop {σ : Type u} (body : σ → Option σ) : Nat → σ → Option σ
  | 0, _ => none
  | fuel + 1, s =>
    match body s with
    | none => some s
    | some t => whileLoop body fuel t

/-- The loop terminates, and in this state. -/
def EndsIn {σ : Type u} (body : σ → Option σ) (s t : σ) : Prop :=
  ∃ fuel, whileLoop body fuel s = some t

/-- A loop ends in one state, whatever the fuel. -/
theorem EndsIn.unique {σ : Type u} {body : σ → Option σ} {s t t' : σ} (h : EndsIn body s t)
    (h' : EndsIn body s t') : t = t' := by
  obtain ⟨fuel, h⟩ := h
  obtain ⟨fuel', h'⟩ := h'
  induction fuel generalizing s fuel' with
  | zero => cases h
  | succ fuel ih =>
    cases fuel' with
    | zero => cases h'
    | succ fuel' =>
      rw [whileLoop] at h h'
      cases hb : body s with
      | none =>
        simp only [hb] at h h'
        exact (Option.some.inj h).symm.trans (Option.some.inj h')
      | some u =>
        simp only [hb] at h h'
        exact ih h fuel' h'

/-- Loop rule: an invariant of the body holds where the loop ends. -/
theorem EndsIn.rule {σ : Type u} {body : σ → Option σ} {I : σ → Prop}
    (hI : ∀ s t, I s → body s = some t → I t) {s t : σ} (hs : I s) (h : EndsIn body s t) :
    I t ∧ body t = none := by
  obtain ⟨fuel, h⟩ := h
  induction fuel generalizing s with
  | zero => cases h
  | succ fuel ih =>
    rw [whileLoop] at h
    cases hb : body s with
    | none =>
      simp only [hb] at h
      obtain rfl := Option.some.inj h
      exact ⟨hs, hb⟩
    | some u =>
      simp only [hb] at h
      exact ih (hI s u hs hb) h

/-- Termination rule: a loop whose body decreases a measure ends. -/
theorem exists_endsIn {σ : Type u} {body : σ → Option σ} {I : σ → Prop} (m : σ → Nat)
    (hI : ∀ s t, I s → body s = some t → I t ∧ m t < m s) (s : σ) (hs : I s) :
    ∃ t, EndsIn body s t := by
  induction hn : m s using Nat.strongRecOn generalizing s with
  | ind n ih =>
    cases hb : body s with
    | none => exact ⟨s, 1, by simp only [whileLoop, hb]⟩
    | some t =>
      obtain ⟨ht, hlt⟩ := hI s t hs hb
      obtain ⟨u, fuel, hu⟩ := ih (m t) (hn ▸ hlt) t ht rfl
      exact ⟨u, fuel + 1, by simp only [whileLoop, hb, hu]⟩

/-- The state a statement leaves behind and the exception it threw, if any. -/
structure Outcome (ε : Type u) (σ : Type v) where
  state : σ
  error : Option ε
  deriving DecidableEq

namespace Outcome

variable {ε : Type u} {σ : Type v} {α : Type w}

/-- Normal completion. -/
def done (s : σ) : Outcome ε σ := ⟨s, none⟩

/-- Abrupt completion; what was written before stays written. -/
def throw (s : σ) (e : ε) : Outcome ε σ := ⟨s, some e⟩

/-- Sequencing: an exception skips the second statement. -/
def andThen (o : Outcome ε σ) (next : σ → Outcome ε σ) : Outcome ε σ :=
  match o.error with
  | none => next o.state
  | some _ => o

/-- A statement on a component, seen as a statement on the whole. -/
def within {τ : Type w} (put : σ → τ) (o : Outcome ε σ) : Outcome ε τ :=
  ⟨put o.state, o.error⟩

/-- A loop over the elements, in order. -/
def forEach (body : α → σ → Outcome ε σ) : List α → σ → Outcome ε σ
  | [], s => done s
  | a :: l, s => (body a s).andThen (forEach body l)

/-- Normal completion leaves the given state. -/
@[simp] theorem state_done (s : σ) : (done s : Outcome ε σ).state = s := rfl

/-- Normal completion throws nothing. -/
@[simp] theorem error_done (s : σ) : (done s : Outcome ε σ).error = none := rfl

/-- The state after a statement on a component. -/
@[simp] theorem state_within {τ : Type w} (put : σ → τ) (o : Outcome ε σ) :
    (o.within put).state = put o.state := rfl

/-- A statement on a component throws what the component throws. -/
@[simp] theorem error_within {τ : Type w} (put : σ → τ) (o : Outcome ε σ) :
    (o.within put).error = o.error := rfl

/-- After normal completion the second statement runs. -/
theorem andThen_of_none {o : Outcome ε σ} (h : o.error = none) (next : σ → Outcome ε σ) :
    o.andThen next = next o.state := by
  simp only [andThen, h]

/-- After an exception the second statement does not run. -/
theorem andThen_of_ne_none {o : Outcome ε σ} (h : o.error ≠ none) (next : σ → Outcome ε σ) :
    o.andThen next = o := by
  cases herror : o.error with
  | none => exact absurd herror h
  | some e => simp only [andThen, herror]

/-- After normal completion in a given state the second statement starts there. -/
@[simp] theorem done_andThen (s : σ) (next : σ → Outcome ε σ) : (done s).andThen next = next s :=
  rfl

/-- An exception is the outcome. -/
@[simp] theorem throw_andThen (s : σ) (e : ε) (next : σ → Outcome ε σ) :
    (throw s e).andThen next = throw s e := rfl

/-- Two statements complete normally if the first does and, after it, the second. -/
theorem andThen_error_eq_none {o : Outcome ε σ} {next : σ → Outcome ε σ} :
    (o.andThen next).error = none ↔ o.error = none ∧ (next o.state).error = none := by
  by_cases h : o.error = none
  · rw [andThen_of_none h, and_iff_right h]
  · rw [andThen_of_ne_none h]
    exact ⟨fun hnone ↦ absurd hnone h, And.left⟩

/-- What the first statement establishes and the second keeps holds at the end. -/
theorem andThen_state {P : σ → Prop} {o : Outcome ε σ} {next : σ → Outcome ε σ} (ho : P o.state)
    (hnext : ∀ s, P s → P (next s).state) : P (o.andThen next).state := by
  by_cases h : o.error = none
  · rw [andThen_of_none h]
    exact hnext o.state ho
  · rw [andThen_of_ne_none h]
    exact ho

/-- Two statements on a component are two statements on the whole. -/
theorem within_andThen {τ : Type w} {put : σ → τ} {o : Outcome ε σ} {next : σ → Outcome ε σ}
    {next' : τ → Outcome ε τ} (h : (next o.state).within put = next' (put o.state)) :
    (o.andThen next).within put = (o.within put).andThen next' := by
  by_cases herror : o.error = none
  · rw [andThen_of_none herror, andThen_of_none ((error_within put o).trans herror), h,
      state_within]
  · rw [andThen_of_ne_none herror, andThen_of_ne_none (by rwa [error_within])]

/-- Sequencing is associative. -/
theorem andThen_assoc (o : Outcome ε σ) (next next' : σ → Outcome ε σ) :
    (o.andThen next).andThen next' = o.andThen fun s ↦ (next s).andThen next' := by
  by_cases h : o.error = none
  · rw [andThen_of_none h, andThen_of_none h]
  · rw [andThen_of_ne_none h, andThen_of_ne_none h, andThen_of_ne_none h]

/-- A loop over two lists is a loop over the first, then one over the second. -/
theorem forEach_append (body : α → σ → Outcome ε σ) (l l' : List α) (s : σ) :
    forEach body (l ++ l') s = (forEach body l s).andThen (forEach body l') := by
  induction l generalizing s with
  | nil => rfl
  | cons a l ih =>
    rw [List.cons_append, forEach, forEach, andThen_assoc]
    exact congrArg (body a s).andThen (funext ih)

/-- A loop over transformed elements. -/
theorem forEach_map {β : Type w} (body : β → σ → Outcome ε σ) (f : α → β) (l : List α) :
    forEach body (l.map f) = forEach (fun a ↦ body (f a)) l := by
  induction l with
  | nil => rfl
  | cons a l ih =>
    ext1 s
    rw [List.map_cons, forEach, forEach, ih]

/-- Nested loops are one loop over the elements in the order of their visit. -/
theorem forEach_flatMap {β : Type w} (body : β → σ → Outcome ε σ) (g : α → List β) (l : List α) :
    forEach body (l.flatMap g) = forEach (fun a ↦ forEach body (g a)) l := by
  induction l with
  | nil => rfl
  | cons a l ih =>
    ext1 s
    rw [List.flatMap_cons, forEach_append, forEach, ih]

/-- A loop whose body does nothing does nothing. -/
theorem forEach_done (l : List α) : forEach (fun _ ↦ done) l = (done : σ → Outcome ε σ) := by
  induction l with
  | nil => rfl
  | cons a l ih =>
    ext1 s
    rw [forEach, andThen_of_none (error_done s), state_done, ih]

/-- A loop that throws has completed its iterations up to the one that throws. -/
theorem forEach_throws {body : α → σ → Outcome ε σ} {l : List α} {s : σ}
    (h : (forEach body l s).error ≠ none) :
    ∃ before a after, l = before ++ a :: after ∧ (forEach body before s).error = none ∧
      forEach body l s = body a (forEach body before s).state := by
  induction l generalizing s with
  | nil => exact absurd rfl h
  | cons a l ih =>
    by_cases ha : (body a s).error = none
    · rw [forEach, andThen_of_none ha] at h
      obtain ⟨before, b, after, rfl, hdone, hthrow⟩ := ih h
      refine ⟨a :: before, b, after, rfl, ?_, ?_⟩
      · rw [forEach, andThen_of_none ha, hdone]
      · rw [forEach, forEach, andThen_of_none ha, andThen_of_none ha, hthrow]
    · refine ⟨[], a, l, rfl, rfl, ?_⟩
      show (body a s).andThen (forEach body l) = body a s
      exact andThen_of_ne_none ha _

/-- A reflexive and transitive relation between the states before and after each iteration
holds between those before and after the loop, even if it throws. -/
theorem forEach_relates {body : α → σ → Outcome ε σ} {R : σ → σ → Prop} (hrefl : ∀ s, R s s)
    (htrans : ∀ s t u, R s t → R t u → R s u) (l : List α)
    (h : ∀ a ∈ l, ∀ s, R s (body a s).state) (s : σ) : R s (forEach body l s).state := by
  induction l generalizing s with
  | nil => exact hrefl s
  | cons a l ih =>
    have hfirst := h a List.mem_cons_self s
    rw [forEach]
    by_cases ha : (body a s).error = none
    · rw [andThen_of_none ha]
      exact htrans _ _ _ hfirst (ih (fun b hb ↦ h b (List.mem_cons_of_mem a hb)) _)
    · rw [andThen_of_ne_none ha]
      exact hfirst

end Outcome
/-! ### Lists of statements -/

section MapM

variable {ε : Type u} {α : Type v} {β : Type w} {f : α → Except ε β}

/-- The first statement returns, and so do the others. -/
theorem mapM_cons_eq_ok_iff {a : α} {l : List α} {r : List β} :
    (a :: l).mapM f = .ok r ↔ ∃ b bs, f a = .ok b ∧ l.mapM f = .ok bs ∧ r = b :: bs := by
  rw [List.mapM_cons]
  cases ha : f a with
  | error e => exact iff_of_false nofun nofun
  | ok b =>
    cases hl : l.mapM f with
    | error e => exact iff_of_false nofun nofun
    | ok bs =>
      constructor
      · intro h
        exact ⟨b, bs, rfl, rfl, (Except.ok.inj h).symm⟩
      · rintro ⟨b, bs, hb, hbs, rfl⟩
        obtain rfl := Except.ok.inj hb
        obtain rfl := Except.ok.inj hbs
        rfl

/-- All return exactly if each does. -/
theorem exists_mapM_eq_ok_iff {l : List α} :
    (∃ r, l.mapM f = .ok r) ↔ ∀ a ∈ l, ∃ b, f a = .ok b := by
  induction l with
  | nil => exact iff_of_true ⟨[], rfl⟩ nofun
  | cons a l ih =>
    rw [List.forall_mem_cons, ← ih]
    simp only [mapM_cons_eq_ok_iff]
    constructor
    · rintro ⟨r, b, bs, hb, hbs, -⟩
      exact ⟨⟨b, hb⟩, bs, hbs⟩
    · rintro ⟨⟨b, hb⟩, bs, hbs⟩
      exact ⟨b :: bs, b, bs, hb, hbs, rfl⟩

/-- One value is returned for each. -/
theorem length_of_mapM_eq_ok {l : List α} {r : List β} (h : l.mapM f = .ok r) :
    r.length = l.length := by
  induction l generalizing r with
  | nil =>
    obtain rfl := Except.ok.inj h
    rfl
  | cons a l ih =>
    obtain ⟨b, bs, -, hbs, rfl⟩ := mapM_cons_eq_ok_iff.mp h
    rw [List.length_cons, List.length_cons, ih hbs]

/-- What each returns stands at its place. -/
theorem getElem?_of_mapM_eq_ok {l : List α} {r : List β} (h : l.mapM f = .ok r) (i : Nat) (b : β) :
    r[i]? = some b ↔ ∃ a, l[i]? = some a ∧ f a = .ok b := by
  induction l generalizing r i with
  | nil =>
    obtain rfl := Except.ok.inj h
    simp
  | cons a l ih =>
    obtain ⟨c, cs, hc, hcs, rfl⟩ := mapM_cons_eq_ok_iff.mp h
    cases i with
    | zero => simp [hc]
    | succ i => simpa using ih hcs i

end MapM

end NexusEdge.Base
