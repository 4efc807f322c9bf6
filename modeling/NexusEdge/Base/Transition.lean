import Mathlib.Data.List.Infix

/-!
# Runs of event-driven systems

Library `Base`. A system takes one event at a time; an event that is not enabled has no
successor. Runs, invariants of runs, and the rule for conditions on single steps: when
every step keeps a property exactly if the step meets a condition, a run keeps the
property throughout exactly if all its steps meet the condition.
-/

namespace NexusEdge.Base

universe u v

variable {σ : Type u} {ε : Type v} (step : σ → ε → Option σ)

/-- The state after a sequence of events, if each of them is enabled. -/
def run (s : σ) : List ε → Option σ
  | [] => some s
  | e :: es => (step s e).bind fun t ↦ run t es

/-- The property holds in every state the events pass through. -/
def Always (P : σ → Prop) (s : σ) : List ε → Prop
  | [] => P s
  | e :: es => P s ∧ ∀ t, step s e = some t → Always P t es

/-- Every step taken meets the condition on its state and event. -/
def EachStep (C : σ → ε → Prop) (s : σ) : List ε → Prop
  | [] => True
  | e :: es => ∀ t, step s e = some t → C s e ∧ EachStep C t es

/-- A condition that can be decided for each step can be decided for a run. -/
instance decidableEachStep {C : σ → ε → Prop} [∀ s e, Decidable (C s e)] :
    (s : σ) → (es : List ε) → Decidable (EachStep step C s es)
  | _, [] => isTrue trivial
  | s, e :: es =>
    match h : step s e with
    | none => isTrue fun _ ht ↦ absurd (h.symm.trans ht) nofun
    | some t =>
      have : Decidable (EachStep step C t es) := decidableEachStep t es
      decidable_of_iff (C s e ∧ EachStep step C t es)
        ⟨fun hC _ ht ↦ Option.some.inj (h.symm.trans ht) ▸ hC, fun hC ↦ hC t h⟩

/-- Two sequences of events, one after the other. -/
theorem run_append (s : σ) (es es' : List ε) :
    run step s (es ++ es') = (run step s es).bind fun t ↦ run step t es' := by
  induction es generalizing s with
  | nil => rfl
  | cons e es ih =>
    rw [List.cons_append, run, run, Option.bind_assoc]
    exact congrArg (step s e).bind (funext ih)

/-- If a map between two systems commutes with the steps for the events at hand, it commutes with
their runs. -/
theorem run_map {τ : Type u} {step' : τ → ε → Option τ} {f : σ → τ} {es : List ε}
    (h : ∀ e ∈ es, ∀ s, (step s e).map f = step' (f s) e) (s : σ) :
    (run step s es).map f = run step' (f s) es := by
  induction es generalizing s with
  | nil => rfl
  | cons e es ih =>
    have hrest := ih fun e' he' ↦ h e' (List.mem_cons_of_mem e he')
    rw [run, run, ← h e List.mem_cons_self s, Option.map_bind, Option.bind_map]
    exact congrArg (step s e).bind (funext hrest)

/-- An invariant of every step is an invariant of every run. -/
theorem run_invariant {P : σ → Prop} (h : ∀ s e t, P s → step s e = some t → P t)
    (es : List ε) {s t : σ} (hs : P s) (hr : run step s es = some t) : P t := by
  induction es generalizing s with
  | nil => exact Option.some.inj hr ▸ hs
  | cons e es ih =>
    obtain ⟨u, hu, hr⟩ := Option.bind_eq_some_iff.mp hr
    exact ih (h s e u hs hu) hr

/-- If every step lowers a measure, the measure bounds the length of the runs. -/
theorem length_le_of_measure {I : σ → Prop} {m : σ → Nat}
    (h : ∀ s e t, I s → step s e = some t → I t ∧ m t < m s) (es : List ε) {s t : σ} (hs : I s)
    (hr : run step s es = some t) : es.length ≤ m s := by
  induction es generalizing s with
  | nil => exact Nat.zero_le _
  | cons e es ih =>
    obtain ⟨u, hu, hr⟩ := Option.bind_eq_some_iff.mp hr
    obtain ⟨hI, hlt⟩ := h s e u hs hu
    exact Nat.lt_of_le_of_lt (ih hI hr) hlt

/-- The states passed through are the states reached by the prefixes of the events. -/
theorem always_iff (P : σ → Prop) (s : σ) (es : List ε) :
    Always step P s es ↔ ∀ pre t, pre <+: es → run step s pre = some t → P t := by
  induction es generalizing s with
  | nil =>
    constructor
    · intro h pre t hp hr
      rw [List.prefix_nil.mp hp] at hr
      exact Option.some.inj hr ▸ h
    · exact fun h ↦ h [] s List.prefix_rfl rfl
  | cons e es ih =>
    constructor
    · rintro ⟨hs, h⟩ pre t hp hr
      cases pre with
      | nil => exact Option.some.inj hr ▸ hs
      | cons e' pre =>
        obtain ⟨rfl, hpre⟩ := List.cons_prefix_cons.mp hp
        obtain ⟨u, hu, hrun⟩ := Option.bind_eq_some_iff.mp hr
        exact (ih u).mp (h u hu) pre t hpre hrun
    · intro h
      refine ⟨h [] s List.nil_prefix rfl, fun u hu ↦ (ih u).mpr ?_⟩
      intro pre t hp hr
      apply h (e :: pre) t (List.cons_prefix_cons.mpr ⟨rfl, hp⟩)
      rw [run, hu]
      exact hr

/-- A property held throughout holds at the end. -/
theorem Always.last {P : σ → Prop} {s t : σ} {es : List ε} (h : Always step P s es)
    (hr : run step s es = some t) : P t :=
  (always_iff step P s es).mp h es t List.prefix_rfl hr

/-- A property of states follows throughout a run from a stronger one. -/
theorem Always.imp {P Q : σ → Prop} (h : ∀ s, P s → Q s) {s : σ} {es : List ε}
    (hP : Always step P s es) : Always step Q s es := by
  rw [always_iff] at hP ⊢
  exact fun pre t hp hr ↦ h t (hP pre t hp hr)

/-- An invariant holds throughout every run. -/
theorem always_of_invariant {P : σ → Prop} (h : ∀ s e t, P s → step s e = some t → P t)
    (es : List ε) {s : σ} (hs : P s) : Always step P s es := by
  rw [always_iff]
  exact fun pre t _ hr ↦ run_invariant step h pre hs hr

/-- An invariant of the steps that meet a condition holds throughout the runs of such steps. -/
theorem always_of_eachStep {I : σ → Prop} {C : σ → ε → Prop}
    (h : ∀ s e t, I s → C s e → step s e = some t → I t) (es : List ε) {s : σ} (hs : I s)
    (hC : EachStep step C s es) : Always step I s es := by
  induction es generalizing s with
  | nil => exact hs
  | cons e es ih =>
    refine ⟨hs, fun t ht ↦ ?_⟩
    obtain ⟨hCs, hrest⟩ := hC t ht
    exact ih (h s e t hs hCs ht) hrest

/-- If under an invariant the steps that meet one condition meet another and keep the
invariant, then runs of such steps meet the other condition throughout. -/
theorem eachStep_of_eachStep {I : σ → Prop} {C D : σ → ε → Prop}
    (h : ∀ s e t, I s → C s e → step s e = some t → D s e ∧ I t) (es : List ε) {s : σ} (hs : I s)
    (hC : EachStep step C s es) : EachStep step D s es := by
  induction es generalizing s with
  | nil => trivial
  | cons e es ih =>
    intro t ht
    obtain ⟨hCs, hrest⟩ := hC t ht
    obtain ⟨hD, hI⟩ := h s e t hs hCs ht
    exact ⟨hD, ih hI hrest⟩

/-- A condition that all events meet in every state. -/
theorem eachStep_of_forall {C : σ → ε → Prop} {es : List ε} (h : ∀ e ∈ es, ∀ s, C s e) (s : σ) :
    EachStep step C s es := by
  induction es generalizing s with
  | nil => trivial
  | cons e es ih =>
    exact fun t _ ↦ ⟨h e List.mem_cons_self s, ih (fun e' he' ↦ h e' (List.mem_cons_of_mem e he')) t⟩

/-- A property of a state and the events before it that the steps of a run keep holds after it. -/
theorem run_history_of_eachStep {P : List ε → σ → Prop} {C : σ → ε → Prop}
    (h : ∀ before s e t, P before s → C s e → step s e = some t → P (before ++ [e]) t)
    (es before : List ε) {s t : σ} (hs : P before s) (hC : EachStep step C s es)
    (hr : run step s es = some t) : P (before ++ es) t := by
  induction es generalizing before s with
  | nil =>
    obtain rfl := Option.some.inj hr
    rwa [List.append_nil]
  | cons e es ih =>
    obtain ⟨u, hu, hr⟩ := Option.bind_eq_some_iff.mp hr
    obtain ⟨hCs, hC⟩ := hC u hu
    have hrest := ih _ (h before s e u hs hCs hu) hC hr
    rwa [List.append_assoc, List.singleton_append] at hrest

/-- A property that every step keeps is kept by every run. -/
theorem run_history {P : List ε → σ → Prop}
    (h : ∀ before s e t, P before s → step s e = some t → P (before ++ [e]) t)
    (es before : List ε) {s t : σ} (hs : P before s) (hr : run step s es = some t) :
    P (before ++ es) t :=
  run_history_of_eachStep step (C := fun _ _ ↦ True) (fun before s e t hs _ ↦ h before s e t hs) es
    before hs (eachStep_of_forall step (fun _ _ _ ↦ trivial) s) hr

/-- Steps that meet one condition meet a weaker one. -/
theorem EachStep.imp {C D : σ → ε → Prop} (h : ∀ s e, C s e → D s e) {s : σ} {es : List ε}
    (hC : EachStep step C s es) : EachStep step D s es :=
  eachStep_of_eachStep step (I := fun _ ↦ True) (fun s e _ _ hCs _ ↦ ⟨h s e hCs, trivial⟩) es trivial
    hC

/-- Steps that meet two conditions meet both at once. -/
theorem EachStep.and {C D : σ → ε → Prop} {s : σ} {es : List ε} (hC : EachStep step C s es)
    (hD : EachStep step D s es) : EachStep step (fun s e ↦ C s e ∧ D s e) s es := by
  induction es generalizing s with
  | nil => trivial
  | cons e es ih =>
    intro t ht
    obtain ⟨hCs, hC⟩ := hC t ht
    obtain ⟨hDs, hD⟩ := hD t ht
    exact ⟨⟨hCs, hDs⟩, ih hC hD⟩

/-- A step after a prefix of the events meets the condition. -/
theorem EachStep.at_prefix {C : σ → ε → Prop} {pre : List ε} {e : ε} {s t u : σ}
    (h : EachStep step C s (pre ++ [e])) (hr : run step s pre = some t) (hu : step t e = some u) :
    C t e := by
  induction pre generalizing s with
  | nil =>
    obtain rfl := Option.some.inj hr
    exact (h u hu).1
  | cons e' pre ih =>
    obtain ⟨v, hv, hr⟩ := Option.bind_eq_some_iff.mp hr
    exact ih (h v hv).2 hr

/-- Step rule: if under an invariant a step keeps the property exactly when it meets the
condition, then a run keeps it throughout exactly when every step meets the condition. -/
theorem always_iff_eachStep {I P : σ → Prop} {C : σ → ε → Prop}
    (hI : ∀ s e t, I s → step s e = some t → I t)
    (hstep : ∀ s e t, I s → P s → step s e = some t → (P t ↔ C s e))
    (es : List ε) {s : σ} (hs : I s) (hP : P s) :
    Always step P s es ↔ EachStep step C s es := by
  induction es generalizing s with
  | nil => exact ⟨fun _ ↦ trivial, fun _ ↦ hP⟩
  | cons e es ih =>
    constructor
    · rintro ⟨_, h⟩ t ht
      have hPt : P t := by
        have := h t ht
        cases es with
        | nil => exact this
        | cons _ _ => exact this.1
      exact ⟨(hstep s e t hs hP ht).mp hPt, (ih (hI s e t hs ht) hPt).mp (h t ht)⟩
    · intro h
      refine ⟨hP, fun t ht ↦ ?_⟩
      obtain ⟨hC, hrest⟩ := h t ht
      have hPt : P t := (hstep s e t hs hP ht).mpr hC
      exact (ih (hI s e t hs ht) hPt).mpr hrest

/-- Step rule with a stronger property: if the steps that meet the condition keep the stronger
property, and from it a step reaches the property only by meeting the condition, then a run keeps
the property throughout exactly when every step meets the condition. -/
theorem always_iff_eachStep_of_imp {I P Q : σ → Prop} {C : σ → ε → Prop} (hQP : ∀ s, Q s → P s)
    (hI : ∀ s e t, I s → step s e = some t → I t)
    (hQ : ∀ s e t, I s → Q s → C s e → step s e = some t → Q t)
    (hC : ∀ s e t, I s → Q s → step s e = some t → P t → C s e)
    (es : List ε) {s : σ} (hs : I s) (hQs : Q s) :
    Always step P s es ↔ EachStep step C s es := by
  constructor
  · intro h
    induction es generalizing s with
    | nil => trivial
    | cons e es ih =>
      intro t ht
      have hrest := h.2 t ht
      have hPt : P t := (always_iff step P t es).mp hrest [] t List.nil_prefix rfl
      have hCs : C s e := hC s e t hs hQs ht hPt
      exact ⟨hCs, ih (hI s e t hs ht) (hQ s e t hs hQs hCs ht) hrest⟩
  · intro h
    have hboth : Always step (fun s ↦ I s ∧ Q s) s es := by
      apply always_of_eachStep step _ es ⟨hs, hQs⟩ h
      exact fun s e t ⟨hs, hQs⟩ hCs ht ↦ ⟨hI s e t hs ht, hQ s e t hs hQs hCs ht⟩
    exact hboth.imp step fun s hs ↦ hQP s hs.2

end NexusEdge.Base
