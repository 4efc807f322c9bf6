import Mathlib.Data.List.Basic

/-!
# Promises

Library `Base`. What a promise has come to. The first call of its functions settles it, later ones
do nothing. `all` is rejected with the first rejection, fulfilled when all are, and stays pending
otherwise. Promises that are kept in a list are resolved by their numbers.
-/

namespace NexusEdge.Base

universe u v w

/-- A promise that is settled or not. -/
inductive PromiseState (ε : Type u) (α : Type v) where
  | pending
  | fulfilled (value : α)
  | rejected (reason : ε)
  deriving DecidableEq

namespace PromiseState

variable {ε : Type u} {α : Type v} {β : Type w}

/-- Neither resolved nor rejected. -/
def isPending : PromiseState ε α → Bool
  | pending => true
  | _ => false

/-- `resolve(value)`. -/
def resolve (p : PromiseState ε α) (value : α) : PromiseState ε α :=
  match p with
  | pending => fulfilled value
  | p => p

/-- `reject(reason)`. -/
def reject (p : PromiseState ε α) (reason : ε) : PromiseState ε α :=
  match p with
  | pending => rejected reason
  | p => p

/-- What is made of the value that is awaited. -/
def map (f : α → β) : PromiseState ε α → PromiseState ε β
  | pending => pending
  | fulfilled value => fulfilled (f value)
  | rejected reason => rejected reason

/-- A rejection is caught, and the value returned instead. -/
def recover (p : PromiseState ε α) (value : α) : PromiseState ε α :=
  match p with
  | rejected _ => fulfilled value
  | p => p

/-- A promise before those that follow it, in `Promise.all`. -/
def andAlso (p : PromiseState ε α) (ps : PromiseState ε (List α)) : PromiseState ε (List α) :=
  match p, ps with
  | rejected reason, _ => rejected reason
  | pending, rejected reason => rejected reason
  | pending, _ => pending
  | fulfilled value, ps => ps.map (value :: ·)

/-- `Promise.all(promises)`, of promises that are settled in their order or not at all. -/
def all : List (PromiseState ε α) → PromiseState ε (List α)
  | [] => fulfilled []
  | p :: ps => p.andAlso (all ps)

/-- A settled promise stays as it is. -/
theorem resolve_of_ne_pending {p : PromiseState ε α} (h : p ≠ pending) (value : α) :
    p.resolve value = p := by
  cases p with
  | pending => exact absurd rfl h
  | fulfilled other => rfl
  | rejected reason => rfl

/-- It cannot be rejected any more. -/
theorem reject_of_ne_pending {p : PromiseState ε α} (h : p ≠ pending) (reason : ε) :
    p.reject reason = p := by
  cases p with
  | pending => exact absurd rfl h
  | fulfilled value => rfl
  | rejected other => rfl

/-- After `resolve` a promise is settled. -/
theorem resolve_ne_pending (p : PromiseState ε α) (value : α) : p.resolve value ≠ pending := by
  cases p <;> nofun

/-- All are fulfilled exactly if each is. -/
theorem all_eq_fulfilled_iff {ps : List (PromiseState ε α)} {values : List α} :
    all ps = fulfilled values ↔ ps = values.map fulfilled := by
  induction ps generalizing values with
  | nil =>
    rw [all, fulfilled.injEq, eq_comm, eq_comm (a := []), List.map_eq_nil_iff]
  | cons p ps ih =>
    rw [all]
    cases p with
    | pending =>
      constructor
      · intro h
        cases hps : all ps <;> rw [hps] at h <;> cases h
      · intro h
        cases values <;> cases h
    | rejected reason =>
      constructor
      · intro h
        cases h
      · intro h
        cases values <;> cases h
    | fulfilled value =>
      cases values with
      | nil =>
        constructor
        · intro h
          cases hps : all ps <;> rw [hps] at h <;> cases h
        · intro h
          cases h
      | cons other values =>
        rw [List.map_cons, List.cons.injEq, fulfilled.injEq, ← ih]
        cases hps : all ps <;> simp [andAlso, map]

/-- All are rejected exactly if one is. -/
theorem exists_all_eq_rejected_iff {ps : List (PromiseState ε α)} :
    (∃ reason, all ps = rejected reason) ↔ ∃ reason, rejected reason ∈ ps := by
  induction ps with
  | nil => simp [all]
  | cons p ps ih =>
    rw [all]
    cases p with
    | rejected reason => simp [andAlso]
    | pending =>
      simp only [List.mem_cons, reduceCtorEq, false_or, ← ih]
      cases all ps <;> simp [andAlso]
    | fulfilled value =>
      simp only [List.mem_cons, reduceCtorEq, false_or, ← ih]
      cases all ps <;> simp [andAlso, map]

/-! ### Numbered promises -/

/-- The promise with the number is resolved. -/
def resolveAt (value : α) (ps : List (PromiseState ε α)) (i : Nat) : List (PromiseState ε α) :=
  ps.modify i (·.resolve value)

/-- The promise with the number is rejected. -/
def rejectAt (reason : ε) (ps : List (PromiseState ε α)) (i : Nat) : List (PromiseState ε α) :=
  ps.modify i (·.reject reason)

@[simp] theorem length_resolveAt (value : α) (ps : List (PromiseState ε α)) (i : Nat) :
    (resolveAt value ps i).length = ps.length := List.length_modify ..

/-- The last promise is resolved. -/
theorem resolveAt_length (value : α) (ps : List (PromiseState ε α)) :
    resolveAt value (ps ++ [pending]) ps.length = ps ++ [fulfilled value] := by
  induction ps with
  | nil => rfl
  | cons p ps ih =>
    rw [resolveAt, List.length_cons, List.cons_append, List.modify_succ_cons]
    exact congrArg (p :: ·) ih

/-- Rejecting changes nothing where all promises are settled. -/
theorem rejectAt_of_settled {ps : List (PromiseState ε α)} (h : ∀ p ∈ ps, p ≠ pending) (reason : ε)
    (i : Nat) : rejectAt reason ps i = ps := by
  apply List.ext_getElem?
  intro j
  rw [rejectAt, List.getElem?_modify]
  cases hp : ps[j]? with
  | none => rfl
  | some p =>
    have hne := h p (List.mem_of_getElem? hp)
    rw [Option.map_eq_map, Option.map_some]
    split
    · rw [reject_of_ne_pending hne]
    · rfl

/-- Resolving twice is resolving once. -/
theorem resolve_resolve (p : PromiseState ε α) (value : α) :
    (p.resolve value).resolve value = p.resolve value :=
  resolve_of_ne_pending (p.resolve_ne_pending value) value

/-- Resolving one after the other changes none but these. -/
theorem getElem?_foldl_resolveAt (value : α) (numbers : List Nat) (ps : List (PromiseState ε α))
    (i : Nat) :
    (numbers.foldl (resolveAt value) ps)[i]? =
      ps[i]?.map fun p ↦ if i ∈ numbers then p.resolve value else p := by
  induction numbers generalizing ps with
  | nil => simp
  | cons j numbers ih =>
    rw [List.foldl_cons, ih, resolveAt, List.getElem?_modify, Option.map_eq_map, Option.map_map]
    congr 1
    funext p
    by_cases hj : j = i
    · subst hj
      by_cases hmem : j ∈ numbers
      · simp [hmem, resolve_resolve]
      · simp [hmem]
    · have hne : i ≠ j := Ne.symm hj
      simp [hj, hne]

/-- None is added or lost. -/
theorem length_foldl_resolveAt (value : α) (numbers : List Nat) (ps : List (PromiseState ε α)) :
    (numbers.foldl (resolveAt value) ps).length = ps.length := by
  induction numbers generalizing ps with
  | nil => rfl
  | cons j numbers ih => rw [List.foldl_cons, ih, length_resolveAt]

/-- All that are pending are resolved where every number is listed. -/
theorem fulfilled_of_mem_foldl_resolveAt {value : α} {numbers : List Nat}
    {ps : List (PromiseState ε α)} (hnumbers : ∀ i < ps.length, i ∈ numbers)
    (hps : ∀ p ∈ ps, p = pending ∨ p = fulfilled value) :
    ∀ p ∈ numbers.foldl (resolveAt value) ps, p = fulfilled value := by
  intro p hp
  obtain ⟨i, hi⟩ := List.mem_iff_getElem?.mp hp
  rw [getElem?_foldl_resolveAt, Option.map_eq_some_iff] at hi
  obtain ⟨q, hq, rfl⟩ := hi
  have hlt : i < ps.length := (List.getElem?_eq_some_iff.mp hq).1
  rw [if_pos (hnumbers i hlt)]
  rcases hps q (List.mem_of_getElem? hq) with rfl | rfl <;> rfl

end PromiseState
end NexusEdge.Base
