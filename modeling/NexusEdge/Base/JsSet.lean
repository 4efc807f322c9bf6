import Mathlib.Data.List.Nodup

/-!
# Insertion-ordered sets

Library `Base`. JavaScript's `Set`: distinct elements in insertion order, with
construction from an iterable, `add`, `has`, `delete` and spreading into an array.
-/

namespace NexusEdge.Base

universe u

/-- Distinct elements in insertion order. -/
structure JsSet (α : Type u) where
  toList : List α
  nodup : toList.Nodup

namespace JsSet

variable {α : Type u}

/-- `new Set()`. -/
def empty : JsSet α := ⟨[], List.nodup_nil⟩

/-- The new set has no element. -/
@[simp] theorem toList_empty : (empty : JsSet α).toList = [] := rfl

variable [DecidableEq α]

/-- `s.has(a)`. -/
def has (s : JsSet α) (a : α) : Bool := decide (a ∈ s.toList)

/-- `s.add(a)`: a fresh element is appended. -/
def add (s : JsSet α) (a : α) : JsSet α :=
  if h : a ∈ s.toList then s
  else ⟨s.toList ++ [a], by
    rw [List.nodup_append]
    refine ⟨s.nodup, List.nodup_singleton a, ?_⟩
    intro b hb c hc hbc
    rw [hbc, List.mem_singleton.mp hc] at hb
    exact h hb⟩

/-- `s.delete(a)`. -/
def delete (s : JsSet α) (a : α) : JsSet α :=
  ⟨s.toList.filter (fun b ↦ b ≠ a), List.filter_sublist.nodup s.nodup⟩

/-- `new Set(iterable)` adds the elements in order. -/
def ofList (l : List α) : JsSet α := l.foldl add empty

/-- Membership as reported by `has`. -/
theorem has_iff (s : JsSet α) (a : α) : s.has a ↔ a ∈ s.toList := decide_eq_true_iff

/-- Adding contributes exactly the added element. -/
theorem mem_add (s : JsSet α) (a b : α) : b ∈ (s.add a).toList ↔ b ∈ s.toList ∨ b = a := by
  unfold add
  split
  · next h =>
    constructor
    · exact Or.inl
    · rintro (hb | rfl)
      · exact hb
      · exact h
  · rw [List.mem_append, List.mem_singleton]

/-- Deleting removes exactly the deleted element. -/
theorem mem_delete (s : JsSet α) (a b : α) :
    b ∈ (s.delete a).toList ↔ b ∈ s.toList ∧ b ≠ a := by
  simp [delete]

/-- Adding a list contributes exactly its elements. -/
theorem mem_foldl_add (l : List α) (s : JsSet α) (b : α) :
    b ∈ (l.foldl add s).toList ↔ b ∈ s.toList ∨ b ∈ l := by
  induction l generalizing s with
  | nil => simp
  | cons a l ih => rw [List.foldl_cons, ih, mem_add, List.mem_cons, or_assoc]

/-- Construction keeps exactly the elements of the iterable. -/
theorem mem_ofList (l : List α) (b : α) : b ∈ (ofList l).toList ↔ b ∈ l := by
  rw [ofList, mem_foldl_add, toList_empty]
  simp

/-- Deleting a list removes exactly its elements. -/
theorem mem_foldl_delete (l : List α) (s : JsSet α) (b : α) :
    b ∈ (l.foldl delete s).toList ↔ b ∈ s.toList ∧ b ∉ l := by
  induction l generalizing s with
  | nil => simp
  | cons a l ih =>
    rw [List.foldl_cons, ih, mem_delete, List.mem_cons, not_or, and_assoc]

end JsSet
end NexusEdge.Base
