import Mathlib.Data.List.MinMax
import Mathlib.Data.List.Nodup
import Mathlib.Data.List.Perm.Basic

/-!
# Arrays

Library `Base`. `reduce` without an initial value and removal of one element by index, over
lists. Reducing with a choice between two elements by a key yields the first element of the
greatest key. Removing by an index that was looked up earlier removes the element meant only
if it still stands there.
-/

namespace NexusEdge.Base

universe u v

variable {α : Type u} {β : Type v}

/-- `array.reduce(f)`; an empty array throws. -/
def reduce (f : α → α → α) : List α → Option α
  | [] => none
  | a :: l => some (l.foldl f a)

/-- `array.splice(index, 1)`. -/
def spliceOne (l : List α) (index : Nat) : List α := l.eraseIdx index

section Key

variable [LinearOrder β] {f : α → α → α} {key : α → β}

private theorem foldl_choose (hf : ∀ a b, f a b = if key b ≤ key a then a else b) (l : List α)
    (a : α) : some (l.foldl f a) = l.foldl (List.argAux fun b c ↦ key c < key b) (some a) := by
  induction l generalizing a with
  | nil => rfl
  | cons b l ih =>
    rw [List.foldl_cons, List.foldl_cons, ih, hf]
    by_cases h : key b ≤ key a
    · simp only [List.argAux, if_pos h, if_neg (not_lt.mpr h)]
    · simp only [List.argAux, if_neg h, if_pos (not_le.mp h)]

/-- Keeping the first of two elements unless the second has a greater key reduces to the
first element of the greatest key. -/
theorem reduce_eq_argmax (hf : ∀ a b, f a b = if key b ≤ key a then a else b) (l : List α) :
    reduce f l = l.argmax key := by
  cases l with
  | nil => rfl
  | cons a l => exact foldl_choose hf l a

/-- Elements before the chosen one have smaller keys, those after it no greater ones. -/
theorem argmax_split [DecidableEq α] {l : List α} {m : α} (h : l.argmax key = some m) :
    ∃ before after, l = before ++ m :: after ∧ (∀ a ∈ before, key a < key m) ∧
      ∀ a ∈ after, key a ≤ key m := by
  obtain ⟨hm, hmax, hfirst⟩ := List.mem_argmax_iff.mp h
  obtain ⟨before, after, rfl, hnot⟩ := List.eq_append_cons_of_mem hm
  refine ⟨before, after, rfl, fun a ha ↦ ?_, fun a ha ↦ ?_⟩
  · have hmem : a ∈ before ++ m :: after := List.mem_append_left _ ha
    rcases (hmax a hmem).lt_or_eq with hlt | heq
    · exact hlt
    · have hidx := hfirst a hmem heq.ge
      have hbefore : before.idxOf a < before.length := List.idxOf_lt_length_of_mem ha
      rw [List.idxOf_append_of_notMem hnot, List.idxOf_append_of_mem ha] at hidx
      omega
  · exact hmax a (List.mem_append_right _ (List.mem_cons_of_mem m ha))

end Key

/-- An element taken out by its index, and the others. -/
theorem perm_cons_eraseIdx {l : List α} {k : Nat} {a : α} (h : l[k]? = some a) :
    l.Perm (a :: l.eraseIdx k) := by
  obtain ⟨hlt, rfl⟩ := List.getElem?_eq_some_iff.mp h
  exact (List.getElem_cons_eraseIdx_perm hlt).symm

/-- An element taken out by its key, and the others. -/
theorem perm_cons_filter_key [DecidableEq β] {key : α → β} {l : List α} (hl : (l.map key).Nodup)
    {a : α} (ha : a ∈ l) : l.Perm (a :: l.filter (fun b ↦ key b ≠ key a)) := by
  induction l with
  | nil => cases ha
  | cons b l ih =>
    rw [List.map_cons, List.nodup_cons] at hl
    rcases List.mem_cons.mp ha with rfl | ha
    · have hrest : l.filter (fun b ↦ key b ≠ key a) = l := by
        rw [List.filter_eq_self]
        intro c hc
        exact decide_eq_true fun heq ↦ hl.1 (heq ▸ List.mem_map_of_mem hc)
      rw [List.filter_cons_of_neg (by simp), hrest]
    · have hne : key b ≠ key a := fun heq ↦ hl.1 (heq ▸ List.mem_map_of_mem ha)
      rw [List.filter_cons_of_pos (by simpa using hne)]
      exact ((ih hl.2 ha).cons b).trans (List.Perm.swap a b _)

/-- Removing by index removes one element and no other exactly if it stands at the index, or
if it is absent and so is the index. -/
theorem spliceOne_eq_filter_iff [DecidableEq α] {l : List α} (hl : l.Nodup) (index : Nat) (a : α) :
    spliceOne l index = l.filter (· ≠ a) ↔
      l[index]? = some a ∨ a ∉ l ∧ l.length ≤ index := by
  have herase : l.filter (· ≠ a) = l.erase a := by
    rw [hl.erase_eq_filter]
    apply List.filter_congr
    intro b _
    exact Bool.eq_iff_iff.mpr (by simp)
  rw [herase, spliceOne]
  rcases Nat.lt_or_ge index l.length with hlt | hge
  · rw [← hl.erase_getElem index hlt, List.getElem?_eq_getElem hlt]
    constructor
    · intro heq
      have hnot : l[index] ∉ l.erase a := heq ▸ hl.not_mem_erase
      rw [hl.mem_erase_iff, not_and_or] at hnot
      rcases hnot with h | h
      · exact Or.inl (congrArg some (not_not.mp h))
      · exact False.elim (h (List.getElem_mem hlt))
    · rintro (h | ⟨_, hge⟩)
      · rw [Option.some.inj h]
      · omega
  · rw [List.eraseIdx_of_length_le hge, List.getElem?_eq_none hge]
    constructor
    · intro heq
      exact Or.inr ⟨fun hmem ↦ hl.not_mem_erase (heq ▸ hmem), hge⟩
    · rintro (h | ⟨hmem, _⟩)
      · cases h
      · rw [List.erase_of_not_mem hmem]

end NexusEdge.Base
