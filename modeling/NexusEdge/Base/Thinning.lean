import Mathlib.Data.Set.Lattice
import Mathlib.Logic.Function.Basic
import Mathlib.Order.CompletePartialOrder

/-!
# Thinning a family of sets

Library `Base`. Removing from one member of a family what another member holds.
A thinning takes elements away from members but none away from the family; it keeps
members disjoint once they are. Subtracting one member from another separates the two.
-/

namespace NexusEdge.Base

universe u v

variable {ι : Type u} {α : Type v}

/-- `G` keeps every element of the family `F`, in members no larger than before. -/
def Thins (F G : ι → Set α) : Prop :=
  (∀ k, G k ⊆ F k) ∧ ∀ a, (∃ k, a ∈ F k) → ∃ k, a ∈ G k

/-- Every family thins itself. -/
theorem Thins.refl (F : ι → Set α) : Thins F F :=
  ⟨fun _ ↦ subset_rfl, fun _ h ↦ h⟩

/-- Successive thinnings compose. -/
theorem Thins.trans {F G H : ι → Set α} (hFG : Thins F G) (hGH : Thins G H) : Thins F H :=
  ⟨fun k ↦ (hGH.1 k).trans (hFG.1 k), fun a h ↦ hGH.2 a (hFG.2 a h)⟩

/-- Disjoint members stay disjoint. -/
theorem Thins.disjoint {F G : ι → Set α} (h : Thins F G) {i j : ι} (hd : Disjoint (F i) (F j)) :
    Disjoint (G i) (G j) :=
  hd.mono (h.1 i) (h.1 j)

variable [DecidableEq ι]

/-- Member `i` loses what member `j` holds. -/
def shrink (F : ι → Set α) (i j : ι) : ι → Set α := Function.update F i (F i \ F j)

/-- Subtracting another member loses no element of the family. -/
theorem shrink_thins (F : ι → Set α) {i j : ι} (h : i ≠ j) : Thins F (shrink F i j) := by
  constructor
  · intro k
    by_cases hk : k = i
    · subst hk
      rw [shrink, Function.update_self]
      exact Set.sdiff_subset
    · rw [shrink, Function.update_of_ne hk]
  · rintro a ⟨k, hk⟩
    by_cases hj : a ∈ F j
    · exact ⟨j, by rwa [shrink, Function.update_of_ne h.symm]⟩
    · by_cases hi : k = i
      · subst hi
        exact ⟨k, by rw [shrink, Function.update_self]; exact ⟨hk, hj⟩⟩
      · exact ⟨k, by rwa [shrink, Function.update_of_ne hi]⟩

/-- Subtraction separates the two members. -/
theorem shrink_disjoint (F : ι → Set α) {i j : ι} (h : i ≠ j) :
    Disjoint (shrink F i j i) (shrink F i j j) := by
  rw [shrink, Function.update_self, Function.update_of_ne h.symm]
  exact Set.disjoint_sdiff_left

end NexusEdge.Base
