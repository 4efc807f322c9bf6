import Mathlib.Data.Finset.Card
import Mathlib.Data.Set.Finite.Lattice
import Mathlib.Data.Set.Finite.Powerset
import Mathlib.Logic.Function.Basic
import Mathlib.Logic.Relation
import Mathlib.Order.Preorder.Finite

/-!
# Contests between members of a family

Library `Base`. Two members of a family of finite sets contest what they share, and the smaller one
loses it. A set that is held by a member, and that every other member is inside or outside of, is
held from then on. When every member partly overlaps at most one other, contests until all members
are disjoint leave each member with nothing, with all it had, or without what it shared with that
other one; and none of those left with something can be spared.
-/

namespace NexusEdge.Base

universe u v

variable {ι : Type u} {α : Type v}

/-! ### Sets beside each other and sets that overlap -/

/-- Inside or outside of a set. -/
def Beside (A B : Finset α) : Prop := A ⊆ B ∨ Disjoint A B

/-- What shrinks stays inside or outside. -/
theorem Beside.mono {A A' B : Finset α} (h : Beside A B) (hsub : A' ⊆ A) : Beside A' B :=
  h.imp hsub.trans (Disjoint.mono_left hsub)

/-- A loser with more than one side to it would have held the set before. -/
theorem Beside.eq_of_card_le {A B : Finset α} (h : Beside A B) (hcard : B.card ≤ A.card) :
    A = B ∨ Disjoint A B :=
  h.imp_left fun hsub ↦ Finset.eq_of_subset_of_card_le hsub hcard

/-- The sets share something, and each has something else. -/
structure Overlap (A B : Finset α) : Prop where
  shared : ¬ Disjoint A B
  left : ¬ A ⊆ B
  right : ¬ B ⊆ A

/-- Overlap goes both ways. -/
theorem Overlap.symm {A B : Finset α} (h : Overlap A B) : Overlap B A :=
  ⟨fun hd ↦ h.shared hd.symm, h.right, h.left⟩

/-- Sets that do not overlap are inside or outside of each other. -/
theorem beside_of_not_overlap {A B : Finset α} (h : ¬ Overlap A B) (hsub : B ⊆ A → A ⊆ B) :
    Beside A B := by
  by_contra hnot
  rw [Beside, not_or] at hnot
  exact h ⟨hnot.2, hnot.1, fun hba ↦ hnot.1 (hsub hba)⟩

/-! ### Sets that are held -/

/-- A member holds the set, and all are inside or outside of it. -/
structure Held (C : ι → Finset α) (B : Finset α) : Prop where
  holder : ∃ k, C k = B
  beside : ∀ k, Beside (C k) B

/-- When members are disjoint, only the holder of a set has anything of it. -/
theorem eq_holder {C : ι → Finset α} {B : Finset α}
    (hdisjoint : ∀ i j, i ≠ j → Disjoint (C i) (C j)) {k g : ι} (hk : C k = B)
    (hg : ¬ Disjoint (C g) B) : g = k := by
  by_contra hne
  rw [← hk] at hg
  exact hg (hdisjoint g k hne)

/-- When members are disjoint, one that has something, and nothing outside of a set that is held,
holds it. -/
theorem Held.eq_of_subset {C : ι → Finset α} {B : Finset α} (h : Held C B)
    (hdisjoint : ∀ i j, i ≠ j → Disjoint (C i) (C j)) {g : ι} (hg : (C g).Nonempty)
    (hsub : C g ⊆ B) : C g = B := by
  obtain ⟨k, hk⟩ := h.holder
  have hmeets : ¬ Disjoint (C g) B := fun hd ↦ hg.ne_empty (Disjoint.eq_bot_of_le hd hsub)
  rw [eq_holder hdisjoint hk hmeets, hk]

/-- Two overlapping sets are held by members, and all others are inside or outside of both. -/
structure Rivals (C : ι → Finset α) (A B : Finset α) : Prop where
  overlap : Overlap A B
  holders : ∃ t p, t ≠ p ∧ C t = A ∧ C p = B ∧
    ∀ k, k ≠ t → k ≠ p → Beside (C k) A ∧ Beside (C k) B

/-- Either set may come first. -/
theorem Rivals.symm {C : ι → Finset α} {A B : Finset α} (h : Rivals C A B) : Rivals C B A := by
  obtain ⟨t, p, hne, ht, hp, hothers⟩ := h.holders
  exact ⟨h.overlap.symm, p, t, hne.symm, hp, ht, fun k hkp hkt ↦ (hothers k hkt hkp).symm⟩

/-- Every member partly overlaps at most one other. -/
def OverlapsOnce (R : ι → Finset α) : Prop :=
  ∀ g h k, Overlap (R g) (R h) → Overlap (R g) (R k) → h = k

section Largest

variable {R : ι → Finset α}

/-- Within a finite universe, every member is inside of a largest one. -/
theorem exists_largest {U : Finset α} (hU : ∀ k, R k ⊆ U) (g : ι) :
    ∃ t, R g ⊆ R t ∧ ∀ k, R t ⊆ R k → R k ⊆ R t := by
  have hfinite : (Set.range R).Finite := by
    apply (Finset.finite_toSet U.powerset).subset
    rintro _ ⟨k, rfl⟩
    exact Finset.mem_coe.mpr (Finset.mem_powerset.mpr (hU k))
  obtain ⟨_, hle, ⟨t, rfl⟩, hmax⟩ := hfinite.exists_le_maximal (Set.mem_range_self g)
  exact ⟨t, hle, fun k hk ↦ hmax (Set.mem_range_self k) hk⟩

/-- A largest member that overlaps no other is held. -/
theorem held_of_largest {t : ι} (hmax : ∀ k, R t ⊆ R k → R k ⊆ R t)
    (halone : ∀ k, ¬ Overlap (R t) (R k)) : Held R (R t) :=
  ⟨⟨t, rfl⟩, fun k ↦ beside_of_not_overlap (fun h ↦ halone k h.symm) (hmax k)⟩

/-- A largest member and the one it overlaps are rivals. -/
theorem rivals_of_largest (honce : OverlapsOnce R) {t p : ι}
    (hmax : ∀ k, R t ⊆ R k → R k ⊆ R t) (hoverlap : Overlap (R t) (R p)) :
    Rivals R (R t) (R p) := by
  have hne : t ≠ p := by
    rintro rfl
    exact hoverlap.left Finset.Subset.rfl
  refine ⟨hoverlap, t, p, hne, rfl, rfl, fun k hkt hkp ↦ ⟨?_, ?_⟩⟩
  · exact beside_of_not_overlap (fun h ↦ hkp (honce t k p h.symm hoverlap)) (hmax k)
  · apply beside_of_not_overlap fun h ↦ hkt (honce p k t h.symm hoverlap.symm)
    intro hpk
    -- What contains the rival meets the largest member, and is not inside of it.
    have hnot : ¬ Overlap (R t) (R k) := fun h ↦ hkp (honce t k p h hoverlap)
    by_contra hkp'
    apply hnot
    refine ⟨fun hd ↦ hoverlap.shared (hd.mono_right hpk), fun htk ↦ ?_, fun hkt' ↦ ?_⟩
    · exact hoverlap.right (hpk.trans (hmax k htk))
    · exact hoverlap.right (hpk.trans hkt')

end Largest

section Difference

variable [DecidableEq α]

/-- A set is inside or outside of a difference if it is of both sets. -/
theorem Beside.sdiff {C A B : Finset α} (hA : Beside C A) (hB : Beside C B) :
    Beside C (A \ B) := by
  rcases hB with hB | hB
  · exact Or.inr (Disjoint.mono_left hB Finset.disjoint_sdiff)
  · rcases hA with hA | hA
    · exact Or.inl (Finset.subset_sdiff.mpr ⟨hA, hB⟩)
    · exact Or.inr (Disjoint.mono_right Finset.sdiff_subset hA)

/-- Two rivals, or one of them has lost what they share. -/
def Settling (C : ι → Finset α) (A B : Finset α) : Prop :=
  Rivals C A B ∨ (Held C B ∧ Held C (A \ B)) ∨ (Held C A ∧ Held C (B \ A))

/-- Either set may come first. -/
theorem Settling.symm {C : ι → Finset α} {A B : Finset α} (h : Settling C A B) :
    Settling C B A := by
  rcases h with h | h | h
  · exact Or.inl h.symm
  · exact Or.inr (Or.inr h)
  · exact Or.inr (Or.inl h)

end Difference

/-! ### Contests -/

variable [DecidableEq ι] [DecidableEq α]

/-- The smaller of two members loses what the other one holds. -/
def contest (C : ι → Finset α) (i j : ι) : ι → Finset α :=
  if (C i).card ≤ (C j).card then Function.update C i (C i \ C j)
  else Function.update C j (C j \ C i)

/-- After some contests between different members. -/
def Contested : (ι → Finset α) → (ι → Finset α) → Prop :=
  Relation.ReflTransGen fun C D ↦ ∃ i j, i ≠ j ∧ D = contest C i j

/-- One of the members loses, to another one that is not smaller. -/
theorem contest_cases (C : ι → Finset α) {i j : ι} (h : i ≠ j) :
    ∃ l w, l ≠ w ∧ (C l).card ≤ (C w).card ∧
      contest C i j = Function.update C l (C l \ C w) := by
  unfold contest
  split
  · next hle => exact ⟨i, j, h, hle, rfl⟩
  · next hlt => exact ⟨j, i, h.symm, (Nat.lt_of_not_le hlt).le, rfl⟩

/-- Members only shrink. -/
theorem update_sdiff_subset (C : ι → Finset α) (l w k : ι) :
    Function.update C l (C l \ C w) k ⊆ C k := by
  by_cases hk : k = l
  · rw [hk, Function.update_self]
    exact Finset.sdiff_subset
  · rw [Function.update_of_ne hk]

/-- A set that is held stays held; if its holder loses to a member that is as large inside, then to
one that holds it too. -/
theorem Held.update {C : ι → Finset α} {B : Finset α} (h : Held C B) {l w : ι} (hlw : l ≠ w)
    (hcard : (C l).card ≤ (C w).card) : Held (Function.update C l (C l \ C w)) B := by
  refine ⟨?_, fun k ↦ (h.beside k).mono (update_sdiff_subset C l w k)⟩
  obtain ⟨k, hk⟩ := h.holder
  by_cases hkl : k = l
  · rw [← hkl, hk] at hcard
    rcases (h.beside w).eq_of_card_le hcard with hheld | hdisjoint
    · exact ⟨w, by rw [Function.update_of_ne hlw.symm, hheld]⟩
    · refine ⟨l, ?_⟩
      rw [Function.update_self, ← hkl, hk]
      exact Finset.sdiff_eq_self_of_disjoint hdisjoint.symm
  · exact ⟨k, by rw [Function.update_of_ne hkl, hk]⟩

/-- If the holder of the first set loses to that of the second, both what is left and the second
set are held. -/
theorem held_of_loss {C : ι → Finset α} {A B : Finset α} {t p : ι} (hne : t ≠ p) (ht : C t = A)
    (hp : C p = B) (hothers : ∀ k, k ≠ t → k ≠ p → Beside (C k) A ∧ Beside (C k) B) :
    Held (Function.update C t (C t \ C p)) B ∧
      Held (Function.update C t (C t \ C p)) (A \ B) := by
  have hlost : Function.update C t (C t \ C p) t = A \ B := by
    rw [Function.update_self, ht, hp]
  have hkept : Function.update C t (C t \ C p) p = B := by
    rw [Function.update_of_ne hne.symm, hp]
  constructor
  · refine ⟨⟨p, hkept⟩, fun k ↦ ?_⟩
    by_cases hkt : k = t
    · rw [hkt, hlost]
      exact Or.inr Finset.sdiff_disjoint
    · by_cases hkp : k = p
      · rw [hkp, hkept]
        exact Or.inl Finset.Subset.rfl
      · rw [Function.update_of_ne hkt]
        exact (hothers k hkt hkp).2
  · refine ⟨⟨t, hlost⟩, fun k ↦ ?_⟩
    by_cases hkt : k = t
    · rw [hkt, hlost]
      exact Or.inl Finset.Subset.rfl
    · by_cases hkp : k = p
      · rw [hkp, hkept]
        exact Or.inr Finset.disjoint_sdiff
      · rw [Function.update_of_ne hkt]
        exact (hothers k hkt hkp).1.sdiff (hothers k hkt hkp).2

/-- To any other member that is not smaller, the holder of one of two overlapping sets loses
nothing. -/
theorem update_eq_of_overlap {C : ι → Finset α} {A B : Finset α} {t w : ι}
    (hoverlap : Overlap A B) (ht : C t = A) (hw : Beside (C w) A ∧ Beside (C w) B)
    (hcard : (C t).card ≤ (C w).card) : Function.update C t (C t \ C w) = C := by
  rw [ht] at hcard
  -- A member as large inside the set would be the set, which is not beside the other one.
  have hdisjoint : Disjoint (C w) A := by
    refine (hw.1.eq_of_card_le hcard).resolve_left fun heq ↦ ?_
    have hB := hw.2
    rw [heq] at hB
    rcases hB with hsub | hdisjoint
    · exact hoverlap.left hsub
    · exact hoverlap.shared hdisjoint
  rw [ht, Finset.sdiff_eq_self_of_disjoint hdisjoint.symm, ← ht, Function.update_eq_self]

/-- The holder of the first set loses to the other one, or loses nothing. -/
theorem settling_of_loss {C : ι → Finset α} {A B : Finset α} {t p w : ι}
    (hoverlap : Overlap A B) (hne : t ≠ p) (ht : C t = A) (hp : C p = B)
    (hothers : ∀ k, k ≠ t → k ≠ p → Beside (C k) A ∧ Beside (C k) B) (htw : t ≠ w)
    (hcard : (C t).card ≤ (C w).card) :
    Settling (Function.update C t (C t \ C w)) A B := by
  by_cases hw : w = p
  · rw [hw]
    exact Or.inr (Or.inl (held_of_loss hne ht hp hothers))
  · rw [update_eq_of_overlap hoverlap ht (hothers w htw.symm hw) hcard]
    exact Or.inl ⟨hoverlap, t, p, hne, ht, hp, hothers⟩

/-- Further contests keep this. -/
theorem Settling.update {C : ι → Finset α} {A B : Finset α} (h : Settling C A B) {l w : ι}
    (hlw : l ≠ w) (hcard : (C l).card ≤ (C w).card) :
    Settling (Function.update C l (C l \ C w)) A B := by
  rcases h with h | ⟨hB, hA⟩ | ⟨hA, hB⟩
  · obtain ⟨t, p, hne, ht, hp, hothers⟩ := h.holders
    by_cases hlt : l = t
    · subst hlt
      exact settling_of_loss h.overlap hne ht hp hothers hlw hcard
    · by_cases hlp : l = p
      · subst hlp
        apply Settling.symm
        exact settling_of_loss h.overlap.symm hne.symm hp ht
          (fun k hkp hkt ↦ (hothers k hkt hkp).symm) hlw hcard
      · refine Or.inl ⟨h.overlap, t, p, hne, ?_, ?_, fun k hkt hkp ↦ ?_⟩
        · rw [Function.update_of_ne (Ne.symm hlt), ht]
        · rw [Function.update_of_ne (Ne.symm hlp), hp]
        · obtain ⟨hA, hB⟩ := hothers k hkt hkp
          exact ⟨hA.mono (update_sdiff_subset C l w k), hB.mono (update_sdiff_subset C l w k)⟩
  · exact Or.inr (Or.inl ⟨hB.update hlw hcard, hA.update hlw hcard⟩)
  · exact Or.inr (Or.inr ⟨hA.update hlw hcard, hB.update hlw hcard⟩)

/-- What every contest keeps is kept. -/
theorem Contested.invariant {P : (ι → Finset α) → Prop}
    (hP : ∀ C l w, l ≠ w → (C l).card ≤ (C w).card → P C → P (Function.update C l (C l \ C w)))
    {R F : ι → Finset α} (h : Contested R F) (hR : P R) : P F := by
  induction h with
  | refl => exact hR
  | @tail C D _ hstep ih =>
    obtain ⟨i, j, hij, hD⟩ := hstep
    obtain ⟨l, w, hlw, hcard, heq⟩ := contest_cases C hij
    rw [hD, heq]
    exact hP C l w hlw hcard ih

/-- Members only shrink. -/
theorem Contested.subset {R F : ι → Finset α} (h : Contested R F) (k : ι) : F k ⊆ R k :=
  h.invariant (P := fun C : ι → Finset α ↦ C k ⊆ R k)
    (fun C l w _ _ hC ↦ (update_sdiff_subset C l w k).trans hC) Finset.Subset.rfl

/-! ### Contests until all members are disjoint -/

section Final

variable {R F : ι → Finset α}

/-- If a largest member has lost what it shared with its rival, then whoever is left with something
inside of it has all it had, or is that member. -/
theorem Contested.kept_of_loss (h : Contested R F)
    (hdisjoint : ∀ i j, i ≠ j → Disjoint (F i) (F j)) (honce : OverlapsOnce R) {t p : ι}
    (hmax : ∀ k, R t ⊆ R k → R k ⊆ R t) (hoverlap : Overlap (R t) (R p)) (hp : Held F (R p))
    (htp : Held F (R t \ R p)) {g : ι} (hg : (F g).Nonempty) (hgt : R g ⊆ R t) :
    F g = R g ∨ ∃ p, Overlap (R g) (R p) ∧ F g = R g \ R p ∧ F p = R p := by
  -- The holder of the rival set is the rival: it is not inside of the largest member.
  have hkept : F p = R p := by
    obtain ⟨k, hk⟩ := hp.holder
    have hsub : R p ⊆ R k := hk ▸ h.subset k
    have hkp : k = p := by
      apply honce t k p ⟨?_, ?_, ?_⟩ hoverlap
      · exact fun hd ↦ hoverlap.shared (hd.mono_right hsub)
      · exact fun htk ↦ hoverlap.right (hsub.trans (hmax k htk))
      · exact fun hkt ↦ hoverlap.right (hsub.trans hkt)
    rw [hkp] at hk
    exact hk
  have hgp : Disjoint (F g) (R p) := by
    by_contra hmeets
    have hsame := eq_holder hdisjoint hkept hmeets
    rw [hsame] at hgt
    exact hoverlap.right hgt
  have hcut : F g = R t \ R p := htp.eq_of_subset hdisjoint hg
    (Finset.subset_sdiff.mpr ⟨(h.subset g).trans hgt, hgp⟩)
  by_cases hmeets : Disjoint (R g) (R p)
  · left
    apply (h.subset g).antisymm
    rw [hcut]
    exact Finset.subset_sdiff.mpr ⟨hgt, hmeets⟩
  · right
    have hgoverlap : Overlap (R g) (R p) := by
      refine ⟨hmeets, fun hsub ↦ ?_, fun hsub ↦ hoverlap.right (hsub.trans hgt)⟩
      exact hg.ne_empty (Disjoint.eq_bot_of_le hgp ((h.subset g).trans hsub))
    rw [honce p g t hgoverlap.symm hoverlap.symm] at hcut ⊢
    exact ⟨p, hoverlap, hcut, hkept⟩

/-- In the end every member has nothing, or all it had, or all but what it shared with another one
that has all it had. -/
theorem Contested.kept (h : Contested R F) (hdisjoint : ∀ i j, i ≠ j → Disjoint (F i) (F j))
    {U : Finset α} (hU : ∀ k, R k ⊆ U) (honce : OverlapsOnce R) {g : ι} (hg : (F g).Nonempty) :
    F g = R g ∨ ∃ p, Overlap (R g) (R p) ∧ F g = R g \ R p ∧ F p = R p := by
  obtain ⟨t, hgt, hmax⟩ := exists_largest hU g
  have hfull : Held F (R t) → F g = R g := by
    intro hheld
    have hall := hheld.eq_of_subset hdisjoint hg ((h.subset g).trans hgt)
    exact (h.subset g).antisymm (hall ▸ hgt)
  by_cases halone : ∃ p, Overlap (R t) (R p)
  · obtain ⟨p, hoverlap⟩ := halone
    have hsettling : Settling F (R t) (R p) :=
      h.invariant (P := fun C ↦ Settling C (R t) (R p))
        (fun C l w hlw hcard hC ↦ hC.update hlw hcard)
        (Or.inl (rivals_of_largest honce hmax hoverlap))
    rcases hsettling with hrivals | ⟨hp, htp⟩ | ⟨ht, _⟩
    · obtain ⟨t', p', hne, ht, hp, _⟩ := hrivals.holders
      have hd := hdisjoint t' p' hne
      rw [ht, hp] at hd
      exact absurd hd hoverlap.shared
    · exact h.kept_of_loss hdisjoint honce hmax hoverlap hp htp hg hgt
    · exact Or.inl (hfull ht)
  · left
    apply hfull
    exact h.invariant (P := fun C ↦ Held C (R t)) (fun C l w hlw hcard hC ↦ hC.update hlw hcard)
      (held_of_largest hmax fun k hk ↦ halone ⟨k, hk⟩)

/-- What a member is left with is not all to be found among what the others that are left with
something had. -/
theorem Contested.exists_needed (h : Contested R F)
    (hdisjoint : ∀ i j, i ≠ j → Disjoint (F i) (F j)) {U : Finset α} (hU : ∀ k, R k ⊆ U)
    (honce : OverlapsOnce R) {g : ι} (hg : (F g).Nonempty) :
    ∃ a ∈ F g, ∀ k, k ≠ g → (F k).Nonempty → a ∉ R k := by
  by_contra hall
  push Not at hall
  -- Who had an element of the member lost it to the member, which then lost nothing itself.
  have hlost : ∀ a ∈ F g, ∃ k, Overlap (R k) (R g) ∧ a ∈ R k ∧ F g = R g := by
    intro a ha
    obtain ⟨k, hkg, hk, hak⟩ := hall a ha
    have hnot : a ∉ F k := fun hmem ↦ Finset.disjoint_left.mp (hdisjoint k g hkg) hmem ha
    rcases h.kept hdisjoint hU honce hk with hfull | ⟨p, hoverlap, hcut, hp⟩
    · rw [hfull] at hnot
      exact absurd hak hnot
    · have hap : a ∈ F p := by
        rw [hcut, Finset.mem_sdiff, not_and, not_not] at hnot
        rw [hp]
        exact hnot hak
      have hpg : p = g := by
        by_contra hne
        exact Finset.disjoint_left.mp (hdisjoint p g hne) hap ha
      subst hpg
      exact ⟨k, hoverlap, hak, hp⟩
  obtain ⟨a, ha⟩ := hg
  obtain ⟨k, hoverlap, _, hfull⟩ := hlost a ha
  apply hoverlap.right
  intro b hb
  rw [← hfull] at hb
  obtain ⟨k', hoverlap', hbk, _⟩ := hlost b hb
  rw [honce g k k' hoverlap.symm hoverlap'.symm]
  exact hbk

end Final

end NexusEdge.Base
