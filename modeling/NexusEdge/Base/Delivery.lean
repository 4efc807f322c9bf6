import Mathlib.Data.List.Perm.Basic

/-!
# Delivery in order

Library `Base`. Items are queued, taken by carriers and delivered. Delivery is in order when
the delivered items are a prefix of the queued ones and the others are carried or pending, in
whatever order and each once.
-/

namespace NexusEdge.Base

universe u v

variable {α : Type u} {κ : Type v}

/-- The delivered items come first, the rest of the queued ones is carried or pending. -/
def InOrder (queued delivered carried pending : List α) : Prop :=
  ∃ rest, queued = delivered ++ rest ∧ rest.Perm (carried ++ pending)

variable {queued delivered carried carried' pending pending' : List α} {a : α}

/-- Nothing was queued yet. -/
theorem inOrder_nil : InOrder ([] : List α) [] [] [] := ⟨[], rfl, List.Perm.refl _⟩

/-- The order of carried and pending items does not matter. -/
theorem inOrder_congr (hc : carried.Perm carried') (hp : pending.Perm pending') :
    InOrder queued delivered carried pending ↔ InOrder queued delivered carried' pending' := by
  have hperm := hc.append hp
  constructor
  · rintro ⟨rest, hq, hr⟩
    exact ⟨rest, hq, hr.trans hperm⟩
  · rintro ⟨rest, hq, hr⟩
    exact ⟨rest, hq, hr.trans hperm.symm⟩

/-- A queued item is pending. -/
theorem InOrder.queue (h : InOrder queued delivered carried pending) (a : α) :
    InOrder (queued ++ [a]) delivered carried (pending ++ [a]) := by
  obtain ⟨rest, hq, hr⟩ := h
  refine ⟨rest ++ [a], ?_, ?_⟩
  · rw [hq, List.append_assoc]
  · rw [← List.append_assoc]
    exact hr.append_right [a]

/-- A pending item is taken by a carrier. -/
theorem InOrder.take (h : InOrder queued delivered carried (a :: pending)) :
    InOrder queued delivered (carried ++ [a]) pending := by
  obtain ⟨rest, hq, hr⟩ := h
  refine ⟨rest, hq, ?_⟩
  rw [List.append_assoc, List.singleton_append]
  exact hr

/-- A carried item cannot be dropped. -/
theorem InOrder.not_drop (h : InOrder queued delivered carried pending)
    (hc : carried.Perm (a :: carried')) : ¬ InOrder queued delivered carried' pending := by
  obtain ⟨rest, rfl, hr⟩ := h
  rintro ⟨rest', hq, hr'⟩
  have hlen := hr.length_eq
  have hlen' := hr'.length_eq
  have hcarried := hc.length_eq
  have heq := congrArg List.length hq
  simp only [List.length_append, List.length_cons] at hlen hlen' hcarried heq
  omega

/-- Delivering a carried item keeps the order exactly if it is the next one due and nothing
pending is lost with it. -/
theorem InOrder.deliver_iff (h : InOrder queued delivered carried pending)
    (hc : carried.Perm (a :: carried')) :
    InOrder queued (delivered ++ [a]) carried' pending' ↔
      queued[delivered.length]? = some a ∧ pending.Perm pending' := by
  obtain ⟨rest, rfl, hr⟩ := h
  rw [List.getElem?_append_right (Nat.le_refl _), Nat.sub_self]
  have hcons : rest.Perm (a :: (carried' ++ pending)) := hr.trans (hc.append_right pending)
  constructor
  · rintro ⟨rest', hq, hr'⟩
    rw [List.append_assoc, List.append_cancel_left_eq] at hq
    subst hq
    have htail := (List.Perm.cons_inv hcons).symm.trans hr'
    exact ⟨rfl, (List.perm_append_left_iff carried').mp htail⟩
  · rintro ⟨hnext, hpending⟩
    cases rest with
    | nil => cases hnext
    | cons b rest =>
      cases hnext
      refine ⟨rest, ?_, ?_⟩
      · rw [List.append_assoc, List.singleton_append]
      · exact (List.Perm.cons_inv hcons).trans (hpending.append_left carried')

section Log

variable [DecidableEq κ]

/-- The items a log holds under a key, in order. -/
def itemsFor (log : List (κ × α)) (key : κ) : List α :=
  log.filterMap fun entry ↦ if entry.1 = key then some entry.2 else none

/-- A new log entry is the last one under its key. -/
theorem itemsFor_append (log : List (κ × α)) (k : κ) (a : α) (key : κ) :
    itemsFor (log ++ [(k, a)]) key = itemsFor log key ++ if k = key then [a] else [] := by
  rw [itemsFor, List.filterMap_append, ← itemsFor]
  split
  · next h => simp [h]
  · next h => simp [h]

end Log
end NexusEdge.Base
