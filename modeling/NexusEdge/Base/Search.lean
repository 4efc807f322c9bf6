import Mathlib.Data.List.Nodup
import Mathlib.Data.List.Infix
import Mathlib.Data.List.Perm.Subperm
import NexusEdge.Base.JsSet
import NexusEdge.Base.Loop

/-!
# Breadth-first search

Library `Base`. A search keeps a first-in first-out queue of nodes and the set of keys it
has discovered; nodes are told apart by their keys. The nodes dequeued so far and those
still queued are together the first nodes with each key in the list of the root and the
successors of the dequeued nodes. From this equation follow the order of the search, its
completeness and its bound.
-/

namespace NexusEdge.Base

universe u v

variable {α : Type u} {κ : Type v} [DecidableEq κ] (key : α → κ)

/-! ### First nodes of each key -/

/-- Append a node whose key is new. -/
def insertNew (l : List α) (a : α) : List α := if key a ∈ l.map key then l else l ++ [a]

/-- The first node with each key, in order. -/
def firsts (l : List α) : List α := l.foldl (insertNew key) []

/-- Insertion only appends. -/
theorem prefix_foldl_insertNew (m l : List α) : l <+: m.foldl (insertNew key) l := by
  apply foldl_invariant m (P := fun l' ↦ l <+: l') _ l List.prefix_rfl
  intro a _ l' h
  unfold insertNew
  split
  · exact h
  · exact h.trans (List.prefix_append l' [a])

/-- Keys stay distinct. -/
theorem nodup_foldl_insertNew (m : List α) {l : List α} (hl : (l.map key).Nodup) :
    ((m.foldl (insertNew key) l).map key).Nodup := by
  apply foldl_invariant m (P := fun l ↦ (l.map key).Nodup) _ l hl
  intro a _ l h
  unfold insertNew
  split
  · exact h
  · next hnew =>
    rw [List.map_append, List.map_singleton, List.nodup_append]
    refine ⟨h, List.nodup_singleton _, ?_⟩
    intro k hk k' hk' heq
    rw [heq, List.mem_singleton.mp hk'] at hk
    exact hnew hk

/-- Insertion adds exactly the keys of the inserted nodes. -/
theorem mem_keys_foldl_insertNew (m l : List α) (k : κ) :
    k ∈ (m.foldl (insertNew key) l).map key ↔ k ∈ l.map key ∨ k ∈ m.map key := by
  rw [foldl_iff_exists (P := fun l : List α ↦ k ∈ l.map key) (Q := fun a ↦ key a = k)]
  · rw [List.mem_map (l := m)]
  · intro l a
    unfold insertNew
    split
    · next h =>
      constructor
      · exact Or.inl
      · rintro (hk | rfl)
        · exact hk
        · exact h
    · rw [List.map_append, List.mem_append, List.map_singleton, List.mem_singleton, eq_comm]

/-- A node of the result was there or was inserted under a key that was not. -/
theorem mem_foldl_insertNew (m : List α) {l : List α} {a : α}
    (h : a ∈ m.foldl (insertNew key) l) : a ∈ l ∨ (a ∈ m ∧ key a ∉ l.map key) := by
  induction m generalizing l with
  | nil => exact Or.inl h
  | cons b m ih =>
    rw [List.foldl_cons] at h
    rcases ih h with hl | ⟨hm, hkey⟩
    · unfold insertNew at hl
      split at hl
      · exact Or.inl hl
      · next hnew =>
        rcases List.mem_append.mp hl with hl | hb
        · exact Or.inl hl
        · rw [List.mem_singleton.mp hb]
          exact Or.inr ⟨List.mem_cons_self, hnew⟩
    · refine Or.inr ⟨List.mem_cons_of_mem b hm, fun hin ↦ hkey ?_⟩
      exact ((prefix_foldl_insertNew key [b] l).map key).subset hin

/-- The first nodes of a longer list extend those of a shorter one. -/
theorem firsts_append (l m : List α) : firsts key (l ++ m) = m.foldl (insertNew key) (firsts key l) := by
  rw [firsts, List.foldl_append, firsts]

/-- The first nodes of a prefix are a prefix. -/
theorem firsts_prefix {l m : List α} (h : l <+: m) : firsts key l <+: firsts key m := by
  obtain ⟨rest, rfl⟩ := h
  rw [firsts_append]
  exact prefix_foldl_insertNew key rest _

/-- The first nodes carry distinct keys. -/
theorem nodup_firsts (l : List α) : ((firsts key l).map key).Nodup :=
  nodup_foldl_insertNew key l List.nodup_nil

/-- The first nodes carry all keys. -/
theorem mem_keys_firsts (l : List α) (k : κ) : k ∈ (firsts key l).map key ↔ k ∈ l.map key := by
  rw [firsts, mem_keys_foldl_insertNew, List.map_nil, or_iff_right List.not_mem_nil]

/-- The root is the first node. -/
theorem singleton_prefix_firsts (root : α) (l : List α) : [root] <+: firsts key (root :: l) :=
  firsts_prefix key (l := [root]) ⟨l, rfl⟩

/-! ### The frontier -/

/-- The queue and the discovered keys. -/
structure Frontier (α : Type u) (κ : Type v) where
  queue : List α
  visited : JsSet κ

namespace Frontier

/-- The root is queued and discovered. -/
def start (root : α) : Frontier α κ := ⟨[root], JsSet.empty.add (key root)⟩

/-- A node whose key is new is discovered and queued. -/
def offer (s : Frontier α κ) (a : α) : Frontier α κ :=
  if s.visited.has (key a) then s else ⟨s.queue ++ [a], s.visited.add (key a)⟩

/-- The oldest node of the queue. -/
def dequeue (s : Frontier α κ) : Option (α × Frontier α κ) :=
  match s.queue with
  | [] => none
  | a :: queue => some (a, { s with queue := queue })

/-- Offering a node inserts it behind the nodes dequeued and queued so far. -/
theorem offer_spec (pre : List α) {s : Frontier α κ}
    (hs : ∀ k, k ∈ s.visited.toList ↔ k ∈ (pre ++ s.queue).map key) (a : α) :
    pre ++ (offer key s a).queue = insertNew key (pre ++ s.queue) a ∧
      ∀ k, k ∈ (offer key s a).visited.toList ↔
        k ∈ (insertNew key (pre ++ s.queue) a).map key := by
  by_cases hin : key a ∈ (pre ++ s.queue).map key
  · have hvisited : s.visited.has (key a) := (JsSet.has_iff _ _).mpr ((hs _).mpr hin)
    rw [offer, if_pos hvisited, insertNew, if_pos hin]
    exact ⟨rfl, hs⟩
  · have hvisited : ¬ s.visited.has (key a) := fun h ↦ hin ((hs _).mp ((JsSet.has_iff _ _).mp h))
    rw [offer, if_neg hvisited, insertNew, if_neg hin]
    refine ⟨(List.append_assoc _ _ _).symm, fun k ↦ ?_⟩
    simp only [JsSet.mem_add, hs, List.map_append, List.mem_append, List.map_singleton,
      List.mem_singleton]

/-- Offering nodes inserts them one after the other. -/
theorem foldl_offer (m pre : List α) {s : Frontier α κ}
    (hs : ∀ k, k ∈ s.visited.toList ↔ k ∈ (pre ++ s.queue).map key) :
    pre ++ (m.foldl (offer key) s).queue = m.foldl (insertNew key) (pre ++ s.queue) ∧
      ∀ k, k ∈ (m.foldl (offer key) s).visited.toList ↔
        k ∈ (m.foldl (insertNew key) (pre ++ s.queue)).map key := by
  induction m generalizing s with
  | nil => exact ⟨rfl, hs⟩
  | cons a m ih =>
    obtain ⟨hqueue, hvisited⟩ := offer_spec key pre hs a
    rw [List.foldl_cons, List.foldl_cons, ← hqueue]
    apply ih
    intro k
    rw [hqueue]
    exact hvisited k

end Frontier

/-! ### Runs of the search -/

section Explores

variable (next : α → List α) (root : α)

/-- Nodes met along successors of the root, its own key aside. -/
inductive Reached : α → Prop
  | root : Reached root
  | next {a b : α} : Reached a → b ∈ next a → key b ≠ key root → Reached b

/-- The search order up to a number of rounds. -/
def breadthFirst : Nat → List α
  | 0 => [root]
  | k + 1 => firsts key (root :: (breadthFirst k).flatMap next)

/-- What a search has done when these nodes are dequeued and this frontier is left. -/
structure Explores (dequeued : List α) (s : Frontier α κ) : Prop where
  order : dequeued ++ s.queue = firsts key (root :: dequeued.flatMap next)
  visited : ∀ k, k ∈ s.visited.toList ↔ k ∈ (dequeued ++ s.queue).map key
  reached : ∀ a ∈ dequeued ++ s.queue, Reached key next root a
  rounds : ∃ k, dequeued ++ s.queue <+: breadthFirst key next root k

variable {key next root}

/-- Before the first node is dequeued. -/
theorem explores_start : Explores key next root [] (Frontier.start key root) where
  order := rfl
  visited k := by
    rw [Frontier.start, JsSet.mem_add]
    simp
  reached a ha := by
    rw [List.mem_singleton.mp ha]
    exact Reached.root
  rounds := ⟨0, List.prefix_rfl⟩

omit [DecidableEq κ] in
private theorem eq_cons_of_dequeue {s s' : Frontier α κ} {a : α} (h : s.dequeue = some (a, s')) :
    s.queue = a :: s'.queue ∧ s'.visited = s.visited := by
  unfold Frontier.dequeue at h
  split at h
  · cases h
  · next hqueue =>
    obtain ⟨rfl, rfl⟩ := Prod.mk.inj (Option.some.inj h)
    exact ⟨hqueue, rfl⟩

/-- Dequeuing a node and offering its successors. -/
theorem Explores.step {dequeued : List α} {s s' : Frontier α κ} {a : α}
    (h : Explores key next root dequeued s) (hs : s.dequeue = some (a, s')) :
    Explores key next root (dequeued ++ [a]) ((next a).foldl (Frontier.offer key) s') := by
  obtain ⟨hqueue, hvisited⟩ := eq_cons_of_dequeue hs
  have hmoved : dequeued ++ [a] ++ s'.queue = dequeued ++ s.queue := by
    rw [hqueue, List.append_assoc, List.singleton_append]
  have hflat : (dequeued ++ [a]).flatMap next = dequeued.flatMap next ++ next a := by
    rw [List.flatMap_append, List.flatMap_singleton]
  obtain ⟨horder, hkeys⟩ := Frontier.foldl_offer key (next a) (dequeued ++ [a]) (s := s')
    (by rw [hmoved, hvisited]; exact h.visited)
  have horder' : dequeued ++ [a] ++ ((next a).foldl (Frontier.offer key) s').queue =
      firsts key (root :: (dequeued ++ [a]).flatMap next) := by
    rw [horder, hmoved, h.order, hflat, ← List.cons_append, firsts_append]
  refine ⟨horder', fun k ↦ by rw [hkeys, horder], fun b hb ↦ ?_, ?_⟩
  · rw [horder] at hb
    rcases mem_foldl_insertNew key _ hb with hb | ⟨hb, hnew⟩
    · exact h.reached b (hmoved ▸ hb)
    · have ha : a ∈ dequeued ++ s.queue := by
        rw [hqueue]
        exact List.mem_append_right _ List.mem_cons_self
      refine (h.reached a ha).next hb fun hroot ↦ hnew ?_
      rw [hmoved, hroot, h.order, mem_keys_firsts]
      exact List.mem_cons_self
  · obtain ⟨k, hk⟩ := h.rounds
    have hprefix : dequeued ++ [a] <+: breadthFirst key next root k := by
      apply List.IsPrefix.trans _ hk
      rw [hqueue]
      exact ⟨s'.queue, by rw [List.append_assoc, List.singleton_append]⟩
    refine ⟨k + 1, ?_⟩
    rw [horder', breadthFirst]
    apply firsts_prefix
    rw [List.prefix_cons_inj]
    exact hprefix.flatMap _

/-- The keys of the dequeued and the queued nodes are distinct. -/
theorem Explores.nodup {dequeued : List α} {s : Frontier α κ}
    (h : Explores key next root dequeued s) : ((dequeued ++ s.queue).map key).Nodup := by
  rw [h.order]
  exact nodup_firsts key _

/-- A search does not dequeue more nodes than there are keys. -/
theorem Explores.length_le {dequeued : List α} {s : Frontier α κ}
    (h : Explores key next root dequeued s) {keys : List κ} (hroot : key root ∈ keys)
    (hnext : ∀ a, ∀ b ∈ next a, key b ∈ keys) : (dequeued ++ s.queue).length ≤ keys.length := by
  rw [← List.length_map key]
  apply (h.nodup.subperm _).length_le
  intro k hk
  rw [h.order, mem_keys_firsts] at hk
  obtain ⟨b, hb, rfl⟩ := List.mem_map.mp hk
  rcases List.mem_cons.mp hb with rfl | hb
  · exact hroot
  · obtain ⟨a, _, hba⟩ := List.mem_flatMap.mp hb
    exact hnext a b hba

section Finished

variable {order : List α} {s : Frontier α κ}

private theorem finished_order (h : Explores key next root order s) (hs : s.queue = []) :
    order = firsts key (root :: order.flatMap next) := by
  rw [← h.order, hs, List.append_nil]

/-- A search that ran out of nodes has gone through all rounds. -/
theorem Explores.rounds_prefix (h : Explores key next root order s) (hs : s.queue = []) (k : Nat) :
    breadthFirst key next root k <+: order := by
  rw [finished_order h hs]
  induction k with
  | zero => exact singleton_prefix_firsts key root _
  | succ k ih =>
    rw [← finished_order h hs] at ih
    rw [breadthFirst]
    apply firsts_prefix
    rw [List.prefix_cons_inj]
    exact ih.flatMap _

/-- Its order is that of some round. -/
theorem Explores.exists_round (h : Explores key next root order s) (hs : s.queue = []) :
    ∃ k, order = breadthFirst key next root k := by
  obtain ⟨k, hk⟩ := h.rounds
  rw [hs, List.append_nil] at hk
  exact ⟨k, hk.eq_of_length_le (h.rounds_prefix hs k).length_le⟩

/-- It has dequeued a node with the key of each successor of a dequeued node. -/
theorem Explores.closed (h : Explores key next root order s) (hs : s.queue = []) {a b : α}
    (ha : a ∈ order) (hb : b ∈ next a) : key b ∈ order.map key := by
  rw [finished_order h hs, mem_keys_firsts]
  exact List.mem_map_of_mem (List.mem_cons_of_mem _ (List.mem_flatMap.mpr ⟨a, ha, hb⟩))

/-- When reached nodes with one key have the same successors, it has dequeued every key. -/
theorem Explores.complete (h : Explores key next root order s) (hs : s.queue = [])
    (hsame : ∀ a b, Reached key next root a → Reached key next root b → key a = key b →
      next a = next b) {b : α} (hb : Reached key next root b) : key b ∈ order.map key := by
  induction hb with
  | root =>
    rw [finished_order h hs, mem_keys_firsts]
    exact List.mem_cons_self
  | next ha hba _ ih =>
    obtain ⟨a', ha', hkey⟩ := List.mem_map.mp ih
    have hreached : Reached key next root a' := h.reached a' (List.mem_append_left _ ha')
    rw [← hsame a' _ hreached ha hkey] at hba
    exact h.closed hs ha' hba

end Finished
end Explores
end NexusEdge.Base
