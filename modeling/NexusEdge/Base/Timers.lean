import NexusEdge.Base.JsObject

/-!
# Timers of an event loop

Library `Base`. `setTimeout` and `setInterval` return a fresh handle and make the
callback pending; `clearTimeout` and `clearInterval` withdraw it. What a callback does
when it fires belongs to the system that owns the timers. A program keeps handles in
objects to clear them by name; as handles are fresh, a name leads to its own callback.
-/

namespace NexusEdge.Base

universe u

/-- Pending callbacks under their handles; `next` is the first unused handle. -/
structure Timers (α : Type u) where
  next : Nat
  pending : List (Nat × α)
  deriving DecidableEq

namespace Timers

variable {α : Type u}

/-- No callback is pending. -/
def empty : Timers α := ⟨0, []⟩

/-- `setTimeout(callback, _)` or `setInterval(callback, _)`. -/
def set (t : Timers α) (callback : α) : Nat × Timers α :=
  (t.next, ⟨t.next + 1, t.pending ++ [(t.next, callback)]⟩)

/-- `clearTimeout(handle)` or `clearInterval(handle)`. -/
def clear (t : Timers α) (handle : Nat) : Timers α :=
  ⟨t.next, t.pending.filter (fun p ↦ p.1 ≠ handle)⟩

/-- Handles are given out once. -/
structure Distinct (t : Timers α) : Prop where
  lt : ∀ p ∈ t.pending, p.1 < t.next
  nodup : (t.pending.map Prod.fst).Nodup

/-- No callback, no handle. -/
theorem distinct_empty : (empty : Timers α).Distinct := ⟨nofun, List.nodup_nil⟩

/-- A new callback has a new handle. -/
theorem Distinct.set {t : Timers α} (h : t.Distinct) (callback : α) :
    (t.set callback).2.Distinct := by
  refine ⟨fun p hp ↦ ?_, ?_⟩
  · rcases List.mem_append.mp hp with hp | hp
    · exact Nat.lt_succ_of_lt (h.lt p hp)
    · rw [List.mem_singleton.mp hp]
      exact Nat.lt_succ_self _
  · rw [show (t.set callback).2.pending = t.pending ++ [(t.next, callback)] from rfl,
      List.map_append, List.nodup_append]
    refine ⟨h.nodup, List.nodup_singleton _, fun handle hhandle new hnew heq ↦ ?_⟩
    obtain ⟨p, hp, rfl⟩ := List.mem_map.mp hhandle
    have hlt := h.lt p hp
    simp only [List.map_singleton, List.mem_singleton] at hnew
    omega

/-- Withdrawal. -/
theorem Distinct.clear {t : Timers α} (h : t.Distinct) (handle : Nat) :
    (t.clear handle).Distinct :=
  ⟨fun p hp ↦ h.lt p (List.mem_of_mem_filter hp),
    h.nodup.sublist (List.filter_sublist.map Prod.fst)⟩

/-- One callback to a handle. -/
theorem Distinct.eq {t : Timers α} (h : t.Distinct) {handle : Nat} {callback callback' : α}
    (hp : (handle, callback) ∈ t.pending) (hq : (handle, callback') ∈ t.pending) :
    callback = callback' :=
  congrArg Prod.snd (List.inj_on_of_nodup_map h.nodup hp hq rfl)

/-- What a handle leads to is pending. -/
theorem mem_of_lookup {t : Timers α} {handle : Nat} {callback : α}
    (h : t.pending.lookup handle = some callback) : (handle, callback) ∈ t.pending := by
  obtain ⟨l, l', heq, _⟩ := List.lookup_eq_some_iff.mp h
  rw [heq]
  exact List.mem_append_right _ List.mem_cons_self

/-- The handle of a pending callback leads to it. -/
theorem Distinct.lookup {t : Timers α} (h : t.Distinct) {handle : Nat} {callback : α}
    (hmem : (handle, callback) ∈ t.pending) : t.pending.lookup handle = some callback := by
  have hsome : (t.pending.lookup handle).isSome :=
    List.lookup_isSome_iff.mpr ⟨_, hmem, beq_self_eq_true handle⟩
  obtain ⟨callback', hlookup⟩ := Option.isSome_iff_exists.mp hsome
  rw [hlookup, h.eq (mem_of_lookup hlookup) hmem]

/-- A callback under another handle stays pending. -/
theorem mem_clear {t : Timers α} {p : Nat × α} {handle : Nat} (hp : p ∈ t.pending)
    (hne : p.1 ≠ handle) : p ∈ (t.clear handle).pending :=
  List.mem_filter.mpr ⟨hp, decide_eq_true hne⟩

/-- The handles of the object lead to callbacks of their names, as long as they are pending. -/
def Names (t : Timers α) (table : JsObject Nat) (P : String → α → Prop) : Prop :=
  ∀ name handle, table.get? name = some handle →
    handle < t.next ∧ ∀ callback, (handle, callback) ∈ t.pending → P name callback

/-- The empty object. -/
theorem names_empty (t : Timers α) (P : String → α → Prop) : t.Names JsObject.empty P := nofun

namespace Names

variable {t : Timers α} {table : JsObject Nat} {P : String → α → Prop}

/-- A new callback is not in the object yet. -/
theorem set (h : t.Names table P) (callback : α) : (t.set callback).2.Names table P := by
  intro name handle hget
  obtain ⟨hlt, hP⟩ := h name handle hget
  refine ⟨Nat.lt_succ_of_lt hlt, fun callback' hmem ↦ ?_⟩
  rcases List.mem_append.mp hmem with hmem | hmem
  · exact hP callback' hmem
  · have heq := congrArg Prod.fst (List.mem_singleton.mp hmem)
    exact absurd heq (Nat.ne_of_lt hlt)

/-- A new callback is stored under a name. -/
theorem store (h : t.Names table P) (hlt : t.Distinct) {name : String} {callback : α}
    (hP : P name callback) :
    (t.set callback).2.Names (table.set name (t.set callback).1) P := by
  intro name' handle hget
  rw [JsObject.get?_set] at hget
  split at hget
  · next hname =>
    obtain rfl := Option.some.inj hget
    refine ⟨Nat.lt_succ_self _, fun callback' hmem ↦ ?_⟩
    rcases List.mem_append.mp hmem with hmem | hmem
    · exact absurd (hlt.lt _ hmem) (Nat.lt_irrefl _)
    · have heq : callback' = callback := congrArg Prod.snd (List.mem_singleton.mp hmem)
      rw [heq, hname]
      exact hP
  · exact h.set callback name' handle hget

/-- Withdrawal of any callback. -/
theorem clear (h : t.Names table P) (handle : Nat) : (t.clear handle).Names table P := by
  intro name handle' hget
  obtain ⟨hlt, hP⟩ := h name handle' hget
  exact ⟨hlt, fun callback hmem ↦ hP callback (List.mem_of_mem_filter hmem)⟩

/-- `delete` of a name. -/
theorem erase (h : t.Names table P) (name : String) : t.Names (table.erase name) P := by
  intro name' handle hget
  rw [JsObject.get?_erase] at hget
  split at hget
  · cases hget
  · exact h name' handle hget

end Names

/-- Every pending callback with a name is the one the object holds under the name. -/
def Stored (t : Timers α) (table : JsObject Nat) (name? : α → Option String) : Prop :=
  ∀ handle callback name, (handle, callback) ∈ t.pending → name? callback = some name →
    table.get? name = some handle

/-- No callback, nothing to store. -/
theorem stored_empty (table : JsObject Nat) (name? : α → Option String) :
    (empty : Timers α).Stored table name? := nofun

namespace Stored

variable {t : Timers α} {table : JsObject Nat} {name? : α → Option String}

/-- A callback without a name need not be stored. -/
theorem set (h : t.Stored table name?) {callback : α} (hname : name? callback = none) :
    (t.set callback).2.Stored table name? := by
  intro handle callback' name hmem hname'
  rcases List.mem_append.mp hmem with hmem | hmem
  · exact h handle callback' name hmem hname'
  · obtain ⟨_, rfl⟩ := Prod.mk.inj (List.mem_singleton.mp hmem)
    rw [hname] at hname'
    cases hname'

/-- A callback stored under its name hides those pending under that name before. -/
theorem store_iff (h : t.Stored table name?) (ht : t.Distinct) {name : String} {callback : α}
    (hname : name? callback = some name) :
    (t.set callback).2.Stored (table.set name (t.set callback).1) name? ↔
      ∀ p ∈ t.pending, name? p.2 ≠ some name := by
  constructor
  · intro hstored p hp hsome
    have hget := hstored p.1 p.2 name (List.mem_append_left _ hp) hsome
    rw [JsObject.get?_set_self] at hget
    have hlt := ht.lt p hp
    exact absurd (Option.some.inj hget).symm (Nat.ne_of_lt hlt)
  · intro hnone handle callback' name' hmem hname'
    rcases List.mem_append.mp hmem with hmem | hmem
    · have hne : name' ≠ name := by
        rintro rfl
        exact hnone _ hmem hname'
      rw [JsObject.get?_set_ne _ _ hne]
      exact h handle callback' name' hmem hname'
    · obtain ⟨rfl, rfl⟩ := Prod.mk.inj (List.mem_singleton.mp hmem)
      obtain rfl : name = name' := Option.some.inj (hname.symm.trans hname')
      exact JsObject.get?_set_self _ _ _

/-- Withdrawal of any callback. -/
theorem clear (h : t.Stored table name?) (handle : Nat) : (t.clear handle).Stored table name? :=
  fun handle' callback name hmem ↦ h handle' callback name (List.mem_of_mem_filter hmem)

/-- After the withdrawal of what is stored under a name no callback has the name. -/
theorem not_mem_clear (h : t.Stored table name?) {name : String} {handle : Nat}
    (hget : table.get? name = some handle) : ∀ p ∈ (t.clear handle).pending, name? p.2 ≠ some name := by
  intro p hp hname
  obtain ⟨hmem, hne⟩ := List.mem_filter.mp hp
  have hsame := h p.1 p.2 name hmem hname
  exact of_decide_eq_true hne (Option.some.inj (hsame.symm.trans hget))

/-- Withdrawal of what is stored under a name, with `delete` of the name. -/
theorem stop (h : t.Stored table name?) {name : String} {handle : Nat}
    (hget : table.get? name = some handle) :
    (t.clear handle).Stored (table.erase name) name? := by
  intro handle' callback name' hmem hname
  have hne : name' ≠ name := by
    rintro rfl
    exact h.not_mem_clear hget _ hmem hname
  rw [JsObject.get?_erase, if_neg hne]
  exact h.clear handle handle' callback name' hmem hname

end Stored

/-- Callbacks may be gone, and new ones have handles not given out before. -/
structure Follows (t t' : Timers α) : Prop where
  next : t.next ≤ t'.next
  pending : ∀ p ∈ t'.pending, p ∈ t.pending ∨ t.next ≤ p.1

namespace Follows

variable {t t' t'' : Timers α}

/-- Nothing happens. -/
theorem refl (t : Timers α) : Follows t t := ⟨le_refl _, fun _ ↦ Or.inl⟩

/-- One after the other. -/
theorem trans (h : Follows t t') (h' : Follows t' t'') : Follows t t'' := by
  refine ⟨h.next.trans h'.next, fun p hp ↦ ?_⟩
  rcases h'.pending p hp with hp | hp
  · exact h.pending p hp
  · exact Or.inr (h.next.trans hp)

/-- A new callback. -/
theorem set (t : Timers α) (callback : α) : Follows t (t.set callback).2 := by
  refine ⟨Nat.le_succ _, fun p hp ↦ ?_⟩
  rcases List.mem_append.mp hp with hp | hp
  · exact Or.inl hp
  · rw [List.mem_singleton.mp hp]
    exact Or.inr (le_refl _)

/-- A withdrawal. -/
theorem clear (t : Timers α) (handle : Nat) : Follows t (t.clear handle) :=
  ⟨le_refl _, fun _ hp ↦ Or.inl (List.mem_of_mem_filter hp)⟩

/-- What is no longer pending does not come back. -/
theorem gone (h : Follows t t') {handle : Nat} (hlt : handle < t.next)
    (hgone : ∀ p ∈ t.pending, p.1 ≠ handle) : ∀ p ∈ t'.pending, p.1 ≠ handle := by
  intro p hp
  rcases h.pending p hp with hp | hp
  · exact hgone p hp
  · omega

end Follows
end Timers
end NexusEdge.Base
