import Mathlib.Algebra.Ring.Nat
import Mathlib.Data.List.Induction
import Mathlib.Data.List.Nodup
import Mathlib.Data.List.Sort

/-!
# Ordered dictionaries

Library `Base`. The own properties of a plain JavaScript object in creation order:
reading, assignment, `delete`, `hasOwnProperty`, `Object.assign`, and the enumeration
shared by `for..in`, `Object.keys` and `Object.entries`, which lists array indices in
ascending order before the remaining keys in creation order.
Inherited properties are no part of it: what a read under the name of a property of
`Object.prototype` gives, and what an assignment to `__proto__` does, is in `Base.Prototype`.
-/

namespace NexusEdge.Base

universe u v

/-- Own properties in creation order, each name once. -/
structure JsObject (α : Type u) where
  entries : List (String × α)
  nodup : (entries.map Prod.fst).Nodup
  deriving DecidableEq

/-- Value of a canonical decimal numeral, without leading zeros. -/
def decimal? : List Char → Option Nat
  | [] => none
  | ['0'] => some 0
  | '0' :: _ => none
  | digits => digits.foldl (fun acc c ↦ acc.bind fun n ↦
      if c.isDigit then some (10 * n + (c.toNat - '0'.toNat)) else none) (some 0)

/-- The number of an array-index key; these keys are enumerated first. -/
def arrayIndex? (key : String) : Option Nat :=
  (decimal? key.toList).filter (· < 2 ^ 32 - 1)

namespace JsObject

variable {α : Type u} {β : Type v}

/-- The object literal `{}`. -/
def empty : JsObject α := ⟨[], List.nodup_nil⟩

/-- Property read; `none` is `undefined`. -/
def get? (o : JsObject α) (k : String) : Option α := o.entries.lookup k

/-- `o.hasOwnProperty(k)`. -/
def hasOwn (o : JsObject α) (k : String) : Bool := (o.get? k).isSome

private theorem map_fst_replace (l : List (String × α)) (k : String) (v : α) :
    (l.map fun p ↦ if p.1 = k then (k, v) else p).map Prod.fst = l.map Prod.fst := by
  rw [List.map_map]
  apply List.map_congr_left
  intro p _
  simp only [Function.comp_apply]
  split
  · next h => exact h.symm
  · rfl

private theorem not_mem_of_not_hasOwn {o : JsObject α} {k : String} (h : ¬ o.hasOwn k) :
    k ∉ o.entries.map Prod.fst := by
  simp only [hasOwn, get?, Bool.not_eq_true, Option.isSome_eq_false_iff, Option.isNone_iff_eq_none,
    List.lookup_eq_none_iff] at h
  intro hk
  obtain ⟨p, hp, rfl⟩ := List.mem_map.mp hk
  simpa using h p hp

/-- Assignment `o[k] = v`: a present key keeps its position, a fresh key is appended. -/
def set (o : JsObject α) (k : String) (v : α) : JsObject α :=
  if h : o.hasOwn k then
    ⟨o.entries.map fun p ↦ if p.1 = k then (k, v) else p, by
      rw [map_fst_replace]; exact o.nodup⟩
  else
    ⟨o.entries ++ [(k, v)], by
      rw [List.map_append, List.map_singleton, List.nodup_append]
      refine ⟨o.nodup, List.nodup_singleton k, ?_⟩
      intro a ha b hb hab
      rw [hab, List.mem_singleton.mp hb] at ha
      exact not_mem_of_not_hasOwn h ha⟩

/-- `delete o[k]`. -/
def erase (o : JsObject α) (k : String) : JsObject α :=
  ⟨o.entries.filter (fun p ↦ p.1 ≠ k),
    (List.filter_sublist.map Prod.fst).nodup o.nodup⟩

/-- In-place change of the value under a present key; an absent key is left absent. -/
def modify (o : JsObject α) (k : String) (f : α → α) : JsObject α :=
  match o.get? k with
  | some v => o.set k (f v)
  | none => o

/-- `Object.entries(o)`: array indices ascending, then the other keys as created. -/
def ownEntries (o : JsObject α) : List (String × α) :=
  (o.entries.filter (fun p ↦ (arrayIndex? p.1).isSome)).insertionSort
      (fun p q ↦ (arrayIndex? p.1).getD 0 ≤ (arrayIndex? q.1).getD 0) ++
    o.entries.filter (fun p ↦ !(arrayIndex? p.1).isSome)

/-- `Object.keys(o)`, also the order of `for..in`. -/
def keys (o : JsObject α) : List String := o.ownEntries.map Prod.fst

/-- `Object.assign(o, source)`. -/
def assign (o source : JsObject α) : JsObject α :=
  source.ownEntries.foldl (fun o p ↦ o.set p.1 p.2) o

/-- The same keys with other values. -/
def mapValues (f : α → β) (o : JsObject α) : JsObject β :=
  ⟨o.entries.map fun p ↦ (p.1, f p.2), by rw [List.map_map]; exact o.nodup⟩

/-- Reading a property is membership among the entries. -/
theorem get?_eq_some_iff (o : JsObject α) (k : String) (v : α) :
    o.get? k = some v ↔ (k, v) ∈ o.entries := by
  obtain ⟨l, hl⟩ := o
  simp only [get?]
  induction l with
  | nil => simp
  | cons p l ih =>
    obtain ⟨a, b⟩ := p
    simp only [List.map_cons, List.nodup_cons] at hl
    by_cases hk : k = a
    · subst hk
      have hn : (k, v) ∉ l := fun hm ↦ hl.1 (List.mem_map.mpr ⟨(k, v), hm, rfl⟩)
      simp [hn, eq_comm]
    · have hb : (k == a) = false := by simpa using hk
      simp [List.lookup_cons, hb, ih hl.2, hk]

/-- The empty object has no property. -/
@[simp] theorem get?_empty (k : String) : (empty : JsObject α).get? k = none := rfl

/-- `hasOwnProperty` is presence of a value. -/
theorem hasOwn_iff (o : JsObject α) (k : String) : o.hasOwn k ↔ ∃ v, o.get? k = some v := by
  rw [hasOwn, Option.isSome_iff_exists]

/-- What is not an own property reads as `undefined`. -/
theorem get?_of_not_hasOwn {o : JsObject α} {k : String} (h : ¬ o.hasOwn k) : o.get? k = none := by
  rwa [hasOwn, Bool.not_eq_true, Option.isSome_eq_false_iff, Option.isNone_iff_eq_none] at h

/-- An assigned property reads back, and every other one is unchanged. -/
theorem get?_set (o : JsObject α) (k j : String) (v : α) :
    (o.set k v).get? j = if j = k then some v else o.get? j := by
  ext w
  rw [get?_eq_some_iff]
  unfold set
  split
  · next h =>
    obtain ⟨u, hu⟩ := (hasOwn_iff o k).mp h
    rw [get?_eq_some_iff] at hu
    simp only [List.mem_map]
    split
    · next hj =>
      subst hj
      constructor
      · rintro ⟨p, _, hp⟩
        split at hp
        · exact congrArg some (Prod.mk.inj hp).2
        · next hn => exact False.elim (hn (congrArg Prod.fst hp))
      · intro hv
        exact ⟨(j, u), hu, by rw [if_pos rfl, Option.some.inj hv]⟩
    · next hj =>
      rw [get?_eq_some_iff]
      constructor
      · rintro ⟨p, hm, hp⟩
        split at hp
        · exact False.elim (hj (congrArg Prod.fst hp).symm)
        · exact hp ▸ hm
      · intro hm
        exact ⟨(j, w), hm, if_neg hj⟩
  · next h =>
    have hn := not_mem_of_not_hasOwn h
    simp only [List.mem_append, List.mem_singleton, Prod.mk.injEq]
    split
    · next hj =>
      subst hj
      have hm : (j, w) ∉ o.entries := fun hm ↦ hn (List.mem_map.mpr ⟨(j, w), hm, rfl⟩)
      simp [hm, eq_comm]
    · next hj => simp [hj, get?_eq_some_iff]

/-- An assigned property reads back. -/
@[simp] theorem get?_set_self (o : JsObject α) (k : String) (v : α) :
    (o.set k v).get? k = some v := by
  rw [get?_set, if_pos rfl]

/-- Assignment leaves every other property unchanged. -/
theorem get?_set_ne (o : JsObject α) {k j : String} (v : α) (h : j ≠ k) :
    (o.set k v).get? j = o.get? j := by
  rw [get?_set, if_neg h]

/-- `delete` removes exactly the named property. -/
theorem get?_erase (o : JsObject α) (k j : String) :
    (o.erase k).get? j = if j = k then none else o.get? j := by
  ext w
  rw [get?_eq_some_iff]
  simp only [erase, List.mem_filter, ← get?_eq_some_iff]
  split
  · next h => simp [h]
  · next h => simp [h]

/-- An in-place change reaches exactly the named property. -/
theorem get?_modify (o : JsObject α) (k j : String) (f : α → α) :
    (o.modify k f).get? j = if j = k then (o.get? k).map f else o.get? j := by
  unfold modify
  split
  · next v h => rw [get?_set, h, Option.map_some]
  · next h =>
    split
    · next hj => rw [hj, h, Option.map_none]
    · rfl

/-- After an assignment the key is present, too. -/
theorem hasOwn_set (o : JsObject α) (k j : String) (v : α) :
    (o.set k v).hasOwn j = (decide (j = k) || o.hasOwn j) := by
  rw [hasOwn, get?_set, hasOwn]
  split
  · next heq => simp [heq]
  · next hne => simp [hne]

/-- `delete` removes the key only. -/
theorem hasOwn_erase (o : JsObject α) (k j : String) :
    (o.erase k).hasOwn j = (decide (j ≠ k) && o.hasOwn j) := by
  rw [hasOwn, get?_erase, hasOwn]
  split
  · next heq => simp [heq]
  · next hne => simp [hne]

/-- Modification keeps the keys. -/
theorem hasOwn_modify (o : JsObject α) (k j : String) (f : α → α) :
    (o.modify k f).hasOwn j = o.hasOwn j := by
  rw [hasOwn, get?_modify, hasOwn]
  split
  · next heq => rw [heq, Option.isSome_map]
  · rfl

/-- Enumeration lists every entry once. -/
theorem ownEntries_perm (o : JsObject α) : o.ownEntries.Perm o.entries :=
  ((List.perm_insertionSort _ _).append_right _).trans (List.filter_append_perm _ _)

/-- Enumeration yields exactly the readable properties. -/
theorem mem_ownEntries_iff (o : JsObject α) (k : String) (v : α) :
    (k, v) ∈ o.ownEntries ↔ o.get? k = some v := by
  rw [o.ownEntries_perm.mem_iff, get?_eq_some_iff]

/-- No key is enumerated twice. -/
theorem nodup_keys (o : JsObject α) : o.keys.Nodup :=
  ((o.ownEntries_perm.map Prod.fst).nodup_iff).mpr o.nodup

/-- The enumerated keys are the own properties. -/
theorem mem_keys_iff (o : JsObject α) (k : String) : k ∈ o.keys ↔ ∃ v, o.get? k = some v := by
  rw [keys, List.mem_map]
  constructor
  · rintro ⟨⟨a, v⟩, hm, rfl⟩
    exact ⟨v, (mem_ownEntries_iff o a v).mp hm⟩
  · rintro ⟨v, hv⟩
    exact ⟨(k, v), (mem_ownEntries_iff o k v).mpr hv, rfl⟩

/-- A key that is not listed has no value. -/
theorem lookup_of_not_mem {k : String} {l : List (String × α)} (h : k ∉ l.map Prod.fst) :
    l.lookup k = none := by
  rw [List.lookup_eq_none_iff]
  intro p hp
  have hne : k ≠ p.1 := fun he ↦ h (List.mem_map.mpr ⟨p, hp, he.symm⟩)
  simpa using hne

private theorem sum_entries (k : String) (f : α → Nat) (l : List (String × α))
    (hl : (l.map Prod.fst).Nodup) :
    (l.map fun p ↦ if p.1 = k then f p.2 else 0).sum = (l.lookup k).elim 0 f := by
  induction l with
  | nil => rfl
  | cons p l ih =>
    obtain ⟨a, b⟩ := p
    rw [List.map_cons, List.nodup_cons] at hl
    rw [List.map_cons, List.sum_cons, ih hl.2, List.lookup_cons]
    by_cases hk : k = a
    · subst hk
      have hn : l.lookup k = none := lookup_of_not_mem hl.1
      simp [hn]
    · have hb : (k == a) = false := by simpa using hk
      simp [hb, Ne.symm hk]

/-- Only the entry of the named property contributes to a sum over the properties. -/
theorem sum_ownEntries (o : JsObject α) (k : String) (f : α → Nat) :
    (o.ownEntries.map fun p ↦ if p.1 = k then f p.2 else 0).sum = (o.get? k).elim 0 f := by
  rw [(o.ownEntries_perm.map _).sum_nat, sum_entries k f o.entries o.nodup, get?]

/-- Assigning the entries of a list with distinct keys, one after the other. -/
theorem get?_foldl_set (l : List (String × α)) (hl : (l.map Prod.fst).Nodup) (o : JsObject α)
    (k : String) :
    (l.foldl (fun o p ↦ o.set p.1 p.2) o).get? k = (l.lookup k).or (o.get? k) := by
  induction l generalizing o with
  | nil => rfl
  | cons p l ih =>
    obtain ⟨a, b⟩ := p
    simp only [List.map_cons, List.nodup_cons] at hl
    rw [List.foldl_cons, ih hl.2, get?_set]
    by_cases hk : k = a
    · subst hk
      have hn : l.lookup k = none := lookup_of_not_mem hl.1
      simp [hn]
    · have hb : (k == a) = false := by simpa using hk
      simp [List.lookup_cons, hb, hk]

/-- The last value assigned to a key of a list is the one that can be read. -/
theorem exists_get?_foldl_set {l : List (String × α)} {k : String} (h : k ∈ l.map Prod.fst)
    (o : JsObject α) :
    ∃ v, (k, v) ∈ l ∧ (l.foldl (fun o p ↦ o.set p.1 p.2) o).get? k = some v := by
  induction l using List.reverseRecOn with
  | nil => cases h
  | append_singleton l p ih =>
    obtain ⟨a, b⟩ := p
    rw [List.foldl_append, List.foldl_cons, List.foldl_nil, get?_set]
    by_cases hk : k = a
    · subst hk
      exact ⟨b, by simp, if_pos rfl⟩
    · rw [List.map_append, List.mem_append] at h
      have hmem : k ∈ l.map Prod.fst := h.resolve_right (by simpa using hk)
      obtain ⟨v, hv, hget⟩ := ih hmem
      exact ⟨v, List.mem_append_left _ hv, by rw [if_neg hk, hget]⟩

/-- The enumeration holds the values that can be read. -/
theorem lookup_ownEntries (o : JsObject α) (k : String) : o.ownEntries.lookup k = o.get? k := by
  ext v
  rw [← mem_ownEntries_iff]
  exact get?_eq_some_iff ⟨o.ownEntries, o.nodup_keys⟩ k v

/-- Reading after changing all values. -/
theorem get?_mapValues (f : α → β) (o : JsObject α) (k : String) :
    (o.mapValues f).get? k = (o.get? k).map f := by
  ext v
  rw [get?_eq_some_iff, Option.map_eq_some_iff]
  constructor
  · intro h
    obtain ⟨⟨j, w⟩, hmem, heq⟩ := List.mem_map.mp h
    obtain ⟨rfl, rfl⟩ := Prod.mk.inj heq
    exact ⟨w, (get?_eq_some_iff o j w).mpr hmem, rfl⟩
  · rintro ⟨w, hw, rfl⟩
    exact List.mem_map.mpr ⟨(k, w), (get?_eq_some_iff o k w).mp hw, rfl⟩

/-- `Object.assign` prefers the source. -/
theorem get?_assign (o source : JsObject α) (k : String) :
    (o.assign source).get? k = (source.get? k).or (o.get? k) := by
  rw [assign, get?_foldl_set _ source.nodup_keys, lookup_ownEntries]

/-- Assigning a function of each own value under its own key. -/
theorem get?_foldl_set_ownEntries (f : α → β) (o : JsObject α) (target : JsObject β) (k : String) :
    (o.ownEntries.foldl (fun acc p ↦ acc.set p.1 (f p.2)) target).get? k =
      ((o.get? k).map f).or (target.get? k) := by
  have hkeys : ((o.ownEntries.map fun p ↦ (p.1, f p.2)).map Prod.fst).Nodup := by
    rw [List.map_map]
    exact o.nodup_keys
  have hlookup : (o.ownEntries.map fun p ↦ (p.1, f p.2)).lookup k = (o.get? k).map f := by
    ext v
    refine (get?_eq_some_iff ⟨_, hkeys⟩ k v).trans ?_
    rw [List.mem_map, Option.map_eq_some_iff]
    constructor
    · rintro ⟨⟨j, w⟩, hm, heq⟩
      obtain ⟨rfl, rfl⟩ := Prod.mk.inj heq
      exact ⟨w, (mem_ownEntries_iff o j w).mp hm, rfl⟩
    · rintro ⟨w, hw, rfl⟩
      exact ⟨(k, w), (mem_ownEntries_iff o k w).mpr hw, rfl⟩
  rw [← hlookup, ← get?_foldl_set _ hkeys, List.foldl_map]

end JsObject
end NexusEdge.Base
