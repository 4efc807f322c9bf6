import Mathlib.Data.Vector.Mem
import NexusEdge.Base.JsObject

/-!
# Nested dictionaries

Library `Base`. Objects whose values are objects, to a fixed depth: reading along a path
of keys, creating the missing objects of a path, and changing the leaf at its end in place.
-/

namespace NexusEdge.Base

universe u

/-- Objects nested to the given depth, with leaves in `α`. -/
abbrev Nested (α : Type u) : Nat → Type u
  | 0 => α
  | n + 1 => JsObject (Nested α n)

/-- One key for each level. -/
abbrev Keys (n : Nat) := List.Vector String n

namespace Nested

variable {α : Type u}

/-- `o[key1][key2]...`; `none` when a key is missing. -/
def lookup : {n : Nat} → Nested α n → Keys n → Option α
  | 0, leaf, _ => some leaf
  | _ + 1, o, keys => (JsObject.get? o keys.head).bind fun inner ↦ lookup inner keys.tail

/-- A new value of the given depth: `{}`, or the leaf at depth 0. -/
def fresh (leaf : α) : (n : Nat) → Nested α n
  | 0 => leaf
  | _ + 1 => JsObject.empty

/-- `if (!o.hasOwnProperty(key)) { o[key] = {}; }` at one level. -/
def ensureKey {n : Nat} (leaf : α) (key : String) (o : JsObject (Nested α n)) :
    JsObject (Nested α n) :=
  if o.hasOwn key then o else o.set key (fresh leaf n)

/-- The missing objects along a path are created. -/
def ensureKeys (leaf : α) : {n : Nat} → Keys n → Nested α n → Nested α n
  | 0, _, o => o
  | _ + 1, keys, o => (ensureKey leaf keys.head o).modify keys.head (ensureKeys leaf keys.tail)

/-- The leaf at the end of an existing path changes in place. -/
def modifyAt : {n : Nat} → Keys n → (α → α) → Nested α n → Nested α n
  | 0, _, f, leaf => f leaf
  | _ + 1, keys, f, o => JsObject.modify o keys.head (modifyAt keys.tail f)

/-- Creating one missing key keeps every present value. -/
theorem get?_ensureKey {n : Nat} (leaf : α) (key k : String) (o : JsObject (Nested α n)) :
    (ensureKey leaf key o).get? k =
      if k = key then some ((o.get? key).getD (fresh leaf n)) else o.get? k := by
  unfold ensureKey
  split
  · next h =>
    obtain ⟨v, hv⟩ := (JsObject.hasOwn_iff o key).mp h
    split
    · next hk => rw [hk, hv, Option.getD_some]
    · rfl
  · next h =>
    have hnone : o.get? key = none := by simpa [JsObject.hasOwn] using h
    rw [JsObject.get?_set, hnone, Option.getD_none]

private theorem keys_ext {n : Nat} {keys keys' : Keys (n + 1)} :
    keys = keys' ↔ keys.head = keys'.head ∧ keys.tail = keys'.tail := by
  constructor
  · rintro rfl
    exact ⟨rfl, rfl⟩
  · rintro ⟨hhead, htail⟩
    rw [← keys.cons_head_tail, ← keys'.cons_head_tail, hhead, htail]

/-- Changing the leaf of a path changes nothing else; a missing leaf stays missing. -/
theorem lookup_modifyAt {n : Nat} (keys : Keys n) (f : α → α) (o : Nested α n) (keys' : Keys n) :
    (modifyAt keys f o).lookup keys' =
      if keys' = keys then (o.lookup keys).map f else o.lookup keys' := by
  induction n with
  | zero =>
    rw [if_pos (Subsingleton.elim keys' keys)]
    rfl
  | succ n ih =>
    simp only [modifyAt, lookup]
    rw [JsObject.get?_modify]
    by_cases hhead : keys'.head = keys.head
    · rw [if_pos hhead, hhead]
      cases hget : JsObject.get? o keys.head with
      | some inner =>
        rw [Option.map_some, Option.bind_some, Option.bind_some, Option.bind_some, ih]
        simp only [keys_ext, hhead, true_and]
      | none =>
        rw [Option.map_none, Option.bind_none, Option.bind_none, Option.map_none]
        split <;> rfl
    · rw [if_neg hhead, if_neg fun he ↦ hhead (keys_ext.mp he).1]

private theorem lookup_getD_fresh (leaf : α) {n : Nat} (inner : Option (Nested α n))
    (keys keys' : Keys n) (g : α → α) :
    (if keys' = keys then some (g (((inner.getD (fresh leaf n)).lookup keys).getD leaf))
      else (inner.getD (fresh leaf n)).lookup keys') =
    if keys' = keys then some (g ((inner.bind fun o ↦ o.lookup keys).getD leaf))
      else inner.bind fun o ↦ o.lookup keys' := by
  cases inner with
  | some o => rfl
  | none =>
    cases n with
    | zero =>
      rw [if_pos (Subsingleton.elim keys' keys), if_pos (Subsingleton.elim keys' keys)]
      rfl
    | succ n => rfl

/-- Changing the leaf of an ensured path changes nothing else; a missing leaf counts as the
given one. -/
theorem lookup_modifyAt_ensureKeys (leaf : α) (f : α → α) {n : Nat} (keys : Keys n)
    (o : Nested α n) (keys' : Keys n) :
    (modifyAt keys f (ensureKeys leaf keys o)).lookup keys' =
      if keys' = keys then some (f ((o.lookup keys).getD leaf)) else o.lookup keys' := by
  induction n with
  | zero =>
    rw [if_pos (Subsingleton.elim keys' keys)]
    rfl
  | succ n ih =>
    simp only [modifyAt, ensureKeys, lookup]
    rw [JsObject.get?_modify, JsObject.get?_modify, if_pos rfl, get?_ensureKey, if_pos rfl]
    by_cases hhead : keys'.head = keys.head
    · rw [if_pos hhead, Option.map_some, Option.map_some, Option.bind_some, ih, hhead]
      refine (lookup_getD_fresh leaf (JsObject.get? o keys.head) keys.tail keys'.tail f).trans ?_
      simp only [keys_ext, hhead, true_and]
    · rw [if_neg hhead, JsObject.get?_modify, if_neg hhead, get?_ensureKey, if_neg hhead,
        if_neg fun he ↦ hhead (keys_ext.mp he).1]

/-! ### Dictionaries at the end of a path -/

/-- The value under a name in the dictionary at the end of a path. -/
def find {n : Nat} (o : Nested (JsObject α) n) (keys : Keys n) (name : String) : Option α :=
  (o.lookup keys).bind fun entries ↦ entries.get? name

/-- All names of all dictionaries, in the order of nested `for..in` loops. -/
def paths : {n : Nat} → Nested (JsObject α) n → List ((Keys n × String) × α)
  | 0, entries => entries.ownEntries.map fun entry ↦ ((List.Vector.nil, entry.1), entry.2)
  | _ + 1, o => (JsObject.ownEntries o).flatMap fun entry ↦
      (paths entry.2).map fun p ↦ ((entry.1 ::ᵥ p.1.1, p.1.2), p.2)

/-- The loops visit exactly the values that can be read. -/
theorem mem_paths_iff {n : Nat} (o : Nested (JsObject α) n) (keys : Keys n) (name : String)
    (a : α) : ((keys, name), a) ∈ paths o ↔ find o keys name = some a := by
  induction n with
  | zero =>
    rw [paths, find, lookup, Option.bind_some, ← JsObject.mem_ownEntries_iff, List.mem_map]
    constructor
    · rintro ⟨entry, he, heq⟩
      obtain ⟨hkeys, rfl⟩ := Prod.mk.inj heq
      obtain ⟨_, rfl⟩ := Prod.mk.inj hkeys
      exact he
    · intro h
      exact ⟨(name, a), h, by rw [Subsingleton.elim keys List.Vector.nil]⟩
  | succ n ih =>
    rw [paths, find, lookup, List.mem_flatMap]
    constructor
    · rintro ⟨⟨key, inner⟩, he, hm⟩
      obtain ⟨⟨⟨keys', name'⟩, a'⟩, hp, heq⟩ := List.mem_map.mp hm
      obtain ⟨hkeys, rfl⟩ := Prod.mk.inj heq
      obtain ⟨rfl, rfl⟩ := Prod.mk.inj hkeys
      rw [JsObject.mem_ownEntries_iff] at he
      rw [List.Vector.head_cons, List.Vector.tail_cons, he, Option.bind_some]
      exact (ih inner keys').mp hp
    · intro h
      obtain ⟨entries, hentries, hname⟩ := Option.bind_eq_some_iff.mp h
      obtain ⟨inner, hinner, hlookup⟩ := Option.bind_eq_some_iff.mp hentries
      refine ⟨(keys.head, inner), (JsObject.mem_ownEntries_iff _ _ _).mpr hinner, ?_⟩
      refine List.mem_map.mpr ⟨((keys.tail, name), a), (ih inner keys.tail).mpr ?_, ?_⟩
      · rw [find, hlookup, Option.bind_some, hname]
      · rw [List.Vector.cons_head_tail]

/-- `o[key1]...[name] = a`, the missing objects of the path being created first. -/
def assignAt {n : Nat} (keys : Keys n) (name : String) (a : α) (o : Nested (JsObject α) n) :
    Nested (JsObject α) n :=
  modifyAt keys (fun entries ↦ entries.set name a) (ensureKeys JsObject.empty keys o)

/-- The assigned name reads back, every other one is unchanged. -/
theorem find_assignAt {n : Nat} (keys : Keys n) (name : String) (a : α)
    (o : Nested (JsObject α) n) (keys' : Keys n) (name' : String) :
    find (assignAt keys name a o) keys' name' =
      if keys' = keys ∧ name' = name then some a else find o keys' name' := by
  rw [find, assignAt, lookup_modifyAt_ensureKeys]
  by_cases hkeys : keys' = keys
  · subst hkeys
    rw [if_pos rfl, Option.bind_some, JsObject.get?_set, find]
    simp only [true_and]
    split
    · rfl
    · cases lookup o keys' <;> rfl
  · rw [if_neg hkeys, if_neg fun h ↦ hkeys h.1, find]

/-- Replacing a present value reads back, every other one is unchanged. -/
theorem find_modifyAt_set {n : Nat} {keys : Keys n} {name : String} {b : α}
    {o : Nested (JsObject α) n} (h : find o keys name = some b) (a : α) (keys' : Keys n)
    (name' : String) :
    find (modifyAt keys (fun entries ↦ entries.set name a) o) keys' name' =
      if keys' = keys ∧ name' = name then some a else find o keys' name' := by
  obtain ⟨entries, hentries, _⟩ := Option.bind_eq_some_iff.mp h
  rw [find, lookup_modifyAt]
  by_cases hkeys : keys' = keys
  · subst hkeys
    rw [if_pos rfl, hentries, Option.map_some, Option.bind_some, JsObject.get?_set, find, hentries,
      Option.bind_some]
    simp only [true_and]
  · rw [if_neg hkeys, if_neg fun he ↦ hkeys he.1, find]

private theorem find_foldl_assignAt {n : Nat} (value : Keys n → String → Option α)
    (l : List ((Keys n × String) × α)) (hl : ∀ p ∈ l, value p.1.1 p.1.2 = some p.2)
    (o : Nested (JsObject α) n) (keys : Keys n) (name : String) :
    find (l.foldl (fun o p ↦ assignAt p.1.1 p.1.2 p.2 o) o) keys name =
      if (keys, name) ∈ l.map Prod.fst then value keys name else find o keys name := by
  induction l generalizing o with
  | nil => simp
  | cons p l ih =>
    obtain ⟨⟨pkeys, pname⟩, a⟩ := p
    rw [List.foldl_cons, ih fun p hp ↦ hl p (List.mem_cons_of_mem _ hp), find_assignAt]
    have hp : value pkeys pname = some a := hl _ List.mem_cons_self
    rw [List.map_cons]
    by_cases hm : (keys, name) ∈ l.map Prod.fst
    · rw [if_pos hm, if_pos (List.mem_cons_of_mem _ hm)]
    · rw [if_neg hm]
      by_cases hk : keys = pkeys ∧ name = pname
      · obtain ⟨rfl, rfl⟩ := hk
        rw [if_pos ⟨rfl, rfl⟩, if_pos List.mem_cons_self, hp]
      · have hne : (keys, name) ∉ (pkeys, pname) :: l.map Prod.fst := by
          rw [List.mem_cons, not_or]
          exact ⟨fun he ↦ hk (Prod.mk.inj he), hm⟩
        rw [if_neg hk, if_neg hne]

/-- Copying every value into an object without values copies the object. -/
theorem find_copy {β : Type u} {n : Nat} (f : β → α) (source : Nested (JsObject β) n)
    {o : Nested (JsObject α) n} (ho : ∀ keys name, find o keys name = none) (keys : Keys n)
    (name : String) :
    find ((paths source).foldl (fun o p ↦ assignAt p.1.1 p.1.2 (f p.2) o) o) keys name =
      (find source keys name).map f := by
  have hl : ∀ p ∈ (paths source).map fun p ↦ (p.1, f p.2),
      (find source p.1.1 p.1.2).map f = some p.2 := by
    intro p hp
    obtain ⟨⟨⟨keys', name'⟩, b⟩, hm, rfl⟩ := List.mem_map.mp hp
    rw [(mem_paths_iff source keys' name' b).mp hm, Option.map_some]
  have hcopy := find_foldl_assignAt (fun keys name ↦ (find source keys name).map f) _ hl o keys name
  rw [List.foldl_map] at hcopy
  rw [hcopy, ho, List.map_map]
  split
  · rfl
  · next hn =>
    cases hb : find source keys name with
    | none => rfl
    | some b =>
      exact False.elim (hn (List.mem_map.mpr ⟨_, (mem_paths_iff source keys name b).mpr hb, rfl⟩))

/-- The object read back from the JSON text of another one: the keys in the order of their
enumeration, every value changed by the round trip. -/
def jsonCopy {β : Type u} (f : α → β) :
    {n : Nat} → Nested (JsObject α) n → Nested (JsObject β) n
  | 0, entries => entries.ownEntries.foldl
      (fun copied entry ↦ copied.set entry.1 (f entry.2)) JsObject.empty
  | _ + 1, o => (JsObject.ownEntries o).foldl
      (fun copied entry ↦ copied.set entry.1 (jsonCopy f entry.2)) JsObject.empty

/-- What is read back stands where it stood. -/
theorem find_jsonCopy {β : Type u} (f : α → β) {n : Nat} (o : Nested (JsObject α) n)
    (keys : Keys n) (name : String) : find (jsonCopy f o) keys name = (find o keys name).map f := by
  induction n with
  | zero =>
    rw [find, find, lookup, lookup, Option.bind_some, Option.bind_some, jsonCopy,
      JsObject.get?_foldl_set_ownEntries, JsObject.get?_empty, Option.or_none]
  | succ n ih =>
    rw [find, find, lookup, lookup, jsonCopy, JsObject.get?_foldl_set_ownEntries,
      JsObject.get?_empty, Option.or_none]
    cases JsObject.get? o keys.head with
    | none => rfl
    | some inner => exact ih inner keys.tail

end Nested
end NexusEdge.Base
