import NexusEdge.Base.JsObject

/-!
# JSON values

Library `Base`. What `JSON.parse` returns: nested values with numbers in a type of their own.
Reading a property of `null` throws; names that are read are neither inherited nor indices.
A property of all values within a value follows from the entries of arrays and objects.
-/

namespace NexusEdge.Base

universe u v w

/-- A value, the properties of an object in creation order, each name once. -/
inductive Json (N : Type u) where
  | null
  | bool (value : Bool)
  | number (value : N)
  | string (value : String)
  | array (elements : List (Json N))
  | object (properties : List (String × Json N))

namespace Json

variable {N : Type u}

/-- The exception of reading a property. -/
def typeError (key : String) : String :=
  "TypeError: Cannot read property '" ++ key ++ "' of null"

/-- `value[key]`; `none` is `undefined`. -/
def get? (value : Json N) (key : String) : Except String (Option (Json N)) :=
  match value with
  | .null => .error (typeError key)
  | .object properties => .ok (properties.lookup key)
  | _ => .ok none

/-- `value.hasOwnProperty(key)`. -/
def hasOwnProperty (value : Json N) (key : String) : Except String Bool :=
  match value with
  | .null => .error (typeError "hasOwnProperty")
  | .object properties => .ok (properties.lookup key).isSome
  | _ => .ok false

/-- `value === text`. -/
def isString (value : Json N) (text : String) : Bool :=
  match value with
  | .string s => s == text
  | _ => false

/-! ### Enumeration -/

/-- The order of `Object.entries`: array indices ascending, then the other keys as created. -/
def enumerate {α : Type v} (properties : List (String × α)) : List (String × α) :=
  (properties.filter fun p ↦ (arrayIndex? p.1).isSome).insertionSort
      (fun p q ↦ (arrayIndex? p.1).getD 0 ≤ (arrayIndex? q.1).getD 0) ++
    properties.filter fun p ↦ !(arrayIndex? p.1).isSome

/-- The entries of an array from an index on. -/
def indexed {α : Type v} (index : Nat) : List α → List (String × α)
  | [] => []
  | value :: values => (toString index, value) :: indexed (index + 1) values

/-- `Object.entries(value)` of an array or object. -/
def entries : Json N → List (String × Json N)
  | .array elements => indexed 0 elements
  | .object properties => enumerate properties
  | _ => []

/-- `typeof value === 'object'`, and not `null`. -/
def isNested : Json N → Bool
  | .array _ => true
  | .object _ => true
  | _ => false

/-- The order of enumeration depends on the keys. -/
theorem enumerate_map {α : Type v} {β : Type w} (f : String → α → β) (l : List (String × α)) :
    enumerate (l.map fun p ↦ (p.1, f p.1 p.2)) = (enumerate l).map fun p ↦ (p.1, f p.1 p.2) := by
  unfold enumerate
  rw [List.map_append, List.filter_map, List.filter_map]
  congr 1
  symm
  apply List.map_insertionSort
  intro p _ q _
  exact Iff.rfl

/-- What is enumerated is there. -/
theorem mem_enumerate {α : Type v} {l : List (String × α)} {p : String × α} (h : p ∈ enumerate l) :
    p ∈ l := by
  unfold enumerate at h
  rw [List.mem_append, List.mem_insertionSort, List.mem_filter, List.mem_filter] at h
  rcases h with h | h
  · exact h.1
  · exact h.1

/-- An entry of an array is an element. -/
theorem mem_of_mem_indexed {α : Type v} {index : Nat} {l : List α} {p : String × α}
    (h : p ∈ indexed index l) : p.2 ∈ l := by
  induction l generalizing index with
  | nil => cases h
  | cons value l ih =>
    rcases List.mem_cons.mp h with h | h
    · exact h ▸ List.mem_cons_self
    · exact List.mem_cons_of_mem value (ih h)

/-- The values of entries are smaller. -/
theorem sizeOf_of_mem_entries {value : Json N} {p : String × Json N} (h : p ∈ value.entries) :
    sizeOf p.2 < sizeOf value := by
  cases value with
  | array elements =>
    have hlt := List.sizeOf_lt_of_mem (mem_of_mem_indexed h)
    simp only [Json.array.sizeOf_spec]
    omega
  | object properties =>
    have hlt := List.sizeOf_lt_of_mem (mem_enumerate h)
    obtain ⟨key, value⟩ := p
    simp only [Json.object.sizeOf_spec, Prod.mk.sizeOf_spec] at hlt ⊢
    omega
  | null => cases h
  | bool => cases h
  | number => cases h
  | string => cases h

/-- A property of values that follows for arrays and objects from their entries. -/
theorem entries_induction {motive : Json N → Prop}
    (leaf : ∀ value, value.isNested = false → motive value)
    (nested : ∀ value, value.isNested = true → (∀ p ∈ value.entries, motive p.2) → motive value)
    (value : Json N) : motive value :=
  if h : value.isNested = true then
    nested value h fun p _ ↦ entries_induction leaf nested p.2
  else leaf value (Bool.eq_false_of_not_eq_true h)
termination_by sizeOf value
decreasing_by exact sizeOf_of_mem_entries (by assumption)

/-! ### Leaves -/

/-- One more key leads to each leaf. -/
def underKey (p : String × List (List String × Json N)) : List (List String × Json N) :=
  p.2.map fun leaf ↦ (p.1 :: leaf.1, leaf.2)

mutual

/-- The values within that are neither arrays nor objects, with the keys that lead to them. -/
def leaves : Json N → List (List String × Json N)
  | .array elements => (elementLeaves 0 elements).flatMap underKey
  | .object properties => (enumerate (propertyLeaves properties)).flatMap underKey
  | value => [([], value)]

/-- The leaves of each element. -/
def elementLeaves (index : Nat) : List (Json N) → List (String × List (List String × Json N))
  | [] => []
  | value :: values => (toString index, leaves value) :: elementLeaves (index + 1) values

/-- The leaves of each property. -/
def propertyLeaves : List (String × Json N) → List (String × List (List String × Json N))
  | [] => []
  | (key, value) :: properties => (key, leaves value) :: propertyLeaves properties

end

/-- A value that has no entries is a leaf of its own. -/
theorem leaves_of_leaf {value : Json N} (h : value.isNested = false) :
    value.leaves = [([], value)] := by
  cases value with
  | array => cases h
  | object => cases h
  | null => rfl
  | bool => rfl
  | number => rfl
  | string => rfl

private theorem elementLeaves_eq (index : Nat) (elements : List (Json N)) :
    elementLeaves index elements = (indexed index elements).map fun p ↦ (p.1, leaves p.2) := by
  induction elements generalizing index with
  | nil => rw [elementLeaves, indexed, List.map_nil]
  | cons value values ih => rw [elementLeaves, indexed, List.map_cons, ih]

private theorem propertyLeaves_eq (properties : List (String × Json N)) :
    propertyLeaves properties = properties.map fun p ↦ (p.1, leaves p.2) := by
  induction properties with
  | nil => rw [propertyLeaves, List.map_nil]
  | cons p properties ih =>
    obtain ⟨key, value⟩ := p
    rw [propertyLeaves, List.map_cons, ih]

/-- The leaves of arrays and objects are those of their entries. -/
theorem leaves_of_nested {value : Json N} (h : value.isNested = true) :
    value.leaves = value.entries.flatMap fun p ↦ underKey (p.1, p.2.leaves) := by
  cases value with
  | array elements => rw [leaves, elementLeaves_eq, List.flatMap_map, entries]
  | object properties =>
    rw [leaves, propertyLeaves_eq, enumerate_map (fun _ ↦ leaves), List.flatMap_map, entries]
  | null => cases h
  | bool => cases h
  | number => cases h
  | string => cases h

/-! ### Keys -/

mutual

/-- The keys of the objects within. -/
def objectKeys : Json N → List String
  | .array elements => elementKeys elements
  | .object properties => propertyKeys properties
  | _ => []

/-- The keys of the objects within each element. -/
def elementKeys : List (Json N) → List String
  | [] => []
  | value :: values => objectKeys value ++ elementKeys values

/-- The keys of the properties, and of the objects within each of them. -/
def propertyKeys : List (String × Json N) → List String
  | [] => []
  | (key, value) :: properties => key :: (objectKeys value ++ propertyKeys properties)

end

private theorem objectKeys_of_mem {elements : List (Json N)} {value : Json N}
    (h : value ∈ elements) : value.objectKeys ⊆ elementKeys elements := by
  induction elements with
  | nil => cases h
  | cons first elements ih =>
    rw [elementKeys]
    rcases List.mem_cons.mp h with rfl | h
    · exact List.subset_append_left _ _
    · exact List.subset_append_of_subset_right _ (ih h)

private theorem objectKeys_of_mem_properties {properties : List (String × Json N)}
    {p : String × Json N} (h : p ∈ properties) :
    p.1 ∈ propertyKeys properties ∧ p.2.objectKeys ⊆ propertyKeys properties := by
  induction properties with
  | nil => cases h
  | cons first properties ih =>
    obtain ⟨key, value⟩ := first
    rw [propertyKeys]
    rcases List.mem_cons.mp h with rfl | h
    · refine ⟨List.mem_cons_self, ?_⟩
      exact List.subset_cons_of_subset _ (List.subset_append_left _ _)
    · obtain ⟨hkey, hvalue⟩ := ih h
      refine ⟨List.mem_cons_of_mem _ (List.mem_append_right _ hkey), ?_⟩
      exact List.subset_cons_of_subset _ (List.subset_append_of_subset_right _ hvalue)

/-- The key of an entry is the index of an element or the key of an object. -/
theorem key_of_mem_entries {value : Json N} {p : String × Json N} (h : p ∈ value.entries) :
    (p.1 ∈ value.objectKeys ∨ ∃ index : Nat, p.1 = toString index) ∧
      p.2.objectKeys ⊆ value.objectKeys := by
  cases value with
  | array elements =>
    refine ⟨Or.inr ?_, objectKeys_of_mem (mem_of_mem_indexed h)⟩
    have hindex : ∀ (l : List (Json N)) index, p ∈ indexed index l → ∃ n : Nat, p.1 = toString n := by
      intro l
      induction l with
      | nil => exact fun _ h ↦ nomatch h
      | cons value l ih =>
        intro index h
        rcases List.mem_cons.mp h with rfl | h
        · exact ⟨index, rfl⟩
        · exact ih _ h
    exact hindex elements 0 h
  | object properties =>
    obtain ⟨hkey, hvalue⟩ := objectKeys_of_mem_properties (mem_enumerate h)
    exact ⟨Or.inl hkey, hvalue⟩
  | null => cases h
  | bool => cases h
  | number => cases h
  | string => cases h

/-- When no object within has an empty key, no empty key leads to a leaf. -/
theorem empty_not_mem_of_mem_leaves {value : Json N} (h : "" ∉ value.objectKeys)
    {leaf : List String × Json N} (hleaf : leaf ∈ value.leaves) : "" ∉ leaf.1 := by
  induction value using entries_induction generalizing leaf with
  | leaf value hvalue =>
    rw [leaves_of_leaf hvalue, List.mem_singleton] at hleaf
    rw [hleaf]
    exact List.not_mem_nil
  | nested value hvalue ih =>
    rw [leaves_of_nested hvalue] at hleaf
    obtain ⟨p, hp, hunder⟩ := List.mem_flatMap.mp hleaf
    obtain ⟨inner, hinner, rfl⟩ := List.mem_map.mp hunder
    obtain ⟨hkey, hobjects⟩ := key_of_mem_entries hp
    rw [List.mem_cons, not_or]
    refine ⟨fun hempty ↦ ?_, ih p hp (fun hmem ↦ h (hobjects hmem)) hinner⟩
    rcases hkey with hkey | ⟨index, hindex⟩
    · rw [← hempty] at hkey
      exact h hkey
    · rw [← hempty] at hindex
      exact Nat.repr_ne_empty hindex.symm

end Json
end NexusEdge.Base
