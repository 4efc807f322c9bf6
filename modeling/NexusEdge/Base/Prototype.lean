import NexusEdge.Base.JsObject

/-!
# Properties inherited from `Object.prototype`

Library `Base`. A plain object that is read under a name it does not have itself gives what
`Object.prototype` has: itself under `__proto__`, its methods under their names, and whatever a
program has added to it. A name that is none of these is as good as an own one.
-/

namespace NexusEdge.Base

universe u v

/-- Names of the properties of `Object.prototype`. -/
def prototypeNames : List String :=
  ["constructor", "__defineGetter__", "__defineSetter__", "hasOwnProperty", "__lookupGetter__",
    "__lookupSetter__", "isPrototypeOf", "propertyIsEnumerable", "toString", "valueOf", "__proto__",
    "toLocaleString"]

/-- Names of the other properties of arrays, of functions and of `Object`, which hide what has been
added to `Object.prototype` under them. -/
def builtInNames : List String :=
  ["length", "at", "concat", "copyWithin", "entries", "every", "fill", "filter", "find",
    "findIndex", "findLast", "findLastIndex", "flat", "flatMap", "forEach", "includes", "indexOf",
    "join", "keys", "lastIndexOf", "map", "pop", "push", "reduce", "reduceRight", "reverse",
    "shift", "slice", "some", "sort", "splice", "toReversed", "toSorted", "toSpliced", "unshift",
    "values", "with", "name", "prototype", "arguments", "caller", "apply", "bind", "call",
    "assign", "create", "defineProperties", "defineProperty", "freeze", "fromEntries",
    "getOwnPropertyDescriptor", "getOwnPropertyDescriptors", "getOwnPropertyNames",
    "getOwnPropertySymbols", "getPrototypeOf", "groupBy", "hasOwn", "is", "isExtensible",
    "isFrozen", "isSealed", "preventExtensions", "seal", "setPrototypeOf"]

/-- What is found under a name. -/
inductive Found (α : Type u) (β : Type v) where
  | own (value : α)
  /-- A property that has been added to `Object.prototype`. -/
  | added (value : β)
  /-- `Object.prototype` itself. -/
  | prototype
  /-- A method of `Object.prototype`. -/
  | method
  | undefined

namespace JsObject

variable {α : Type u} {β : Type v}

/-- `o[name]`, where `added` has been added to `Object.prototype`. -/
def find (o : JsObject α) (added : JsObject β) (name : String) : Found α β :=
  match o.get? name with
  | some value => .own value
  | none =>
    if name = "__proto__" then .prototype
    else if name ∈ prototypeNames then .method
    else match added.get? name with
      | some value => .added value
      | none => .undefined

/-- The own properties after `o[k] = v`; the setter of `__proto__` adds none. -/
def assignValue (o : JsObject α) (k : String) (v : α) : JsObject α :=
  if k = "__proto__" then o else o.set k v

/-- Under any other name an assignment adds the property. -/
theorem assignValue_of_ne {k : String} (h : k ≠ "__proto__") (o : JsObject α) (v : α) :
    o.assignValue k v = o.set k v := if_neg h

/-- An own property hides what is inherited. -/
theorem find_of_get? {o : JsObject α} {name : String} {value : α} (h : o.get? name = some value)
    (added : JsObject β) : o.find added name = .own value := by
  simp only [find, h]

/-- Before anything has been added, only the names of `Object.prototype` inherit. -/
theorem find_empty_of_not_mem {o : JsObject α} {name : String} (h : o.get? name = none)
    (hname : name ∉ prototypeNames) : o.find (empty : JsObject β) name = .undefined := by
  have hproto : name ≠ "__proto__" := fun heq ↦ hname (heq ▸ by decide)
  simp only [find, h, if_neg hproto, if_neg hname, get?_empty]

/-- Before anything has been added, no value is found that is not own. -/
theorem find_empty_of_none {o : JsObject α} {name : String} (h : o.get? name = none) :
    o.find (empty : JsObject β) name = .prototype ∨ o.find (empty : JsObject β) name = .method ∨
      o.find (empty : JsObject β) name = .undefined := by
  simp only [find, h, get?_empty]
  split
  · exact Or.inl rfl
  · split
    · exact Or.inr (Or.inl rfl)
    · exact Or.inr (Or.inr rfl)

variable {o : JsObject α} {added : JsObject β} {name : String}

/-- What is found to be own is. -/
theorem get?_of_find_own {value : α} (h : o.find added name = .own value) :
    o.get? name = some value := by
  unfold find at h
  split at h
  · next hget =>
    cases h
    exact hget
  · split at h
    · cases h
    · split at h
      · cases h
      · split at h
        · cases h
        · cases h

/-- `Object.prototype` is found under `__proto__`. -/
theorem eq_of_find_prototype (h : o.find added name = .prototype) : name = "__proto__" := by
  unfold find at h
  split at h
  · cases h
  · split at h
    · assumption
    · split at h
      · cases h
      · split at h
        · cases h
        · cases h

/-- What is found to have been added has been. -/
theorem get?_of_find_added {value : β} (h : o.find added name = .added value) :
    added.get? name = some value := by
  unfold find at h
  split at h
  · cases h
  · split at h
    · cases h
    · split at h
      · cases h
      · split at h
        · next hget =>
          cases h
          exact hget
        · cases h

/-- A name under which nothing is found is inherited by no object. -/
theorem not_mem_of_find_undefined (h : o.find added name = .undefined) : name ∉ prototypeNames := by
  unfold find at h
  split at h
  · cases h
  · split at h
    · cases h
    · split at h
      · cases h
      · assumption

end JsObject
end NexusEdge.Base
