import NexusEdge.Base.Json

/-!
# Values that may be undefined

Library `Base`. Reading properties of values that come from outside, the operator `in`, and the
conversion to a string that property keys and template literals make. Objects are converted by
their `toString`, which a property of that name replaces by something that cannot be called.
-/

namespace NexusEdge.Base

universe u

/-- `JSON.stringify` and `JSON.parse`. -/
structure JsonText (N : Type u) where
  stringify : Json N → String
  parse : String → Except String (Json N)

namespace Json

variable {N : Type u}

/-- `value[key]`. -/
def getOf (value : Option (Json N)) (key : String) : Except String (Option (Json N)) :=
  match value with
  | none => .error ("TypeError: Cannot read property '" ++ key ++ "' of undefined")
  | some value => value.get? key

/-- `key in value`, for a key that is no index. -/
def isIn (key : String) (value : Option (Json N)) : Except String Bool :=
  match value with
  | some (.object properties) => .ok (properties.lookup key).isSome
  | some (.array _) => .ok false
  | _ => .error ("TypeError: Cannot use 'in' operator to search for '" ++ key ++ "'")

mutual

/-- `String(value)`, with the numerals of numbers given. -/
def toText (numeral : N → String) : Json N → Except String String
  | .null => .ok "null"
  | .bool value => .ok (toString value)
  | .number value => .ok (numeral value)
  | .string value => .ok value
  | .array elements => (elementTexts numeral elements).map fun texts ↦ ",".intercalate texts
  | .object properties =>
    if (properties.lookup "toString").isSome then
      .error "TypeError: Cannot convert object to primitive value"
    else .ok "[object Object]"

/-- What `join` joins: `null` gives nothing. -/
def elementTexts (numeral : N → String) : List (Json N) → Except String (List String)
  | [] => .ok []
  | .null :: elements => (elementTexts numeral elements).map ("" :: ·)
  | value :: elements => do
    let text ← toText numeral value
    let texts ← elementTexts numeral elements
    return text :: texts

end

/-- `String(value)` of a value that may be `undefined`. -/
def textOf (numeral : N → String) : Option (Json N) → Except String String
  | none => .ok "undefined"
  | some value => value.toText numeral

/-- `Object.entries(value)` of any value but `null`. -/
def ownEntries : Json N → List (String × Json N)
  | .string value => indexed 0 (value.toList.map fun c ↦ .string c.toString)
  | value => value.entries

/-- Properties of an object literal; `undefined` is not sent. -/
def defined (properties : List (String × Option (Json N))) : List (String × Json N) :=
  properties.filterMap fun p ↦ p.2.map fun value ↦ (p.1, value)

/-- What is sent reads back. -/
theorem lookup_defined {properties : List (String × Option (Json N))}
    (h : (properties.map Prod.fst).Nodup) (key : String) :
    (defined properties).lookup key = (properties.lookup key).join := by
  induction properties with
  | nil => rfl
  | cons p properties ih =>
    obtain ⟨name, value⟩ := p
    rw [List.map_cons, List.nodup_cons] at h
    rw [List.lookup_cons]
    by_cases hkey : key = name
    · subst hkey
      rw [beq_self_eq_true]
      cases value with
      | some value => simp [defined]
      | none =>
        have hrest := ih h.2
        rw [JsObject.lookup_of_not_mem h.1] at hrest
        exact hrest
    · have hbeq : (key == name) = false := by simpa using hkey
      rw [hbeq]
      cases value with
      | some value =>
        have hcons : defined ((name, some value) :: properties) =
            (name, value) :: defined properties := rfl
        rw [hcons, List.lookup_cons, hbeq]
        exact ih h.2
      | none => exact ih h.2

/-- Reading a property of an object. -/
@[simp] theorem getOf_object (properties : List (String × Json N)) (key : String) :
    getOf (some (.object properties)) key = .ok (properties.lookup key) := rfl

/-- Only `null` has no properties to read. -/
theorem get?_eq_ok {value : Json N} (h : value ≠ .null) (key : String) :
    ∃ property, value.get? key = .ok property := by
  cases value with
  | null => exact absurd rfl h
  | object properties => exact ⟨_, rfl⟩
  | bool value => exact ⟨none, rfl⟩
  | number value => exact ⟨none, rfl⟩
  | string value => exact ⟨none, rfl⟩
  | array elements => exact ⟨none, rfl⟩

end Json
end NexusEdge.Base
