import Mathlib.Data.List.Infix
import NexusEdge.Base.Assignments
import NexusEdge.Base.Json
import NexusEdge.Base.Numeral

/-!
# Fields of device data

Library `Publishers`. `_getOpenTsdbFriendlyFields` of `sif-cloud-publisher.js:173–217` and
`_getConvertedFields` of `linklab-influx-publisher.js:70–122`, which differ in what becomes of a
string. Nested values are flattened: the keys that lead to a value are joined to the name of its
field. A field has the value that is assigned last under its name. Nothing can be assigned under the
name `__proto__`.
-/

namespace NexusEdge.Publishers
open NexusEdge.Base

variable {N : Type}

/-! ### Numeric strings -/

/-- `_isNumeric`, `sif-cloud-publisher.js:150–155`, `linklab-influx-publisher.js:47–52`. -/
def isNumeric (str : String) : Bool := !(toNumber str).isNaN && !(Base.parseFloat str).isNaN

/-! ### Flattening -/

/-- The two objects of `output`. -/
inductive FieldKind where
  | payload
  | metadata
  deriving DecidableEq

/-- `output`. -/
structure Fields (N : Type) where
  payload : JsObject (Json N)
  metadata : JsObject (Json N)

namespace Fields

/-- One of the objects. -/
def ofKind (fields : Fields N) : FieldKind → JsObject (Json N)
  | .payload => fields.payload
  | .metadata => fields.metadata

/-- No fields. -/
def empty : Fields N := ⟨.empty, .empty⟩

/-- A field gets a value. -/
def set (fields : Fields N) (kind : FieldKind) (key : String) (value : Json N) : Fields N :=
  match kind with
  | .payload => { fields with payload := fields.payload.set key value }
  | .metadata => { fields with metadata := fields.metadata.set key value }

/-- `output[kind][key] = value`. -/
def assign (fields : Fields N) (kind : FieldKind) (key : String) (value : Json N) : Fields N :=
  match kind with
  | .payload => { fields with payload := fields.payload.assignValue key value }
  | .metadata => { fields with metadata := fields.metadata.assignValue key value }

/-- Nothing is assigned to no fields. -/
theorem reflects_empty {kind : FieldKind} : ((empty : Fields N).ofKind kind).Reflects [] := by
  cases kind with
  | payload => exact JsObject.reflects_empty
  | metadata => exact JsObject.reflects_empty

/-- A value of a field of one kind reaches the object of that kind. -/
theorem reflects_set {fields : Fields N} {kind : FieldKind} {l : List (String × Json N)}
    (h : (fields.ofKind kind).Reflects l) (k : FieldKind) (key : String) (value : Json N) :
    ((fields.set k key value).ofKind kind).Reflects
      (l ++ (if k = kind then some (key, value) else none).toList) := by
  cases k with
  | payload =>
    cases kind with
    | payload => exact h.set key value
    | metadata =>
      rw [if_neg nofun, Option.toList_none, List.append_nil]
      exact h
  | metadata =>
    cases kind with
    | payload =>
      rw [if_neg nofun, Option.toList_none, List.append_nil]
      exact h
    | metadata => exact h.set key value

end Fields

/-- `newKey`. -/
def newKey (key field : String) : String := if key = "" then field else key ++ "_" ++ field

/-- Different fields keep different names. -/
theorem newKey_injective (key : String) : Function.Injective (newKey key) := by
  intro field field' h
  unfold newKey at h
  split at h
  · exact h
  · exact (String.append_right_inj _).mp h

/-- The fields of entries under a key, one entry after the other. -/
def mergeFields (key : String) (innerOutputs : List (Fields N)) : Fields N :=
  innerOutputs.foldl (fun output innerOutput ↦
    ⟨output.payload.mergeAs (newKey key) innerOutput.payload,
      output.metadata.mergeAs (newKey key) innerOutput.metadata⟩) .empty

/-- Merging the fields of entries makes their assignments under longer names, if these have an
effect. -/
theorem reflects_mergeFields {kind : FieldKind} (key : String) (f : String × Json N → Fields N)
    (g : String × Json N → List (String × Json N)) (entries : List (String × Json N))
    (h : ∀ p ∈ entries, ((f p).ofKind kind).Reflects (g p)) :
    ((mergeFields key (entries.map f)).ofKind kind).Reflects
      (entries.flatMap fun p ↦ effective ((g p).map fun q ↦ (newKey key q.1, q.2))) := by
  have hloop : ∀ (entries : List (String × Json N)) (output : Fields N) l,
      (∀ p ∈ entries, ((f p).ofKind kind).Reflects (g p)) → (output.ofKind kind).Reflects l →
      (((entries.map f).foldl (fun output innerOutput ↦
        ⟨output.payload.mergeAs (newKey key) innerOutput.payload,
          output.metadata.mergeAs (newKey key) innerOutput.metadata⟩) output).ofKind kind).Reflects
        (l ++ entries.flatMap fun p ↦ effective ((g p).map fun q ↦ (newKey key q.1, q.2))) := by
    intro entries
    induction entries with
    | nil =>
      intro output l _ hl
      rw [List.flatMap_nil, List.append_nil]
      exact hl
    | cons p entries ih =>
      intro output l hall hl
      obtain ⟨hp, hentries⟩ := List.forall_mem_cons.mp hall
      rw [List.map_cons, List.foldl_cons, List.flatMap_cons, ← List.append_assoc]
      apply ih _ _ hentries
      cases kind with
      | payload => exact hl.mergeAs (newKey_injective key) hp
      | metadata => exact hl.mergeAs (newKey_injective key) hp
  exact hloop entries .empty [] h Fields.reflects_empty

/-- What becomes of a string under a key. -/
abbrev StringRule (N : Type) := String → String → FieldKind × Json N

variable [Zero N] [One N]

/-- What becomes of a value that is not nested. -/
def convert (rule : StringRule N) (key : String) : Json N → Option (FieldKind × Json N)
  | .number value => some (.payload, .number value)
  | .string value => some (rule key value)
  | .bool value => some (.payload, .number (if value then 1 else 0))
  | _ => none

/-- The fields of a value that is not nested. -/
def leafFields (rule : StringRule N) (key : String) (value : Json N) : Fields N :=
  match convert rule key value with
  | some (kind, value) => Fields.empty.assign kind key value
  | none => .empty

mutual

/-- The fields of a value under a key. -/
def getFields (rule : StringRule N) : String → Json N → Fields N
  | key, .array elements => mergeFields key (elementFields rule 0 elements)
  | key, .object properties =>
    mergeFields key ((Json.enumerate (propertyFields rule properties)).map Prod.snd)
  | key, value => leafFields rule key value

/-- The fields of each element. -/
def elementFields (rule : StringRule N) (index : Nat) : List (Json N) → List (Fields N)
  | [] => []
  | value :: values => getFields rule (toString index) value :: elementFields rule (index + 1) values

/-- The fields of each property. -/
def propertyFields (rule : StringRule N) : List (String × Json N) → List (String × Fields N)
  | [] => []
  | (key, value) :: properties => (key, getFields rule key value) :: propertyFields rule properties

end

/-- The rule of `sif-cloud-publisher.js:184–193`. -/
def sifRule (parseFloat : String → N) : StringRule N := fun _ value ↦
  if isNumeric value then (.payload, .number (parseFloat value)) else (.metadata, .string value)

/-- The rule of `linklab-influx-publisher.js:81–98`. -/
def influxRule (parseFloat : String → N) (isMicrobitSensor : Bool) : StringRule N := fun key value ↦
  if isMicrobitSensor then
    if key = "manufacturer_data" then (.payload, .string value) else (.metadata, .string value)
  else if isNumeric value then (.payload, .number (parseFloat value))
  else (.metadata, .string value)

/-- `_getOpenTsdbFriendlyFields`, `sif-cloud-publisher.js:173–217`. -/
def getOpenTsdbFriendlyFields (parseFloat : String → N) (key : String) (value : Json N) :
    Fields N :=
  getFields (sifRule parseFloat) key value

/-- `_getConvertedFields`, `linklab-influx-publisher.js:70–122`. -/
def getConvertedFields (parseFloat : String → N) (isMicrobitSensor : Bool) (key : String)
    (value : Json N) : Fields N :=
  getFields (influxRule parseFloat isMicrobitSensor) key value

/-! ### What is assigned to a field -/

/-- The name of the field for a value to which keys lead. -/
def fieldName : List String → String
  | [] => ""
  | [key] => key
  | key :: keys => newKey key (fieldName keys)

/-- On the way a value to which these keys lead is assigned under the name `__proto__`, and lost. -/
def isIgnored : List String → Bool
  | [] => false
  | key :: keys => fieldName (key :: keys) == "__proto__" || isIgnored keys

/-- The assignment of a leaf to a field of a kind, if it is of that kind and not ignored. -/
def assignment (rule : StringRule N) (kind : FieldKind) (leaf : List String × Json N) :
    Option (String × Json N) :=
  match convert rule (leaf.1.getLastD "") leaf.2 with
  | some (k, value) =>
    if k = kind ∧ isIgnored leaf.1 = false then some (fieldName leaf.1, value) else none
  | none => none

/-- The assignments to fields of a kind, in the order in which leaves are enumerated. -/
def assigned (rule : StringRule N) (kind : FieldKind) (key : String) (value : Json N) :
    List (String × Json N) :=
  (Json.underKey (key, value.leaves)).filterMap (assignment rule kind)

variable {rule : StringRule N} {kind : FieldKind}

/-- A leaf below a key goes where it goes without it, under a longer name. -/
theorem assignment_cons (key key' : String) (keys : List String) (value : Json N) :
    assignment rule kind (key :: key' :: keys, value) =
      ((assignment rule kind (key' :: keys, value)).map fun p ↦ (newKey key p.1, p.2)).filter
        fun p ↦ p.1 ≠ "__proto__" := by
  simp only [assignment, List.getLastD_cons]
  cases convert rule (keys.getLastD key') value with
  | none => rfl
  | some p =>
    obtain ⟨k, value⟩ := p
    have hignored : isIgnored (key :: key' :: keys) =
        (newKey key (fieldName (key' :: keys)) == "__proto__" || isIgnored (key' :: keys)) := rfl
    by_cases hk : k = kind ∧ isIgnored (key' :: keys) = false
    · by_cases hname : newKey key (fieldName (key' :: keys)) = "__proto__"
      · simp [hignored, hk, hname, Option.filter]
      · simp [hignored, hk, hname, fieldName, Option.filter]
    · have hlonger : ¬ (k = kind ∧ isIgnored (key :: key' :: keys) = false) := by
        rw [hignored, Bool.or_eq_false_iff]
        exact fun h ↦ hk ⟨h.1, h.2.2⟩
      simp only [hk, hlonger, if_false]
      rfl

/-- The assignments of an array or object are those of its entries, under longer names. -/
theorem assigned_of_nested (key : String) {value : Json N} (h : value.isNested = true) :
    assigned rule kind key value = value.entries.flatMap fun p ↦
      effective ((assigned rule kind p.1 p.2).map fun q ↦ (newKey key q.1, q.2)) := by
  simp only [assigned, effective, Json.leaves_of_nested h, Json.underKey, List.map_flatMap,
    List.map_map, List.filterMap_flatMap, List.filterMap_map, List.map_filterMap,
    List.filter_filterMap]
  congr 1
  funext p
  congr 1
  funext leaf
  exact assignment_cons key p.1 leaf.1 leaf.2

/-- A leaf is assigned under its key. -/
theorem assigned_of_leaf (key : String) {value : Json N} (h : value.isNested = false) :
    assigned rule kind key value = (assignment rule kind ([key], value)).toList := by
  rw [assigned, Json.leaves_of_leaf h, Json.underKey, List.map_singleton]
  cases hassignment : assignment rule kind ([key], value) with
  | none => rw [List.filterMap_cons_none hassignment, List.filterMap_nil, Option.toList_none]
  | some p => rw [List.filterMap_cons_some hassignment, List.filterMap_nil, Option.toList_some]

/-! ### The fields are what is assigned -/

/-- Other values are switched on their type. -/
theorem getFields_of_leaf (key : String) {value : Json N} (h : value.isNested = false) :
    getFields rule key value = leafFields rule key value := by
  cases value with
  | array => cases h
  | object => cases h
  | null => rfl
  | bool => rfl
  | number => rfl
  | string => rfl

private theorem elementFields_eq (index : Nat) (elements : List (Json N)) :
    elementFields rule index elements =
      (Json.indexed index elements).map fun p ↦ getFields rule p.1 p.2 := by
  induction elements generalizing index with
  | nil => rw [elementFields, Json.indexed, List.map_nil]
  | cons value values ih => rw [elementFields, Json.indexed, List.map_cons, ih]

private theorem propertyFields_eq (properties : List (String × Json N)) :
    propertyFields rule properties = properties.map fun p ↦ (p.1, getFields rule p.1 p.2) := by
  induction properties with
  | nil => rw [propertyFields, List.map_nil]
  | cons p properties ih =>
    obtain ⟨key, value⟩ := p
    rw [propertyFields, List.map_cons, ih]

/-- Arrays and objects are iterated over. -/
theorem getFields_of_nested (key : String) {value : Json N} (h : value.isNested = true) :
    getFields rule key value =
      mergeFields key (value.entries.map fun p ↦ getFields rule p.1 p.2) := by
  cases value with
  | array elements => rw [getFields, elementFields_eq, Json.entries]
  | object properties =>
    rw [getFields, propertyFields_eq, Json.enumerate_map (getFields rule), List.map_map, Json.entries]
    rfl
  | null => cases h
  | bool => cases h
  | number => cases h
  | string => cases h

/-- A leaf gives one field, or none. -/
theorem reflects_leafFields (key : String) (value : Json N) :
    ((leafFields rule key value).ofKind kind).Reflects
      (assignment rule kind ([key], value)).toList := by
  simp only [leafFields, assignment, List.getLastD_cons, List.getLastD_nil]
  cases convert rule key value with
  | none => exact Fields.reflects_empty
  | some p =>
    obtain ⟨k, value⟩ := p
    have hignored : isIgnored [key] = (key == "__proto__") := Bool.or_false _
    have hstored := JsObject.reflects_empty.assignValue key value
    have heffective : effective [(key, value)] =
        (if isIgnored [key] = false then some (fieldName [key], value) else none).toList := by
      by_cases hkey : key = "__proto__"
      · rw [hignored, beq_iff_eq.mpr hkey]
        simp [effective, hkey]
      · simp [effective, hignored, hkey, fieldName]
    cases k with
    | payload =>
      cases kind with
      | payload =>
        simp only [true_and, ← heffective]
        exact hstored
      | metadata => exact JsObject.reflects_empty
    | metadata =>
      cases kind with
      | payload => exact JsObject.reflects_empty
      | metadata =>
        simp only [true_and, ← heffective]
        exact hstored

/-- The fields of a value are those assigned to, with what is assigned last. -/
theorem reflects_getFields (rule : StringRule N) (kind : FieldKind) (key : String) (value : Json N) :
    ((getFields rule key value).ofKind kind).Reflects (assigned rule kind key value) := by
  induction value using Json.entries_induction generalizing key with
  | leaf value h =>
    rw [getFields_of_leaf key h, assigned_of_leaf key h]
    exact reflects_leafFields key value
  | nested value h ih =>
    rw [getFields_of_nested key h, assigned_of_nested key h]
    exact reflects_mergeFields key _ _ _ fun p hp ↦ ih p hp p.1

end NexusEdge.Publishers
