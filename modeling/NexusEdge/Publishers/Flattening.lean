import NexusEdge.Publishers.Fields

/-!
# What flattening keeps

Library `Publishers`. The fields of a value, `sif-cloud-publisher.js:157–217` and
`linklab-influx-publisher.js:54–122`, compared with a visit of its leaves in the order of
enumeration, each assigned at its path; and when no measurement is lost. A path is joined with a
character that keys may contain, and on the way nothing can be assigned under the name `__proto__`.
-/

namespace NexusEdge.Publishers
open NexusEdge.Base

variable {N : Type}

/-! ### Names of fields -/

/-- The name of a field below a key. -/
theorem fieldName_cons_cons (key next : String) (keys : List String) :
    fieldName (key :: next :: keys) = newKey key (fieldName (next :: keys)) := rfl

/-- The name of a field joins the keys, when none of them is empty. -/
theorem fieldName_eq_intercalate {keys : List String} (h : "" ∉ keys) :
    fieldName keys = "_".intercalate keys := by
  induction keys with
  | nil => rw [fieldName, String.intercalate_nil]
  | cons key keys ih =>
    rw [List.mem_cons, not_or] at h
    cases keys with
    | nil => rw [fieldName, String.intercalate_singleton]
    | cons next keys =>
      rw [String.intercalate_cons_cons, ← ih h.2, fieldName_cons_cons, newKey, if_neg (Ne.symm h.1)]

/-- The keys that show in the name of a field: the last one, and the others unless they are
empty. -/
def shownKeys : List String → List String
  | [] => []
  | [key] => [key]
  | key :: keys => if key = "" then shownKeys keys else key :: shownKeys keys

/-- The last key always shows. -/
theorem shownKeys_ne_nil {keys : List String} (h : keys ≠ []) : shownKeys keys ≠ [] := by
  induction keys with
  | nil => exact absurd rfl h
  | cons key keys ih =>
    cases keys with
    | nil => exact List.cons_ne_nil _ _
    | cons next keys =>
      rw [shownKeys]
      · split
        · exact ih (List.cons_ne_nil _ _)
        · exact List.cons_ne_nil _ _
      · exact List.cons_ne_nil _ _

/-- The name of a field joins the keys that show. -/
theorem fieldName_eq_shownKeys {keys : List String} (h : keys ≠ []) :
    fieldName keys = "_".intercalate (shownKeys keys) := by
  induction keys with
  | nil => exact absurd rfl h
  | cons key keys ih =>
    cases keys with
    | nil => rw [fieldName, shownKeys, String.intercalate_singleton]
    | cons next keys =>
      have hrest : next :: keys ≠ [] := List.cons_ne_nil _ _
      have hshown : shownKeys (key :: next :: keys) =
          if key = "" then shownKeys (next :: keys) else key :: shownKeys (next :: keys) := rfl
      rw [fieldName_cons_cons, newKey, ih hrest, hshown]
      split
      · rfl
      · rw [String.intercalate_cons_of_ne_nil (shownKeys_ne_nil hrest)]

/-- The values are assigned under the empty key at the end. -/
theorem isIgnored_empty_cons (keys : List String) : isIgnored ("" :: keys) = isIgnored keys := by
  cases keys with
  | nil => decide
  | cons key keys =>
    have hname : fieldName ("" :: key :: keys) = fieldName (key :: keys) := by
      rw [fieldName_cons_cons, newKey, if_pos rfl]
    rw [isIgnored, hname, isIgnored, ← Bool.or_assoc, Bool.or_self]

/-! ### Measurements and their fields -/

/-- A number, a string or a boolean. -/
def isMeasurement : Json N → Bool
  | .number _ => true
  | .string _ => true
  | .bool _ => true
  | _ => false

/-- The number, string and boolean leaves of a value, with the keys that lead to them. -/
def measurements (value : Json N) : List (List String × Json N) :=
  value.leaves.filter fun leaf ↦ isMeasurement leaf.2

/-- The object that a measurement under a key goes to. -/
def kindOf (rule : StringRule N) (key : String) : Json N → FieldKind
  | .string value => (rule key value).1
  | _ => .payload

/-- The field that a leaf ends up under. -/
def outputField (rule : StringRule N) (leaf : List String × Json N) : FieldKind × String :=
  (kindOf rule (leaf.1.getLastD "") leaf.2, fieldName ("" :: leaf.1))

/-- The fields of the output and the measurements correspond one to one: no two measurements have
the same field, and every field is that of a measurement. -/
structure Lossless (rule : StringRule N) (value : Json N) (output : Fields N) : Prop where
  apart : ((measurements value).map (outputField rule)).Nodup
  fields : ∀ kind name, (output.ofKind kind).hasOwn name ↔
    (kind, name) ∈ (measurements value).map (outputField rule)

/-- Where a leaf goes, and what remains of its keys once they are joined: the words between
underscores. -/
def outputWords (rule : StringRule N) (leaf : List String × Json N) : FieldKind × List String :=
  (kindOf rule (leaf.1.getLastD "") leaf.2, (shownKeys ("" :: leaf.1)).flatMap (split '_'))

/-- No two measurements of one kind have keys of the same words. -/
def WordsApart (rule : StringRule N) (value : Json N) : Prop :=
  ((measurements value).map (outputWords rule)).Nodup

/-- The words are the parts of the name. -/
theorem outputWords_eq (rule : StringRule N) (leaf : List String × Json N) :
    outputWords rule leaf = Prod.map id (split '_') (outputField rule leaf) := by
  have hkeys : "" :: leaf.1 ≠ [] := List.cons_ne_nil _ _
  have hseparator : "_" = String.singleton '_' := rfl
  rw [outputField, Prod.map_apply, fieldName_eq_shownKeys hkeys, hseparator,
    split_intercalate '_' (shownKeys_ne_nil hkeys), outputWords, id]

/-- Measurements share a field exactly if they share kind and words. -/
theorem wordsApart_iff (rule : StringRule N) (value : Json N) :
    WordsApart rule value ↔ ((measurements value).map (outputField rule)).Nodup := by
  have hmap : (measurements value).map (outputWords rule) =
      ((measurements value).map (outputField rule)).map (Prod.map id (split '_')) := by
    rw [List.map_map]
    exact List.map_congr_left fun leaf _ ↦ outputWords_eq rule leaf
  rw [WordsApart, hmap]
  exact List.nodup_map_iff (Function.injective_id.prodMap (split_injective '_'))

variable [Zero N] [One N]

/-! ### The leaves in order -/

/-- One leaf, assigned at its path joined with `_`. -/
def assignLeaf (parseFloat : String → N) (fields : Fields N) (leaf : List String × Json N) :
    Fields N :=
  let path := "_".intercalate leaf.1
  match leaf.2 with
  | .number value => fields.set .payload path (.number value)
  | .bool value => fields.set .payload path (.number (if value then 1 else 0))
  | .string value =>
    if isNumeric value then fields.set .payload path (.number (parseFloat value))
    else fields.set .metadata path (.string value)
  | _ => fields

/-- The fields as documented: all leaves, one after the other. -/
def flattened (parseFloat : String → N) (value : Json N) : Fields N :=
  value.leaves.foldl (assignLeaf parseFloat) .empty

/-- A leaf with the keys that lead to it contributes the same assignment in both. -/
theorem reflects_assignLeaf {parseFloat : String → N} {fields : Fields N} {kind : FieldKind}
    {l : List (String × Json N)} (h : (fields.ofKind kind).Reflects l)
    {leaf : List String × Json N} (hkeys : "" ∉ leaf.1)
    (hkept : isMeasurement leaf.2 = true → isIgnored leaf.1 = false) :
    ((assignLeaf parseFloat fields leaf).ofKind kind).Reflects
      (l ++ (assignment (sifRule parseFloat) kind ("" :: leaf.1, leaf.2)).toList) := by
  obtain ⟨keys, value⟩ := leaf
  have hname : fieldName ("" :: keys) = "_".intercalate keys := by
    cases keys with
    | nil => rw [fieldName, String.intercalate_nil]
    | cons key keys =>
      rw [fieldName_cons_cons, newKey, if_pos rfl, fieldName_eq_intercalate hkeys]
  have hset : ∀ (k : FieldKind) (stored : Json N),
      ((fields.set k ("_".intercalate keys) stored).ofKind kind).Reflects
        (l ++ (if k = kind then some ("_".intercalate keys, stored) else none).toList) :=
    fun k stored ↦ Fields.reflects_set h k _ stored
  unfold assignLeaf assignment
  rw [hname, isIgnored_empty_cons]
  cases value with
  | number value =>
    simp only [convert, hkept rfl, and_true]
    exact hset .payload _
  | bool value =>
    simp only [convert, hkept rfl, and_true]
    exact hset .payload _
  | string value =>
    simp only [convert, sifRule, hkept rfl, and_true]
    by_cases hnumeric : isNumeric value = true
    · simp only [hnumeric, if_true]
      exact hset .payload _
    · simp only [hnumeric]
      exact hset .metadata _
  | null =>
    simp only [convert, Option.toList_none, List.append_nil]
    exact h
  | array elements =>
    simp only [convert, Option.toList_none, List.append_nil]
    exact h
  | object properties =>
    simp only [convert, Option.toList_none, List.append_nil]
    exact h

/-- The visit of all leaves makes the assignments of the recursion. -/
theorem reflects_flattened (parseFloat : String → N) (kind : FieldKind) {value : Json N}
    (h : "" ∉ value.objectKeys) (hkept : ∀ leaf ∈ measurements value, isIgnored leaf.1 = false) :
    ((flattened parseFloat value).ofKind kind).Reflects
      (assigned (sifRule parseFloat) kind "" value) := by
  have hloop : ∀ (leaves : List (List String × Json N)) (fields : Fields N) l,
      (∀ leaf ∈ leaves, "" ∉ leaf.1 ∧ (isMeasurement leaf.2 = true → isIgnored leaf.1 = false)) →
      (fields.ofKind kind).Reflects l →
      ((leaves.foldl (assignLeaf parseFloat) fields).ofKind kind).Reflects
        (l ++ (Json.underKey ("", leaves)).filterMap (assignment (sifRule parseFloat) kind)) := by
    intro leaves
    induction leaves with
    | nil =>
      intro fields l _ hl
      rw [Json.underKey, List.map_nil, List.filterMap_nil, List.append_nil]
      exact hl
    | cons leaf leaves ih =>
      intro fields l hkeys hl
      obtain ⟨hleaf, hleaves⟩ := List.forall_mem_cons.mp hkeys
      have hstep : ((assignLeaf parseFloat fields leaf).ofKind kind).Reflects _ :=
        reflects_assignLeaf hl hleaf.1 hleaf.2
      have hrest := ih _ _ hleaves hstep
      rw [List.append_assoc] at hrest
      rw [List.foldl_cons, Json.underKey, List.map_cons, List.filterMap_cons]
      cases hassignment : assignment (sifRule parseFloat) kind ("" :: leaf.1, leaf.2) with
      | none =>
        rw [hassignment, Option.toList_none, List.nil_append] at hrest
        exact hrest
      | some p =>
        rw [hassignment, Option.toList_some, List.singleton_append] at hrest
        exact hrest
  exact hloop value.leaves .empty [] (fun leaf hleaf ↦
    ⟨Json.empty_not_mem_of_mem_leaves h hleaf,
      fun hmeasured ↦ hkept leaf (List.mem_filter.mpr ⟨hleaf, hmeasured⟩)⟩) Fields.reflects_empty

/-- Without empty keys and measurements that are ignored both publishers, the second one for every
device but a microbit, make of a value the fields of its leaves in the order of enumeration, each at
its joined path. -/
theorem fields_eq_flattened (parseFloat : String → N) (value : Json N)
    (hkeys : "" ∉ value.objectKeys)
    (hkept : ∀ leaf ∈ measurements value, isIgnored leaf.1 = false) :
    (∀ kind name, ((getOpenTsdbFriendlyFields parseFloat "" value).ofKind kind).get? name =
      ((flattened parseFloat value).ofKind kind).get? name) ∧
    ∀ deviceType : String, deviceType ≠ "microbit" →
      getConvertedFields parseFloat (deviceType = "microbit") "" value =
        getOpenTsdbFriendlyFields parseFloat "" value := by
  refine ⟨fun kind name ↦ ?_, fun deviceType hdevice ↦ ?_⟩
  · have hfields := reflects_getFields (sifRule parseFloat) kind "" value name
    have hleaves := reflects_flattened parseFloat kind hkeys hkept name
    exact hfields.trans hleaves.symm
  · have hrule : influxRule parseFloat (deviceType = "microbit") = sifRule parseFloat := by
      funext key text
      simp [influxRule, sifRule, hdevice]
    rw [getConvertedFields, hrule, getOpenTsdbFriendlyFields]

/-- The example of the documentation. -/
def acceleration : Json Nat :=
  .object [("acceleration", .object [("x", .number 5), ("y", .number 10), ("unit", .string "mph")])]

/-- Its fields are those documented, for a sensor of any other type in the second publisher, too. -/
theorem fields_acceleration :
    ((getOpenTsdbFriendlyFields (fun _ ↦ 0) "" acceleration).ofKind .payload).get?
        "acceleration_y" = some (.number 10) ∧
      ((getOpenTsdbFriendlyFields (fun _ ↦ 0) "" acceleration).ofKind .metadata).get?
        "acceleration_unit" = some (.string "mph") ∧
      getConvertedFields (fun _ ↦ 0) ("sensor" = "microbit") "" acceleration =
        getOpenTsdbFriendlyFields (fun _ ↦ 0) "" acceleration :=
  have h := fields_eq_flattened (fun _ ↦ 0) acceleration (by decide) (by decide)
  ⟨(h.1 .payload "acceleration_y").trans rfl, (h.1 .metadata "acceleration_unit").trans rfl,
    h.2 "sensor" (by decide)⟩

/-- A measurement under the key `__proto__` of an inner object gets no field. -/
theorem measurement_ignored : ¬ ∀ (parseFloat : String → Nat) (value : Json Nat),
    "" ∉ value.objectKeys →
    ∀ kind name, ((getOpenTsdbFriendlyFields parseFloat "" value).ofKind kind).get? name =
      ((flattened parseFloat value).ofKind kind).get? name := by
  intro h
  have hfields := h (fun _ ↦ 0) (.object [("a", .object [("__proto__", .number 5)])]) (by decide)
    .payload "a___proto__"
  have hleaf : ((flattened (fun _ ↦ 0) (.object [("a", .object [("__proto__",
      .number 5)])])).ofKind .payload).get? "a___proto__" = some (Json.number 5) := rfl
  rw [hleaf] at hfields
  cases hfields

/-! ### No measurement is lost -/

/-- A leaf is assigned to a field exactly if it is a measurement with this field that is not
ignored. -/
theorem assignment_isSome_iff (rule : StringRule N) (kind : FieldKind) (name : String)
    (leaf : List String × Json N) :
    (∃ value, assignment rule kind ("" :: leaf.1, leaf.2) = some (name, value)) ↔
      isMeasurement leaf.2 = true ∧ isIgnored leaf.1 = false ∧
        outputField rule leaf = (kind, name) := by
  obtain ⟨keys, value⟩ := leaf
  simp only [assignment, List.getLastD_cons, outputField, isIgnored_empty_cons]
  cases value with
  | number value => simp [convert, kindOf, isMeasurement, and_comm, and_assoc]
  | bool value => simp [convert, kindOf, isMeasurement, and_comm, and_assoc]
  | string value => simp [convert, kindOf, isMeasurement, and_comm, and_left_comm, and_assoc]
  | null => simp [convert, isMeasurement]
  | array => simp [convert, isMeasurement]
  | object => simp [convert, isMeasurement]

/-- The fields of the output are those of the measurements that are not ignored. -/
theorem hasOwn_getFields_iff (rule : StringRule N) (value : Json N) (kind : FieldKind)
    (name : String) : ((getFields rule "" value).ofKind kind).hasOwn name ↔
      ∃ leaf ∈ measurements value, isIgnored leaf.1 = false ∧
        outputField rule leaf = (kind, name) := by
  rw [JsObject.hasOwn, reflects_getFields rule kind "" value name, lastAssigned,
    List.lookup_isSome_iff]
  simp only [List.mem_reverse, assigned, Json.underKey, List.filterMap_map, List.mem_filterMap,
    Function.comp_apply, beq_iff_eq, measurements, List.mem_filter]
  constructor
  · rintro ⟨p, ⟨leaf, hleaf, hassignment⟩, rfl⟩
    obtain ⟨hmeasured, hkept, hfield⟩ :=
      (assignment_isSome_iff rule kind p.1 leaf).mp ⟨p.2, hassignment⟩
    exact ⟨leaf, ⟨hleaf, hmeasured⟩, hkept, hfield⟩
  · rintro ⟨leaf, ⟨hleaf, hmeasured⟩, hkept, hfield⟩
    obtain ⟨stored, hassignment⟩ :=
      (assignment_isSome_iff rule kind name leaf).mpr ⟨hmeasured, hkept, hfield⟩
    exact ⟨(name, stored), ⟨leaf, hleaf, hassignment⟩, rfl⟩

/-- Flattening loses nothing exactly if the words tell the measurements apart and none of them is
ignored. -/
theorem lossless_getFields_iff (rule : StringRule N) (value : Json N) :
    Lossless rule value (getFields rule "" value) ↔
      WordsApart rule value ∧ ∀ leaf ∈ measurements value, isIgnored leaf.1 = false := by
  rw [wordsApart_iff]
  constructor
  · intro h
    refine ⟨h.apart, fun leaf hleaf ↦ ?_⟩
    -- A measurement that is ignored would share its field with one that is not.
    have hfield := (h.fields _ _).mpr (List.mem_map_of_mem hleaf)
    obtain ⟨other, hother, hkept, hsame⟩ := (hasOwn_getFields_iff rule value _ _).mp hfield
    rw [List.inj_on_of_nodup_map h.apart hother hleaf hsame] at hkept
    exact hkept
  · rintro ⟨hapart, hkept⟩
    refine ⟨hapart, fun kind name ↦ ?_⟩
    rw [hasOwn_getFields_iff, List.mem_map]
    exact exists_congr fun leaf ↦ and_congr_right fun hleaf ↦ and_iff_right (hkept leaf hleaf)

/-- In both publishers the fields of device data correspond one to one to its measurements exactly
if no two measurements of one kind have keys that give the same words, and none is ignored. -/
theorem lossless_iff (parseFloat : String → N) (deviceData : Json N) :
    (Lossless (sifRule parseFloat) deviceData
        (getOpenTsdbFriendlyFields parseFloat "" deviceData) ↔
      WordsApart (sifRule parseFloat) deviceData ∧
        ∀ leaf ∈ measurements deviceData, isIgnored leaf.1 = false) ∧
    ∀ isMicrobitSensor, Lossless (influxRule parseFloat isMicrobitSensor) deviceData
        (getConvertedFields parseFloat isMicrobitSensor "" deviceData) ↔
      WordsApart (influxRule parseFloat isMicrobitSensor) deviceData ∧
        ∀ leaf ∈ measurements deviceData, isIgnored leaf.1 = false :=
  ⟨lossless_getFields_iff _ deviceData, fun _ ↦ lossless_getFields_iff _ deviceData⟩

/-- Two numbers under one name: a nested one, and one whose key has the underscore. -/
theorem measurement_lost : ¬ ∀ (parseFloat : String → Nat) (properties : List (String × Json Nat)),
    Lossless (sifRule parseFloat) (.object properties)
      (getOpenTsdbFriendlyFields parseFloat "" (.object properties)) := by
  intro h
  have hapart := (h (fun _ ↦ 0) [("a", .object [("b", .number 1)]), ("a_b", .number 2)]).apart
  revert hapart
  decide

end NexusEdge.Publishers
