import NexusEdge.Base.Prototype

/-!
# Objects built by assignments

Library `Base`. An object reflects a list of assignments when reading a property gives what has
been assigned last. One object is merged into another by assigning its properties under new names;
distinct names stay distinct. The values are none that could be prototypes, so that an assignment
to `__proto__` has no effect.
-/

namespace NexusEdge.Base

universe u

variable {α : Type u}

/-- What is assigned last under a name. -/
def lastAssigned (assignments : List (String × α)) (name : String) : Option α :=
  assignments.reverse.lookup name

/-- Later assignments come first. -/
theorem lastAssigned_append (l m : List (String × α)) (name : String) :
    lastAssigned (l ++ m) name = (lastAssigned m name).or (lastAssigned l name) := by
  rw [lastAssigned, List.reverse_append, List.lookup_append]
  rfl

/-- One assignment. -/
theorem lastAssigned_singleton (key : String) (value : α) (name : String) :
    lastAssigned [(key, value)] name = if name = key then some value else none := by
  simp only [lastAssigned, List.reverse_singleton, List.lookup_cons, List.lookup_nil]
  split
  · next h => rw [if_pos (beq_iff_eq.mp h)]
  · next h => rw [if_neg (by simpa using h)]

/-- Entries under new names, distinct names staying distinct. -/
theorem lookup_rename {rename : String → String} (hrename : Function.Injective rename)
    (l : List (String × α)) (name : String) :
    (l.map fun p ↦ (rename p.1, p.2)).lookup (rename name) = l.lookup name := by
  induction l with
  | nil => rfl
  | cons p l ih =>
    have hbeq : (rename name == rename p.1) = (name == p.1) := by
      by_cases h : name = p.1
      · simp [h]
      · have hne : rename name ≠ rename p.1 := fun heq ↦ h (hrename heq)
        simp [h, hne]
    rw [List.map_cons, List.lookup_cons, List.lookup_cons, hbeq, ih]

/-- The assignments that have an effect. -/
def effective (assignments : List (String × α)) : List (String × α) :=
  assignments.filter fun p ↦ p.1 ≠ "__proto__"

/-- What is read is not `__proto__`. -/
theorem lookup_effective (l : List (String × α)) (name : String) :
    (effective l).lookup name = if name = "__proto__" then none else l.lookup name := by
  induction l with
  | nil => simp [effective]
  | cons p l ih =>
    simp only [effective, List.filter_cons, decide_eq_true_eq] at ih ⊢
    split
    · next hp =>
      rw [List.lookup_cons, List.lookup_cons, ih]
      split
      · next hname => rw [if_neg (by rw [beq_iff_eq.mp hname]; exact hp)]
      · rfl
    · next hp =>
      rw [ih]
      split
      · rfl
      · next hname =>
        have hne : (name == p.1) = false := beq_eq_false_iff_ne.mpr fun heq ↦
          hname (heq.trans (not_not.mp hp))
        rw [List.lookup_cons, hne]

/-- No entry has a name other than the new ones. -/
theorem lookup_rename_of_ne {rename : String → String} (l : List (String × α)) {name : String}
    (h : ∀ field, rename field ≠ name) : (l.map fun p ↦ (rename p.1, p.2)).lookup name = none := by
  apply List.lookup_eq_none_iff.mpr
  intro p hp
  obtain ⟨q, _, rfl⟩ := List.mem_map.mp hp
  simpa using (h q.1).symm

namespace JsObject

/-- The object reflects the assignments. -/
def Reflects (o : JsObject α) (assignments : List (String × α)) : Prop :=
  ∀ name, o.get? name = lastAssigned assignments name

/-- An empty object. -/
theorem reflects_empty : (empty : JsObject α).Reflects [] := fun _ ↦ rfl

/-- Another assignment. -/
theorem Reflects.set {o : JsObject α} {l : List (String × α)} (h : o.Reflects l) (key : String)
    (value : α) : (o.set key value).Reflects (l ++ [(key, value)]) := by
  intro name
  rw [get?_set, lastAssigned_append, lastAssigned_singleton, ← h name]
  split
  · rfl
  · rfl

/-- Another assignment, if it has an effect. -/
theorem Reflects.assignValue {o : JsObject α} {l : List (String × α)} (h : o.Reflects l)
    (key : String) (value : α) :
    (o.assignValue key value).Reflects (l ++ effective [(key, value)]) := by
  unfold JsObject.assignValue effective
  by_cases hkey : key = "__proto__"
  · simpa [hkey] using h
  · simpa [hkey] using h.set key value

/-- Only some of several assignments have an effect. -/
theorem foldl_assignValue (l : List (String × α)) (o : JsObject α) :
    l.foldl (fun o p ↦ o.assignValue p.1 p.2) o =
      (effective l).foldl (fun o p ↦ o.set p.1 p.2) o := by
  induction l generalizing o with
  | nil => rfl
  | cons p l ih =>
    rw [List.foldl_cons, ih, effective, effective, List.filter_cons]
    unfold JsObject.assignValue
    by_cases hp : p.1 = "__proto__"
    · rw [if_pos hp, if_neg (by simpa using hp)]
    · rw [if_neg hp, if_pos (by simpa using hp), List.foldl_cons]

/-- `for(const [name, value] of Object.entries(inner)) o[rename(name)] = value`. -/
def mergeAs (rename : String → String) (o inner : JsObject α) : JsObject α :=
  inner.ownEntries.foldl (fun o p ↦ o.assignValue (rename p.1) p.2) o

/-- Merging adds the assignments of the inner object under their new names. -/
theorem Reflects.mergeAs {rename : String → String} (hrename : Function.Injective rename)
    {o inner : JsObject α} {l m : List (String × α)} (ho : o.Reflects l) (hinner : inner.Reflects m) :
    (o.mergeAs rename inner).Reflects (l ++ effective (m.map fun p ↦ (rename p.1, p.2))) := by
  intro name
  have hkeys : ((inner.ownEntries.map fun p ↦ (rename p.1, p.2)).map Prod.fst).Nodup := by
    have hcomp : (Prod.fst ∘ fun p : String × α ↦ (rename p.1, p.2)) = rename ∘ Prod.fst := rfl
    rw [List.map_map, hcomp, ← List.map_map]
    exact inner.nodup_keys.map hrename
  have hmade : ((effective (inner.ownEntries.map fun p ↦ (rename p.1, p.2))).map Prod.fst).Nodup :=
    (List.filter_sublist.map Prod.fst).nodup hkeys
  have hfold : o.mergeAs rename inner =
      (effective (inner.ownEntries.map fun p ↦ (rename p.1, p.2))).foldl
        (fun o p ↦ o.set p.1 p.2) o := by
    rw [← foldl_assignValue, List.foldl_map]
    rfl
  have hreverse : (effective (m.map fun p ↦ (rename p.1, p.2))).reverse =
      effective (m.reverse.map fun p ↦ (rename p.1, p.2)) := by
    rw [effective, effective, List.map_reverse, List.filter_reverse]
  rw [hfold, get?_foldl_set _ hmade, lastAssigned_append, ho name]
  congr 1
  rw [lastAssigned, hreverse, lookup_effective, lookup_effective]
  congr 1
  by_cases hname : ∃ field, rename field = name
  · obtain ⟨field, rfl⟩ := hname
    rw [lookup_rename hrename, lookup_rename hrename, lookup_ownEntries]
    exact hinner field
  · rw [not_exists] at hname
    rw [lookup_rename_of_ne _ hname, lookup_rename_of_ne _ hname]

end JsObject
end NexusEdge.Base
