import Mathlib.Data.List.Infix
import NexusEdge.Base.JsString

/-!
# File paths

Library `Platform`. Normalised absolute paths by their components, with the operations of
Node's `path` module in use.
-/

namespace NexusEdge.Platform
open NexusEdge.Base

/-- The components of a normalised absolute path. -/
abbrev Path := List String

namespace Path

/-- `path.basename(p)`. -/
def basename (p : Path) : String := p.getLast?.getD ""

/-- `path.dirname(p)`. -/
def dirname (p : Path) : Path := p.dropLast

/-- `path.join(p, name)` with a single component. -/
def join (p : Path) (name : String) : Path := p ++ [name]

/-- The path as text. -/
def toText (p : Path) : String := "/" ++ "/".intercalate p

/-- No component is empty, `.` or `..`, and none has a separator. -/
def Normalised (p : Path) : Prop :=
  ∀ name ∈ p, name ≠ "" ∧ name ≠ "." ∧ name ≠ ".." ∧ '/' ∉ name.toList

instance : DecidablePred Normalised := fun p ↦
  inferInstanceAs (Decidable (∀ name ∈ p, name ≠ "" ∧ name ≠ "." ∧ name ≠ ".." ∧
    '/' ∉ name.toList))

/-- The components of `path.relative(source, target)`: up to the common directory, then down. -/
def relativeParts : Path → Path → List String
  | name :: source, next :: target =>
    if name = next then relativeParts source target
    else List.replicate (source.length + 1) ".." ++ next :: target
  | [], target => target
  | source, [] => List.replicate source.length ".."

/-- `path.relative(source, target)`. -/
def relative (source target : Path) : String := "/".intercalate (relativeParts source target)

/-- The directory of a joined path. -/
@[simp] theorem dirname_join (p : Path) (name : String) : (p.join name).dirname = p := by
  simp [join, dirname]

/-- Only the same path takes no step. -/
theorem relativeParts_eq_nil_iff (source target : Path) :
    relativeParts source target = [] ↔ source = target := by
  induction source generalizing target with
  | nil => simp [relativeParts, eq_comm]
  | cons name source ih =>
    cases target with
    | nil => simp [relativeParts]
    | cons next target =>
      rw [relativeParts]
      split
      · next hname => simp [hname, ih]
      · next hname => simp [hname]

/-- All steps go up exactly if the target is an ancestor, or the path itself. -/
theorem relativeParts_up_iff (source : Path) {target : Path} (h : target.Normalised) :
    (∀ part ∈ relativeParts source target, part = "..") ↔ target <+: source := by
  induction source generalizing target with
  | nil =>
    rw [List.prefix_nil, relativeParts]
    constructor
    · intro hup
      apply List.eq_nil_iff_forall_not_mem.mpr
      exact fun name hname ↦ (h name hname).2.2.1 (hup name hname)
    · rintro rfl
      exact nofun
  | cons name source ih =>
    cases target with
    | nil =>
      simp only [relativeParts, List.nil_prefix, iff_true]
      exact fun part hpart ↦ List.eq_of_mem_replicate hpart
    | cons next target =>
      have htarget : Normalised target := fun part hpart ↦ h part (List.mem_cons_of_mem _ hpart)
      rw [relativeParts, List.cons_prefix_cons]
      split
      · next hname => rw [ih htarget, and_iff_right hname.symm]
      · next hname =>
        apply iff_of_false
        · intro hup
          have hnext := hup next (List.mem_append_right _ List.mem_cons_self)
          exact (h next List.mem_cons_self).2.2.1 hnext
        · exact fun hprefix ↦ hname hprefix.1.symm

/-- No step has a separator. -/
theorem not_mem_of_mem_relativeParts (source : Path) {target : Path} (h : target.Normalised) :
    ∀ part ∈ relativeParts source target, '/' ∉ part.toList := by
  have hup : '/' ∉ "..".toList := by decide
  induction source generalizing target with
  | nil => exact fun part hpart ↦ (h part hpart).2.2.2
  | cons name source ih =>
    cases target with
    | nil =>
      intro part hpart
      rw [List.eq_of_mem_replicate hpart]
      exact hup
    | cons next target =>
      rw [relativeParts]
      split
      · exact ih fun part hpart ↦ h part (List.mem_cons_of_mem _ hpart)
      · intro part hpart
        rcases List.mem_append.mp hpart with hpart | hpart
        · rw [List.eq_of_mem_replicate hpart]
          exact hup
        · exact (h part hpart).2.2.2

/-- Split at the separator, the relative path between two paths gives its steps. -/
theorem split_relative {source target : Path} (h : target.Normalised) (hne : source ≠ target) :
    split '/' (relative source target) = relativeParts source target := by
  have hparts : relativeParts source target ≠ [] := fun hnil ↦
    hne ((relativeParts_eq_nil_iff source target).mp hnil)
  have hsplit := split_intercalate '/' hparts
  rw [List.flatMap_congr fun part hpart ↦
    split_of_not_mem (not_mem_of_mem_relativeParts source h part hpart)] at hsplit
  rw [List.flatMap_singleton'] at hsplit
  exact hsplit

end Path
end NexusEdge.Platform
