import Mathlib.Logic.Function.Basic
import NexusEdge.Base.Loop
import NexusEdge.Platform.Path

/-!
# Files

Library `Platform`. The regular files of a gateway with the operations of `fs-extra` in use.
Directories exist by the files in them.
-/

namespace NexusEdge.Platform
open NexusEdge.Base

/-- The content of each regular file. -/
abbrev FileSystem := Path → Option String

namespace FileSystem

/-- Writing a whole file; opening it with flag `w` writes the empty text. -/
def write (files : FileSystem) (p : Path) (content : String) : FileSystem :=
  Function.update files p (some content)

/-- `fs.copySync(src, dest)` of a regular file. -/
def copySync (files : FileSystem) (src dest : Path) : Outcome String FileSystem :=
  match files src with
  | some content => .done (files.write dest content)
  | none => .throw files ("ENOENT: no such file or directory, stat '" ++ src.toText ++ "'")

/-- `fs.copySync(src, dest)` of a directory: files already at the destination stay. -/
def copyDirSync (files : FileSystem) (src dest : Path) : FileSystem := fun p ↦
  if dest <+: p then (files (src ++ p.drop dest.length)).or (files p) else files p

/-- `fs.remove(p)` of a file or of a directory with its contents. -/
def remove (files : FileSystem) (p : Path) : FileSystem := fun q ↦
  if p <+: q then none else files q

/-- A removed file is gone. -/
theorem remove_self (files : FileSystem) (p : Path) : files.remove p p = none :=
  if_pos List.prefix_rfl

/-- The files below a directory are the same. -/
def AgreeBelow (p : Path) (files files' : FileSystem) : Prop := ∀ q, p <+: q → files' q = files q

/-- Only files at or below the paths differ. -/
def ChangesWithin (ps : List Path) (files files' : FileSystem) : Prop :=
  ∀ q, (∀ p ∈ ps, ¬ p <+: q) → files' q = files q

namespace ChangesWithin

variable {ps : List Path} {files files' files'' : FileSystem}

/-- Nothing changes. -/
theorem refl (ps : List Path) (files : FileSystem) : ChangesWithin ps files files := fun _ _ ↦ rfl

/-- Successive changes. -/
theorem trans (h : ChangesWithin ps files files') (h' : ChangesWithin ps files' files'') :
    ChangesWithin ps files files'' :=
  fun q hq ↦ (h' q hq).trans (h q hq)

/-- A file below one of the paths is written. -/
theorem write {p dest : Path} (hp : p ∈ ps) (hdest : p <+: dest) (files : FileSystem)
    (content : String) : ChangesWithin ps files (files.write dest content) := by
  intro q hq
  have hne : q ≠ dest := by
    rintro rfl
    exact hq p hp hdest
  exact Function.update_of_ne hne _ _

/-- A file is copied to below one of the paths. -/
theorem copySync {p dest : Path} (hp : p ∈ ps) (hdest : p <+: dest) (files : FileSystem)
    (src : Path) : ChangesWithin ps files (files.copySync src dest).state := by
  unfold FileSystem.copySync
  split
  · exact write hp hdest files _
  · exact refl ps files

/-- A directory is copied to below one of the paths. -/
theorem copyDirSync {p dest : Path} (hp : p ∈ ps) (hdest : p <+: dest) (files : FileSystem)
    (src : Path) : ChangesWithin ps files (files.copyDirSync src dest) := by
  intro q hq
  have hne : ¬ dest <+: q := fun h ↦ hq p hp (hdest.trans h)
  exact if_neg hne

/-- One of the paths is removed. -/
theorem remove {p : Path} (hp : p ∈ ps) (files : FileSystem) :
    ChangesWithin ps files (files.remove p) :=
  fun _ hq ↦ if_neg (hq p hp)

end ChangesWithin
end FileSystem
end NexusEdge.Platform
