import NexusEdge.Platform.Path

/-!
# Storage filesystem

Library `Platform`. `getStorageFilesystem` of `utils.js:24–45`, which looks for the filesystem that
`StoragePath` lies on by relative paths back to the mounts, and the free storage that
`getResources`, `utils.js:80–108`, reports from it.
-/

namespace NexusEdge.Platform
open NexusEdge.Base

/-- An entry of `sysinfo.fsSize()`, mounted at a normalised absolute path. -/
structure Filesystem where
  mount : Path
  normalised : mount.Normalised
  available : Nat
  deriving DecidableEq

/-- `StoragePath`, `utils.js:18`. -/
def storagePath : Path := ["var", "tmp"]

/-- The occurrences of `..` at which `split('..')` splits. -/
def countUp : List Char → Nat
  | '.' :: '.' :: cs => countUp cs + 1
  | _ :: cs => countUp cs
  | [] => 0

/-- `isParent`, `utils.js:32–33`. -/
def isParent (relativePath : String) : Bool := (split '/' relativePath).all (· == "..")

/-- `levelsUp`, `utils.js:34`. -/
def levelsUp (relativePath : String) : Nat := countUp relativePath.toList + 1

/-- What the loop keeps. -/
structure Selection where
  mountFs : Option Filesystem
  levels : Int

/-- The body of the loop, `utils.js:30–39`. -/
def Selection.consider (selection : Selection) (filesystem : Filesystem) : Selection :=
  let relativePath := Path.relative storagePath filesystem.mount
  if isParent relativePath ∧
      (((split '/' relativePath).length : Int) - 1 < selection.levels ∨
        selection.mountFs.isNone) then
    ⟨some filesystem, levelsUp relativePath⟩
  else selection

/-- `getStorageFilesystem`, `utils.js:24–45`, of the list that `fsSize` resolves with. -/
def getStorageFilesystem (filesystems : List Filesystem) : Option Filesystem :=
  (filesystems.foldl Selection.consider ⟨none, -1⟩).mountFs

/-- `storageFreeMB`, `utils.js:103`; without a filesystem, reading `available` throws. -/
def storageFreeMB (filesystems : List Filesystem) : Option Nat :=
  (getStorageFilesystem filesystems).map fun storageFs ↦ storageFs.available / (1024 * 1024)

/-! ### What the loop selects -/

/-- Mounted above the storage path, and not at it. -/
def Filesystem.above (filesystem : Filesystem) : Bool :=
  filesystem.mount == [] || filesystem.mount == ["var"]

/-- A mount above the storage path is one of two. -/
theorem Filesystem.above_iff (filesystem : Filesystem) :
    filesystem.above = true ↔ filesystem.mount = [] ∨ filesystem.mount = ["var"] := by
  rw [above, Bool.or_eq_true, beq_iff_eq, beq_iff_eq]

/-- The mount is an ancestor of the storage path, or the path itself. -/
def Filesystem.Holds (filesystem : Filesystem) : Prop := filesystem.mount <+: storagePath

instance : DecidablePred Filesystem.Holds := fun filesystem ↦
  inferInstanceAs (Decidable (filesystem.mount <+: storagePath))

/-- The storage path has two ancestors. -/
theorem Filesystem.holds_iff (filesystem : Filesystem) :
    filesystem.Holds ↔ filesystem.above ∨ filesystem.mount = storagePath := by
  rw [Holds, above_iff, storagePath]
  constructor
  · intro h
    rcases List.prefix_cons_iff.mp h with hroot | ⟨rest, hrest, hprefix⟩
    · simp [hroot]
    · rcases List.prefix_cons_iff.mp hprefix with hvar | ⟨rest', hrest', hprefix'⟩
      · simp [hrest, hvar]
      · simp [hrest, hrest', List.prefix_nil.mp hprefix']
  · rintro ((h | h) | h) <;> simp [h]

/-- Back to a filesystem at the storage path itself there is no step up. -/
theorem isParent_iff (filesystem : Filesystem) :
    isParent (Path.relative storagePath filesystem.mount) = filesystem.above := by
  by_cases hself : filesystem.mount = storagePath
  · rw [Filesystem.above, hself]
    decide
  · rw [Bool.eq_iff_iff, isParent, Path.split_relative filesystem.normalised (Ne.symm hself),
      List.all_eq_true]
    simp only [beq_iff_eq]
    rw [Path.relativeParts_up_iff storagePath filesystem.normalised]
    exact filesystem.holds_iff.trans (or_iff_left hself)

/-- The measure that is compared is below the one that is kept, whichever the two mounts are. -/
theorem levels_of_above {filesystem : Filesystem} (h : filesystem.above = true) :
    (split '/' (Path.relative storagePath filesystem.mount)).length ≤ 2 ∧
      2 ≤ levelsUp (Path.relative storagePath filesystem.mount) := by
  cases filesystem.above_iff.mp h with
  | inl h => rw [h]; decide
  | inr h => rw [h]; decide

/-- Every mount above the storage path replaces the one kept before. -/
theorem consider_mountFs {selection : Selection}
    (h : selection.mountFs.isSome → 2 ≤ selection.levels) (filesystem : Filesystem) :
    (selection.consider filesystem).mountFs =
        (if filesystem.above then some filesystem else selection.mountFs) ∧
      ((selection.consider filesystem).mountFs.isSome →
        2 ≤ (selection.consider filesystem).levels) := by
  unfold Selection.consider
  simp only [isParent_iff]
  by_cases habove : filesystem.above = true
  · obtain ⟨hlength, hlevels⟩ := levels_of_above habove
    have hreplaces : ((split '/' (Path.relative storagePath filesystem.mount)).length : Int) - 1 <
        selection.levels ∨ selection.mountFs.isNone = true := by
      cases hkept : selection.mountFs with
      | none => exact Or.inr rfl
      | some kept =>
        left
        have hkeptLevels := h (by rw [hkept]; rfl)
        omega
    rw [if_pos ⟨habove, hreplaces⟩, if_pos habove]
    refine ⟨rfl, fun _ ↦ ?_⟩
    show (2 : Int) ≤ (levelsUp _ : Nat)
    omega
  · rw [if_neg fun hboth ↦ habove hboth.1, if_neg habove]
    exact ⟨rfl, h⟩

/-- Selected is the last filesystem in the list that is mounted above the storage path. -/
theorem getStorageFilesystem_eq (filesystems : List Filesystem) :
    getStorageFilesystem filesystems = filesystems.reverse.find? Filesystem.above := by
  have hloop : ∀ l : List Filesystem,
      (l.foldl Selection.consider ⟨none, -1⟩).mountFs = l.reverse.find? Filesystem.above ∧
        ((l.foldl Selection.consider ⟨none, -1⟩).mountFs.isSome →
          2 ≤ (l.foldl Selection.consider ⟨none, -1⟩).levels) := by
    intro l
    induction l using List.reverseRecOn with
    | nil => exact ⟨rfl, nofun⟩
    | append_singleton l filesystem ih =>
      rw [List.foldl_concat, List.reverse_append, List.reverse_singleton, List.singleton_append,
        List.find?_cons]
      obtain ⟨hmount, hlevels⟩ := consider_mountFs ih.2 filesystem
      refine ⟨?_, hlevels⟩
      rw [hmount, ih.1]
      cases filesystem.above <;> rfl
  exact (hloop filesystems).1

/-- The reported free storage is missing if nothing is mounted at `/` or `/var`. -/
theorem storageFreeMB_eq_none_iff (filesystems : List Filesystem) :
    storageFreeMB filesystems = none ↔
      ∀ filesystem ∈ filesystems, filesystem.mount ≠ [] ∧ filesystem.mount ≠ ["var"] := by
  rw [storageFreeMB, Option.map_eq_none_iff, getStorageFilesystem_eq, List.find?_eq_none]
  simp [Filesystem.above]

/-! ### The nearest mount -/

/-- The result is mounted nearest to the storage path, and missing only if nothing is mounted at it
or above it. -/
structure Nearest (filesystems : List Filesystem) (result : Option Filesystem) : Prop where
  listed : ∀ filesystem, result = some filesystem → filesystem ∈ filesystems ∧ filesystem.Holds
  longest : ∀ filesystem, result = some filesystem → ∀ other ∈ filesystems, other.Holds →
    other.mount <+: filesystem.mount
  missing : result = none ↔ ∀ filesystem ∈ filesystems, ¬ filesystem.Holds

/-- Nothing is mounted at the storage path, and if anything is at `/var`, a filesystem at `/var` is
listed after all those at `/`. -/
structure InOrder (filesystems : List Filesystem) : Prop where
  notAt : ∀ filesystem ∈ filesystems, filesystem.mount ≠ storagePath
  varLast : (∃ filesystem ∈ filesystems, filesystem.mount = ["var"]) →
    ∃ before filesystem after, filesystems = before ++ filesystem :: after ∧
      filesystem.mount = ["var"] ∧ ∀ other ∈ after, other.mount ≠ []

/-- The last of the filesystems at `/` and `/var` is at `/var` if one is. -/
theorem mount_of_varLast {filesystems : List Filesystem} (h : InOrder filesystems)
    (hvar : ∃ filesystem ∈ filesystems, filesystem.mount = ["var"]) {selected : Filesystem}
    (hselected : filesystems.reverse.find? Filesystem.above = some selected) :
    selected.mount = ["var"] := by
  obtain ⟨before, filesystem, after, hsplit, hmount, hafter⟩ := h.varLast hvar
  have habove : filesystem.above = true := filesystem.above_iff.mpr (Or.inr hmount)
  rw [hsplit, List.reverse_append, List.reverse_cons, List.append_assoc, List.find?_append,
    List.singleton_append, List.find?_cons, habove] at hselected
  cases hfound : after.reverse.find? Filesystem.above with
  | none =>
    rw [hfound, Option.none_or] at hselected
    rw [← Option.some.inj hselected]
    exact hmount
  | some found =>
    rw [hfound, Option.some_or] at hselected
    rw [← Option.some.inj hselected]
    have hmem : found ∈ after := List.mem_reverse.mp (List.mem_of_find?_eq_some hfound)
    apply (found.above_iff.mp (List.find?_some hfound)).resolve_left
    exact hafter found hmem

/-- If the nearest filesystem is selected, the list is in order. -/
theorem inOrder_of_nearest {filesystems : List Filesystem}
    (h : Nearest filesystems (filesystems.reverse.find? Filesystem.above)) :
    InOrder filesystems := by
  have hfound : ∀ filesystem ∈ filesystems, filesystem.Holds →
      ∃ selected, filesystems.reverse.find? Filesystem.above = some selected ∧
        filesystem.mount <+: selected.mount := by
    intro filesystem hmem hholds
    cases hselected : filesystems.reverse.find? Filesystem.above with
    | none => exact absurd hholds (h.missing.mp hselected filesystem hmem)
    | some selected => exact ⟨selected, rfl, h.longest selected hselected filesystem hmem hholds⟩
  constructor
  · intro filesystem hmem hmount
    obtain ⟨selected, hselected, hprefix⟩ :=
      hfound filesystem hmem (filesystem.holds_iff.mpr (Or.inr hmount))
    rw [hmount] at hprefix
    have hlength := hprefix.length_le
    rcases selected.above_iff.mp (List.find?_some hselected) with habove | habove
    · simp [habove, storagePath] at hlength
    · simp [habove, storagePath] at hlength
  · rintro ⟨filesystem, hmem, hmount⟩
    obtain ⟨selected, hselected, hprefix⟩ := hfound filesystem hmem
      (filesystem.holds_iff.mpr (Or.inl (filesystem.above_iff.mpr (Or.inr hmount))))
    obtain ⟨habove, after, before, hsplit, hafter⟩ := List.find?_eq_some_iff_append.mp hselected
    refine ⟨before.reverse, selected, after.reverse, ?_, ?_, ?_⟩
    · rw [← List.reverse_inj, hsplit]
      simp
    · apply (selected.above_iff.mp habove).resolve_left
      intro hroot
      rw [hroot, hmount] at hprefix
      exact absurd (List.prefix_nil.mp hprefix) (List.cons_ne_nil _ _)
    · intro other hother hroot
      have hnot := hafter other (List.mem_reverse.mp hother)
      simp [Filesystem.above, hroot] at hnot

/-- If the list is in order, the nearest filesystem is selected. -/
theorem nearest_of_inOrder {filesystems : List Filesystem} (h : InOrder filesystems) :
    Nearest filesystems (filesystems.reverse.find? Filesystem.above) := by
  have hholds : ∀ filesystem ∈ filesystems, filesystem.Holds ↔ filesystem.above = true :=
    fun filesystem hmem ↦ filesystem.holds_iff.trans (or_iff_left (h.notAt filesystem hmem))
  constructor
  · intro selected hselected
    have hmem := List.mem_reverse.mp (List.mem_of_find?_eq_some hselected)
    exact ⟨hmem, (hholds selected hmem).mpr (List.find?_some hselected)⟩
  · intro selected hselected other hother hheld
    rcases other.above_iff.mp ((hholds other hother).mp hheld) with hroot | hvar
    · rw [hroot]
      exact List.nil_prefix
    · rw [hvar, mount_of_varLast h ⟨other, hother, hvar⟩ hselected]
  · rw [List.find?_eq_none]
    constructor
    · intro hnot filesystem hmem hheld
      exact hnot filesystem (List.mem_reverse.mpr hmem) ((hholds filesystem hmem).mp hheld)
    · intro hnot filesystem hmem habove
      have hmem' := List.mem_reverse.mp hmem
      exact hnot filesystem hmem' ((hholds filesystem hmem').mpr habove)

/-- The filesystem selected is the nearest exactly if nothing is mounted at the storage path and
the list is in order. -/
theorem nearest_iff (filesystems : List Filesystem) :
    Nearest filesystems (getStorageFilesystem filesystems) ↔ InOrder filesystems := by
  rw [getStorageFilesystem_eq]
  exact ⟨inOrder_of_nearest, nearest_of_inOrder⟩

/-- Filesystems at `/var` and then at `/`. -/
def varBeforeRoot : List Filesystem := [⟨["var"], by decide, 1⟩, ⟨[], by decide, 2⟩]

/-- Filesystems at `/` and at the storage path itself. -/
def rootAndStorage : List Filesystem := [⟨[], by decide, 1⟩, ⟨storagePath, by decide, 2⟩]

/-- In both the one at `/` is selected. -/
theorem root_selected :
    (getStorageFilesystem varBeforeRoot).map Filesystem.mount = some [] ∧
      ¬ Nearest varBeforeRoot (getStorageFilesystem varBeforeRoot) ∧
      (getStorageFilesystem rootAndStorage).map Filesystem.mount = some [] ∧
      ¬ Nearest rootAndStorage (getStorageFilesystem rootAndStorage) := by
  refine ⟨rfl, fun h ↦ ?_, rfl, fun h ↦ ?_⟩
  · have hprefix := h.longest ⟨[], by decide, 2⟩ rfl ⟨["var"], by decide, 1⟩ (by decide)
      (by decide)
    revert hprefix
    decide
  · have hprefix := h.longest ⟨[], by decide, 1⟩ rfl ⟨storagePath, by decide, 2⟩ (by decide)
      (by decide)
    revert hprefix
    decide

end NexusEdge.Platform
