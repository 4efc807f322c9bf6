import Mathlib.Data.List.Basic
import Mathlib.Data.List.TakeWhile

/-!
# Strings

Library `Base`. Functions of JavaScript on strings, over their characters.
-/

namespace NexusEdge.Base

/-- White space and line terminators. -/
def isWhiteSpace (c : Char) : Bool :=
  c.toNat ∈ [0x9, 0xA, 0xB, 0xC, 0xD, 0x20, 0xA0, 0x1680, 0x2028, 0x2029, 0x202F, 0x205F, 0x3000,
    0xFEFF] || (0x2000 ≤ c.toNat && c.toNat ≤ 0x200A)

/-- `text.trim()`. -/
def trim (text : String) : String :=
  String.ofList ((text.toList.dropWhile isWhiteSpace).reverse.dropWhile isWhiteSpace).reverse

/-- `text.replace(/c/g, '')`. -/
def removeAll (c : Char) (text : String) : String := String.ofList (text.toList.filter (· ≠ c))

/-- `text.split(c)`. -/
def split (c : Char) (text : String) : List String := (text.toList.splitOn c).map String.ofList

/-- A digit of a hexadecimal numeral. -/
def isHexDigit (c : Char) : Bool :=
  c.isDigit || ('a' ≤ c && c ≤ 'f') || ('A' ≤ c && c ≤ 'F')

/-- What `trim` leaves is followed by white space only. -/
theorem exists_trim_append (text : String) : ∃ rest : List Char,
    text.toList.dropWhile isWhiteSpace = (trim text).toList ++ rest ∧
      ∀ c ∈ rest, isWhiteSpace c = true := by
  generalize hl : text.toList.dropWhile isWhiteSpace = l
  refine ⟨(l.reverse.takeWhile isWhiteSpace).reverse, ?_, ?_⟩
  · rw [trim, hl, String.toList_ofList, ← List.reverse_append, List.takeWhile_append_dropWhile,
      List.reverse_reverse]
  · intro c hc
    exact List.mem_takeWhile_imp (List.mem_reverse.mp hc)

/-- Characters that are one byte in UTF-8 are as many as the bytes. -/
theorem utf8ByteSize_of_utf8Size {text : String} (h : ∀ c ∈ text.toList, c.utf8Size = 1) :
    text.utf8ByteSize = text.toList.length := by
  have hlist : ∀ cs : List Char, (∀ c ∈ cs, c.utf8Size = 1) →
      (String.ofList cs).utf8ByteSize = cs.length := by
    intro cs
    induction cs with
    | nil => exact fun _ ↦ rfl
    | cons c cs ih =>
      intro hcs
      obtain ⟨hc, htail⟩ := List.forall_mem_cons.mp hcs
      rw [← List.singleton_append, String.ofList_append, String.utf8ByteSize_append, ih htail]
      simp [hc, Nat.add_comm]
  rw [← hlist text.toList h, String.ofList_toList]

/-- Hexadecimal digits are one byte each. -/
theorem utf8Size_of_isHexDigit {c : Char} (h : isHexDigit c = true) : c.utf8Size = 1 := by
  rw [Char.utf8Size_eq_one_iff, UInt32.le_iff_toNat_le]
  simp only [isHexDigit, Char.isDigit, Bool.or_eq_true, Bool.and_eq_true, decide_eq_true_eq,
    Char.le_def, UInt32.le_iff_toNat_le] at h
  have hbound : c.val.toNat ≤ 57 ∨ c.val.toNat ≤ 102 ∨ c.val.toNat ≤ 70 := by
    rcases h with (h | h) | h
    · exact Or.inl h.2
    · exact Or.inr (Or.inl h.2)
    · exact Or.inr (Or.inr h.2)
  have h127 : (127 : UInt32).toNat = 127 := rfl
  omega

/-- What stands before the first separator is the first part. -/
theorem split_append {c : Char} {before : String} (h : c ∉ before.toList) (after : String) :
    split c (before ++ String.singleton c ++ after) = before :: split c after := by
  unfold split
  rw [String.toList_append, String.toList_append, String.toList_singleton, List.append_assoc,
    List.singleton_append, List.splitOn_append_cons_self_of_not_mem h, List.map_cons,
    String.ofList_toList]

/-- A text without separators is one part. -/
theorem split_of_not_mem {c : Char} {text : String} (h : c ∉ text.toList) :
    split c text = [text] := by
  rw [split, List.splitOn_eq_singleton h, List.map_singleton, String.ofList_toList]

/-- The parts of two texts with a separator between them. -/
theorem split_append_singleton (c : Char) (before after : String) :
    split c (before ++ String.singleton c ++ after) = split c before ++ split c after := by
  unfold split
  rw [String.toList_append, String.toList_append, String.toList_singleton, List.append_assoc,
    List.singleton_append, List.splitOn_append_cons_self, List.map_append]

/-- The parts of joined texts are those of each. -/
theorem split_intercalate (c : Char) {texts : List String} (h : texts ≠ []) :
    split c ((String.singleton c).intercalate texts) = texts.flatMap (split c) := by
  induction texts with
  | nil => exact absurd rfl h
  | cons text texts ih =>
    cases texts with
    | nil => rw [String.intercalate_singleton, List.flatMap_singleton]
    | cons next texts =>
      rw [String.intercalate_cons_cons, split_append_singleton, ih (List.cons_ne_nil _ _),
        ← List.flatMap_cons]

/-- The parts determine the text. -/
theorem split_injective (c : Char) : Function.Injective (split c) := by
  intro text text' h
  have hparts : text.toList.splitOn c = text'.toList.splitOn c := by
    have hinjective : Function.Injective String.ofList := fun l l' hl ↦ by
      rw [← String.toList_ofList (l := l), hl, String.toList_ofList]
    exact hinjective.list_map h
  apply String.toList_inj.mp
  calc text.toList = [c].intercalate (text.toList.splitOn c) := (List.intercalate_splitOn c).symm
    _ = [c].intercalate (text'.toList.splitOn c) := by rw [hparts]
    _ = text'.toList := List.intercalate_splitOn c

/-- No part has the separator. -/
theorem not_mem_of_mem_split {c : Char} {text part : String} (h : part ∈ split c text) :
    c ∉ part.toList := by
  have hlist : ∀ cs : List Char, ∀ l ∈ cs.splitOn c, c ∉ l := by
    intro cs
    induction cs with
    | nil => simp
    | cons d cs ih =>
      rw [List.splitOn_cons_eq_if_modifyHead]
      split
      · simpa using ih
      · next hd =>
        have hne : c ≠ d := fun heq ↦ hd (by simp [heq])
        cases hsplit : cs.splitOn c with
        | nil => exact (List.splitOn_ne_nil c cs hsplit).elim
        | cons l ls =>
          rw [hsplit, List.forall_mem_cons] at ih
          rw [List.modifyHead_cons, List.forall_mem_cons, List.mem_cons]
          exact ⟨not_or.mpr ⟨hne, ih.1⟩, ih.2⟩
  obtain ⟨l, hl, rfl⟩ := List.mem_map.mp h
  rw [String.toList_ofList]
  exact hlist text.toList l hl

end NexusEdge.Base
