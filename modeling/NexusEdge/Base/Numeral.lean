import Mathlib.Algebra.Field.Rat
import Mathlib.Data.List.Infix
import Mathlib.Data.Nat.Digits.Defs
import NexusEdge.Base.JsString

/-!
# Numerals of strings

Library `Base`. `Number` and `parseFloat` of JavaScript on strings, with the exact values of what
they read, before rounding. Both ignore white space and share the decimal literals; `Number` reads
a whole string, also one with a prefix for another base, while `parseFloat` reads the longest
beginning that is a decimal literal.
-/

namespace NexusEdge.Base

universe u v

/-! ### The longest accepted beginning -/

/-- What a reader makes of the longest beginning that it accepts. -/
def longestPrefix? {α : Type u} {β : Type v} (read : List α → Option β) (l : List α) : Option β :=
  l.inits.reverse.findSome? read

/-- The whole is the longest beginning. -/
theorem longestPrefix?_concat {α : Type u} {β : Type v} (read : List α → Option β) (l : List α)
    (a : α) : longestPrefix? read (l ++ [a]) = (read (l ++ [a])).or (longestPrefix? read l) := by
  have hinits : (l ++ [a]).inits = l.inits ++ [l ++ [a]] := by
    rw [List.inits_append]
    rfl
  rw [longestPrefix?, hinits, List.reverse_append, List.reverse_singleton, List.singleton_append,
    List.findSome?_cons, longestPrefix?]
  cases read (l ++ [a]) <;> rfl

/-- An accepted beginning is the longest one if no longer one is accepted. -/
theorem longestPrefix?_append {α : Type u} {β : Type v} {read : List α → Option β} {l : List α}
    {value : β} (hl : read l = some value) (rest : List α)
    (hrest : ∀ more, more <+: rest → more ≠ [] → read (l ++ more) = none) :
    longestPrefix? read (l ++ rest) = some value := by
  induction rest using List.reverseRecOn with
  | nil =>
    rw [List.append_nil]
    induction l using List.reverseRecOn with
    | nil => simp [longestPrefix?, hl]
    | append_singleton l a => rw [longestPrefix?_concat, hl, Option.some_or]
  | append_singleton rest a ih =>
    have hwhole : read (l ++ rest ++ [a]) = none := by
      rw [List.append_assoc]
      exact hrest _ List.prefix_rfl (List.append_ne_nil_of_right_ne_nil _ (List.cons_ne_nil _ _))
    rw [← List.append_assoc, longestPrefix?_concat, hwhole, Option.none_or]
    exact ih fun more hmore ↦ hrest more (hmore.trans (List.prefix_append _ _))

/-! ### Numbers -/

/-- A number, before rounding. -/
inductive JsNumber where
  | nan
  | infinity (negative : Bool)
  | finite (value : ℚ)
  deriving DecidableEq

namespace JsNumber

instance : Zero JsNumber := ⟨finite 0⟩

instance : One JsNumber := ⟨finite 1⟩

/-- `isNaN(value)`. -/
def isNaN : JsNumber → Bool
  | nan => true
  | _ => false

/-- `-value`. -/
def neg : JsNumber → JsNumber
  | nan => nan
  | infinity negative => infinity !negative
  | finite value => finite (-value)

end JsNumber

/-- The value of a digit. -/
def digitValue (c : Char) : Nat :=
  if c.isDigit then c.toNat - '0'.toNat
  else if 'a' ≤ c then c.toNat - 'a'.toNat + 10
  else c.toNat - 'A'.toNat + 10

/-- The value of a numeral in a base. -/
def ofNumeral (base : Nat) (digits : List Char) : Nat :=
  Nat.ofDigits base (digits.reverse.map digitValue)

/-- The value of one or more digits. -/
def digits? (base : Nat) (isDigit : Char → Bool) (cs : List Char) : Option Nat :=
  if !cs.isEmpty && cs.all isDigit then some (ofNumeral base cs) else none

/-- Whether there is a minus sign, and what follows the sign, if any. -/
def splitSign : List Char → Bool × List Char
  | '+' :: cs => (false, cs)
  | '-' :: cs => (true, cs)
  | cs => (false, cs)

/-- Digits, with a sign or none. -/
def signedInteger? (cs : List Char) : Option Int :=
  (digits? 10 Char.isDigit (splitSign cs).2).map fun n : Nat ↦
    if (splitSign cs).1 then -Int.ofNat n else Int.ofNat n

/-- An exponent, or nothing. -/
def exponent? : List Char → Option Int
  | [] => some 0
  | c :: cs => if c == 'e' || c == 'E' then signedInteger? cs else none

/-- The value of digits with a decimal point and an exponent. -/
def decimalValue (integer fraction : List Char) (exponent : Int) : ℚ :=
  ofNumeral 10 (integer ++ fraction) * 10 ^ (exponent - fraction.length)

/-- Digits with or without a decimal point, and an exponent or none. -/
def decimalDigits? (cs : List Char) : Option ℚ :=
  let integer := cs.takeWhile Char.isDigit
  match cs.dropWhile Char.isDigit with
  | '.' :: cs =>
    let fraction := cs.takeWhile Char.isDigit
    if integer.isEmpty && fraction.isEmpty then none
    else (exponent? (cs.dropWhile Char.isDigit)).map (decimalValue integer fraction)
  | cs => if integer.isEmpty then none else (exponent? cs).map (decimalValue integer [])

/-- A decimal literal without a sign. -/
def unsignedLiteral? (cs : List Char) : Option JsNumber :=
  if cs = "Infinity".toList then some (.infinity false) else (decimalDigits? cs).map .finite

/-- A decimal literal. -/
def decimalLiteral? (cs : List Char) : Option JsNumber :=
  (unsignedLiteral? (splitSign cs).2).map fun value ↦
    if (splitSign cs).1 then value.neg else value

/-- An octal digit. -/
def isOctalDigit (c : Char) : Bool := '0' ≤ c && c ≤ '7'

/-- A binary digit. -/
def isBinaryDigit (c : Char) : Bool := c == '0' || c == '1'

/-- The base that the character after a zero stands for, and its digits. -/
def radix? : Char → Option (Nat × (Char → Bool))
  | 'x' => some (16, isHexDigit)
  | 'X' => some (16, isHexDigit)
  | 'o' => some (8, isOctalDigit)
  | 'O' => some (8, isOctalDigit)
  | 'b' => some (2, isBinaryDigit)
  | 'B' => some (2, isBinaryDigit)
  | _ => none

/-- A literal with a prefix for a base, if it has one; without digits it is `NaN`. -/
def prefixedLiteral? : List Char → Option JsNumber
  | '0' :: c :: cs => (radix? c).map fun radix ↦
    ((digits? radix.1 radix.2 cs).map fun n : Nat ↦ JsNumber.finite n).getD .nan
  | _ => none

/-- `Number(text)`. -/
def toNumber (text : String) : JsNumber :=
  match (trim text).toList with
  | [] => 0
  | cs => (prefixedLiteral? cs).getD ((decimalLiteral? cs).getD .nan)

/-- `parseFloat(text)`. -/
def parseFloat (text : String) : JsNumber :=
  (longestPrefix? decimalLiteral? (text.toList.dropWhile isWhiteSpace)).getD .nan

/-! ### Characters of decimal literals -/

/-- A character of a decimal literal. -/
def isNumeralChar (c : Char) : Bool := c.isDigit || "+-.eEInfinity".toList.contains c

/-- Digits are one or more. -/
theorem digits?_eq_some_iff {base n : Nat} {isDigit : Char → Bool} {cs : List Char} :
    digits? base isDigit cs = some n ↔
      cs ≠ [] ∧ (∀ c ∈ cs, isDigit c = true) ∧ ofNumeral base cs = n := by
  simp [digits?, and_assoc]

private theorem isNumeralChar_of_digits? {n : Nat} {cs : List Char}
    (h : digits? 10 Char.isDigit cs = some n) : ∀ c ∈ cs, isNumeralChar c = true := by
  intro c hc
  rw [isNumeralChar, (digits?_eq_some_iff.mp h).2.1 c hc, Bool.true_or]

private theorem isNumeralChar_of_splitSign {cs : List Char}
    (h : ∀ c ∈ (splitSign cs).2, isNumeralChar c = true) : ∀ c ∈ cs, isNumeralChar c = true := by
  unfold splitSign at h
  split at h
  · exact List.forall_mem_cons.mpr ⟨by decide, h⟩
  · exact List.forall_mem_cons.mpr ⟨by decide, h⟩
  · exact h

private theorem isNumeralChar_of_signedInteger? {n : Int} {cs : List Char}
    (h : signedInteger? cs = some n) : ∀ c ∈ cs, isNumeralChar c = true := by
  obtain ⟨m, hm, _⟩ := Option.map_eq_some_iff.mp h
  exact isNumeralChar_of_splitSign (isNumeralChar_of_digits? hm)

private theorem isNumeralChar_of_exponent? {n : Int} {cs : List Char} (h : exponent? cs = some n) :
    ∀ c ∈ cs, isNumeralChar c = true := by
  cases cs with
  | nil => exact List.forall_mem_nil _
  | cons c cs =>
    rw [exponent?] at h
    split at h
    · next he =>
      have hc : isNumeralChar c = true := by
        rw [Bool.or_eq_true, beq_iff_eq, beq_iff_eq] at he
        rcases he with rfl | rfl
        · decide
        · decide
      exact List.forall_mem_cons.mpr ⟨hc, isNumeralChar_of_signedInteger? h⟩
    · cases h

private theorem isNumeralChar_of_dropWhile {cs : List Char}
    (h : ∀ c ∈ cs.dropWhile Char.isDigit, isNumeralChar c = true) :
    ∀ c ∈ cs, isNumeralChar c = true := by
  intro c hc
  rw [← List.takeWhile_append_dropWhile (p := Char.isDigit) (l := cs), List.mem_append] at hc
  rcases hc with hc | hc
  · rw [isNumeralChar, List.mem_takeWhile_imp hc, Bool.true_or]
  · exact h c hc

private theorem isNumeralChar_of_decimalDigits? {value : ℚ} {cs : List Char}
    (h : decimalDigits? cs = some value) : ∀ c ∈ cs, isNumeralChar c = true := by
  apply isNumeralChar_of_dropWhile
  unfold decimalDigits? at h
  simp only at h
  split at h
  · next rest hrest =>
    rw [hrest]
    split at h
    · cases h
    · obtain ⟨n, hn, _⟩ := Option.map_eq_some_iff.mp h
      have hfraction := isNumeralChar_of_dropWhile (isNumeralChar_of_exponent? hn)
      exact List.forall_mem_cons.mpr ⟨by decide, hfraction⟩
  · split at h
    · cases h
    · obtain ⟨n, hn, _⟩ := Option.map_eq_some_iff.mp h
      exact isNumeralChar_of_exponent? hn

private theorem isNumeralChar_of_unsignedLiteral? {value : JsNumber} {cs : List Char}
    (h : unsignedLiteral? cs = some value) : ∀ c ∈ cs, isNumeralChar c = true := by
  unfold unsignedLiteral? at h
  split at h
  · next hinfinity =>
    have hall : "Infinity".toList.all isNumeralChar = true := by decide
    rw [hinfinity]
    exact List.all_eq_true.mp hall
  · obtain ⟨q, hq, _⟩ := Option.map_eq_some_iff.mp h
    exact isNumeralChar_of_decimalDigits? hq

/-- A decimal literal has no other characters. -/
theorem isNumeralChar_of_decimalLiteral? {value : JsNumber} {cs : List Char}
    (h : decimalLiteral? cs = some value) : ∀ c ∈ cs, isNumeralChar c = true := by
  obtain ⟨_, hunsigned, _⟩ := Option.map_eq_some_iff.mp h
  exact isNumeralChar_of_splitSign (isNumeralChar_of_unsignedLiteral? hunsigned)

/-- White space is none of them. -/
theorem isNumeralChar_of_isWhiteSpace {c : Char} (h : isWhiteSpace c = true) :
    isNumeralChar c = false := by
  by_contra hnumeral
  rw [Bool.not_eq_false, isNumeralChar, Bool.or_eq_true, List.contains_iff_mem] at hnumeral
  rcases hnumeral with hdigit | hmem
  · have hcode : 48 ≤ c.toNat ∧ c.toNat ≤ 57 := Char.isDigit_iff_toNat.mp hdigit
    simp only [isWhiteSpace, Bool.or_eq_true, Bool.and_eq_true, decide_eq_true_eq,
      List.mem_cons, List.not_mem_nil, or_false] at h
    omega
  · have hall : "+-.eEInfinity".toList.all (fun c ↦ !isWhiteSpace c) = true := by decide
    have hnone := List.all_eq_true.mp hall c hmem
    rw [h] at hnone
    cases hnone

/-! ### Where both readers agree -/

/-- `parseFloat` reads a decimal literal with white space around it. -/
theorem parseFloat_of_decimalLiteral? {text : String} {value : JsNumber}
    (h : decimalLiteral? (trim text).toList = some value) : parseFloat text = value := by
  obtain ⟨rest, hsplit, hspace⟩ := exists_trim_append text
  rw [parseFloat, hsplit, longestPrefix?_append h rest, Option.getD_some]
  intro more hmore hne
  obtain ⟨c, hc⟩ := List.exists_mem_of_ne_nil more hne
  by_contra hsome
  obtain ⟨other, hother⟩ := Option.ne_none_iff_exists'.mp hsome
  have hnumeral := isNumeralChar_of_decimalLiteral? hother c (List.mem_append_right _ hc)
  rw [isNumeralChar_of_isWhiteSpace (hspace c (hmore.subset hc))] at hnumeral
  cases hnumeral

/-- The letter of a prefix is in no decimal literal, and its base is not zero. -/
theorem radix?_eq_some {c : Char} {radix : Nat × (Char → Bool)} (h : radix? c = some radix) :
    isNumeralChar c = false ∧ radix.1 ≠ 0 := by
  unfold radix? at h
  split at h <;> cases h <;> decide

/-- Of a literal with a prefix `parseFloat` reads the zero. -/
theorem parseFloat_of_prefixed {text : String} {c : Char} {cs : List Char}
    (htext : (trim text).toList = '0' :: c :: cs) (hc : (radix? c).isSome) :
    parseFloat text = .finite 0 := by
  obtain ⟨rest, hsplit, _⟩ := exists_trim_append text
  obtain ⟨radix, hradix⟩ := Option.isSome_iff_exists.mp hc
  have hzero : decimalLiteral? ['0'] = some (.finite 0) := by decide +kernel
  have hsplit : text.toList.dropWhile isWhiteSpace = ['0'] ++ c :: (cs ++ rest) := by
    rw [hsplit, htext, List.singleton_append, List.cons_append, List.cons_append]
  rw [parseFloat, hsplit, longestPrefix?_append hzero, Option.getD_some]
  intro more hmore hne
  obtain ⟨d, more, rfl⟩ := List.exists_cons_of_ne_nil hne
  obtain ⟨rfl, _⟩ := List.cons_prefix_cons.mp hmore
  by_contra hsome
  obtain ⟨other, hother⟩ := Option.ne_none_iff_exists'.mp hsome
  have hnumeral := isNumeralChar_of_decimalLiteral? hother d (by simp)
  rw [(radix?_eq_some hradix).1] at hnumeral
  cases hnumeral

/-- Only the digit zero has no value. -/
theorem digitValue_eq_zero_iff (c : Char) : digitValue c = 0 ↔ c = '0' := by
  constructor
  · intro h
    unfold digitValue at h
    split at h
    · next hdigit =>
      have hcode : 48 ≤ c.toNat ∧ c.toNat ≤ 57 := Char.isDigit_iff_toNat.mp hdigit
      have h48 : '0'.toNat = 48 := rfl
      apply Char.toNat_inj.mp
      omega
    · split at h <;> omega
  · rintro rfl
    rfl

/-- Only zeros have no value. -/
theorem ofNumeral_eq_zero_iff {base : Nat} (hbase : base ≠ 0) (cs : List Char) :
    ofNumeral base cs = 0 ↔ ∀ c ∈ cs, c = '0' := by
  rw [ofNumeral]
  constructor
  · intro h c hc
    apply (digitValue_eq_zero_iff c).mp
    exact Nat.digits_zero_of_eq_zero hbase h _ (List.mem_map_of_mem (List.mem_reverse.mpr hc))
  · intro h
    have hzeros : cs.reverse.map digitValue = List.replicate cs.length 0 := by
      rw [List.eq_replicate_iff]
      refine ⟨by simp, ?_⟩
      intro n hn
      obtain ⟨c, hc, rfl⟩ := List.mem_map.mp hn
      exact (digitValue_eq_zero_iff c).mpr (h c (List.mem_reverse.mp hc))
    rw [hzeros, Nat.ofDigits_replicate_zero]

/-- A literal with a prefix for a base, of a number other than zero. -/
def isPrefixedNonzero : List Char → Bool
  | '0' :: c :: cs => (radix? c).isSome && cs.any (· ≠ '0')
  | _ => false

/-- White space alone is no decimal literal. -/
theorem parseFloat_of_trim_eq_nil {text : String} (h : (trim text).toList = []) :
    parseFloat text = .nan := by
  obtain ⟨rest, hsplit, hspace⟩ := exists_trim_append text
  have hnone : longestPrefix? decimalLiteral? rest = none := by
    rw [longestPrefix?, List.findSome?_eq_none_iff]
    intro cs hcs
    rw [List.mem_reverse, List.mem_inits] at hcs
    cases cs with
    | nil => decide
    | cons c cs =>
      by_contra hsome
      obtain ⟨value, hvalue⟩ := Option.ne_none_iff_exists'.mp hsome
      have hnumeral := isNumeralChar_of_decimalLiteral? hvalue c List.mem_cons_self
      rw [isNumeralChar_of_isWhiteSpace (hspace c (hcs.subset List.mem_cons_self))] at hnumeral
      cases hnumeral
  rw [parseFloat, hsplit, h, List.nil_append, hnone, Option.getD_none]

/-- The value of a literal with a prefix. -/
theorem prefixedLiteral?_eq_some {cs : List Char} {value : JsNumber}
    (h : prefixedLiteral? cs = some value) : ∃ c digits radix, cs = '0' :: c :: digits ∧
      radix? c = some radix ∧
      value = ((digits? radix.1 radix.2 digits).map fun n : Nat ↦ JsNumber.finite n).getD .nan := by
  unfold prefixedLiteral? at h
  split at h
  · next c digits =>
    obtain ⟨radix, hradix, rfl⟩ := Option.map_eq_some_iff.mp h
    exact ⟨c, digits, radix, rfl, hradix, rfl⟩
  · cases h

/-- Without a prefix a literal is not of that kind. -/
theorem isPrefixedNonzero_of_none {cs : List Char} (h : prefixedLiteral? cs = none) :
    isPrefixedNonzero cs = false := by
  unfold prefixedLiteral? at h
  unfold isPrefixedNonzero
  split at h
  · next c digits =>
    simp only [Option.map_eq_none_iff.mp h, Option.isSome_none, Bool.false_and]
  · rfl

/-- A string is read by its prefix, if it has one. -/
theorem toNumber_of_ne_nil {text : String} (h : (trim text).toList ≠ []) : toNumber text =
    (prefixedLiteral? (trim text).toList).getD ((decimalLiteral? (trim text).toList).getD .nan) := by
  unfold toNumber
  split
  · next hnil => exact absurd hnil h
  · rfl

/-- Where both read a number, it is the same one unless the string has a prefix for a base and is
not zero. -/
theorem parseFloat_eq_toNumber_iff {text : String} (hnumber : (toNumber text).isNaN = false)
    (hfloat : (parseFloat text).isNaN = false) :
    parseFloat text = toNumber text ↔ isPrefixedNonzero (trim text).toList = false := by
  have hne : (trim text).toList ≠ [] := by
    intro hnil
    rw [parseFloat_of_trim_eq_nil hnil] at hfloat
    cases hfloat
  rw [toNumber_of_ne_nil hne] at hnumber ⊢
  cases hprefixed : prefixedLiteral? (trim text).toList with
  | none =>
    rw [hprefixed, Option.getD_none] at hnumber
    rw [Option.getD_none]
    cases hdecimal : decimalLiteral? (trim text).toList with
    | none =>
      rw [hdecimal] at hnumber
      cases hnumber
    | some value =>
      rw [parseFloat_of_decimalLiteral? hdecimal, Option.getD_some]
      exact iff_of_true rfl (isPrefixedNonzero_of_none hprefixed)
  | some value =>
    rw [hprefixed, Option.getD_some] at hnumber
    obtain ⟨c, cs, radix, htext, hradix, rfl⟩ := prefixedLiteral?_eq_some hprefixed
    have hc : (radix? c).isSome := Option.isSome_of_eq_some hradix
    rw [parseFloat_of_prefixed htext hc, htext, isPrefixedNonzero, hc, Bool.true_and, Option.getD_some]
    cases hdigits : digits? radix.1 radix.2 cs with
    | none =>
      rw [hdigits] at hnumber
      cases hnumber
    | some n =>
      obtain ⟨_, _, rfl⟩ := digits?_eq_some_iff.mp hdigits
      rw [Option.map_some, Option.getD_some, JsNumber.finite.injEq, eq_comm, Nat.cast_eq_zero,
        ofNumeral_eq_zero_iff (radix?_eq_some hradix).2]
      simp

end NexusEdge.Base
