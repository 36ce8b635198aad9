import Mathlib.Data.List.Basic
import Mathlib.Logic.Basic

/-!
# Reading integers

A numeral is an optional sign and at least one ASCII digit. `intOfText` reads the numerals
whose value fits into 64 bits, each as the integer it denotes, and nothing else.
-/

namespace Numeral

/-- The value of a nonempty string of ASCII digits. -/
def digitsValue : List Char → Option Nat
  | [] => none
  | digits =>
      digits.foldlM (fun value digit =>
        if '0' ≤ digit ∧ digit ≤ '9' then some (10 * value + (digit.toNat - '0'.toNat))
        else none) 0

/-- `Int(_:)` on a string: an optional sign, then digits, within 64 bits. -/
def intOfText (text : String) : Option Int :=
  let value : Option Int := match text.toList with
    | '-' :: digits => (digitsValue digits).map fun value => -(value : Int)
    | '+' :: digits => (digitsValue digits).map fun value => (value : Int)
    | digits => (digitsValue digits).map fun value => (value : Int)
  value.filter fun value => -9223372036854775808 ≤ value ∧ value ≤ 9223372036854775807

/-! ## What a numeral denotes -/

/-- A nonempty string of ASCII digits. -/
structure Digits (digits : List Char) : Prop where
  nonempty : digits ≠ []
  digit : ∀ digit ∈ digits, '0' ≤ digit ∧ digit ≤ '9'

/-- Its value in base ten. -/
def decimalValue (digits : List Char) : Nat :=
  digits.foldl (fun value digit => 10 * value + (digit.toNat - '0'.toNat)) 0

/-- The integer a numeral stands for. -/
inductive Denotes : List Char → Int → Prop where
  | plain {digits : List Char} (h : Digits digits) : Denotes digits (decimalValue digits)
  | plus {digits : List Char} (h : Digits digits) : Denotes ('+' :: digits) (decimalValue digits)
  | minus {digits : List Char} (h : Digits digits) :
      Denotes ('-' :: digits) (-(decimalValue digits : Int))

/-- The text is an optional sign and ASCII digits, and its value fits into 64 bits. -/
def IsNumeral (text : String) : Prop :=
  ∃ value : Int, Denotes text.toList value ∧
    -9223372036854775808 ≤ value ∧ value ≤ 9223372036854775807

/-! ## What is read -/

theorem foldlM_digits {digits : List Char} {start value : Nat} :
    digits.foldlM (fun value digit =>
        if '0' ≤ digit ∧ digit ≤ '9' then some (10 * value + (digit.toNat - '0'.toNat))
        else none) start = some value ↔
      (∀ digit ∈ digits, '0' ≤ digit ∧ digit ≤ '9') ∧
        digits.foldl (fun value digit => 10 * value + (digit.toNat - '0'.toNat)) start =
          value := by
  induction digits generalizing start with
  | nil => simp
  | cons digit digits ih =>
      rw [List.foldlM_cons, List.foldl_cons, List.forall_mem_cons]
      by_cases hdigit : '0' ≤ digit ∧ digit ≤ '9'
      · rw [if_pos hdigit, Option.bind_eq_bind, Option.bind_some, ih]
        simp only [hdigit, true_and, and_self]
      · rw [if_neg hdigit]
        simp only [hdigit, false_and, iff_false]
        simp

theorem digitsValue_eq_some_iff {digits : List Char} {value : Nat} :
    digitsValue digits = some value ↔ Digits digits ∧ decimalValue digits = value := by
  cases digits with
  | nil =>
      refine iff_of_false ?_ ?_
      · simp [digitsValue]
      · rintro ⟨hdigits, _⟩
        exact hdigits.nonempty rfl
  | cons digit rest =>
      rw [digitsValue, foldlM_digits]
      · constructor
        · rintro ⟨hdigits, hvalue⟩
          exact ⟨⟨by simp, hdigits⟩, hvalue⟩
        · rintro ⟨hdigits, hvalue⟩
          exact ⟨hdigits.digit, hvalue⟩
      · simp

theorem Denotes.cases_sign {chars : List Char} {value : Int} (h : Denotes chars value) :
    (Digits chars ∧ (decimalValue chars : Int) = value) ∨
      (∃ digits, chars = '+' :: digits ∧ Digits digits ∧ (decimalValue digits : Int) = value) ∨
      ∃ digits, chars = '-' :: digits ∧ Digits digits ∧ -(decimalValue digits : Int) = value := by
  cases h with
  | plain h => exact .inl ⟨h, rfl⟩
  | plus h => exact .inr (.inl ⟨_, rfl, h, rfl⟩)
  | minus h => exact .inr (.inr ⟨_, rfl, h, rfl⟩)

theorem not_digits_of_sign {sign : Char} {chars : List Char} (hsign : ¬ ('0' ≤ sign ∧ sign ≤ '9')) :
    ¬ Digits (sign :: chars) :=
  fun h => hsign (h.digit sign List.mem_cons_self)

/-- What the digits after a sign are read as. -/
theorem map_digitsValue_eq_some_iff {digits : List Char} {signed : Int → Int} {value : Int} :
    (digitsValue digits).map signed = some value ↔
      Digits digits ∧ signed (decimalValue digits) = value := by
  simp only [Option.map_eq_some_iff, Option.bind_eq_bind, Option.bind_eq_some_iff,
    Option.pure_def, Option.some.injEq]
  constructor
  · rintro ⟨_, ⟨number, hnumber, rfl⟩, rfl⟩
    obtain ⟨hdigits, rfl⟩ := digitsValue_eq_some_iff.mp hnumber
    exact ⟨hdigits, rfl⟩
  · rintro ⟨hdigits, rfl⟩
    exact ⟨_, ⟨_, digitsValue_eq_some_iff.mpr ⟨hdigits, rfl⟩, rfl⟩, rfl⟩

/-- `Int(_:)` reads the numerals, and nothing else. -/
theorem intOfText_eq_some_iff {text : String} {value : Int} :
    intOfText text = some value ↔ Denotes text.toList value ∧
      -9223372036854775808 ≤ value ∧ value ≤ 9223372036854775807 := by
  rw [intOfText, Option.filter_eq_some_iff, decide_eq_true_eq]
  refine and_congr_left fun _ => ?_
  generalize text.toList = chars
  split
  · rename_i digits
    rw [map_digitsValue_eq_some_iff]
    constructor
    · rintro ⟨hdigits, rfl⟩
      exact .minus hdigits
    · intro hdenotes
      obtain ⟨hdigits, _⟩ | ⟨_, heq, _⟩ | ⟨rest, heq, hdigits, hvalue⟩ := hdenotes.cases_sign
      · exact absurd hdigits (not_digits_of_sign (by decide))
      · exact absurd (List.cons.inj heq).1 (by decide)
      · obtain rfl := (List.cons.inj heq).2
        exact ⟨hdigits, hvalue⟩
  · rename_i digits
    rw [map_digitsValue_eq_some_iff]
    constructor
    · rintro ⟨hdigits, rfl⟩
      exact .plus hdigits
    · intro hdenotes
      obtain ⟨hdigits, _⟩ | ⟨rest, heq, hdigits, hvalue⟩ | ⟨_, heq, _⟩ := hdenotes.cases_sign
      · exact absurd hdigits (not_digits_of_sign (by decide))
      · obtain rfl := (List.cons.inj heq).2
        exact ⟨hdigits, hvalue⟩
      · exact absurd (List.cons.inj heq).1 (by decide)
  · rename_i hminus hplus
    rw [map_digitsValue_eq_some_iff]
    constructor
    · rintro ⟨hdigits, rfl⟩
      exact .plain hdigits
    · intro hdenotes
      obtain ⟨hdigits, hvalue⟩ | ⟨rest, heq, _⟩ | ⟨rest, heq, _⟩ := hdenotes.cases_sign
      · exact ⟨hdigits, hvalue⟩
      · exact absurd heq (hplus rest)
      · exact absurd heq (hminus rest)

theorem isSome_intOfText_iff {text : String} : (intOfText text).isSome ↔ IsNumeral text := by
  rw [Option.isSome_iff_exists]
  exact exists_congr fun _ => intOfText_eq_some_iff

end Numeral
