import Mathlib
import BunjangClone.Numeral.Rounding
import BunjangClone.Numeral.Grouping
import BunjangClone.Numeral.Reading

/-!
# Prices with commas

`insertComma` reads its text as a `Double` and has the value written in the decimal style.
The style writes every digit of the value, but a `Double` keeps 53 bits of a number. So a
price is shown as it is exactly if it has no more, up to zeros on the right.

What the system does is a parameter, with what is assumed of it: how a numeral is read, and
how an integral value is written.
-/

namespace BunjangClone.Extension

open Numeral

/-! ## The system -/

/-- The calls of `insertComma` into the system, and the integer a value is, if it is one.
Negative zero is not taken for one. -/
structure Foundation (Double : Type) where
  double : String → Option Double
  string : Double → Option String
  integer : Double → Option Int

variable {Double : Type} {foundation : Foundation Double} {price : Int64} {z : Int}
variable {text : String}

def sign (z : Int) : List Char := if z < 0 then ['-'] else []

/-- The exact decimal digits of an integer, grouped by three. -/
def decimalStyle (z : Int) : String :=
  String.ofList (sign z ++ group 3 ',' (Nat.toDigits 10 z.natAbs))

namespace Foundation

/-- `Double(_:)` rounds an integer to 53 bits. -/
def ReadsNumerals (foundation : Foundation Double) : Prop :=
  ∀ price : Int64, ∃ value, foundation.double (toString price.toInt) = some value ∧
    foundation.integer value = some (roundInt 53 price.toInt)

/-- `NumberFormatter` writes an integral value in the decimal style. -/
def WritesDecimals (foundation : Foundation Double) : Prop :=
  ∀ value z, foundation.integer value = some z → foundation.string value = some (decimalStyle z)

end Foundation

/-! ## `insertComma` -/

/-- `components(separatedBy: ".")`. -/
def componentsSeparatedByDot (self : String) : List String :=
  (self.toList.splitOn '.').map String.ofList

def insertComma (foundation : Foundation Double) (self : String) : String :=
  if '.' ∈ self.toList then
    match componentsSeparatedByDot self with
    | [number] =>
        let numberString := if number.isEmpty then "0" else number
        match foundation.double numberString with
        | none => self
        | some doubleValue => (foundation.string doubleValue).getD self
    | [number, fraction] =>
        let numberString := if number.isEmpty then "0" else number
        match foundation.double numberString with
        | none => self
        | some doubleValue =>
            (foundation.string doubleValue).getD numberString ++ "." ++ fraction
    | _ => self
  else
    match foundation.double self with
    | none => self
    | some doubleValue => (foundation.string doubleValue).getD self

/-! ## Numerals -/

theorem toList_toString (z : Int) : (toString z).toList = sign z ++ Nat.toDigits 10 z.natAbs := by
  rw [Int.toString_eq_repr, Int.repr_eq_if, sign]
  by_cases hneg : z < 0
  · have hnot : ¬ 0 ≤ z := by omega
    have habs : (-z).toNat = z.natAbs := by omega
    rw [if_neg hnot, if_pos hneg, String.toList_append, Nat.toList_repr, habs]
    rfl
  · have hnonneg : 0 ≤ z := by omega
    have habs : z.toNat = z.natAbs := by omega
    rw [if_pos hnonneg, if_neg hneg, Nat.toList_repr, habs]
    rfl

theorem not_mem_toDigits {character : Char} (h : character.isDigit = false) (n : Nat) :
    character ∉ Nat.toDigits 10 n := by
  intro hmem
  have hdigit := Nat.isDigit_of_mem_toDigits (by decide) (by decide) hmem
  rw [h] at hdigit
  cases hdigit

theorem not_mem_sign {character : Char} (h : character ≠ '-') (z : Int) : character ∉ sign z := by
  rw [sign]
  split <;> simp [h]

theorem dot_not_mem_toString (z : Int) : '.' ∉ (toString z).toList := by
  rw [toList_toString, List.mem_append, not_or]
  exact ⟨not_mem_sign (by decide) z, not_mem_toDigits (by decide) _⟩

/-- The text without its commas. -/
def withoutCommas (text : String) : String :=
  String.ofList (text.toList.filter (· ≠ ','))

/-- The numeral of `z`, with a comma exactly before each group of three digits counted from
the right. -/
structure ShownExactly (z : Int) (text : String) : Prop where
  grouped : ∃ groups, text.toList = sign z ++ groups ∧
    Grouped 3 ',' (Nat.toDigits 10 z.natAbs) groups
  plain : withoutCommas text = toString z

theorem shownExactly_decimalStyle (z : Int) : ShownExactly z (decimalStyle z) := by
  have hgrouped : Grouped 3 ',' (Nat.toDigits 10 z.natAbs)
      (group 3 ',' (Nat.toDigits 10 z.natAbs)) :=
    grouped_group (by decide) Nat.toDigits_ne_nil
  have hlist : (decimalStyle z).toList = sign z ++ group 3 ',' (Nat.toDigits 10 z.natAbs) :=
    String.toList_ofList
  refine ⟨⟨_, hlist, hgrouped⟩, ?_⟩
  have hsign : (sign z).filter (· ≠ ',') = sign z := by
    rw [sign]
    split <;> rfl
  rw [withoutCommas, hlist, List.filter_append, hsign,
    hgrouped.filter_ne (not_mem_toDigits (by decide) _), ← toList_toString, String.ofList_toList]

/-- A numeral is shown as the number it is rounded to. -/
theorem insertComma_toString (hreads : foundation.ReadsNumerals)
    (hwrites : foundation.WritesDecimals) (price : Int64) :
    insertComma foundation (toString price.toInt) = decimalStyle (roundInt 53 price.toInt) := by
  obtain ⟨value, hvalue, hinteger⟩ := hreads price
  rw [insertComma, if_neg (dot_not_mem_toString _), hvalue]
  simp only [hwrites value _ hinteger, Option.getD_some]

/-! ## Reading numerals back -/

theorem digits_toDigits (n : Nat) : Digits (Nat.toDigits 10 n) := by
  refine ⟨Nat.toDigits_ne_nil, fun digit hmem => ?_⟩
  have hdigit := Nat.isDigit_of_mem_toDigits (by decide) (by decide) hmem
  simp only [Char.isDigit, Bool.and_eq_true, decide_eq_true_eq] at hdigit
  exact hdigit

/-- `Int(_:)` reads what `String(_:)` writes. -/
theorem denotes_toString (z : Int) : Denotes (toString z).toList z := by
  have hvalue : decimalValue (Nat.toDigits 10 z.natAbs) = z.natAbs :=
    Nat.ofDigitChars_ten_toDigits
  have hplain := Denotes.plain (digits_toDigits z.natAbs)
  have hminus := Denotes.minus (digits_toDigits z.natAbs)
  rw [hvalue] at hplain hminus
  rw [toList_toString, sign]
  by_cases hneg : z < 0
  · have habs : -(z.natAbs : Int) = z := by omega
    rw [habs] at hminus
    rw [if_pos hneg]
    exact hminus
  · have habs : (z.natAbs : Int) = z := by omega
    rw [habs] at hplain
    rw [if_neg hneg]
    exact hplain

theorem intOfText_toString (price : Int64) :
    intOfText (toString price.toInt) = some price.toInt := by
  have hlower := price.le_toInt
  have hupper := price.toInt_lt
  exact intOfText_eq_some_iff.mpr ⟨denotes_toString _, by omega, by omega⟩

/-- Only the integral values, which are all it takes for prices. -/
def integers : Foundation Int where
  double text := (intOfText text).map (roundInt 53)
  string value := some (decimalStyle value)
  integer := some

theorem readsNumerals_integers : integers.ReadsNumerals := by
  intro price
  refine ⟨roundInt 53 price.toInt, ?_, rfl⟩
  show (intOfText (toString price.toInt)).map (roundInt 53) = _
  rw [intOfText_toString]
  rfl

theorem writesDecimals_integers : integers.WritesDecimals := by
  intro value z hvalue
  obtain rfl := Option.some.inj hvalue
  rfl

-- The case the source gives.
example : insertComma integers "1234567890" = "1,234,567,890" := by decide

/-! ## Exact prices -/

/-- The price can be read off the text. -/
theorem ShownExactly.unique {z' : Int} (h : ShownExactly z text) (h' : ShownExactly z' text) :
    z = z' := by
  apply Int.repr_injective
  exact h.plain.symm.trans h'.plain

theorem shownExactly_iff (hreads : foundation.ReadsNumerals)
    (hwrites : foundation.WritesDecimals) (price : Int64) :
    ShownExactly price.toInt (insertComma foundation (toString price.toInt)) ↔
      Fits 53 price.toInt.natAbs := by
  rw [insertComma_toString hreads hwrites, ← roundInt_eq_self_iff (by decide)]
  constructor
  · intro h
    exact (shownExactly_decimalStyle _).unique h
  · intro h
    rw [h]
    exact shownExactly_decimalStyle _

/-- In any set of prices all are shown exactly, and no two alike, exactly if each has at
most 53 bits before its trailing zeros. -/
theorem prices_exact_iff (hreads : foundation.ReadsNumerals)
    (hwrites : foundation.WritesDecimals) (prices : Set Int64) :
    ((∀ price ∈ prices,
        ShownExactly price.toInt (insertComma foundation (toString price.toInt))) ∧
      prices.InjOn fun price => insertComma foundation (toString price.toInt)) ↔
      ∀ price ∈ prices, Fits 53 price.toInt.natAbs := by
  constructor
  · rintro ⟨hexact, _⟩ price hmem
    exact (shownExactly_iff hreads hwrites price).mp (hexact price hmem)
  · intro hfits
    have hexact : ∀ price ∈ prices,
        ShownExactly price.toInt (insertComma foundation (toString price.toInt)) :=
      fun price hmem => (shownExactly_iff hreads hwrites price).mpr (hfits price hmem)
    refine ⟨hexact, fun price hmem other hother halike => ?_⟩
    have hprice := hexact price hmem
    rw [show insertComma foundation (toString price.toInt) =
      insertComma foundation (toString other.toInt) from halike] at hprice
    exact Int64.toInt_inj.mp (hprice.unique (hexact other hother))

/-- A negative price, and one of 63 bits whose last ten are zero. -/
theorem prices_exact_of_few_bits :
    ShownExactly (-1234567) (insertComma integers "-1234567") ∧
      ShownExactly 9223372036854774784 (insertComma integers "9223372036854774784") := by
  have hexact := (prices_exact_iff readsNumerals_integers writesDecimals_integers
    {-1234567, 9223372036854774784}).mpr ?_
  · exact ⟨hexact.1 _ (.inl rfl), hexact.1 _ (.inr rfl)⟩
  · rintro price (rfl | rfl)
    · exact ⟨1234567, 0, by decide, rfl⟩
    · exact ⟨9007199254740991, 10, by decide, rfl⟩

/-- The first price with 54 bits that count is shown as the price below it. -/
theorem odd_price_not_exact :
    ¬ ∀ (foundation : Foundation Int), foundation.ReadsNumerals → foundation.WritesDecimals →
      ∀ price : Int64,
        ShownExactly price.toInt (insertComma foundation (toString price.toInt)) := by
  intro halways
  have hshown := halways integers readsNumerals_integers writesDecimals_integers 9007199254740993
  have hbelow : insertComma integers (toString (9007199254740993 : Int64).toInt) =
      decimalStyle 9007199254740992 :=
    insertComma_toString readsNumerals_integers writesDecimals_integers 9007199254740993
  rw [hbelow] at hshown
  have hsame := hshown.unique (shownExactly_decimalStyle 9007199254740992)
  exact absurd hsame (by decide)

/-! ## Prices in order -/

/-- A numeral with a fraction has two components. -/
theorem components_decimal {number fraction : String} (hnumber : '.' ∉ number.toList)
    (hfraction : '.' ∉ fraction.toList) :
    componentsSeparatedByDot (number ++ "." ++ fraction) = [number, fraction] := by
  have hjoined : (number ++ "." ++ fraction).toList =
      List.intercalate ['.'] [number.toList, fraction.toList] := by
    simp [List.intercalate]
  have hdots : ∀ part ∈ [number.toList, fraction.toList], '.' ∉ part := by
    simp [hnumber, hfraction]
  rw [componentsSeparatedByDot, hjoined, List.splitOn_intercalate '.' hdots (by simp)]
  simp

/-- The digits after the dot are copied. -/
theorem insertComma_decimal {fraction : String} (hreads : foundation.ReadsNumerals)
    (hwrites : foundation.WritesDecimals) (hfraction : '.' ∉ fraction.toList) (price : Int64) :
    insertComma foundation (toString price.toInt ++ "." ++ fraction) =
      decimalStyle (roundInt 53 price.toInt) ++ "." ++ fraction := by
  obtain ⟨value, hvalue, hinteger⟩ := hreads price
  have hdot : '.' ∈ (toString price.toInt ++ "." ++ fraction).toList := by simp
  have hsome : (toString price.toInt).isEmpty = false := by
    rw [← Bool.not_eq_true, String.isEmpty_iff]
    intro hempty
    have hlist := congrArg String.toList hempty
    rw [toList_toString] at hlist
    exact Nat.toDigits_ne_nil (List.append_eq_nil_iff.mp hlist).2
  rw [insertComma, if_pos hdot, components_decimal (dot_not_mem_toString _) hfraction]
  simp only [hsome, Bool.false_eq_true, if_false, hvalue, hwrites value _ hinteger,
    Option.getD_some]

/-- The number shown for a price is of 53 bits, and no such number is nearer. -/
structure ShownNearest (price shown : Int) (text : String) : Prop where
  exact : ShownExactly shown text
  fits : Fits 53 shown.natAbs
  nearest : ∀ z : Int, Fits 53 z.natAbs → (shown - price).natAbs ≤ (z - price).natAbs

theorem fits_roundInt (z : Int) : Fits 53 (roundInt 53 z).natAbs := by
  have hfits : Fits 53 (roundNat 53 z.natAbs) := fits_roundNat (by decide) _
  obtain hz | rfl | hz := Int.lt_trichotomy z 0
  · rw [roundInt, Int.sign_eq_neg_one_of_neg hz]
    simpa using hfits
  · exact ⟨0, 0, by decide, by simp [roundInt]⟩
  · rw [roundInt, Int.sign_eq_one_of_pos hz]
    simpa using hfits

theorem shownNearest_insertComma (hreads : foundation.ReadsNumerals)
    (hwrites : foundation.WritesDecimals) (price : Int64) :
    ShownNearest price.toInt (roundInt 53 price.toInt)
      (insertComma foundation (toString price.toInt)) := by
  refine ⟨?_, fits_roundInt _, fun z hz => roundInt_nearest (by decide) hz _⟩
  rw [insertComma_toString hreads hwrites]
  exact shownExactly_decimalStyle _

/-- Of two prices the lower is never shown as the higher one, each is shown as a nearest number
of 53 bits, and a fraction is shown after it as it is. -/
theorem prices_in_order (hreads : foundation.ReadsNumerals) (hwrites : foundation.WritesDecimals)
    (price other : Int64) (h : price.toInt ≤ other.toInt) :
    ∃ shown shown', shown ≤ shown' ∧
      ShownNearest price.toInt shown (insertComma foundation (toString price.toInt)) ∧
      ShownNearest other.toInt shown' (insertComma foundation (toString other.toInt)) ∧
      ∀ fraction, '.' ∉ fraction.toList →
        insertComma foundation (toString price.toInt ++ "." ++ fraction) =
          insertComma foundation (toString price.toInt) ++ "." ++ fraction := by
  refine ⟨_, _, roundInt_mono (by decide) h, shownNearest_insertComma hreads hwrites price,
    shownNearest_insertComma hreads hwrites other, fun fraction hfraction => ?_⟩
  rw [insertComma_decimal hreads hwrites hfraction, insertComma_toString hreads hwrites]

/-- The first price with 54 bits, and the next. -/
theorem prices_in_order_alike : ∃ shown shown', shown ≤ shown' ∧
    ShownNearest 9007199254740993 shown (insertComma integers "9007199254740993") ∧
    ShownNearest 9007199254740994 shown' (insertComma integers "9007199254740994") ∧
    ∀ fraction, '.' ∉ fraction.toList →
      insertComma integers ("9007199254740993" ++ "." ++ fraction) =
        insertComma integers "9007199254740993" ++ "." ++ fraction :=
  prices_in_order readsNumerals_integers writesDecimals_integers 9007199254740993
    9007199254740994 (by decide)

end BunjangClone.Extension
