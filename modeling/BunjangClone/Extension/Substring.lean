import Mathlib.Data.List.Infix

/-!
# Substrings

`substring(from:to:)` clamps the start to zero and the end to the number of characters, but
then counts the characters in between from the start as it was given. So a negative start
reaches further right than it should, or past the end of the string, where
`index(_:offsetBy:)` traps.

A string is the list of its characters, whatever a character is.
-/

namespace BunjangClone.Extension

variable {Character : Type} {self : List Character} {lower middle upper : Int64}

/-! ## The string -/

/-- The difference of two `Int`s, which traps if it does not fit into 64 bits. -/
def subtracting (a b : Int) : Option Int :=
  if -9223372036854775808 ≤ a - b ∧ a - b ≤ 9223372036854775807 then some (a - b) else none

/-- `index(_:offsetBy:)`, which traps outside the string. -/
def index (self : List Character) (i : Nat) (offset : Int) : Option Nat :=
  if 0 ≤ i + offset ∧ i + offset ≤ self.length then some (i + offset).toNat else none

/-- `String(self[start ..< end])`, which traps if the bounds are the wrong way round. -/
def slice (self : List Character) (start «end» : Nat) : Option (List Character) :=
  if start ≤ «end» then some ((self.take «end»).drop start) else none

/-- `substring(from: lower, to: upper)`, which is `none` where it traps. -/
def substring (self : List Character) (lower upper : Int64) : Option (List Character) :=
  if upper.toInt ≥ 0 ∧ lower.toInt ≤ self.length ∧ lower.toInt ≤ upper.toInt then do
    let start ← index self 0 (max lower.toInt 0)
    let offset ← subtracting (min upper.toInt self.length) lower.toInt
    let «end» ← index self start offset
    slice self start «end»
  else some []

/-- A `Range<Int>`, whose bounds are in order. -/
structure Range where
  lowerBound : Int64
  upperBound : Int64
  inOrder : lowerBound.toInt ≤ upperBound.toInt

/-- `substring(range:)`. -/
def substringIn (self : List Character) (range : Range) : Option (List Character) :=
  substring self range.lowerBound range.upperBound

def get (self : List Character) (index : Int64) : Option (List Character) :=
  substringIn self ⟨index, index, Int.le_refl _⟩

/-! ## The characters in between -/

/-- The characters at the positions from `max lower 0` up to `min upper count`. -/
def charactersBetween (self : List Character) (lower upper : Int) : List Character :=
  (self.zipIdx.filter fun (_, i) =>
    decide (max lower 0 ≤ i ∧ i < min upper self.length)).map Prod.fst

/-- The substring is that of the clamped range. -/
def Clamps (self : List Character) (lower upper : Int64) : Prop :=
  substring self lower upper = some (charactersBetween self lower.toInt upper.toInt)

/-- Two substrings next to each other make up the substring of the whole range. -/
def Joins (self : List Character) (lower middle upper : Int64) : Prop :=
  ∃ left right, substring self lower middle = some left ∧
    substring self middle upper = some right ∧
    substring self lower upper = some (left ++ right)

theorem map_fst_filter_zipIdx (self : List Character) (k lower upper : Nat) :
    ((self.zipIdx k).filter fun x => decide (lower ≤ x.2 ∧ x.2 < upper)).map Prod.fst =
      (self.take (upper - k)).drop (lower - k) := by
  induction self generalizing k with
  | nil => simp
  | cons character rest ih =>
      rw [List.zipIdx_cons, List.filter_cons]
      by_cases hupper : k < upper
      · have hmore : upper - k = (upper - (k + 1)) + 1 := by omega
        rw [hmore, List.take_succ_cons]
        by_cases hlower : lower ≤ k
        · have hnone : lower - k = 0 := by omega
          have hnext : lower - (k + 1) = 0 := by omega
          simp only [hlower, hupper, and_self, decide_true, if_true, List.map_cons, ih (k + 1),
            hnone, hnext, List.drop_zero]
        · have hskip : lower - k = (lower - (k + 1)) + 1 := by omega
          simp only [hlower, false_and, decide_false, Bool.false_eq_true, if_false, ih (k + 1),
            hskip, List.drop_succ_cons]
      · have hnone : upper - k = 0 := by omega
        have hnext : upper - (k + 1) = 0 := by omega
        simp only [hupper, and_false, decide_false, Bool.false_eq_true, if_false, ih (k + 1),
          hnone, hnext, List.take_zero, List.drop_nil]

theorem charactersBetween_eq (self : List Character) (lower upper : Int) :
    charactersBetween self lower upper = (self.take upper.toNat).drop lower.toNat := by
  have hpositions : ∀ x ∈ self.zipIdx,
      decide (max lower 0 ≤ x.2 ∧ x.2 < min upper self.length) =
        decide (lower.toNat ≤ x.2 ∧ x.2 < upper.toNat) := by
    intro x hmem
    have hlength := List.snd_lt_of_mem_zipIdx hmem
    rw [decide_eq_decide]
    omega
  have hbetween := map_fst_filter_zipIdx self 0 lower.toNat upper.toNat
  rw [charactersBetween, List.filter_congr hpositions]
  exact hbetween

/-! ## The regions -/

theorem substring_of_upper_neg (self : List Character) (h : upper.toInt < 0) :
    substring self lower upper = some [] := by
  have houtside : ¬ (upper.toInt ≥ 0 ∧ lower.toInt ≤ self.length ∧ lower.toInt ≤ upper.toInt) := by
    omega
  exact if_neg houtside

/-- From a start that is not negative the length fits the start. -/
theorem substring_of_lower_nonneg (self : List Character) (h : 0 ≤ lower.toInt) :
    substring self lower upper = some ((self.take upper.toInt.toNat).drop lower.toInt.toNat) := by
  by_cases hinside : upper.toInt ≥ 0 ∧ lower.toInt ≤ self.length ∧ lower.toInt ≤ upper.toInt
  · obtain ⟨hupper, hlength, horder⟩ := hinside
    have hbound := upper.toInt_lt
    have hstart : index self 0 (max lower.toInt 0) = some lower.toInt.toNat := by
      have hmax : max lower.toInt 0 = lower.toInt := by omega
      rw [index, hmax, if_pos (by omega)]
      simp
    have hoffset : subtracting (min upper.toInt self.length) lower.toInt =
        some (min upper.toInt self.length - lower.toInt) := by
      apply if_pos
      omega
    have hend : index self lower.toInt.toNat (min upper.toInt self.length - lower.toInt) =
        some (min upper.toInt self.length).toNat := by
      rw [index, if_pos (by omega)]
      congr 1
      omega
    rw [substring, if_pos ⟨hupper, hlength, horder⟩]
    simp only [hstart, hoffset, hend, Option.bind_eq_bind, Option.bind_some]
    have hslice : lower.toInt.toNat ≤ (min upper.toInt self.length).toNat := by omega
    have hmin : (min upper.toInt self.length).toNat = min upper.toInt.toNat self.length := by omega
    rw [slice, if_pos hslice, hmin, ← List.take_eq_take_min]
  · rw [substring, if_neg hinside]
    congr 1
    symm
    apply List.drop_eq_nil_of_le
    rw [List.length_take]
    omega

/-- A negative start makes the substring too long. -/
theorem length_of_lower_neg {characters : List Character} (hlower : lower.toInt < 0)
    (hupper : 0 ≤ upper.toInt) (h : substring self lower upper = some characters) :
    (characters.length : Int) = min upper.toInt self.length - lower.toInt := by
  have hinside : upper.toInt ≥ 0 ∧ lower.toInt ≤ self.length ∧ lower.toInt ≤ upper.toInt := by
    omega
  have hmax : max lower.toInt 0 = 0 := by omega
  rw [substring, if_pos hinside, hmax] at h
  simp only [Option.bind_eq_bind, Option.bind_eq_some_iff, index, subtracting, slice,
    Option.ite_none_right_eq_some, Option.some.injEq] at h
  obtain ⟨start, ⟨_, rfl⟩, offset, ⟨_, rfl⟩, «end», ⟨hend, rfl⟩, _, rfl⟩ := h
  rw [List.length_drop, List.length_take]
  omega

theorem length_charactersBetween_le (self : List Character) (lower upper : Int)
    (h : 0 ≤ upper) : ((charactersBetween self lower upper).length : Int) ≤
      min upper self.length := by
  rw [charactersBetween_eq, List.length_drop, List.length_take]
  omega

/-! ## The whole law -/

theorem clamps_iff (self : List Character) (lower upper : Int64) :
    Clamps self lower upper ↔ 0 ≤ lower.toInt ∨ upper.toInt < 0 := by
  constructor
  · intro h
    by_contra hneither
    have hlong := length_of_lower_neg (by omega) (by omega) h
    have hshort := length_charactersBetween_le self lower.toInt upper.toInt (by omega)
    omega
  · rintro (hlower | hupper)
    · rw [Clamps, substring_of_lower_nonneg self hlower, charactersBetween_eq]
    · have hnone : upper.toInt.toNat = 0 := by omega
      rw [Clamps, substring_of_upper_neg self hupper, charactersBetween_eq, hnone, List.take_zero,
        List.drop_nil]

/-- A stretch of a list is cut in two at any place in it. -/
theorem drop_take_append (self : List Character) {a b c : Nat} (hab : a ≤ b) (hbc : b ≤ c) :
    (self.take b).drop a ++ (self.take c).drop b = (self.take c).drop a := by
  have htake : self.take b = (self.take c).take b := by
    rw [List.take_take, Nat.min_eq_left hbc]
  rw [htake]
  generalize self.take c = stretch
  calc (stretch.take b).drop a ++ stretch.drop b
      = (stretch.take b).drop a ++ (stretch.drop a).drop (b - a) := by
        rw [List.drop_drop, Nat.add_sub_cancel' hab]
    _ = (stretch.drop a).take (b - a) ++ (stretch.drop a).drop (b - a) := by
        rw [List.drop_take]
    _ = stretch.drop a := List.take_append_drop _ _

theorem joins_of_lower_nonneg (self : List Character) (h : 0 ≤ lower.toInt)
    (hlower : lower.toInt ≤ middle.toInt) (hupper : middle.toInt ≤ upper.toInt) :
    Joins self lower middle upper := by
  have hmiddle : 0 ≤ middle.toInt := by omega
  refine ⟨_, _, substring_of_lower_nonneg self h, substring_of_lower_nonneg self hmiddle, ?_⟩
  rw [substring_of_lower_nonneg self h, drop_take_append self]
  · omega
  · omega

/-- A substring is that of the clamped range, and its parts make it up, exactly if the
range starts at a position that is not negative or ends at one that is. -/
theorem substring_clamps_iff (self : List Character) (lower upper : Int64) :
    (Clamps self lower upper ∧ ∀ middle : Int64, lower.toInt ≤ middle.toInt →
      middle.toInt ≤ upper.toInt → Joins self lower middle upper) ↔
      0 ≤ lower.toInt ∨ upper.toInt < 0 := by
  constructor
  · rintro ⟨hclamps, _⟩
    exact (clamps_iff self lower upper).mp hclamps
  · intro hregion
    refine ⟨(clamps_iff self lower upper).mpr hregion, fun middle hlower hupper => ?_⟩
    obtain hnonneg | hneg := hregion
    · exact joins_of_lower_nonneg self hnonneg hlower hupper
    · have hmiddle : middle.toInt < 0 := by omega
      exact ⟨[], [], substring_of_upper_neg self hmiddle, substring_of_upper_neg self hneg,
        substring_of_upper_neg self hneg⟩

/-- One character before the start puts one too many at the end. -/
theorem negative_start_not_clamped :
    ¬ ∀ (self : List Char) (lower upper : Int64), Clamps self lower upper := by
  intro halways
  have hshort := halways "abc".toList (-1) 1
  have hlong : substring "abc".toList (-1) 1 = some ['a', 'b'] := by decide
  rw [Clamps, hlong] at hshort
  exact absurd hshort (by decide)

/-- `get` takes the empty range at the index, so it never finds a character. -/
theorem get_eq_nil (self : List Character) (index : Int64) : get self index = some [] := by
  show substring self index index = some []
  by_cases hnonneg : 0 ≤ index.toInt
  · rw [substring_of_lower_nonneg self hnonneg]
    congr 1
    apply List.drop_eq_nil_of_le
    rw [List.length_take]
    omega
  · exact substring_of_upper_neg self (by omega)

end BunjangClone.Extension
