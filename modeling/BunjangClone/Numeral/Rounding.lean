import Mathlib.Algebra.GroupWithZero.Nat
import Mathlib.Tactic.ByContra

/-!
# Rounding to significant bits

A number is rounded to a given precision by rounding it to the nearest multiple of a power
of two, the even one of two that are equally near. The power is the one that leaves the
leading bits. The result has no more bits than the precision allows, no number with so few
bits is nearer, and so the numbers that are kept are just those.
-/

namespace Numeral

variable {precision n m unit : Nat}

/-- At most `precision` bits, with zeros after them. -/
def Fits (precision n : Nat) : Prop :=
  ∃ significand exponent, significand < 2 ^ precision ∧ n = significand * 2 ^ exponent

/-- The distance of two numbers. -/
def distance (a b : Nat) : Nat := (a - b) + (b - a)

/-! ## Multiples -/

/-- The multiple of `unit` nearest to `n`, the even one in a tie. -/
def nearestMultiple (unit n : Nat) : Nat :=
  if 2 * (n % unit) < unit ∨ 2 * (n % unit) = unit ∧ n / unit % 2 = 0 then n / unit * unit
  else (n / unit + 1) * unit

theorem nearestMultiple_cases (unit n : Nat) :
    nearestMultiple unit n = n / unit * unit ∨ nearestMultiple unit n = (n / unit + 1) * unit := by
  rw [nearestMultiple]
  split
  · exact .inl rfl
  · exact .inr rfl

/-- No multiple is nearer. -/
theorem distance_nearestMultiple_le (hunit : 0 < unit) (n k : Nat) :
    distance (nearestMultiple unit n) n ≤ distance (k * unit) n := by
  have hrest : n % unit < unit := Nat.mod_lt n hunit
  have hsplit : n / unit * unit + n % unit = n := Nat.div_add_mod' n unit
  have hnext : (n / unit + 1) * unit = n / unit * unit + unit := Nat.succ_mul _ _
  have hside : k * unit ≤ n / unit * unit ∨ n / unit * unit + unit ≤ k * unit := by
    obtain habove | hbelow := Nat.lt_or_ge (n / unit) k
    · refine .inr ?_
      rw [← hnext]
      exact Nat.mul_le_mul_right unit habove
    · exact .inl (Nat.mul_le_mul_right unit hbelow)
  unfold nearestMultiple distance
  split <;> omega

/-! ## Significant bits -/

/-- The number of bits past the leading ones. -/
def excess (precision n : Nat) : Nat := n.log2 + 1 - precision

def roundNat (precision n : Nat) : Nat := nearestMultiple (2 ^ excess precision n) n

theorem quotient_lt (precision n : Nat) : n / 2 ^ excess precision n < 2 ^ precision := by
  rw [Nat.div_lt_iff_lt_mul (Nat.two_pow_pos _), ← Nat.pow_add]
  refine Nat.lt_of_lt_of_le Nat.lt_log2_self ?_
  apply Nat.pow_le_pow_right Nat.two_pos
  rw [excess]
  omega

/-- Rounding up to the next power of two leaves a single bit. -/
theorem fits_roundNat (hprecision : 0 < precision) (n : Nat) :
    Fits precision (roundNat precision n) := by
  have hquotient := quotient_lt precision n
  obtain hdown | hup := nearestMultiple_cases (2 ^ excess precision n) n
  · exact ⟨_, _, hquotient, hdown⟩
  · by_cases hnext : n / 2 ^ excess precision n + 1 < 2 ^ precision
    · exact ⟨_, _, hnext, hup⟩
    · have hpower : n / 2 ^ excess precision n + 1 = 2 ^ precision := by omega
      refine ⟨1, precision + excess precision n, Nat.one_lt_two_pow (by omega), ?_⟩
      rw [Nat.one_mul, Nat.pow_add, ← hpower]
      exact hup

/-- What fits is a multiple of the unit or lies below the leading bit of `n`. -/
theorem Fits.multiple_or_lt (h : Fits precision m) (n : Nat) :
    (∃ k, m = k * 2 ^ excess precision n) ∨ m < 2 ^ n.log2 := by
  obtain ⟨significand, exponent, hsignificand, rfl⟩ := h
  by_cases hexponent : excess precision n ≤ exponent
  · refine .inl ⟨significand * 2 ^ (exponent - excess precision n), ?_⟩
    rw [Nat.mul_assoc, ← Nat.pow_add, Nat.sub_add_cancel hexponent]
  · refine .inr (Nat.lt_of_lt_of_le (m := 2 ^ precision * 2 ^ exponent) ?_ ?_)
    · exact Nat.mul_lt_mul_of_pos_right hsignificand (Nat.two_pow_pos _)
    · rw [← Nat.pow_add]
      apply Nat.pow_le_pow_right Nat.two_pos
      rw [excess] at hexponent
      omega

/-- No number that fits is nearer. -/
theorem distance_roundNat_le (hprecision : 0 < precision) (hfits : Fits precision m) (n : Nat) :
    distance (roundNat precision n) n ≤ distance m n := by
  have hunit : 0 < 2 ^ excess precision n := Nat.two_pow_pos _
  by_cases hmultiple : ∃ k, m = k * 2 ^ excess precision n
  · obtain ⟨k, rfl⟩ := hmultiple
    exact distance_nearestMultiple_le hunit n k
  · -- The leading bit of `n` is a multiple of the unit between `m` and `n`.
    have hbelow : m < 2 ^ n.log2 := (hfits.multiple_or_lt n).resolve_left hmultiple
    have hlong : precision ≤ n.log2 := by
      by_contra hshort
      refine hmultiple ⟨m, ?_⟩
      have hnone : excess precision n = 0 := by
        rw [excess]
        omega
      rw [hnone, Nat.pow_zero, Nat.mul_one]
    have hleading : 2 ^ (precision - 1) * 2 ^ excess precision n = 2 ^ n.log2 := by
      rw [← Nat.pow_add]
      congr 1
      rw [excess]
      omega
    have hnonzero : n ≠ 0 := by
      rintro rfl
      rw [Nat.log2_zero] at hlong
      omega
    have hlog : 2 ^ n.log2 ≤ n := Nat.log2_self_le hnonzero
    have hnear := distance_nearestMultiple_le hunit n (2 ^ (precision - 1))
    rw [hleading] at hnear
    refine Nat.le_trans hnear ?_
    unfold distance
    omega

/-- The numbers that fit are those that are kept. -/
theorem roundNat_eq_self_iff (hprecision : 0 < precision) :
    roundNat precision n = n ↔ Fits precision n := by
  constructor
  · intro h
    rw [← h]
    exact fits_roundNat hprecision n
  · intro h
    have hnear := distance_roundNat_le hprecision h n
    unfold distance at hnear
    omega

/-- Rounding keeps the order. -/
theorem roundNat_mono (hprecision : 0 < precision) (h : n ≤ m) :
    roundNat precision n ≤ roundNat precision m := by
  have hnear := distance_roundNat_le hprecision (fits_roundNat hprecision m) n
  have hnear' := distance_roundNat_le hprecision (fits_roundNat hprecision n) m
  by_contra hless
  -- Both are nearer to the number below them, so the numbers are the same.
  have hsame : n = m := by
    unfold distance at hnear hnear'
    omega
  subst hsame
  exact hless (Nat.le_refl _)

/-! ## Integers -/

def roundInt (precision : Nat) (z : Int) : Int := z.sign * roundNat precision z.natAbs

theorem roundInt_eq_self_iff (hprecision : 0 < precision) {z : Int} :
    roundInt precision z = z ↔ Fits precision z.natAbs := by
  rw [← roundNat_eq_self_iff hprecision, roundInt]
  obtain hneg | rfl | hpos := Int.lt_trichotomy z 0
  · rw [Int.sign_eq_neg_one_of_neg hneg]
    omega
  · have hzero : roundNat precision 0 = 0 := by
      rw [roundNat_eq_self_iff hprecision]
      exact ⟨0, 0, Nat.two_pow_pos _, rfl⟩
    simp [hzero]
  · rw [Int.sign_eq_one_of_pos hpos]
    omega

theorem roundInt_mono (hprecision : 0 < precision) {y z : Int} (h : y ≤ z) :
    roundInt precision y ≤ roundInt precision z := by
  have hzero : roundNat precision 0 = 0 :=
    (roundNat_eq_self_iff hprecision).mpr ⟨0, 0, Nat.two_pow_pos _, by rw [Nat.zero_mul]⟩
  rw [roundInt, roundInt]
  obtain hy | rfl | hy := Int.lt_trichotomy y 0 <;> obtain hz | rfl | hz := Int.lt_trichotomy z 0
  · have hmono := roundNat_mono hprecision (n := z.natAbs) (m := y.natAbs) (by omega)
    rw [Int.sign_eq_neg_one_of_neg hy, Int.sign_eq_neg_one_of_neg hz]
    omega
  · rw [Int.sign_eq_neg_one_of_neg hy, Int.sign_zero]
    omega
  · rw [Int.sign_eq_neg_one_of_neg hy, Int.sign_eq_one_of_pos hz]
    omega
  · omega
  · exact Int.le_refl _
  · rw [Int.sign_eq_one_of_pos hz, Int.sign_zero]
    omega
  · omega
  · omega
  · have hmono := roundNat_mono hprecision (n := y.natAbs) (m := z.natAbs) (by omega)
    rw [Int.sign_eq_one_of_pos hy, Int.sign_eq_one_of_pos hz]
    omega

/-- No integer that fits is nearer. -/
theorem roundInt_nearest (hprecision : 0 < precision) {y : Int} (hfits : Fits precision y.natAbs)
    (z : Int) : (roundInt precision z - z).natAbs ≤ (y - z).natAbs := by
  have hnear := distance_roundNat_le hprecision hfits z.natAbs
  unfold distance at hnear
  rw [roundInt]
  obtain hz | rfl | hz := Int.lt_trichotomy z 0
  · rw [Int.sign_eq_neg_one_of_neg hz]
    omega
  · rw [Int.sign_zero]
    omega
  · rw [Int.sign_eq_one_of_pos hz]
    omega

end Numeral
