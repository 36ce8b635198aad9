import Mathlib.Data.List.Basic

/-!
# Digits in groups

Digits are written in groups of a fixed size, counted from the right, with a separator
before each group but the first. `Grouped` says so from the right; `group` writes them from
the left, with a separator after each digit that has full groups on its right.
-/

namespace Numeral

variable {α : Type*} {size : Nat} {separator : α} {digits text : List α}

/-- The first group, and after it a separator and a full group at a time. -/
inductive Grouped (size : Nat) (separator : α) : List α → List α → Prop where
  | first {digits : List α} (nonempty : digits ≠ []) (short : digits.length ≤ size) :
      Grouped size separator digits digits
  | next {digits text group : List α} (before : Grouped size separator digits text)
      (full : group.length = size) :
      Grouped size separator (digits ++ group) (text ++ separator :: group)

def group (size : Nat) (separator : α) : List α → List α
  | [] => []
  | digit :: rest =>
      if rest.length ≠ 0 ∧ rest.length % size = 0 then
        digit :: separator :: group size separator rest
      else digit :: group size separator rest

theorem group_of_short (h : digits.length ≤ size) : group size separator digits = digits := by
  induction digits with
  | nil => rfl
  | cons digit rest ih =>
      rw [List.length_cons] at h
      have hnone : ¬ (rest.length ≠ 0 ∧ rest.length % size = 0) := by
        rw [Nat.mod_eq_of_lt h]
        exact fun hzero => hzero.1 hzero.2
      rw [group, if_neg hnone, ih (by omega)]

/-- A full group on the right is written after a separator. -/
theorem group_append {last : List α} (hsize : 0 < size) (hdigits : digits ≠ [])
    (hlast : last.length = size) :
    group size separator (digits ++ last) = group size separator digits ++ separator :: last := by
  induction digits with
  | nil => exact absurd rfl hdigits
  | cons digit rest ih =>
      rw [List.cons_append, group, group, List.length_append, hlast, Nat.add_mod_right]
      by_cases hrest : rest = []
      · subst hrest
        have hfull : ([] : List α).length + size ≠ 0 ∧ ([] : List α).length % size = 0 :=
          ⟨by omega, Nat.zero_mod size⟩
        rw [if_pos hfull, List.nil_append, group_of_short (Nat.le_of_eq hlast)]
        rfl
      · have hlength : rest.length ≠ 0 := fun hzero => hrest (List.length_eq_zero_iff.mp hzero)
        have hmore : rest.length + size ≠ 0 := by omega
        simp only [hlength, hmore, ne_eq, not_false_eq_true, true_and, ih hrest]
        split
        · rfl
        · rfl

/-- The digits are in groups, which are split off from the right. -/
theorem grouped_group (hsize : 0 < size) (hdigits : digits ≠ []) :
    Grouped size separator digits (group size separator digits) := by
  induction hcount : digits.length using Nat.strongRecOn generalizing digits with
  | ind count ih =>
      by_cases hshort : digits.length ≤ size
      · rw [group_of_short hshort]
        exact .first hdigits hshort
      · have hbefore : (digits.take (digits.length - size)).length = digits.length - size := by
          rw [List.length_take]
          omega
        have hnonempty : digits.take (digits.length - size) ≠ [] := by
          apply List.ne_nil_of_length_pos
          omega
        have hlast : (digits.drop (digits.length - size)).length = size := by
          rw [List.length_drop]
          omega
        have hgrouped := (ih _ (by omega) hnonempty hbefore).next hlast
        rw [← group_append hsize hnonempty hlast, List.take_append_drop] at hgrouped
        exact hgrouped

/-- Without the separators the digits are left. -/
theorem Grouped.filter_ne [DecidableEq α] (h : Grouped size separator digits text)
    (hseparator : separator ∉ digits) : text.filter (· ≠ separator) = digits := by
  have hkept : ∀ group : List α, separator ∉ group → group.filter (· ≠ separator) = group := by
    intro group hgroup
    refine List.filter_eq_self.mpr fun digit hmem => ?_
    rw [decide_eq_true_eq]
    rintro rfl
    exact hgroup hmem
  induction h with
  | first => exact hkept _ hseparator
  | next before full ih =>
      rw [List.mem_append, not_or] at hseparator
      rw [List.filter_append, ih hseparator.1, List.filter_cons_of_neg (by simp),
        hkept _ hseparator.2]

end Numeral
