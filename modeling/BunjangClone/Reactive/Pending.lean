import Mathlib.Data.List.Nodup
import Mathlib.Data.List.Perm.Basic

/-!
# Outstanding requests answered in any order

Requests that are in flight form a list in the order they were sent. The environment
may answer any of them next, so an answer names a position; taking it out leaves the
others in order. Every fact needed later about what remains follows from one
permutation lemma.
-/

namespace Reactive

variable {α : Type*} {l rest : List α} {i : Nat} {a : α}

/-- Take the request at position `i` out of the list. -/
def takeAt (l : List α) (i : Nat) : Option (α × List α) :=
  l[i]?.map fun a => (a, l.eraseIdx i)

theorem takeAt_eq_some_iff :
    takeAt l i = some (a, rest) ↔ l[i]? = some a ∧ l.eraseIdx i = rest := by
  simp [takeAt]

theorem takeAt_zero (a : α) (l : List α) : takeAt (a :: l) 0 = some (a, l) := rfl

theorem takeAt_perm (h : takeAt l i = some (a, rest)) : l.Perm (a :: rest) := by
  obtain ⟨hi, rfl⟩ := takeAt_eq_some_iff.mp h
  obtain ⟨hlt, rfl⟩ := List.getElem?_eq_some_iff.mp hi
  exact (List.getElem_cons_eraseIdx_perm hlt).symm

theorem takeAt_cons_succ (b : α) (l : List α) (i : Nat) :
    takeAt (b :: l) (i + 1) = (takeAt l i).map fun (a, rest) => (a, b :: rest) := by
  simp [takeAt, Function.comp_def]

theorem mem_of_takeAt (h : takeAt l i = some (a, rest)) : a ∈ l :=
  (takeAt_perm h).mem_iff.mpr (by simp)

theorem rest_subset_of_takeAt (h : takeAt l i = some (a, rest)) : rest ⊆ l :=
  fun _ hb => (takeAt_perm h).mem_iff.mpr (List.mem_cons_of_mem a hb)

/-! ## The requests of one kind

Where requests of several kinds are in flight together, `f` picks those of one kind. Their
order among themselves does not change, so `rank` is where one of them stands. -/

section FilterMap

variable {β : Type*} {f : α → Option β} {b : β}

/-- How many requests of the kind come before position `i`. -/
def rank (f : α → Option β) (l : List α) (i : Nat) : Nat :=
  ((l.take i).filterMap f).length

/-- A request of the kind is taken out of those of its kind. -/
theorem takeAt_filterMap (h : takeAt l i = some (a, rest)) (ha : f a = some b) :
    takeAt (l.filterMap f) (rank f l i) = some (b, rest.filterMap f) := by
  induction l generalizing i rest with
  | nil => simp [takeAt] at h
  | cons c l ih =>
      cases i with
      | zero =>
          obtain ⟨rfl, rfl⟩ := Prod.mk.inj (Option.some.inj (takeAt_zero c l ▸ h))
          simp [rank, ha, takeAt_zero]
      | succ i =>
          rw [takeAt_cons_succ, Option.map_eq_some_iff] at h
          obtain ⟨⟨a', rest'⟩, htake, heq⟩ := h
          obtain ⟨rfl, rfl⟩ := Prod.mk.inj heq
          have hrest := ih htake
          cases hc : f c with
          | none => simpa [rank, hc] using hrest
          | some d =>
              rw [rank] at hrest
              simp [rank, hc, takeAt_cons_succ, hrest]

/-- A request of another kind leaves those of the kind as they are. -/
theorem filterMap_of_takeAt (h : takeAt l i = some (a, rest)) (ha : f a = none) :
    rest.filterMap f = l.filterMap f := by
  induction l generalizing i rest with
  | nil => simp [takeAt] at h
  | cons c l ih =>
      cases i with
      | zero =>
          obtain ⟨rfl, rfl⟩ := Prod.mk.inj (Option.some.inj (takeAt_zero c l ▸ h))
          simp [ha]
      | succ i =>
          rw [takeAt_cons_succ, Option.map_eq_some_iff] at h
          obtain ⟨⟨a', rest'⟩, htake, heq⟩ := h
          obtain ⟨rfl, rfl⟩ := Prod.mk.inj heq
          simp [List.filterMap_cons, ih htake]

/-- A request answered in one list is answered at the same place in its image. -/
theorem takeAt_map (g : α → β) (h : takeAt l i = some (a, rest)) :
    takeAt (l.map g) i = some (g a, rest.map g) := by
  obtain ⟨hi, rfl⟩ := takeAt_eq_some_iff.mp h
  exact takeAt_eq_some_iff.mpr ⟨by simp [hi], (List.eraseIdx_map g l i).symm ▸ rfl⟩

end FilterMap

end Reactive
