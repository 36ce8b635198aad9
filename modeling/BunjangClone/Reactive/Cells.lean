import Mathlib.Data.List.Basic

/-!
# Cells that are overwritten

Values are stored in cells by key, and a cell holds what was stored in it last. Whoever refers
to a cell expects a value there. The references stay good exactly if each of them is good when
it is made, and nothing is stored in a cell but what all references to it expect.
-/

namespace Reactive

/-- What happens to the cells. -/
inductive Deed (κ β : Type*) where
  | stores (key : κ) (value : β)
  | refers (key : κ) (expected : β)
deriving DecidableEq, Repr

namespace Deed

variable {κ β : Type*} [DecidableEq κ]

def storedAt (key : κ) : Deed κ β → Option β
  | stores cell value => if cell = key then some value else none
  | refers _ _ => none

def expectedAt (key : κ) : Deed κ β → Option β
  | stores _ _ => none
  | refers cell expected => if cell = key then some expected else none

/-- What a cell holds after the deeds, if anything. -/
def held (key : κ) (deeds : List (Deed κ β)) : Option β := (deeds.filterMap (storedAt key)).getLast?

/-- What the references to a cell expect there. -/
def expected (key : κ) (deeds : List (Deed κ β)) : List β := deeds.filterMap (expectedAt key)

/-- Every reference finds what it expects. -/
def Good (deeds : List (Deed κ β)) : Prop :=
  ∀ key, ∀ value ∈ expected key deeds, ∀ found ∈ held key deeds, found = value

/-- The deed keeps the references good, after those before it. -/
def Fits (deeds : List (Deed κ β)) : Deed κ β → Prop
  | stores key value => ∀ wanted ∈ expected key deeds, value = wanted
  | refers key wanted => ∀ found ∈ held key deeds, found = wanted

instance [DecidableEq β] (deeds : List (Deed κ β)) : DecidablePred (Fits deeds)
  | stores key value => inferInstanceAs (Decidable (∀ wanted ∈ expected key deeds, value = wanted))
  | refers key wanted => inferInstanceAs (Decidable (∀ found ∈ held key deeds, found = wanted))

variable {deeds : List (Deed κ β)} {deed : Deed κ β} {key cell : κ} {value wanted : β}

@[simp] theorem held_nil : held key ([] : List (Deed κ β)) = none := rfl

@[simp] theorem expected_nil : expected key ([] : List (Deed κ β)) = [] := rfl

theorem held_concat_stores :
    held key (deeds ++ [stores cell value]) =
      if cell = key then some value else held key deeds := by
  by_cases hcell : cell = key <;> simp [held, storedAt, hcell]

@[simp] theorem held_concat_refers :
    held key (deeds ++ [refers cell wanted]) = held key deeds := by
  simp [held, storedAt]

@[simp] theorem expected_concat_stores :
    expected key (deeds ++ [stores cell value]) = expected key deeds := by
  simp [expected, expectedAt]

theorem mem_expected_concat_refers : value ∈ expected key (deeds ++ [refers cell wanted]) ↔
    value ∈ expected key deeds ∨ (cell = key ∧ value = wanted) := by
  by_cases hcell : cell = key <;> simp [expected, expectedAt, hcell]

theorem good_concat_iff (h : Good deeds) : Good (deeds ++ [deed]) ↔ deed.Fits deeds := by
  cases deed with
  | stores cell value =>
      constructor
      · intro hgood wanted hmem
        exact hgood cell wanted (by simpa using hmem) value (by simp [held_concat_stores])
      · intro hfits key wanted hmem found hfound
        rw [expected_concat_stores] at hmem
        rw [held_concat_stores] at hfound
        split at hfound
        · rename_i hcell
          subst hcell
          obtain rfl := Option.some.inj hfound
          exact hfits wanted hmem
        · exact h key wanted hmem found hfound
  | refers cell wanted =>
      constructor
      · intro hgood found hfound
        exact hgood cell wanted (mem_expected_concat_refers.mpr (.inr ⟨rfl, rfl⟩)) found
          (by simpa using hfound)
      · intro hfits key value hmem found hfound
        rw [held_concat_refers] at hfound
        obtain hmem | ⟨rfl, rfl⟩ := mem_expected_concat_refers.mp hmem
        · exact h key value hmem found hfound
        · exact hfits found hfound

end Deed
end Reactive
