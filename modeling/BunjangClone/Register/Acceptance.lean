import BunjangClone.Register.Form

/-!
# What an accepted form is worth

`submitButtonPressed` asks for texts that are not empty, and `getUrlOfImage` then takes
the price text for a number and the categories for three. The categories are three once
there are any. The price field takes any text, though, and a negotiable item has none:
`nego` empties the field and locks it.
-/

namespace BunjangClone.Register

open Numeral

/-! ## Reachable forms -/

variable {π : Type} {form : Form π} {inputs : List (Input π)} {img : Option π} {name : String}

/-- What holds of the form in every state: no category or three, and no price while it is
negotiable. -/
structure Kept (form : Form π) : Prop where
  category : form.categoryId = [] ∨ ∃ a b c, form.categoryId = [a, b, c]
  nego : form.nego = true → form.priceTextField = "" ∧ form.priceTextFieldIsEnabled = false

/-- Locking the price field empties it, so the form agrees with `nego` again. -/
theorem kept_priceTextFieldEnable (form : Form π)
    (h : form.categoryId = [] ∨ ∃ a b c, form.categoryId = [a, b, c]) :
    Kept (form.priceTextFieldEnable !form.nego) := by
  cases hnego : form.nego with
  | false => exact ⟨h, fun hset => absurd (hset.symm.trans hnego) (by decide)⟩
  | true => exact ⟨h, fun _ => ⟨rfl, rfl⟩⟩

theorem Kept.checkNego (h : Kept form) : Kept form.checkNego := by
  apply kept_priceTextFieldEnable
  split
  · split <;> exact h.category
  · exact h.category

theorem Kept.checkIncludeShippingFee (h : Kept form) : Kept form.checkIncludeShippingFee := by
  simp only [Form.checkIncludeShippingFee]
  split
  · split
    · have hunlocked : Kept ({ form with nego := false }.priceTextFieldEnable !false) :=
        kept_priceTextFieldEnable { form with nego := false } h.category
      exact ⟨hunlocked.category, hunlocked.nego⟩
    · exact ⟨h.category, h.nego⟩
  · exact ⟨h.category, h.nego⟩

theorem Kept.enter (h : Kept form) (input : Input π) : Kept (form.enter input) := by
  cases input with
  | editProductName | editTag | didFinishPickingMedia => exact ⟨h.category, h.nego⟩
  | chooseCategory a b c => exact ⟨.inr ⟨a, b, c, rfl⟩, h.nego⟩
  | editPrice text =>
      simp only [Form.enter]
      split
      · rename_i henabled
        refine ⟨h.category, fun hnego => ?_⟩
        rw [(h.nego hnego).2] at henabled
        cases henabled
      · exact h
  | checkNego => exact h.checkNego
  | checkIncludeShippingFee => exact h.checkIncludeShippingFee

theorem kept_filledIn (inputs : List (Input π)) : Kept (filledIn inputs) := by
  apply filledIn_induction
  · exact ⟨.inl rfl, fun hnego => by cases hnego⟩
  · intro form input h
    exact h.enter input

/-! ## The price of an accepted form -/

/-- The item can be built from the form whatever the download URL is. -/
def Registers (form : Form π) : Prop :=
  ∀ imageURL, (form.registeredItem imageURL).isSome

/-- A form with three categories registers if its price is read. -/
theorem registers_iff {a b c : Category} (hcategory : form.categoryId = [a, b, c]) :
    Registers form ↔ (intOfText form.priceTextField).isSome := by
  cases hprice : intOfText form.priceTextField with
  | none =>
      refine iff_of_false (fun hregisters => ?_) (by simp)
      have hbuilt := hregisters ⟨[]⟩
      simp [Form.registeredItem, hcategory, hprice] at hbuilt
  | some price => simp [Registers, Form.registeredItem, hcategory, hprice]

/-- In every reachable state in which the form is accepted, the item can be built exactly
if the price is a numeral that fits into 64 bits. -/
theorem accepted_registers_iff
    (hsubmit : (filledIn inputs).submitButtonPressed = .uploadImage img name) :
    Registers (filledIn inputs) ↔ IsNumeral (filledIn inputs).priceTextField := by
  have hchecked := (Form.submitButtonPressed_eq_uploadImage_iff.mp hsubmit).1
  obtain hnone | ⟨a, b, c, hcategory⟩ := (kept_filledIn inputs).category
  · exact absurd hnone hchecked.2.2.1
  · rw [registers_iff hcategory, isSome_intOfText_iff]

/-- A picture, a category and the given price. -/
def pricedInputs (price : String) : List (Input Unit) :=
  [.didFinishPickingMedia (), .chooseCategory ⟨1, "의류", none⟩ ⟨2, "신발", none⟩ ⟨3, "운동화", none⟩,
    .editPrice price]

theorem accepted_registers_signed :
    (filledIn (pricedInputs "+0250")).submitButtonPressed =
        .uploadImage (some ()) "컨버스" ∧
      Registers (filledIn (pricedInputs "+0250")) := by
  have hsubmit : (filledIn (pricedInputs "+0250")).submitButtonPressed =
      .uploadImage (some ()) "컨버스" := by decide
  have hread : (intOfText (filledIn (pricedInputs "+0250")).priceTextField).isSome := by decide
  exact ⟨hsubmit, (accepted_registers_iff hsubmit).mpr (isSome_intOfText_iff.mp hread)⟩

/-- A price in words is accepted, and reading it traps. -/
theorem worded_price_traps :
    ¬ ∀ (inputs : List (Input Unit)) img name,
      (filledIn inputs).submitButtonPressed = .uploadImage img name →
        Registers (filledIn inputs) := by
  intro halways
  have hbuilt := halways (pricedInputs "만원") (some ()) "컨버스" (by decide) ⟨[]⟩
  exact absurd hbuilt (by decide)

/-! ## Negotiable items -/

/-- A picture, a product name, a category and a tag are there. -/
structure Filled (form : Form π) : Prop where
  picture : form.itemImageView ≠ none
  productName : form.productName ≠ ""
  category : form.categoryId ≠ []
  tag : form.tagTextField ≠ ""

/-- The form is accepted, and its item is negotiable and without a shipping fee. -/
def RegistersNegotiable (form : Form π) : Prop :=
  (∃ img name, form.submitButtonPressed = .uploadImage img name) ∧
    ∀ imageURL, ∃ item, form.registeredItem imageURL = some item ∧
      item.changePrice = some true ∧ item.containDelivery = some false

/-- A negotiable item is sent back for its price, which cannot be entered. -/
theorem submit_of_nego (hkept : Kept form) (hfilled : Filled form) (hnego : form.nego = true) :
    form.submitButtonPressed = .presentAlert "가격을 입려해주세요" := by
  have hcategory : ¬ form.categoryId.length < 1 := by
    rw [Nat.lt_one_iff, List.length_eq_zero_iff]
    exact hfilled.category
  have hpicture : form.itemImageView.isNone = false := by
    rw [Option.isNone_eq_false_iff, Option.isSome_iff_ne_none]
    exact hfilled.picture
  simp [Form.submitButtonPressed, hpicture, hfilled.productName, hcategory, (hkept.nego hnego).1]

/-- In no reachable state can a negotiable item be registered. -/
theorem negotiable_never_registers (hfilled : Filled (filledIn inputs))
    (hnego : (filledIn inputs).nego = true) : ¬ RegistersNegotiable (filledIn inputs) := by
  rintro ⟨⟨img, name, haccepted⟩, _⟩
  have hrefused := submit_of_nego (kept_filledIn inputs) hfilled hnego
  rw [hrefused] at haccepted
  cases haccepted

theorem negotiable_never_registers_priced :
    ¬ RegistersNegotiable (filledIn (pricedInputs "10000" ++ [.checkNego])) :=
  negotiable_never_registers ⟨by decide, by decide, by decide, by decide⟩ rfl

/-- Everything but the price is there, and the item is negotiable. -/
theorem negotiable_not_accepted :
    ¬ ∀ inputs : List (Input Unit), Filled (filledIn inputs) → (filledIn inputs).nego = true →
      RegistersNegotiable (filledIn inputs) := by
  intro halways
  have hfilled : Filled (filledIn (pricedInputs "10000" ++ [.checkNego])) :=
    ⟨by decide, by decide, by decide, by decide⟩
  obtain ⟨⟨img, name, haccepted⟩, _⟩ := halways _ hfilled rfl
  have hrefused : (filledIn (pricedInputs "10000" ++ [.checkNego])).submitButtonPressed =
      .presentAlert "가격을 입려해주세요" := by decide
  rw [hrefused] at haccepted
  cases haccepted

end BunjangClone.Register
