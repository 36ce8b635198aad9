import Mathlib.Data.List.Induction
import BunjangClone.Entity
import BunjangClone.Numeral.Reading

/-!
# The registration form

The fields of `RegisterViewController` that a seller fills in, the handlers that change
them, the checks of `submitButtonPressed` and the item that `getUrlOfImage` builds. The
texts a form starts with are those of its storyboard.

A picked photo is a value of an arbitrary type. It has JPEG data; the blank image the
controller starts with has none.
-/

namespace BunjangClone.Register

open Numeral

/-- The path of a stored object, by its components. -/
abbrev ObjectPath := List (List Char)

/-- `standardizedPathForString` of the storage library, which `child` applies to a name.
Names that differ in leading, trailing or repeated slashes share a path. -/
def standardizedPathForString (string : String) : ObjectPath :=
  (string.toList.splitOn '/').filter fun component => !component.isEmpty

/-- A download URL denotes whatever its object path holds. -/
structure URL where
  path : ObjectPath
deriving DecidableEq, Repr

/-- The entity posted to the server, field for field. -/
structure RegisterdItem where
  productImage : List URL
  productName : String
  categoryId : Int
  subCategoryId : Int
  thirdCategoryId : Int
  price : Int
  changePrice : Option Bool
  containDelivery : Option Bool
  setMyPlace : Option Bool
  content : Option String := none
  count : Option Int := none
  productCondition : Option Bool := none
  isExchange : Option Bool := none
  tag : List String
deriving DecidableEq, Repr

/-! ## The form -/

structure Form (π : Type) where
  itemImageView : Option π := none
  itemImage : Option π := none
  productName : String := "컨버스"
  categoryId : List Category := []
  priceTextField : String := "10000"
  priceTextFieldIsEnabled : Bool := true
  tagTextField : String := "신발"
  nego : Bool := false
  includeShippingFee : Bool := false
deriving DecidableEq, Repr

/-- What becomes of a press of the submit button. -/
inductive Submission (π : Type) where
  | presentAlert (title : String)
  | uploadImage (img : Option π) (name : String)
deriving DecidableEq, Repr

namespace Form

variable {π : Type}

def priceTextFieldEnable (form : Form π) (bool : Bool) : Form π :=
  if bool then { form with priceTextFieldIsEnabled := true }
  else { form with priceTextField := "", priceTextFieldIsEnabled := false }

def checkNego (form : Form π) : Form π :=
  let form :=
    if form.nego = false then
      if form.includeShippingFee then { form with includeShippingFee := false } else form
    else form
  let form := { form with nego := !form.nego }
  form.priceTextFieldEnable !form.nego

def checkIncludeShippingFee (form : Form π) : Form π :=
  let form :=
    if form.includeShippingFee = false then
      if form.nego then
        let form := { form with nego := false }
        form.priceTextFieldEnable !form.nego
      else form
    else form
  { form with includeShippingFee := !form.includeShippingFee }

/-- `imagePickerController(_:didFinishPickingMediaWithInfo:)`. -/
def didFinishPickingMedia (form : Form π) (image : π) : Form π :=
  { form with itemImageView := some image, itemImage := some image }

def submitButtonPressed (form : Form π) : Submission π :=
  if form.itemImageView.isNone then .presentAlert "사진을 등록해주세요."
  else if form.productName = "" then .presentAlert "상품명을 입력해주세요."
  else if form.categoryId.length < 1 then .presentAlert "카테고리를 선택해주세요."
  else if form.priceTextField = "" then .presentAlert "가격을 입려해주세요"
  else if form.tagTextField = "" then .presentAlert "태그를 입력해주세요"
  else .uploadImage form.itemImage form.productName

/-- The item built from the form by the callback of `downloadURL`, or a trap. -/
def registeredItem (form : Form π) (imageURL : URL) : Option RegisterdItem := do
  let category ← form.categoryId[0]?
  let subCategory ← form.categoryId[1]?
  let thirdCategory ← form.categoryId[2]?
  let price ← intOfText form.priceTextField
  return {
    productImage := [imageURL]
    productName := form.productName
    categoryId := category.id
    subCategoryId := subCategory.id
    thirdCategoryId := thirdCategory.id
    price := price
    changePrice := some form.nego
    containDelivery := some form.includeShippingFee
    setMyPlace := some false
    tag := [form.tagTextField] }

end Form

/-- The seller's input to a form, one handler or edit at a time. A text field takes
edits only while it is enabled. -/
inductive Input (π : Type) where
  | editProductName (text : String)
  | editPrice (text : String)
  | editTag (text : String)
  | checkNego
  | checkIncludeShippingFee
  | chooseCategory (parentCategory currentCategory category : Category)
  | didFinishPickingMedia (image : π)
deriving DecidableEq, Repr

namespace Form

variable {π : Type}

def enter (form : Form π) : Input π → Form π
  | .editProductName text => { form with productName := text }
  | .editPrice text =>
      if form.priceTextFieldIsEnabled then { form with priceTextField := text } else form
  | .editTag text => { form with tagTextField := text }
  | .checkNego => form.checkNego
  | .checkIncludeShippingFee => form.checkIncludeShippingFee
  | .chooseCategory parentCategory currentCategory category =>
      { form with categoryId := [parentCategory, currentCategory, category] }
  | .didFinishPickingMedia image => form.didFinishPickingMedia image

/-! ## What the form says -/

/-- The contents the callback reads. -/
def answers (form : Form π) : String × List Category × String × Bool × Bool × String :=
  (form.productName, form.categoryId, form.priceTextField, form.nego, form.includeShippingFee,
    form.tagTextField)

end Form

/-- The values of a form, or of an item. -/
structure Values where
  productName : String
  categoryId : Int
  subCategoryId : Int
  thirdCategoryId : Int
  price : Int
  changePrice : Option Bool
  containDelivery : Option Bool
  tag : List String
deriving DecidableEq, Repr

def RegisterdItem.values (item : RegisterdItem) : Values :=
  ⟨item.productName, item.categoryId, item.subCategoryId, item.thirdCategoryId, item.price,
    item.changePrice, item.containDelivery, item.tag⟩

namespace Form

variable {π : Type} {form : Form π} {imageURL : URL} {item : RegisterdItem}

/-- The values a form stands for, if it has three categories and a price. -/
def values (form : Form π) : Option Values :=
  match form.categoryId, intOfText form.priceTextField with
  | category :: subCategory :: thirdCategory :: _, some price =>
      some ⟨form.productName, category.id, subCategory.id, thirdCategory.id, price,
        some form.nego, some form.includeShippingFee, [form.tagTextField]⟩
  | _, _ => none

/-- The item carries the values of the form and the URL, and traps if there are none. -/
theorem registeredItem_values (form : Form π) (imageURL : URL) :
    (form.registeredItem imageURL).map RegisterdItem.values = form.values := by
  cases hprice : intOfText form.priceTextField with
  | none => simp [registeredItem, values, hprice]
  | some price =>
      rcases hcategory : form.categoryId with _ | ⟨a, _ | ⟨b, _ | ⟨c, rest⟩⟩⟩ <;>
        simp [registeredItem, values, hprice, hcategory, RegisterdItem.values]

theorem productImage_registeredItem (h : form.registeredItem imageURL = some item) :
    item.productImage = [imageURL] := by
  simp only [registeredItem, Option.bind_eq_bind, Option.bind_eq_some_iff, Option.pure_def,
    Option.some.injEq] at h
  obtain ⟨_, _, _, _, _, _, _, _, rfl⟩ := h
  rfl

theorem values_congr {other : Form π} (h : form.answers = other.answers) :
    form.values = other.values := by
  simp only [answers, Prod.mk.injEq] at h
  obtain ⟨hname, hcategory, hprice, hnego, hshipping, htag⟩ := h
  simp only [values, hname, hcategory, hprice, hnego, hshipping, htag]

/-- The view shows the image that would be uploaded. -/
def Pictured (form : Form π) : Prop := form.itemImageView = form.itemImage

theorem Pictured.enter (h : Pictured form) (input : Input π) : Pictured (form.enter input) := by
  cases input with
  | editPrice text =>
      simp only [Form.enter]
      split <;> exact h
  | checkNego =>
      simp only [Form.enter, checkNego, priceTextFieldEnable]
      split <;> split <;> (try split) <;> exact h
  | checkIncludeShippingFee =>
      simp only [Form.enter, checkIncludeShippingFee, priceTextFieldEnable]
      split <;> (try split) <;> (try split) <;> exact h
  | didFinishPickingMedia image => rfl
  | editProductName | editTag | chooseCategory => exact h

/-- What an accepted press has checked, and what it uploads. -/
theorem submitButtonPressed_eq_uploadImage_iff {img : Option π} {name : String} :
    form.submitButtonPressed = .uploadImage img name ↔
      (form.itemImageView ≠ none ∧ form.productName ≠ "" ∧ form.categoryId ≠ [] ∧
        form.priceTextField ≠ "" ∧ form.tagTextField ≠ "") ∧
      form.itemImage = img ∧ form.productName = name := by
  have hcount : form.categoryId.length < 1 ↔ form.categoryId = [] := by
    rw [Nat.lt_one_iff, List.length_eq_zero_iff]
  simp only [submitButtonPressed, hcount, Option.isNone_iff_eq_none]
  (repeat' split) <;> simp [*]

/-- Only an image that was picked is ever uploaded, so its JPEG data is there. -/
theorem Pictured.exists_photo {img : Option π} {name : String} (h : Pictured form)
    (hsubmit : form.submitButtonPressed = .uploadImage img name) : ∃ photo, img = some photo := by
  obtain ⟨⟨hview, _⟩, rfl, _⟩ := submitButtonPressed_eq_uploadImage_iff.mp hsubmit
  rw [Pictured] at h
  rw [h] at hview
  exact Option.ne_none_iff_exists'.mp hview

end Form

/-! ## Reachable forms -/

section

variable {π : Type}

/-- The form after the inputs, from a fresh one. -/
def filledIn (inputs : List (Input π)) : Form π :=
  inputs.foldl Form.enter {}

theorem filledIn_concat (inputs : List (Input π)) (input : Input π) :
    filledIn (inputs ++ [input]) = (filledIn inputs).enter input := by
  rw [filledIn, List.foldl_append]
  rfl

/-- What holds of a fresh form and is kept by every input holds of every form. -/
theorem filledIn_induction {P : Form π → Prop} (fresh : P {})
    (enter : ∀ form input, P form → P (form.enter input)) (inputs : List (Input π)) :
    P (filledIn inputs) := by
  induction inputs using List.reverseRecOn with
  | nil => exact fresh
  | append_singleton inputs input ih =>
      rw [filledIn_concat]
      exact enter _ input ih

theorem pictured_filledIn (inputs : List (Input π)) : (filledIn inputs).Pictured := by
  apply filledIn_induction
  · rfl
  · intro form input h
    exact h.enter input

end

end BunjangClone.Register
