import BunjangClone.DataManager
import BunjangClone.Reactive.Machine
import BunjangClone.Reactive.Pending
import BunjangClone.Register.Form

/-!
# Submitting an item

An accepted press of the submit button runs through three callbacks: the image is
uploaded under the product's name, the download URL of that name is looked up, and the
item built from the URL and the form is posted. Only the image and the name are handed
on; the callback of the lookup reads the form again. Several submissions can be under
way at once, and the seller can go on editing.

Accepted presses are numbered. The number rides along with a submission so that an item
can be traced to its press; the program has no such number. A callback that traps ends
the process, and no other callback follows it.
-/

namespace BunjangClone.Register

open Reactive

/-- An image on its way to the storage. -/
structure Upload (π : Type) where
  press : Nat
  name : String
  data : π
deriving DecidableEq, Repr

/-- A `downloadURL` not yet answered. -/
structure Lookup where
  press : Nat
  name : String
deriving DecidableEq, Repr

/-- An item handed to `registerItem`. -/
structure Registration where
  press : Nat
  item : RegisterdItem
deriving DecidableEq, Repr

structure RegisterViewController (π : Type) where
  form : Form π := {}
  jwtToken : Option String := none
  pressed : List (Form π) := []
  uploads : List (Upload π) := []
  lookups : List Lookup := []
  registered : List Registration := []
  requests : List Registration := []
  trapped : Option Nat := none
deriving DecidableEq, Repr

variable {π : Type}

namespace RegisterViewController

/-- `uploadImage(img:name:)`, which unwraps the JPEG data of the image. -/
def uploadImage (vc : RegisterViewController π) (img : Option π) (name : String) :
    Option (RegisterViewController π) :=
  img.map fun data =>
    { vc with
      pressed := vc.pressed ++ [vc.form]
      uploads := vc.uploads ++ [⟨vc.pressed.length, name, data⟩] }

def submitButtonPressed (vc : RegisterViewController π) : Option (RegisterViewController π) :=
  match vc.form.submitButtonPressed with
  | .presentAlert _ => some vc
  | .uploadImage img name => vc.uploadImage img name

/-- The completion of `putData`. A failed upload is only printed. -/
def uploaded (vc : RegisterViewController π) (upload : Upload π) (success : Bool) :
    RegisterViewController π :=
  if success then { vc with lookups := vc.lookups ++ [⟨upload.press, upload.name⟩] } else vc

/-- `RegisterDataManager().registerItem(_:viewController:)`, the sending half. -/
def registerItem (vc : RegisterViewController π) (registration : Registration) :
    RegisterViewController π :=
  let vc := { vc with registered := vc.registered ++ [registration] }
  match vc.jwtToken with
  | some _ => { vc with requests := vc.requests ++ [registration] }
  | none => vc

/-- The completion of `downloadURL` in `getUrlOfImage`. A failed lookup is only printed. -/
def located (vc : RegisterViewController π) (lookup : Lookup) (success : Bool) :
    RegisterViewController π :=
  if success then
    match vc.form.registeredItem ⟨standardizedPathForString lookup.name⟩ with
    | some item => vc.registerItem ⟨lookup.press, item⟩
    | none => { vc with trapped := some lookup.press }
  else vc

end RegisterViewController

inductive Callback (π : Type) where
  | input (input : Input π)
  | submitButtonPressed
  | uploaded (index : Nat) (success : Bool)
  | located (index : Nat) (success : Bool)
  | answered (index : Nat) (response : RegisterResponse)
deriving DecidableEq, Repr

/-- The answer of the server shows an alert and may replace the screen; the form and
the submissions under way are as before. -/
def step (vc : RegisterViewController π) (e : Callback π) : Option (RegisterViewController π) :=
  if vc.trapped.isSome then none
  else match e with
    | .input input => some { vc with form := vc.form.enter input }
    | .submitButtonPressed => vc.submitButtonPressed
    | .uploaded index success =>
        (takeAt vc.uploads index).map fun (upload, rest) =>
          { vc with uploads := rest }.uploaded upload success
    | .located index success =>
        (takeAt vc.lookups index).map fun (lookup, rest) =>
          { vc with lookups := rest }.located lookup success
    | .answered index _ =>
        (takeAt vc.requests index).map fun (_, rest) => { vc with requests := rest }

def controller (π : Type) : Machine (RegisterViewController π) (Callback π) := ⟨step⟩

/-- A fresh controller, with the token the keychain holds. -/
def opened (π : Type) (jwtToken : Option String) : RegisterViewController π :=
  { jwtToken := jwtToken }

variable {vc vc' : RegisterViewController π} {index : Nat} {success : Bool}

/-! ## What one callback does -/

theorem untrapped_of_step {e : Callback π} (h : (controller π).step vc e = some vc') :
    vc.trapped = none := by
  simp only [controller, step] at h
  split at h
  · cases h
  · rename_i htrapped
    simpa using htrapped

theorem step_input {input : Input π} (h : (controller π).step vc (.input input) = some vc') :
    { vc with form := vc.form.enter input } = vc' := by
  have htrapped := untrapped_of_step h
  simpa [controller, step, htrapped] using h

/-- A press is refused with an alert, or accepted and its image sent off. -/
theorem step_submitButtonPressed
    (h : (controller π).step vc .submitButtonPressed = some vc') :
    ((∃ title, vc.form.submitButtonPressed = .presentAlert title) ∧ vc = vc') ∨
      ∃ data, vc.form.itemImage = some data ∧
        vc.form.submitButtonPressed = .uploadImage (some data) vc.form.productName ∧
        { vc with
          pressed := vc.pressed ++ [vc.form]
          uploads := vc.uploads ++ [⟨vc.pressed.length, vc.form.productName, data⟩] } = vc' := by
  have hsubmit : vc.submitButtonPressed = some vc' := by
    have htrapped := untrapped_of_step h
    simpa [controller, step, htrapped] using h
  simp only [RegisterViewController.submitButtonPressed] at hsubmit
  split at hsubmit
  · rename_i title htitle
    exact Or.inl ⟨⟨title, htitle⟩, Option.some.inj hsubmit⟩
  · rename_i img name hupload
    obtain ⟨data, rfl, hnext⟩ := Option.map_eq_some_iff.mp hsubmit
    obtain ⟨_, himage, rfl⟩ := Form.submitButtonPressed_eq_uploadImage_iff.mp hupload
    exact Or.inr ⟨data, himage, hupload, hnext⟩

theorem step_uploaded (h : (controller π).step vc (.uploaded index success) = some vc') :
    ∃ upload rest, takeAt vc.uploads index = some (upload, rest) ∧
      { vc with uploads := rest }.uploaded upload success = vc' := by
  have htrapped := untrapped_of_step h
  simpa [controller, step, htrapped] using h

theorem registerItem_eq (vc : RegisterViewController π) (registration : Registration) :
    vc.registerItem registration =
      { vc with
        registered := vc.registered ++ [registration]
        requests := vc.requests ++ if vc.jwtToken.isSome then [registration] else [] } := by
  cases htoken : vc.jwtToken <;> simp [RegisterViewController.registerItem, htoken]

/-- A lookup fails, or its URL goes into an item that is registered, or building the
item traps. -/
theorem step_located (h : (controller π).step vc (.located index success) = some vc') :
    ∃ lookup rest, takeAt vc.lookups index = some (lookup, rest) ∧
      ((success = false ∧ { vc with lookups := rest } = vc') ∨
        (success = true ∧
          ((∃ item, vc.form.registeredItem ⟨standardizedPathForString lookup.name⟩ = some item ∧
            { vc with
              lookups := rest
              registered := vc.registered ++ [⟨lookup.press, item⟩]
              requests := vc.requests ++
                if vc.jwtToken.isSome then [⟨lookup.press, item⟩] else [] } = vc') ∨
          (vc.form.registeredItem ⟨standardizedPathForString lookup.name⟩ = none ∧
            { vc with lookups := rest, trapped := some lookup.press } = vc')))) := by
  have htrapped := untrapped_of_step h
  simp only [controller, step] at h
  rw [if_neg (by simp [htrapped]), Option.map_eq_some_iff] at h
  obtain ⟨⟨lookup, rest⟩, htake, rfl⟩ := h
  refine ⟨lookup, rest, htake, ?_⟩
  cases success with
  | false => exact Or.inl ⟨rfl, rfl⟩
  | true =>
      refine Or.inr ⟨rfl, ?_⟩
      simp only [RegisterViewController.located, if_true]
      cases hitem : vc.form.registeredItem ⟨standardizedPathForString lookup.name⟩ with
      | none => exact Or.inr ⟨rfl, rfl⟩
      | some item =>
          refine Or.inl ⟨item, rfl, ?_⟩
          exact (registerItem_eq { vc with lookups := rest } ⟨lookup.press, item⟩).symm

theorem step_answered {response : RegisterResponse}
    (h : (controller π).step vc (.answered index response) = some vc') :
    ∃ registration rest, takeAt vc.requests index = some (registration, rest) ∧
      { vc with requests := rest } = vc' := by
  have htrapped := untrapped_of_step h
  simpa [controller, step, htrapped] using h

/-- The input a callback brings. -/
def Callback.input? : Callback π → Option (Input π)
  | .input entered => some entered
  | _ => none

/-- Only an input changes the form. -/
theorem form_step {e : Callback π} (h : (controller π).step vc e = some vc') :
    vc'.form = match e.input? with
      | some input => vc.form.enter input
      | none => vc.form := by
  cases e with
  | input input => exact step_input h ▸ rfl
  | submitButtonPressed =>
      cases step_submitButtonPressed h with
      | inl hrefused => exact hrefused.2 ▸ rfl
      | inr haccepted =>
          obtain ⟨data, _, _, rfl⟩ := haccepted
          rfl
  | uploaded index success =>
      obtain ⟨upload, rest, _, rfl⟩ := step_uploaded h
      cases success <;> rfl
  | located index success =>
      obtain ⟨lookup, rest, _, hcases⟩ := step_located h
      obtain ⟨_, rfl⟩ | ⟨_, ⟨item, _, rfl⟩ | ⟨_, rfl⟩⟩ := hcases <;> rfl
  | answered index response =>
      obtain ⟨registration, rest, _, rfl⟩ := step_answered h
      rfl

/-- The forms of all runs are those filled in by their inputs. -/
theorem form_run {es : List (Callback π)} {jwtToken : Option String}
    (h : (controller π).run (opened π jwtToken) es = some vc) :
    vc.form = filledIn (es.filterMap Callback.input?) := by
  refine Machine.run_induction (m := controller π)
    (P := fun es vc => vc.form = filledIn (es.filterMap Callback.input?)) rfl ?_ es vc h
  intro es t e u _ ih hstep
  rw [form_step hstep, List.filterMap_append]
  cases hinput : e.input? with
  | none => simp [hinput, ih]
  | some input =>
      have hinputs : [e].filterMap Callback.input? = [input] := by simp [hinput]
      rw [hinputs, filledIn_concat, ih]

theorem pictured_run {es : List (Callback π)} {jwtToken : Option String}
    (h : (controller π).run (opened π jwtToken) es = some vc) : vc.form.Pictured := by
  rw [form_run h]
  exact pictured_filledIn _

/-- The press itself never traps: what it uploads has been picked. -/
theorem submitButtonPressed_ne_none {es : List (Callback π)} {jwtToken : Option String}
    (h : (controller π).run (opened π jwtToken) es = some vc) :
    vc.submitButtonPressed ≠ none := by
  simp only [RegisterViewController.submitButtonPressed]
  split
  · exact Option.some_ne_none vc
  · rename_i img name hsubmit
    obtain ⟨photo, rfl⟩ := (pictured_run h).exists_photo hsubmit
    exact Option.some_ne_none _

end BunjangClone.Register
