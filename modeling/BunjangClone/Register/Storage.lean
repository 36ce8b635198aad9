import BunjangClone.Reactive.Cells
import BunjangClone.Register.Submission
import Mathlib.Logic.Function.Basic

/-!
# When a posted item keeps its image

All sellers upload into one storage, and the object path is the standardized product
name. An upload replaces what its path held, and a download URL denotes whatever its
path holds, so submissions of one name share one cell. In terms of what was in the forms when
they were submitted: an upload that completes stores the picture under the name, and an item
that is posted refers to the name and expects the picture. Every posted item keeps its image
exactly if each of these fits those before it.
-/

namespace BunjangClone.Register

open Reactive

/-- An object with the submission that uploaded it. -/
structure StoredObject (ι π : Type) where
  seller : ι
  upload : Upload π
deriving DecidableEq, Repr

/-- An item the server has accepted. -/
structure Post (ι : Type) where
  seller : ι
  press : Nat
  item : RegisterdItem
deriving DecidableEq, Repr

/-- The registration screens of all sellers over one storage. A screen opened anew is a
seller of its own. -/
structure Market (ι π : Type) where
  sellers : ι → RegisterViewController π
  storage : ObjectPath → Option (StoredObject ι π) := fun _ => none
  posted : List (Post ι) := []

/-- A callback on the screen of one seller. -/
structure Event (ι π : Type) where
  seller : ι
  callback : Callback π
deriving DecidableEq, Repr

/-- Where the picture of a form is stored. -/
def Form.path {π : Type} (form : Form π) : ObjectPath := standardizedPathForString form.productName

/-- The server has posted the item. -/
def accepts : RegisterResponse → Bool
  | .success response => response.isSuccess
  | .failure => false

/-- The upload a callback brings to an end in the storage. -/
def completedUpload {π : Type} (vc : RegisterViewController π) : Callback π → Option (Upload π)
  | .uploaded index true => vc.uploads[index]?
  | _ => none

/-- The registration a callback reports as posted. -/
def acceptedRegistration {π : Type} (vc : RegisterViewController π) :
    Callback π → Option Registration
  | .answered index response => if accepts response then vc.requests[index]? else none
  | _ => none

variable {ι π : Type} [DecidableEq ι]

namespace Market

/-- `putData` replaces what the path held. -/
def put (storage : ObjectPath → Option (StoredObject ι π)) (seller : ι) :
    Option (Upload π) → ObjectPath → Option (StoredObject ι π)
  | some upload =>
      Function.update storage (standardizedPathForString upload.name) (some ⟨seller, upload⟩)
  | none => storage

/-- The market after a callback left the seller's screen as `vc'`. -/
def after (market : Market ι π) (e : Event ι π) (vc' : RegisterViewController π) :
    Market ι π where
  sellers := Function.update market.sellers e.seller vc'
  storage := put market.storage e.seller
    (completedUpload (market.sellers e.seller) e.callback)
  posted := market.posted ++
    ((acceptedRegistration (market.sellers e.seller) e.callback).map fun registration =>
      ⟨e.seller, registration.press, registration.item⟩).toList

end Market

def market (ι π : Type) [DecidableEq ι] : Machine (Market ι π) (Event ι π) where
  step m e := ((controller π).step (m.sellers e.seller) e.callback).map (m.after e)

/-- All screens freshly opened and nothing stored or posted. -/
def openedMarket (π : Type) (jwtTokens : ι → Option String) : Market ι π where
  sellers seller := opened π (jwtTokens seller)

namespace Market

/-- The form at an accepted press. -/
def formAt (m : Market ι π) (seller : ι) (press : Nat) : Option (Form π) :=
  (m.sellers seller).pressed[press]?

/-- The image that was picked at an accepted press. -/
def picked (m : Market ι π) (seller : ι) (press : Nat) : Option π :=
  (m.formAt seller press).bind Form.itemImage

end Market

variable {m m' : Market ι π} {e : Event ι π} {es : List (Event ι π)}
variable {seller : ι} {press : Nat} {path : ObjectPath}

/-- Every posted item resolves to the image its seller had picked. -/
def ImagesKept (m : Market ι π) : Prop :=
  ∀ post ∈ m.posted, ∀ url ∈ post.item.productImage, ∃ object, m.storage url.path = some object ∧
    m.picked post.seller post.press = some object.upload.data

/-- What a callback does to the storage, by what was in the form when it was submitted. -/
def deeds (m : Market ι π) (e : Event ι π) : List (Deed ObjectPath (Option π)) :=
  ((completedUpload (m.sellers e.seller) e.callback).bind fun upload =>
      m.formAt e.seller upload.press).toList.map (fun form => .stores form.path form.itemImage) ++
    ((acceptedRegistration (m.sellers e.seller) e.callback).bind fun registration =>
      m.formAt e.seller registration.press).toList.map fun form => .refers form.path form.itemImage

/-- An upload that completes is of the picture expected by every item posted so far under the
same name. When an item is posted, the last upload completed under its name was of its
picture. -/
def KeepsImages (jwtTokens : ι → Option String) (past : List (Event ι π)) (m : Market ι π)
    (e : Event ι π) : Prop :=
  ∀ deed ∈ deeds m e, deed.Fits ((market ι π).collect deeds (openedMarket π jwtTokens) past)

instance [DecidableEq π] (jwtTokens : ι → Option String) (past : List (Event ι π))
    (m : Market ι π) (e : Event ι π) : Decidable (KeepsImages jwtTokens past m e) :=
  inferInstanceAs (Decidable (∀ deed ∈ deeds m e, _))

/-! ## What the storage and the submissions know of each other -/

/-- The press was for the path, and the path holds an object. -/
def Filed (m : Market ι π) (seller : ι) (press : Nat) (path : ObjectPath) : Prop :=
  (∃ form, m.formAt seller press = some form ∧ form.path = path) ∧ (m.storage path).isSome

structure Consistent (m : Market ι π) : Prop where
  uploads : ∀ seller, ∀ upload ∈ (m.sellers seller).uploads, ∃ form,
    m.formAt seller upload.press = some form ∧ form.productName = upload.name ∧
      form.itemImage = some upload.data
  lookups : ∀ seller, ∀ lookup ∈ (m.sellers seller).lookups,
    Filed m seller lookup.press (standardizedPathForString lookup.name)
  requests : ∀ seller, ∀ registration ∈ (m.sellers seller).requests, ∃ path,
    registration.item.productImage = [⟨path⟩] ∧ Filed m seller registration.press path
  posted : ∀ post ∈ m.posted, ∃ path,
    post.item.productImage = [⟨path⟩] ∧ Filed m post.seller post.press path

theorem step_market (h : (market ι π).step m e = some m') :
    ∃ vc', (controller π).step (m.sellers e.seller) e.callback = some vc' ∧ m.after e vc' = m' :=
  Option.map_eq_some_iff.mp h

/-- A step keeps the forms of accepted presses. -/
theorem formAt_step (h : (market ι π).step m e = some m') {form : Form π}
    (hform : m.formAt seller press = some form) : m'.formAt seller press = some form := by
  obtain ⟨vc', hstep, rfl⟩ := step_market h
  by_cases hseller : seller = e.seller
  · subst hseller
    simp only [Market.formAt, Market.after, Function.update_self]
    exact getElem?_of_prefix (pressed_grows hstep) hform
  · simp only [Market.formAt, Market.after, Function.update_of_ne hseller]
    exact hform

/-- A step never empties a path. -/
theorem storage_isSome_step (h : (market ι π).step m e = some m')
    (hsome : (m.storage path).isSome) : (m'.storage path).isSome := by
  obtain ⟨vc', _, rfl⟩ := step_market h
  simp only [Market.after]
  cases completedUpload (m.sellers e.seller) e.callback with
  | none => exact hsome
  | some upload =>
      simp only [Market.put, Function.update_apply]
      split
      · rfl
      · exact hsome

theorem Filed.step (h : (market ι π).step m e = some m') (hfiled : Filed m seller press path) :
    Filed m' seller press path := by
  obtain ⟨⟨form, hform, hpath⟩, hsome⟩ := hfiled
  exact ⟨⟨form, formAt_step h hform, hpath⟩, storage_isSome_step h hsome⟩

/-! ## What is new after a callback on one screen -/

section Screen

omit [DecidableEq ι]

variable {vc vc' : RegisterViewController π} {c : Callback π}

theorem mem_of_completedUpload {upload : Upload π} (h : completedUpload vc c = some upload) :
    upload ∈ vc.uploads := by
  simp only [completedUpload] at h
  split at h
  · exact List.mem_of_getElem? h
  · cases h

theorem mem_of_acceptedRegistration {registration : Registration}
    (h : acceptedRegistration vc c = some registration) : registration ∈ vc.requests := by
  simp only [acceptedRegistration] at h
  split at h
  · split at h
    · exact List.mem_of_getElem? h
    · cases h
  · cases h

/-- What a callback can add to a screen: an upload with the name and the image of the form
just accepted, a lookup for the upload that has just completed, a request that posts the
URL of a lookup that was answered. -/
structure Adds (vc : RegisterViewController π) (c : Callback π)
    (vc' : RegisterViewController π) : Prop where
  uploads : ∀ upload ∈ vc'.uploads, upload ∈ vc.uploads ∨ ∃ form,
    vc'.pressed[upload.press]? = some form ∧ form.productName = upload.name ∧
      form.itemImage = some upload.data
  lookups : ∀ lookup ∈ vc'.lookups, lookup ∈ vc.lookups ∨ ∃ upload,
    completedUpload vc c = some upload ∧ lookup = ⟨upload.press, upload.name⟩
  requests : ∀ registration ∈ vc'.requests, registration ∈ vc.requests ∨
    ∃ lookup ∈ vc.lookups, registration.press = lookup.press ∧
      registration.item.productImage = [⟨standardizedPathForString lookup.name⟩]

theorem adds_of_subset (huploads : vc'.uploads ⊆ vc.uploads)
    (hlookups : vc'.lookups ⊆ vc.lookups) (hrequests : vc'.requests ⊆ vc.requests) :
    Adds vc c vc' :=
  ⟨fun _ hmem => Or.inl (huploads hmem), fun _ hmem => Or.inl (hlookups hmem),
    fun _ hmem => Or.inl (hrequests hmem)⟩

theorem adds_submitButtonPressed
    (h : (controller π).step vc .submitButtonPressed = some vc') :
    Adds vc .submitButtonPressed vc' := by
  cases step_submitButtonPressed h with
  | inl hrefused =>
      obtain rfl := hrefused.2
      exact adds_of_subset (List.Subset.refl _) (List.Subset.refl _) (List.Subset.refl _)
  | inr haccepted =>
      obtain ⟨data, himage, _, rfl⟩ := haccepted
      refine ⟨fun upload hmem => ?_, fun _ hmem => Or.inl hmem, fun _ hmem => Or.inl hmem⟩
      cases List.mem_append.mp hmem with
      | inl hold => exact Or.inl hold
      | inr hnew =>
          obtain rfl := List.mem_singleton.mp hnew
          exact Or.inr ⟨vc.form, List.getElem?_concat_length, rfl, himage⟩

theorem adds_uploaded {index : Nat} {success : Bool}
    (h : (controller π).step vc (.uploaded index success) = some vc') :
    Adds vc (.uploaded index success) vc' := by
  obtain ⟨upload, rest, htake, rfl⟩ := step_uploaded h
  have hrest := rest_subset_of_takeAt htake
  cases success with
  | false => exact adds_of_subset hrest (List.Subset.refl _) (List.Subset.refl _)
  | true =>
      refine ⟨fun _ hmem => Or.inl (hrest hmem), fun lookup hmem => ?_, fun _ hmem => Or.inl hmem⟩
      cases List.mem_append.mp hmem with
      | inl hold => exact Or.inl hold
      | inr hnew =>
          exact Or.inr ⟨upload, (takeAt_eq_some_iff.mp htake).1, List.mem_singleton.mp hnew⟩

theorem adds_located {index : Nat} {success : Bool}
    (h : (controller π).step vc (.located index success) = some vc') :
    Adds vc (.located index success) vc' := by
  obtain ⟨lookup, rest, htake, hcases⟩ := step_located h
  have hrest := rest_subset_of_takeAt htake
  obtain ⟨_, rfl⟩ | ⟨_, ⟨item, hitem, rfl⟩ | ⟨_, rfl⟩⟩ := hcases
  · exact adds_of_subset (List.Subset.refl _) hrest (List.Subset.refl _)
  · refine ⟨fun _ hmem => Or.inl hmem, fun _ hmem => Or.inl (hrest hmem),
      fun registration hmem => ?_⟩
    cases List.mem_append.mp hmem with
    | inl hold => exact Or.inl hold
    | inr hnew =>
        split at hnew
        · obtain rfl := List.mem_singleton.mp hnew
          exact Or.inr ⟨lookup, mem_of_takeAt htake, rfl, Form.productImage_registeredItem hitem⟩
        · cases hnew
  · exact adds_of_subset (List.Subset.refl _) hrest (List.Subset.refl _)

theorem adds_step (h : (controller π).step vc c = some vc') : Adds vc c vc' := by
  cases c with
  | input input =>
      obtain rfl := step_input h
      exact adds_of_subset (List.Subset.refl _) (List.Subset.refl _) (List.Subset.refl _)
  | submitButtonPressed => exact adds_submitButtonPressed h
  | uploaded index success => exact adds_uploaded h
  | located index success => exact adds_located h
  | answered index response =>
      obtain ⟨registration, rest, htake, rfl⟩ := step_answered h
      exact adds_of_subset (List.Subset.refl _) (List.Subset.refl _)
        (rest_subset_of_takeAt htake)

end Screen

/-! ## Consistency along a run -/

/-- A screen after a step is the one that took it or as it was. -/
theorem sellers_step (h : (market ι π).step m e = some m') (seller : ι) :
    (seller = e.seller ∧ (controller π).step (m.sellers seller) e.callback =
      some (m'.sellers seller)) ∨ m'.sellers seller = m.sellers seller := by
  obtain ⟨vc', hstep, rfl⟩ := step_market h
  by_cases hseller : seller = e.seller
  · subst hseller
    exact Or.inl ⟨rfl, by simpa [Market.after] using hstep⟩
  · exact Or.inr (by simp [Market.after, hseller])

theorem storage_step (h : (market ι π).step m e = some m') :
    m'.storage = Market.put m.storage e.seller
      (completedUpload (m.sellers e.seller) e.callback) := by
  obtain ⟨vc', _, rfl⟩ := step_market h
  rfl

theorem mem_posted_step (h : (market ι π).step m e = some m') {post : Post ι}
    (hmem : post ∈ m'.posted) : post ∈ m.posted ∨ ∃ registration,
      acceptedRegistration (m.sellers e.seller) e.callback = some registration ∧
        post = ⟨e.seller, registration.press, registration.item⟩ := by
  obtain ⟨vc', _, rfl⟩ := step_market h
  cases List.mem_append.mp hmem with
  | inl hold => exact Or.inl hold
  | inr hnew =>
      rw [Option.mem_toList, Option.map_eq_some_iff] at hnew
      obtain ⟨registration, haccepted, rfl⟩ := hnew
      exact Or.inr ⟨registration, haccepted, rfl⟩

theorem Consistent.uploads_step (h : Consistent m) (hstep : (market ι π).step m e = some m')
    {upload : Upload π} (hmem : upload ∈ (m'.sellers seller).uploads) :
    ∃ form, m'.formAt seller upload.press = some form ∧ form.productName = upload.name ∧
      form.itemImage = some upload.data := by
  have hold : upload ∈ (m.sellers seller).uploads → ∃ form,
      m'.formAt seller upload.press = some form ∧ form.productName = upload.name ∧
        form.itemImage = some upload.data := by
    intro hmem
    obtain ⟨form, hform, hsays⟩ := h.uploads seller upload hmem
    exact ⟨form, formAt_step hstep hform, hsays⟩
  cases sellers_step hstep seller with
  | inl hactive =>
      cases (adds_step hactive.2).uploads upload hmem with
      | inl hmem => exact hold hmem
      | inr hnew => exact hnew
  | inr hidle => exact hold (hidle ▸ hmem)

theorem Consistent.lookups_step (h : Consistent m) (hstep : (market ι π).step m e = some m')
    {lookup : Lookup} (hmem : lookup ∈ (m'.sellers seller).lookups) :
    Filed m' seller lookup.press (standardizedPathForString lookup.name) := by
  cases sellers_step hstep seller with
  | inl hactive =>
      obtain ⟨rfl, hactive⟩ := hactive
      cases (adds_step hactive).lookups lookup hmem with
      | inl hold => exact (h.lookups _ lookup hold).step hstep
      | inr hnew =>
          obtain ⟨upload, hcompleted, rfl⟩ := hnew
          obtain ⟨form, hform, hname, _⟩ := h.uploads _ upload (mem_of_completedUpload hcompleted)
          refine ⟨⟨form, formAt_step hstep hform, by rw [Form.path, hname]⟩, ?_⟩
          rw [storage_step hstep, hcompleted]
          simp [Market.put]
  | inr hidle => exact (h.lookups seller lookup (hidle ▸ hmem)).step hstep

theorem Consistent.requests_step (h : Consistent m) (hstep : (market ι π).step m e = some m')
    {registration : Registration} (hmem : registration ∈ (m'.sellers seller).requests) :
    ∃ path, registration.item.productImage = [⟨path⟩] ∧
      Filed m' seller registration.press path := by
  have hold : registration ∈ (m.sellers seller).requests → ∃ path,
      registration.item.productImage = [⟨path⟩] ∧ Filed m' seller registration.press path := by
    intro hmem
    obtain ⟨path, himage, hfiled⟩ := h.requests seller registration hmem
    exact ⟨path, himage, hfiled.step hstep⟩
  cases sellers_step hstep seller with
  | inl hactive =>
      cases (adds_step hactive.2).requests registration hmem with
      | inl hmem => exact hold hmem
      | inr hnew =>
          obtain ⟨lookup, hlookup, hpress, himage⟩ := hnew
          exact ⟨_, himage, hpress ▸ (h.lookups seller lookup hlookup).step hstep⟩
  | inr hidle => exact hold (hidle ▸ hmem)

theorem Consistent.posted_step (h : Consistent m) (hstep : (market ι π).step m e = some m')
    {post : Post ι} (hmem : post ∈ m'.posted) :
    ∃ path, post.item.productImage = [⟨path⟩] ∧ Filed m' post.seller post.press path := by
  cases mem_posted_step hstep hmem with
  | inl hold =>
      obtain ⟨path, himage, hfiled⟩ := h.posted post hold
      exact ⟨path, himage, hfiled.step hstep⟩
  | inr hnew =>
      obtain ⟨registration, haccepted, rfl⟩ := hnew
      obtain ⟨path, himage, hfiled⟩ :=
        h.requests _ registration (mem_of_acceptedRegistration haccepted)
      exact ⟨path, himage, hfiled.step hstep⟩

theorem Consistent.step (h : Consistent m) (hstep : (market ι π).step m e = some m') :
    Consistent m' where
  uploads _ _ hmem := h.uploads_step hstep hmem
  lookups _ _ hmem := h.lookups_step hstep hmem
  requests _ _ hmem := h.requests_step hstep hmem
  posted _ hmem := h.posted_step hstep hmem

omit [DecidableEq ι] in
theorem consistent_opened (jwtTokens : ι → Option String) :
    Consistent (openedMarket π jwtTokens) := by
  constructor
  · intro seller upload hmem
    cases hmem
  · intro seller lookup hmem
    cases hmem
  · intro seller registration hmem
    cases hmem
  · intro post hmem
    cases hmem

/-! ## The storage as cells -/

/-- The deeds so far account for what is stored and what is posted. -/
structure Logged (log : List (Deed ObjectPath (Option π))) (m : Market ι π) : Prop where
  stored : ∀ path, Deed.held path log = (m.storage path).map fun object => some object.upload.data
  posted : ∀ path picture, picture ∈ Deed.expected path log ↔ ∃ post ∈ m.posted, ∃ form,
    m.formAt post.seller post.press = some form ∧ form.path = path ∧ form.itemImage = picture

omit [DecidableEq ι] in
/-- The posted items keep their images if the references to the cells are good. -/
theorem imagesKept_iff_good {log : List (Deed ObjectPath (Option π))} (h : Consistent m)
    (hlogged : Logged log m) : ImagesKept m ↔ Deed.Good log := by
  constructor
  · intro hkept path picture hmem found hfound
    obtain ⟨post, hpost, form, hform, rfl, rfl⟩ := (hlogged.posted path picture).mp hmem
    obtain ⟨path, himage, ⟨form', hform', rfl⟩, _⟩ := h.posted post hpost
    obtain rfl : form = form' := Option.some.inj (hform.symm.trans hform')
    obtain ⟨object, hobject, hpicked⟩ := hkept post hpost _ (himage ▸ List.mem_singleton_self _)
    rw [hlogged.stored, hobject] at hfound
    rw [Market.picked, hform] at hpicked
    exact (Option.some.inj hfound).symm.trans hpicked.symm
  · intro hgood post hpost url hurl
    obtain ⟨path, himage, ⟨form, hform, rfl⟩, hsome⟩ := h.posted post hpost
    rw [himage] at hurl
    obtain rfl := List.mem_singleton.mp hurl
    obtain ⟨object, hobject⟩ := Option.isSome_iff_exists.mp hsome
    have hexpected : form.itemImage ∈ Deed.expected form.path log :=
      (hlogged.posted _ _).mpr ⟨post, hpost, form, hform, rfl, rfl⟩
    have hfound := hgood _ _ hexpected (some object.upload.data)
      (by rw [hlogged.stored, hobject]; rfl)
    exact ⟨object, hobject, by rw [Market.picked, hform, Option.bind_some, hfound]⟩

theorem mem_posted_iff (h : (market ι π).step m e = some m') {post : Post ι} :
    post ∈ m'.posted ↔ post ∈ m.posted ∨ ∃ registration,
      acceptedRegistration (m.sellers e.seller) e.callback = some registration ∧
        post = ⟨e.seller, registration.press, registration.item⟩ := by
  refine ⟨mem_posted_step h, ?_⟩
  obtain ⟨vc', _, rfl⟩ := step_market h
  rintro (hold | ⟨registration, haccepted, rfl⟩)
  · exact List.mem_append_left _ hold
  · exact List.mem_append_right _ (by simp [haccepted])

omit [DecidableEq ι] in
/-- A press that is there has a form. -/
theorem Consistent.form_of_posted (h : Consistent m) {post : Post ι} (hpost : post ∈ m.posted) :
    ∃ form, m.formAt post.seller post.press = some form := by
  obtain ⟨_, _, ⟨form, hform, _⟩, _⟩ := h.posted post hpost
  exact ⟨form, hform⟩

variable {log : List (Deed ObjectPath (Option π))}

/-- A step without a deed. -/
theorem Logged.frame (h : Logged log m) (hconsistent : Consistent m)
    (hstep : (market ι π).step m e = some m')
    (hupload : completedUpload (m.sellers e.seller) e.callback = none)
    (haccepted : acceptedRegistration (m.sellers e.seller) e.callback = none) :
    Logged log m' := by
  refine ⟨fun path => ?_, fun path picture => ?_⟩
  · rw [h.stored, storage_step hstep, hupload, Market.put]
  · rw [h.posted]
    refine exists_congr fun post => ?_
    rw [mem_posted_iff hstep, haccepted]
    simp only [reduceCtorEq, false_and, exists_false, or_false]
    refine and_congr_right fun hpost => ?_
    obtain ⟨form, hform⟩ := hconsistent.form_of_posted hpost
    rw [hform, formAt_step hstep hform]

omit [DecidableEq ι] in
/-- An upload that completes stores the picture of its press under the name of its press. -/
theorem deeds_of_upload {upload : Upload π} (h : Consistent m)
    (hupload : completedUpload (m.sellers e.seller) e.callback = some upload) :
    acceptedRegistration (m.sellers e.seller) e.callback = none ∧
      deeds m e = [.stores (standardizedPathForString upload.name) (some upload.data)] := by
  obtain ⟨form, hform, hname, himage⟩ := h.uploads _ upload (mem_of_completedUpload hupload)
  have haccepted : acceptedRegistration (m.sellers e.seller) e.callback = none := by
    cases hcallback : e.callback with
    | answered index response =>
        rw [hcallback] at hupload
        cases hupload
    | _ => rfl
  refine ⟨haccepted, ?_⟩
  simp [deeds, hupload, haccepted, hform, Form.path, hname, himage]

omit [DecidableEq ι] in
/-- A post refers to the name of its press and expects the picture of its press. -/
theorem deeds_of_registration {registration : Registration} (h : Consistent m)
    (haccepted : acceptedRegistration (m.sellers e.seller) e.callback = some registration) :
    completedUpload (m.sellers e.seller) e.callback = none ∧ ∃ form,
      m.formAt e.seller registration.press = some form ∧
        deeds m e = [.refers form.path form.itemImage] := by
  obtain ⟨_, _, ⟨form, hform, _⟩, _⟩ :=
    h.requests _ registration (mem_of_acceptedRegistration haccepted)
  have hupload : completedUpload (m.sellers e.seller) e.callback = none := by
    cases hcallback : e.callback with
    | uploaded index success =>
        rw [hcallback] at haccepted
        cases haccepted
    | _ => rfl
  exact ⟨hupload, form, hform, by simp [deeds, hupload, haccepted, hform]⟩

theorem Logged.upload {upload : Upload π} (h : Logged log m) (hconsistent : Consistent m)
    (hstep : (market ι π).step m e = some m')
    (hupload : completedUpload (m.sellers e.seller) e.callback = some upload)
    (haccepted : acceptedRegistration (m.sellers e.seller) e.callback = none) :
    Logged (log ++ [.stores (standardizedPathForString upload.name) (some upload.data)]) m' := by
  refine ⟨fun path => ?_, fun path picture => ?_⟩
  · rw [Deed.held_concat_stores, storage_step hstep, hupload, Market.put, Function.update_apply,
      h.stored]
    by_cases hpath : path = standardizedPathForString upload.name
    · rw [if_pos hpath, if_pos hpath.symm, Option.map_some]
    · rw [if_neg hpath, if_neg fun heq => hpath heq.symm]
  · rw [Deed.expected_concat_stores, h.posted]
    refine exists_congr fun post => ?_
    rw [mem_posted_iff hstep, haccepted]
    simp only [reduceCtorEq, false_and, exists_false, or_false]
    refine and_congr_right fun hpost => ?_
    obtain ⟨form, hform⟩ := hconsistent.form_of_posted hpost
    rw [hform, formAt_step hstep hform]

theorem Logged.post {registration : Registration} {form : Form π} (h : Logged log m)
    (hconsistent : Consistent m) (hstep : (market ι π).step m e = some m')
    (hupload : completedUpload (m.sellers e.seller) e.callback = none)
    (haccepted : acceptedRegistration (m.sellers e.seller) e.callback = some registration)
    (hform : m.formAt e.seller registration.press = some form) :
    Logged (log ++ [.refers form.path form.itemImage]) m' := by
  have hformed := formAt_step hstep hform
  refine ⟨fun path => ?_, fun path picture => ?_⟩
  · rw [Deed.held_concat_refers, h.stored, storage_step hstep, hupload, Market.put]
  · rw [Deed.mem_expected_concat_refers, h.posted]
    constructor
    · rintro (⟨post, hpost, old, hold, rfl, rfl⟩ | ⟨rfl, rfl⟩)
      · exact ⟨post, (mem_posted_iff hstep).mpr (.inl hpost), old, formAt_step hstep hold, rfl, rfl⟩
      · exact ⟨_, (mem_posted_iff hstep).mpr (.inr ⟨registration, haccepted, rfl⟩), form, hformed,
          rfl, rfl⟩
    · rintro ⟨post, hpost, now, hnow, rfl, rfl⟩
      obtain hold | ⟨other, hother, rfl⟩ := (mem_posted_iff hstep).mp hpost
      · obtain ⟨old, hold'⟩ := hconsistent.form_of_posted hold
        obtain rfl : old = now := Option.some.inj ((formAt_step hstep hold').symm.trans hnow)
        exact .inl ⟨post, hold, old, hold', rfl, rfl⟩
      · obtain rfl : registration = other := Option.some.inj (haccepted.symm.trans hother)
        obtain rfl : form = now := Option.some.inj (hformed.symm.trans hnow)
        exact .inr ⟨rfl, rfl⟩

theorem Logged.step (h : Logged log m) (hconsistent : Consistent m)
    (hstep : (market ι π).step m e = some m') : Logged (log ++ deeds m e) m' := by
  cases hupload : completedUpload (m.sellers e.seller) e.callback with
  | some upload =>
      obtain ⟨haccepted, hdeeds⟩ := deeds_of_upload hconsistent hupload
      rw [hdeeds]
      exact h.upload hconsistent hstep hupload haccepted
  | none =>
      cases haccepted : acceptedRegistration (m.sellers e.seller) e.callback with
      | some registration =>
          obtain ⟨_, form, hform, hdeeds⟩ := deeds_of_registration hconsistent haccepted
          rw [hdeeds]
          exact h.post hconsistent hstep hupload haccepted hform
      | none =>
          have hdeeds : deeds m e = [] := by simp [deeds, hupload, haccepted]
          rw [hdeeds, List.append_nil]
          exact h.frame hconsistent hstep hupload haccepted

/-! ## The exact condition -/

omit [DecidableEq ι] in
/-- A step does at most one deed. -/
theorem good_append_deeds_iff (hconsistent : Consistent m) (hgood : Deed.Good log) :
    Deed.Good (log ++ deeds m e) ↔ ∀ deed ∈ deeds m e, deed.Fits log := by
  have hone : deeds m e = [] ∨ ∃ deed, deeds m e = [deed] := by
    cases hupload : completedUpload (m.sellers e.seller) e.callback with
    | some upload => exact .inr ⟨_, (deeds_of_upload hconsistent hupload).2⟩
    | none =>
        cases haccepted : acceptedRegistration (m.sellers e.seller) e.callback with
        | some registration =>
            obtain ⟨_, form, _, hdeeds⟩ := deeds_of_registration hconsistent haccepted
            exact .inr ⟨_, hdeeds⟩
        | none => exact .inl (by simp [deeds, hupload, haccepted])
  obtain hnone | ⟨deed, hdeed⟩ := hone
  · simp [hnone, hgood]
  · rw [hdeed, Deed.good_concat_iff hgood]
    simp

/-- Along every run of any number of sellers, every posted item keeps the image its
seller had picked exactly if all steps meet `KeepsImages`. -/
theorem images_kept_iff {jwtTokens : ι → Option String}
    (h : (market ι π).run (openedMarket π jwtTokens) es = some m) :
    (market ι π).Along ImagesKept (openedMarket π jwtTokens) es ↔
      (market ι π).MeetsPast (KeepsImages jwtTokens) (openedMarket π jwtTokens) es := by
  refine Machine.alongPast_iff_meetsPast (P := fun _ => ImagesKept) (A := fun _ _ _ => True)
    (J := fun past m => Consistent m ∧
      Logged ((market ι π).collect deeds (openedMarket π jwtTokens) past) m)
    ⟨consistent_opened jwtTokens, ?_⟩ ?_ ?_ ?_ h fun _ _ _ _ _ => trivial
  · refine ⟨fun _ => rfl, fun path picture => iff_of_false (by simp) ?_⟩
    rintro ⟨post, hpost, _⟩
    cases hpost
  · intro post hmem
    cases hmem
  · rintro past t e u ht ⟨hconsistent, hlogged⟩ _ hstep
    rw [Machine.collect_concat deeds ht]
    exact ⟨hconsistent.step hstep, hlogged.step hconsistent hstep⟩
  · rintro past t e u ht ⟨hconsistent, hlogged⟩ hkept _ hstep
    have hlogged' := hlogged.step hconsistent hstep
    rw [imagesKept_iff_good (hconsistent.step hstep) hlogged', KeepsImages]
    exact good_append_deeds_iff hconsistent ((imagesKept_iff_good hconsistent hlogged).mp hkept)

/-- Seller `seller` posts an item called `name` with picture `photo`, in one go. -/
def postItem (seller photo : Nat) (name : String) : List (Event Nat Nat) :=
  [⟨seller, .input (.didFinishPickingMedia photo)⟩, ⟨seller, .input (.editProductName name)⟩,
    ⟨seller, .input (.chooseCategory ⟨1, "", none⟩ ⟨2, "", none⟩ ⟨3, "", none⟩)⟩,
    ⟨seller, .submitButtonPressed⟩, ⟨seller, .uploaded 0 true⟩, ⟨seller, .located 0 true⟩,
    ⟨seller, .answered 0 (.success ⟨true, 1000, "", none⟩)⟩]

def loggedIn : Nat → Option String := fun _ => some ""

/-- Two sellers post items of different names. -/
theorem images_kept_of_other_name :
    (market Nat Nat).Along ImagesKept (openedMarket Nat loggedIn)
      (postItem 0 7 "가방" ++ postItem 1 8 "신발") := by
  have hrun : ∃ m, (market Nat Nat).run (openedMarket Nat loggedIn)
      (postItem 0 7 "가방" ++ postItem 1 8 "신발") = some m := ⟨_, rfl⟩
  obtain ⟨m, hrun⟩ := hrun
  exact (images_kept_iff hrun).mpr (by decide)

/-- A second seller uploads another image under the name of an item already posted. -/
theorem same_name_replaces_image :
    ¬ ∀ es m, (market Nat Nat).run (openedMarket Nat loggedIn) es = some m → ImagesKept m := by
  intro halways
  have hrun : ∃ m post, (market Nat Nat).run (openedMarket Nat loggedIn)
      (postItem 0 7 "가방" ++ postItem 1 8 "가방") = some m ∧ m.posted[0]? = some post ∧
        (∃ url ∈ post.item.productImage, (m.storage url.path).map (fun object =>
          object.upload.data) = some 8) ∧ m.picked post.seller post.press = some 7 :=
    ⟨_, _, rfl, rfl, ⟨_, List.mem_singleton_self _, rfl⟩, rfl⟩
  obtain ⟨m, post, hrun, hpost, ⟨url, hurl, hstored⟩, hpicked⟩ := hrun
  obtain ⟨object, hobject, hkept⟩ := halways _ m hrun post (List.mem_of_getElem? hpost) url hurl
  rw [hobject] at hstored
  rw [hpicked] at hkept
  have hdata : object.upload.data = 8 := Option.some.inj hstored
  rw [hdata] at hkept
  cases hkept

end BunjangClone.Register
