import BunjangClone.Register.Controller
import BunjangClone.Register.Window

/-!
# Submitting within the app

Of the submissions the app keeps how many are under way and how many items are posted and not
answered. Until an item has been accepted the form stays where it is, and its callbacks are a
run of the app on the register tab. The answer that accepts an item replaces the form by a
fresh home tab, however many submissions are still under way.
-/

namespace BunjangClone.Register

open Reactive
open Session (App TabBar bunjangClone launched)

variable {π : Type} {vc vc' : RegisterViewController π} {e : Callback π}
variable {es : List (Callback π)} {app : App} {bar : TabBar}

/-! ## What the app sees -/

/-- What comes of a lookup that is answered. -/
def RegisterViewController.submission (vc : RegisterViewController π) (lookup : Lookup)
    (success : Bool) : Session.Submission :=
  if success then
    match vc.form.registeredItem ⟨standardizedPathForString lookup.name⟩ with
    | some _ => .built
    | none => .trapped
  else .failed

/-- What a callback is for the app. Editing is nothing to it, but a photo is picked from the
action sheet of the camera button. -/
def RegisterViewController.appEvents (vc : RegisterViewController π) :
    Callback π → List Session.Event
  | .input (.didFinishPickingMedia _) => [.cameraButtonPressed]
  | .input _ => []
  | .submitButtonPressed =>
      match vc.form.submitButtonPressed with
      | .presentAlert _ => [.submitButtonPressed false]
      | .uploadImage _ _ => [.submitButtonPressed true]
  | .uploaded _ success => if success then [] else [.submitted .failed]
  | .located index success =>
      (vc.lookups[index]?.map fun lookup => .submitted (vc.submission lookup success)).toList
  | .answered index response => [.answered index (.registerItem response)]

/-- The form is displayed, and its submissions are those of the app. -/
structure Posts (vc : RegisterViewController π) (app : App) : Prop where
  jwtToken : app.jwtToken = vc.jwtToken
  root : ∃ bar, app.root = some (.main bar) ∧ bar.selected = .register ∧ bar.stack = []
  submissions : app.submissions = vc.uploads.length + vc.lookups.length
  requests : app.requests = vc.requests.map fun _ => .registerItem
  trapped : app.trapped = vc.trapped.isSome

/-- The callback does not report an item as accepted. -/
def Callback.refuses : Callback π → Prop
  | .answered _ response => response.isSuccess = false
  | _ => True

instance : DecidablePred (Callback.refuses (π := π))
  | .answered _ response => inferInstanceAs (Decidable (response.isSuccess = false))
  | .input _ | .submitButtonPressed | .uploaded _ _ | .located _ _ =>
      inferInstanceAs (Decidable True)

/-! ## Every callback -/

theorem Posts.withOverlay (h : Posts vc app) (overlay : Bool) :
    Posts vc { app with overlay := overlay } :=
  ⟨h.jwtToken, h.root, h.submissions, h.requests, h.trapped⟩

theorem Posts.withForm (h : Posts vc app) (form : Form π) : Posts { vc with form := form } app :=
  ⟨h.jwtToken, h.root, h.submissions, h.requests, h.trapped⟩

theorem Posts.untrapped (h : Posts vc app) (htrapped : vc.trapped = none) :
    app.trapped = false := by
  rw [h.trapped, htrapped]
  rfl

theorem posts_input {input : Input π} (h : Posts vc app) (htrapped : vc.trapped = none) :
    ∃ app', bunjangClone.run app (vc.appEvents (.input input)) = some app' ∧
      Posts { vc with form := vc.form.enter input } app' := by
  obtain ⟨bar, hroot, hselected, hstack⟩ := h.root
  cases input with
  | didFinishPickingMedia photo =>
      refine ⟨app.dismissIndicator, Machine.run_of_step ?_, (h.withOverlay false).withForm _⟩
      refine Session.step_of_stepMain (h.untrapped htrapped) hroot rfl ?_
      exact if_pos ⟨hselected, hstack⟩
  | editProductName | editTag | editPrice | checkNego | checkIncludeShippingFee
  | chooseCategory => exact ⟨app, rfl, h.withForm _⟩

theorem posts_submitButtonPressed (h : Posts vc app)
    (hstep : (controller π).step vc .submitButtonPressed = some vc') :
    ∃ app', bunjangClone.run app (vc.appEvents .submitButtonPressed) = some app' ∧
      Posts vc' app' := by
  have htrapped := h.untrapped (untrapped_of_step hstep)
  obtain ⟨bar, hroot, hselected, hstack⟩ := h.root
  have hpressed : ∀ accepted, bunjangClone.step app (.submitButtonPressed accepted) =
      some (app.submitButtonPressed accepted) := fun accepted =>
    Session.step_of_stepMain htrapped hroot rfl (if_pos ⟨hselected, hstack⟩)
  obtain ⟨⟨title, hrefused⟩, rfl⟩ | ⟨data, _, haccepted, rfl⟩ := step_submitButtonPressed hstep
  · refine ⟨app.submitButtonPressed false, ?_, h.withOverlay false⟩
    simp only [RegisterViewController.appEvents, hrefused]
    exact Machine.run_of_step (hpressed false)
  · refine ⟨app.submitButtonPressed true, ?_, h.jwtToken, h.root, ?_, h.requests, h.trapped⟩
    · simp only [RegisterViewController.appEvents, haccepted]
      exact Machine.run_of_step (hpressed true)
    · show app.submissions + 1 = (vc.uploads ++ [_]).length + vc.lookups.length
      rw [h.submissions, List.length_append, List.length_singleton]
      omega

theorem posts_uploaded {index : Nat} {success : Bool} (h : Posts vc app)
    (hstep : (controller π).step vc (.uploaded index success) = some vc') :
    ∃ app', bunjangClone.run app (vc.appEvents (.uploaded index success)) = some app' ∧
      Posts vc' app' := by
  have htrapped := h.untrapped (untrapped_of_step hstep)
  obtain ⟨upload, rest, htake, rfl⟩ := step_uploaded hstep
  have hlength : vc.uploads.length = rest.length + 1 := (takeAt_perm htake).length_eq
  cases success with
  | true =>
      refine ⟨app, rfl, h.jwtToken, h.root, ?_, h.requests, h.trapped⟩
      show app.submissions = rest.length + (vc.lookups ++ [_]).length
      rw [h.submissions, hlength, List.length_append, List.length_singleton]
      omega
  | false =>
      have hcount : app.submissions = rest.length + vc.lookups.length + 1 := by
        rw [h.submissions, hlength]
        omega
      exact ⟨_, Machine.run_of_step (Session.step_submitted htrapped hcount), h.jwtToken, h.root,
        rfl, h.requests, h.trapped⟩

theorem posts_located {index : Nat} {success : Bool} (h : Posts vc app)
    (hstep : (controller π).step vc (.located index success) = some vc') :
    ∃ app', bunjangClone.run app (vc.appEvents (.located index success)) = some app' ∧
      Posts vc' app' := by
  have huntrapped := untrapped_of_step hstep
  have htrapped := h.untrapped huntrapped
  obtain ⟨lookup, rest, htake, hcases⟩ := step_located hstep
  obtain ⟨hindex, _⟩ := takeAt_eq_some_iff.mp htake
  have hlength : vc.lookups.length = rest.length + 1 := (takeAt_perm htake).length_eq
  have hcount : app.submissions = vc.uploads.length + rest.length + 1 := by
    rw [h.submissions, hlength]
    omega
  have hevents : vc.appEvents (.located index success) =
      [.submitted (vc.submission lookup success)] := by
    simp [RegisterViewController.appEvents, hindex]
  rw [hevents]
  refine ⟨_, Machine.run_of_step (Session.step_submitted htrapped hcount), ?_⟩
  obtain ⟨rfl, rfl⟩ | ⟨rfl, ⟨item, hitem, rfl⟩ | ⟨hitem, rfl⟩⟩ := hcases
  · exact ⟨h.jwtToken, h.root, rfl, h.requests, h.trapped⟩
  · simp only [RegisterViewController.submission, hitem, if_true, App.submitted, App.registerItem]
    cases htoken : vc.jwtToken with
    | none =>
        have happ : app.jwtToken = none := h.jwtToken.trans htoken
        simp only [happ]
        refine ⟨rfl, h.root, rfl, ?_, h.trapped⟩
        simp [h.requests]
    | some jwt =>
        have happ : app.jwtToken = some jwt := h.jwtToken.trans htoken
        simp only [happ]
        refine ⟨rfl, h.root, rfl, ?_, h.trapped⟩
        simp [h.requests, App.send]
  · simp only [RegisterViewController.submission, hitem, if_true, App.submitted]
    exact ⟨h.jwtToken, h.root, rfl, h.requests, rfl⟩

/-- The handler of a post that is not accepted raises an alert or prints. -/
theorem alerts_registerItem {response : RegisterResponse} (h : response.isSuccess = false) :
    ∀ command ∈ RegisterDataManager.registerItem response, Session.IsAlert command := by
  cases response with
  | failure => simp [RegisterDataManager.registerItem, Session.IsAlert]
  | success body =>
      have hrefused : body.isSuccess = false := h
      simp [RegisterDataManager.registerItem, hrefused]

theorem step_registerItem {index : Nat} {response : RegisterResponse} {registration : Registration}
    {rest : List Registration} (h : Posts vc app) (htrapped : vc.trapped = none)
    (htake : takeAt vc.requests index = some (registration, rest)) :
    bunjangClone.step app (.answered index (.registerItem response)) =
      some ((RegisterDataManager.registerItem response).foldl (App.perform id)
        { app with requests := rest.map fun _ => .registerItem }) := by
  have htaken := takeAt_map (fun _ : Registration => Session.Request.registerItem) htake
  rw [← h.requests] at htaken
  exact Session.step_answered (h.untrapped htrapped) htaken

theorem posts_answered {index : Nat} {response : RegisterResponse} (h : Posts vc app)
    (hrefused : response.isSuccess = false)
    (hstep : (controller π).step vc (.answered index response) = some vc') :
    ∃ app', bunjangClone.run app (vc.appEvents (.answered index response)) = some app' ∧
      Posts vc' app' := by
  have htrapped := untrapped_of_step hstep
  obtain ⟨registration, rest, htake, rfl⟩ := step_answered hstep
  obtain ⟨overlay, hoverlay⟩ := Session.foldl_alerts id (alerts_registerItem hrefused)
    { app with requests := rest.map fun _ => .registerItem }
  refine ⟨_, Machine.run_of_step (step_registerItem h htrapped htake), ?_⟩
  rw [hoverlay]
  exact ⟨h.jwtToken, h.root, h.submissions, rfl, h.trapped⟩

/-- Each callback is for the app what `appEvents` says, until an item is accepted. -/
theorem submitting_simulates (π : Type) : (controller π).Simulates bunjangClone
    (fun _ e => e.refuses) RegisterViewController.appEvents Posts := by
  rintro vc e vc' app h hrefuses hstep
  cases e with
  | input input =>
      obtain rfl := step_input hstep
      exact posts_input h (untrapped_of_step hstep)
  | submitButtonPressed => exact posts_submitButtonPressed h hstep
  | uploaded index success => exact posts_uploaded h hstep
  | located index success => exact posts_located h hstep
  | answered index response => exact posts_answered h hrefuses hstep

/-! ## Every run -/

/-- What the answer that accepts an item does to the app. -/
structure Replaced (app app' : App) : Prop where
  root : app'.root = some (.main {})
  requests : .homeItem ∈ app'.requests
  overlay : app'.overlay = true
  submissions : app'.submissions = app.submissions

theorem replaced_of_accepted {index : Nat} {response : RegisterResponse} (h : Posts vc app)
    (haccepted : response.isSuccess = true)
    (hstep : (controller π).step vc (.answered index response) = some vc') :
    ∃ app', bunjangClone.step app (.answered index (.registerItem response)) = some app' ∧
      Replaced app app' := by
  obtain ⟨registration, rest, htake, _⟩ := step_answered hstep
  refine ⟨_, step_registerItem h (untrapped_of_step hstep) htake, ?_⟩
  cases response with
  | failure => cases haccepted
  | success body =>
      have haccepted : body.isSuccess = true := haccepted
      simp only [RegisterDataManager.registerItem, haccepted, if_true, List.foldl_cons,
        List.foldl_nil, App.perform]
      exact ⟨rfl, by simp [App.goToMain, App.homeViewWillAppear, App.send], rfl, rfl⟩

theorem posts_selected (π : Type) (jwt : String) : ∃ app,
    bunjangClone.run (launched (some jwt)) selectsRegister = some app ∧
      Posts (opened π (some jwt)) app :=
  ⟨_, rfl, rfl, ⟨_, rfl, rfl, rfl⟩, rfl, rfl, rfl⟩

variable {jwt : String}

/-- Every run of the form in which no item has been accepted yet is the rest of a run of the app
in which the register tab was selected, and the answer that accepts one then replaces the form
by a fresh home tab. -/
theorem submitting_in_app (h : (controller π).run (opened π (some jwt)) es = some vc)
    (hrefused : ∀ e ∈ es, e.refuses) :
    ∃ app, bunjangClone.run (launched (some jwt)) (selectsRegister ++
      (controller π).collect RegisterViewController.appEvents (opened π (some jwt)) es) =
        some app ∧ Posts vc app ∧
          ∀ index response vc', response.isSuccess = true →
            (controller π).step vc (.answered index response) = some vc' →
              ∃ app', bunjangClone.step app (.answered index (.registerItem response)) =
                some app' ∧ Replaced app app' := by
  obtain ⟨app, hselected, hposts⟩ := posts_selected π jwt
  obtain ⟨app', hrun, h'⟩ := (submitting_simulates π).run hposts
    (fun pre e t hpre _ => hrefused e (hpre.subset (by simp))) h
  refine ⟨app', Machine.run_append hselected hrun, h', fun index response vc' haccepted hstep => ?_⟩
  exact replaced_of_accepted h' haccepted hstep

/-- The item is posted, the server does not answer, and the seller submits again. -/
def submittedAgain : List (Callback Nat) :=
  [.input (.didFinishPickingMedia 1), .input (.chooseCategory ⟨1, "의류", none⟩ ⟨2, "신발", none⟩
      ⟨3, "운동화", none⟩), .submitButtonPressed, .uploaded 0 true, .located 0 true,
    .answered 0 .failure, .submitButtonPressed]

theorem submitting_in_app_again : ∃ vc app,
    (controller Nat).run (opened Nat (some "jwt")) submittedAgain = some vc ∧
      bunjangClone.run (launched (some "jwt")) (selectsRegister ++
        (controller Nat).collect RegisterViewController.appEvents (opened Nat (some "jwt"))
          submittedAgain) = some app ∧ Posts vc app ∧ app.submissions = 1 := by
  have hrun : (controller Nat).run (opened Nat (some "jwt")) submittedAgain = some _ := rfl
  obtain ⟨app, happ, hposts, _⟩ := submitting_in_app hrun (by decide)
  exact ⟨_, app, hrun, happ, hposts, hposts.submissions⟩

end BunjangClone.Register
