import BunjangClone.Reactive.Simulation
import BunjangClone.Register.CategoryPath
import BunjangClone.Session.App

/-!
# Choosing a category within the app

The app keeps of the screens over the form only what they are. Every run of the navigation is a
run of the app on the register tab: a row of the third screen, which uncovers the form at once,
is three pops there. The tab is loaded for members only, so no screen misses its token.
-/

namespace BunjangClone.Register

open Reactive
open Session (App TabBar bunjangClone launched)

variable {lists : List (Endpoint × List Category)} {nav nav' : Navigation} {app : App}

/-! ## What the app sees -/

def Endpoint.screen : Endpoint → Session.Screen
  | category => .registerCategory
  | subCategory _ _ => .registerSubCategory
  | secondSubCategory _ _ _ => .registerThirdCategory

def Endpoint.inApp : Endpoint → Session.Request
  | category => .category .registerCategory
  | subCategory _ _ => .subCategory .registerSubCategory
  | secondSubCategory _ _ _ => .subCategory .registerThirdCategory

def Endpoint.answer (response : CategoryResponse) : Endpoint → Session.Answer
  | category => .category response
  | subCategory _ _ | secondSubCategory _ _ _ => .subCategory response

/-- The screens over the form, told apart by what they request. -/
def screensOf (stack : List Instance) : List Session.Screen :=
  stack.filterMap fun inst => inst.vc.endpoint.map Endpoint.screen

/-- What a touch is for the app. -/
def Navigation.appEvents (nav : Navigation) : Touch → List Session.Event
  | .goToCategory => [.openScreen .registerCategory]
  | .didSelectRowAt _ =>
      match nav.stack with
      | ⟨_, .RegisterCategoryViewController _⟩ :: _ => [.openScreen .registerSubCategory]
      | ⟨_, .RegisterSubCategoryViewController _ _⟩ :: _ => [.openScreen .registerThirdCategory]
      | _ => [.popViewController, .popViewController, .popViewController]
  | .popViewController => [.popViewController]
  | .answered index response =>
      (nav.requests[index]?.map fun request =>
        .answered index (request.2.answer response)).toList

/-- The window has the register tab with the screens of the navigation. -/
structure InApp (nav : Navigation) (app : App) : Prop where
  member : nav.jwtToken.isSome = true
  stays : nav.left = false
  jwtToken : app.jwtToken = nav.jwtToken
  root : ∃ bar, app.root = some (.main bar) ∧ bar.selected = .register ∧
    bar.stack = screensOf nav.stack
  requests : app.requests = nav.requests.map fun request => request.2.inApp
  untrapped : app.trapped = false

/-! ## Opening a screen -/

/-- Members' screens are loaded, and send what the navigation sends. -/
theorem viewDidLoad_screen {jwt : String} (h : app.jwtToken = some jwt) (endpoint : Endpoint) :
    app.viewDidLoad endpoint.screen = app.showIndicator.send endpoint.inApp := by
  cases endpoint <;>
    simp [Endpoint.screen, Endpoint.inApp, App.viewDidLoad, App.sendWithToken, App.showIndicator,
      App.send, h]

theorem pushViewController_of_member {vc : ViewController} {endpoint : Endpoint}
    (hmember : nav.jwtToken.isSome = true) (hendpoint : vc.endpoint = some endpoint) :
    nav.pushViewController vc = { nav with
      stack := ⟨nav.created, vc⟩ :: nav.stack
      created := nav.created + 1
      requests := nav.requests ++ [(nav.created, endpoint)] } := by
  have htoken : ¬ nav.jwtToken.isNone = true := by simpa using Option.isSome_iff_ne_none.mp hmember
  rw [Navigation.pushViewController]
  simp only [hendpoint, Navigation.send]
  rw [if_neg fun h => htoken h.2]

theorem inApp_opens {vc : ViewController} (endpoint : Endpoint) (h : InApp nav app)
    (hendpoint : vc.endpoint = some endpoint)
    (hopens : endpoint.screen.opensFrom .register (screensOf nav.stack).head? = true) :
    ∃ app', bunjangClone.run app [.openScreen endpoint.screen] = some app' ∧
      InApp (nav.pushViewController vc) app' := by
  obtain ⟨bar, hroot, hselected, hstack⟩ := h.root
  obtain ⟨jwt, hjwt⟩ := Option.isSome_iff_exists.mp h.member
  rw [← hselected, ← hstack] at hopens
  refine ⟨app.openScreen bar endpoint.screen, Machine.run_of_step ?_, ?_⟩
  · refine Session.step_of_stepMain h.untrapped hroot rfl ?_
    exact if_pos hopens
  · have hset : (app.setBar (bar.setStack (endpoint.screen :: bar.stack))).jwtToken = some jwt :=
      h.jwtToken.trans hjwt
    rw [App.openScreen, viewDidLoad_screen hset,
      pushViewController_of_member h.member hendpoint]
    refine ⟨h.member, h.stays, h.jwtToken, ⟨_, rfl, hselected, ?_⟩, ?_, h.untrapped⟩
    · rw [TabBar.stack_setStack, hstack]
      simp [screensOf, hendpoint]
    · show app.requests ++ [endpoint.inApp] = _
      rw [h.requests, List.map_append]
      rfl

/-! ## Going back -/

/-- Nothing but the home tab appears again. -/
theorem homeAppears_of_register {bar : TabBar} (h : bar.selected = .register) :
    app.homeAppears bar = app := by
  rw [App.homeAppears, if_neg]
  rintro ⟨hhome, _⟩
  rw [h] at hhome
  cases hhome

theorem step_popViewController {bar : TabBar} (huntrapped : app.trapped = false)
    (hroot : app.root = some (.main bar)) (hselected : bar.selected = .register)
    (hcovered : bar.stack ≠ []) :
    bunjangClone.step app .popViewController =
      some (app.setBar (bar.setStack bar.stack.tail)) := by
  refine Session.step_of_stepMain huntrapped hroot rfl ?_
  have hpop : app.popViewController bar = app.setBar (bar.setStack bar.stack.tail) := by
    apply homeAppears_of_register
    exact hselected
  rw [Session.stepMain, if_neg hcovered, hpop]

theorem InApp.withStack {stack : List Instance} {bar : TabBar} (h : InApp nav app)
    (hselected : bar.selected = .register) (hstack : bar.stack = screensOf stack) :
    InApp { nav with stack := stack } (app.setBar bar) :=
  ⟨h.member, h.stays, h.jwtToken, ⟨bar, rfl, hselected, hstack⟩, h.requests, h.untrapped⟩

/-- The topmost screen is popped, and what it covered appears. -/
theorem inApp_pops {top : Instance} {below : List Instance} (h : InApp nav app)
    (hstack : nav.stack = top :: below) (hscreen : top.vc.endpoint.isSome = true) :
    ∃ app', bunjangClone.step app .popViewController = some app' ∧
      InApp { nav with stack := below } app' := by
  obtain ⟨bar, hroot, hselected, hbar⟩ := h.root
  obtain ⟨endpoint, hendpoint⟩ := Option.isSome_iff_exists.mp hscreen
  have hscreens : bar.stack = endpoint.screen :: screensOf below := by
    rw [hbar, hstack]
    simp [screensOf, hendpoint]
  refine ⟨_, step_popViewController h.untrapped hroot hselected (by simp [hscreens]), ?_⟩
  have hkept : (bar.setStack bar.stack.tail).selected = .register := hselected
  refine h.withStack hkept ?_
  rw [TabBar.stack_setStack, hscreens]
  rfl

/-- What the form's fields and the lists of the screens are does not matter. -/
theorem InApp.congr {stack : List Instance} (h : InApp nav app)
    (hscreens : screensOf stack = screensOf nav.stack) : InApp { nav with stack := stack } app := by
  obtain ⟨bar, hroot, hselected, hstack⟩ := h.root
  exact ⟨h.member, h.stays, h.jwtToken, ⟨bar, hroot, hselected, hstack.trans hscreens.symm⟩,
    h.requests, h.untrapped⟩

/-- The uncovered controller appears, which no screen depends on. -/
theorem InApp.viewWillAppear (h : InApp nav app) (hlayered : Layered lists nav.stack) :
    InApp nav.viewWillAppear app := by
  obtain ⟨top, below, hstack⟩ := List.exists_cons_of_ne_nil hlayered.ne_nil
  rw [hstack] at hlayered
  obtain ⟨vc, hshown, hendpoint, _⟩ := hlayered.viewWillAppear
  have happeared : nav.viewWillAppear = { nav with stack := ⟨top.id, vc⟩ :: below } := by
    simp only [Navigation.viewWillAppear, hstack, hshown]
  rw [happeared]
  apply h.congr
  simp only [hstack, screensOf, List.filterMap_cons, hendpoint]

/-! ## Every touch -/

theorem inApp_goToCategory (h : InApp nav app) (hstacked : Stacked lists nav)
    (hgo : nav.goToCategory = some nav') :
    ∃ app', bunjangClone.run app (nav.appEvents .goToCategory) = some app' ∧ InApp nav' app' := by
  have hlayered := hstacked.layered
  unfold Navigation.goToCategory at hgo
  split at hgo
  · rename_i id categoryId text below hstack
    obtain rfl := Option.some.inj hgo
    refine inApp_opens .category h rfl ?_
    rw [hstack] at hlayered ⊢
    cases hlayered with
    | register => rfl
  · cases hgo

theorem inApp_didSelectRowAt {row : Nat} (h : InApp nav app) (hstacked : Stacked lists nav)
    (hrow : nav.didSelectRowAt row = some nav') :
    ∃ app', bunjangClone.run app (nav.appEvents (.didSelectRowAt row)) = some app' ∧
      InApp nav' app' := by
  unfold Navigation.didSelectRowAt at hrow
  split at hrow
  · rename_i id array below hstack
    obtain ⟨category, _, rfl⟩ := Option.map_eq_some_iff.mp hrow
    have hevents : nav.appEvents (.didSelectRowAt row) = [.openScreen .registerSubCategory] := by
      simp [Navigation.appEvents, hstack]
    rw [hevents]
    apply inApp_opens (.subCategory category.id 1) h rfl
    simp [screensOf, hstack, ViewController.endpoint, Endpoint.screen, Session.Screen.opensFrom]
  · rename_i id array current below hstack
    obtain ⟨category, _, rfl⟩ := Option.map_eq_some_iff.mp hrow
    have hevents : nav.appEvents (.didSelectRowAt row) = [.openScreen .registerThirdCategory] := by
      simp [Navigation.appEvents, hstack]
    rw [hevents]
    apply inApp_opens (.secondSubCategory current.id category.id 1) h rfl
    simp [screensOf, hstack, ViewController.endpoint, Endpoint.screen, Session.Screen.opensFrom]
  · rename_i id array current parent below hstack
    obtain ⟨category, _, rfl⟩ := Option.map_eq_some_iff.mp hrow
    have hevents : nav.appEvents (.didSelectRowAt row) =
        [.popViewController, .popViewController, .popViewController] := by
      simp [Navigation.appEvents, hstack]
    obtain ⟨register, _, _, _, _, _, _, hreturn⟩ := hstacked.returnCategory category hstack
    have hlayered := hstacked.layered
    rw [hstack] at hlayered
    obtain ⟨sub, first, form, _, _, _, _, rfl, _⟩ := hlayered.of_thirdCategory
    -- The screens are popped one by one, and the form is there with its categories written.
    obtain ⟨app₁, hfirst, h₁⟩ := inApp_pops h hstack rfl
    obtain ⟨app₂, hsecond, h₂⟩ := inApp_pops h₁ rfl rfl
    obtain ⟨app₃, hthird, h₃⟩ := inApp_pops h₂ rfl rfl
    refine ⟨app₃, ?_, ?_⟩
    · rw [hevents]
      exact Machine.run_cons_iff.mpr ⟨app₁, hfirst,
        Machine.run_cons_iff.mpr ⟨app₂, hsecond, Machine.run_of_step hthird⟩⟩
    · rw [hreturn]
      exact h₃.congr rfl
  · cases hrow

/-- The app's handler takes the overlay down, and that is all. -/
theorem complete_endpoint (app : App) (endpoint : Endpoint) (response : CategoryResponse) :
    ∃ overlay, app.complete endpoint.inApp (endpoint.answer response) =
      some { app with overlay := overlay } := by
  have hdone : ∀ (title : String) (deliver : App → App), deliver = App.dismissIndicator →
      ∃ overlay, (deliverOrAlert title response).foldl (App.perform deliver) app =
        { app with overlay := overlay } := by
    rintro title _ rfl
    cases hsuccess : response.isSuccess with
    | false => exact Session.foldl_alerts _ (Session.alerts_deliverOrAlert hsuccess) app
    | true =>
        cases response with
        | failure => cases hsuccess
        | success body =>
            have hsuccess : body.isSuccess = true := hsuccess
            refine ⟨false, ?_⟩
            simp [deliverOrAlert, hsuccess, App.perform, App.dismissIndicator]
  cases endpoint with
  | category =>
      obtain ⟨overlay, hoverlay⟩ := hdone _ (fun app => app.setCategory .registerCategory) rfl
      exact ⟨overlay, congrArg some hoverlay⟩
  | subCategory =>
      obtain ⟨overlay, hoverlay⟩ := hdone _ (fun app => app.setCategory .registerSubCategory) rfl
      exact ⟨overlay, congrArg some hoverlay⟩
  | secondSubCategory =>
      obtain ⟨overlay, hoverlay⟩ := hdone _ (fun app => app.setCategory .registerThirdCategory) rfl
      exact ⟨overlay, congrArg some hoverlay⟩

theorem screensOf_receive (id : Nat) (result : List Category) (stack : List Instance) :
    screensOf (stack.map (Instance.receive id result)) = screensOf stack := by
  simp [screensOf, List.filterMap_map]

theorem inApp_answered {index id : Nat} {endpoint : Endpoint} {response : CategoryResponse}
    {rest : List (Nat × Endpoint)} (h : InApp nav app)
    (htake : takeAt nav.requests index = some ((id, endpoint), rest)) :
    ∃ app', bunjangClone.run app (nav.appEvents (.answered index response)) = some app' ∧
      InApp ((endpoint.handle response).foldl (Navigation.perform id)
        { nav with requests := rest }) app' := by
  have hevents : nav.appEvents (.answered index response) =
      [.answered index (endpoint.answer response)] := by
    obtain ⟨hindex, _⟩ := takeAt_eq_some_iff.mp htake
    simp [Navigation.appEvents, hindex]
  have htaken := takeAt_map (fun request : Nat × Endpoint => request.2.inApp) htake
  rw [← h.requests] at htaken
  obtain ⟨overlay, hcomplete⟩ := complete_endpoint
    { app with requests := rest.map fun request => request.2.inApp } endpoint response
  have hrest : InApp { nav with requests := rest }
      { app with requests := rest.map fun request => request.2.inApp, overlay := overlay } :=
    ⟨h.member, h.stays, h.jwtToken, h.root, rfl, h.untrapped⟩
  refine ⟨{ app with requests := rest.map fun request => request.2.inApp, overlay := overlay },
    ?_, ?_⟩
  · rw [hevents]
    exact Machine.run_of_step ((Session.step_answered h.untrapped htaken).trans hcomplete)
  · rw [foldl_perform_handle]
    cases response with
    | failure => exact hrest
    | success body =>
        cases hsuccess : body.isSuccess with
        | false => simpa [hsuccess] using hrest
        | true =>
            simp only [hsuccess, if_true]
            exact hrest.congr (screensOf_receive id body.result nav.stack)

/-- Each touch is for the app what `appEvents` says. -/
theorem inApp_step {e : Touch} (h : InApp nav app) (hstacked : Stacked lists nav)
    (hstep : navigation.step nav e = some nav') :
    ∃ app', bunjangClone.run app (nav.appEvents e) = some app' ∧ InApp nav' app' := by
  have htouch : nav.step e = some nav' := hstep
  unfold Navigation.step at htouch
  rw [if_neg (by simp [hstacked.untrapped])] at htouch
  cases e with
  | answered index response =>
      obtain ⟨⟨⟨id, endpoint⟩, rest⟩, htake, rfl⟩ := Option.map_eq_some_iff.mp htouch
      exact inApp_answered h htake
  | goToCategory =>
      have hgo : nav.goToCategory = some nav' := (Option.ite_none_left_eq_some.mp htouch).2
      exact inApp_goToCategory h hstacked hgo
  | didSelectRowAt row =>
      have hrow : nav.didSelectRowAt row = some nav' := (Option.ite_none_left_eq_some.mp htouch).2
      exact inApp_didSelectRowAt h hstacked hrow
  | popViewController =>
      have hback := (Option.ite_none_left_eq_some.mp htouch).2
      obtain ⟨hlong, hpop⟩ := Option.ite_none_right_eq_some.mp hback
      obtain rfl := Option.some.inj hpop
      have htail := hstacked.layered.tail hlong
      cases hstack : nav.stack with
      | nil => exact absurd hstack hstacked.layered.ne_nil
      | cons top below =>
          have hscreen : top.vc.endpoint.isSome = true := by
            have hlayered := hstacked.layered
            rw [hstack] at hlayered hlong
            cases hlayered with
            | register => simp at hlong
            | _ => rfl
          obtain ⟨app', hpopped, hbelow⟩ := inApp_pops h hstack hscreen
          rw [hstack] at htail
          refine ⟨app', Machine.run_of_step hpopped, ?_⟩
          rw [Navigation.popViewController, hstack]
          exact hbelow.viewWillAppear htail

/-! ## Every run -/

theorem navigation_in_app : navigation.Simulates bunjangClone (fun _ _ => True)
    Navigation.appEvents fun nav app => (∃ lists, Stacked lists nav) ∧ InApp nav app := by
  rintro nav e nav' app ⟨⟨lists, hstacked⟩, h⟩ _ hstep
  obtain ⟨app', hrun, h'⟩ := inApp_step h hstacked hstep
  exact ⟨app', hrun, ⟨_, hstacked.step hstep⟩, h'⟩

/-- A member is let in, sees the home tab and selects the register tab. -/
def selectsRegister : List Session.Event :=
  [.answered 0 (.autoLogin (.success ⟨true, 1000, "", ()⟩)),
    .answered 0 (.homeItem (.success ⟨true, 1000, "", some []⟩)), .runBlock, .selectTab .register]

theorem register_selected (jwt : String) : ∃ app,
    bunjangClone.run (launched (some jwt)) selectsRegister = some app ∧
      InApp (Navigation.opened (some jwt)) app :=
  ⟨_, rfl, rfl, rfl, rfl, ⟨_, rfl, rfl, rfl⟩, rfl, rfl⟩

variable {jwt : String} {es : List Touch}

/-- Every run of the navigation is the rest of a run of the app in which the register tab was
selected. -/
theorem choosing_in_app (h : navigation.run (Navigation.opened (some jwt)) es = some nav) :
    ∃ app, bunjangClone.run (launched (some jwt)) (selectsRegister ++
      navigation.collect Navigation.appEvents (Navigation.opened (some jwt)) es) = some app ∧
        InApp nav app := by
  obtain ⟨app, hselected, hopened⟩ := register_selected jwt
  obtain ⟨app', hrun, _, h'⟩ := navigation_in_app.run ⟨⟨[], stacked_opened (some jwt)⟩, hopened⟩
    (fun _ _ _ _ _ => trivial) h
  exact ⟨app', Machine.run_append hselected hrun, h'⟩

theorem choosing_in_app_oneRowEach : ∃ nav,
    navigation.run (Navigation.opened (some "jwt"))
      (oneRowEach ⟨1, "의류", none⟩ ⟨2, "신발", none⟩ ⟨3, "운동화", none⟩) = some nav ∧
      ∃ app, bunjangClone.run (launched (some "jwt")) (selectsRegister ++
        navigation.collect Navigation.appEvents (Navigation.opened (some "jwt"))
          (oneRowEach ⟨1, "의류", none⟩ ⟨2, "신발", none⟩ ⟨3, "운동화", none⟩)) = some app ∧
            InApp nav app :=
  ⟨_, rfl, choosing_in_app rfl⟩

end BunjangClone.Register
