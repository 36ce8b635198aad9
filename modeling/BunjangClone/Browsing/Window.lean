import BunjangClone.Browsing.Path
import BunjangClone.Reactive.Simulation
import BunjangClone.Session.App

/-!
# Browsing within the app

The app keeps of a controller only its kind, and of a request only its handler. Every run of
browsing is a run of the app on the home tab, event for event, so what holds of the window,
the token and the overlay in every run of the app holds while the user browses.
-/

namespace BunjangClone.Browsing

open Reactive
open Session (App TabBar bunjangClone launched IsAlert)

variable {insertComma : String → String} {browser browser' : Browser} {e : Event} {app : App}

/-! ## What the app sees -/

def Opened.screen : Opened → Session.Screen
  | firstCategory => .firstCategory
  | subCategory (.SubCategoryViewController _) => .subCategory
  | subCategory (.SecondSubCategoryViewController _ _) => .secondSubCategory
  | detail _ => .detail

def Request.inApp : Request → Session.Request
  | homeItem _ => .homeItem
  | category _ => .category .firstCategory
  | subCategory _ (.subCategory _ _) => .subCategory .subCategory
  | subCategory _ (.secondSubCategory _ _ _) => .subCategory .secondSubCategory
  | product _ (.subCategory _ _) => .product .subCategory
  | product _ (.secondSubCategory _ _ _) => .product .secondSubCategory
  | detail _ _ => .detail

def Block.inApp : Block → Session.Block
  | setHomeItem _ | setProduct _ _ => .setProduct
  | setCategory _ _ => .setCategory

def Answer.inApp : Answer → Session.Answer
  | homeItem response => .homeItem response
  | category response => .category response
  | subCategory response => .subCategory response
  | product response => .product response
  | detail (.success body) => .detail (.success ⟨body.isSuccess, body.code, body.message, ()⟩)
  | detail .failure => .detail .failure

/-- What an event is for the app. A touch that does nothing is none. -/
def Browser.appEvents (browser : Browser) : Event → List Session.Event
  | .touched touch =>
      match browser.opening touch, touch with
      | some opened, _ => [.openScreen opened.screen]
      | none, .popViewController => [.popViewController]
      | none, .willDisplay row =>
          if row + 1 = browser.home.ItemArray.length then [.willDisplayLastRow] else []
      | none, .buttonPressed => [.expandButtonPressed]
      | none, _ => []
  | .answered index answer => [.answered index answer.inApp]
  | .runBlock => [.runBlock]

/-- The window has the home tab with the screens of the browser, or the login screen once a
token was missing. -/
def Browser.Rooted (browser : Browser) (app : App) : Prop :=
  if browser.left then app.root = some .login
  else ∃ bar, app.root = some (.main bar) ∧ bar.selected = .home ∧
    bar.stack.map some = browser.screens.map (Option.map Opened.screen)

structure Matches (browser : Browser) (app : App) : Prop where
  jwtToken : app.jwtToken = browser.jwtToken
  root : browser.Rooted app
  requests : app.requests = browser.requests.map Request.inApp
  mainQueue : app.mainQueue = browser.mainQueue.map Block.inApp
  trapped : app.trapped = true → browser.trapped = true

/-! ## Opening a screen -/

/-- The navigation of the app allows what is opened. -/
theorem opensFrom_of_layered {opened : Opened} {screens : List (Option Opened)}
    {stack : List Session.Screen} (h : Layered (some opened :: screens))
    (hstack : stack.map some = screens.map (Option.map Opened.screen)) :
    opened.screen.opensFrom .home stack.head? = true := by
  have hhead : stack.head?.map some = screens.head?.map (Option.map Opened.screen) := by
    rw [← List.head?_map, hstack, List.head?_map]
  cases h with
  | detail | firstCategory | header =>
      obtain hnone : stack.head? = none := by simpa using hhead
      rw [hnone]
      rfl
  | subCategory category =>
      obtain hsome : stack.head? = some .firstCategory := by simpa [Opened.screen] using hhead
      rw [hsome]
      rfl
  | secondSubCategory category entry below under =>
      obtain hsome : stack.head? = some .subCategory := by simpa [Opened.screen] using hhead
      rw [hsome]
      rfl

/-- What `viewDidLoad` does to the app. -/
structure Loads (browser : Browser) (opened : Opened) (id : Nat) (app app' : App) : Prop where
  jwtToken : app'.jwtToken = app.jwtToken
  root : app'.root = if browser.loads opened then app.root else some .login
  requests : app'.requests = app.requests ++
    if browser.loads opened then (opened.requests id).map Request.inApp else []
  mainQueue : app'.mainQueue = app.mainQueue
  trapped : app'.trapped = app.trapped

theorem loads_viewDidLoad (app : App) (hjwt : app.jwtToken = browser.jwtToken) (opened : Opened)
    (id : Nat) :
    Loads browser opened id app (app.viewDidLoad opened.screen) := by
  cases opened with
  | firstCategory =>
      refine ⟨rfl, ?_, ?_, rfl, rfl⟩ <;>
        simp [Opened.screen, App.viewDidLoad, App.showIndicator, App.send, Browser.loads,
          Opened.requests, Request.inApp]
  | subCategory controller =>
      cases htoken : browser.jwtToken <;> rw [htoken] at hjwt <;> cases controller <;>
        refine ⟨?_, ?_, ?_, ?_, ?_⟩ <;>
        simp [Opened.screen, App.viewDidLoad, App.showIndicator, App.sendWithToken, App.send,
          App.goToLogin, Browser.loads, Opened.requests, Request.inApp,
          Category.Controller.getCategory, Category.Controller.getProduct, htoken, hjwt]
  | detail postId =>
      cases htoken : browser.jwtToken <;> rw [htoken] at hjwt <;>
        refine ⟨?_, ?_, ?_, ?_, ?_⟩ <;>
        simp [Opened.screen, App.viewDidLoad, App.sendWithToken, App.send, App.goToLogin,
          Browser.loads, Opened.requests, Request.inApp, htoken, hjwt]

theorem rooted_of_left (hleft : browser.left = true) (hroot : app.root = some .login) :
    browser.Rooted app := by
  rw [Browser.Rooted, if_pos hleft]
  exact hroot

theorem rooted_of_main (bar : TabBar) (hleft : browser.left = false)
    (hroot : app.root = some (.main bar)) (hselected : bar.selected = .home)
    (hstack : bar.stack.map some = browser.screens.map (Option.map Opened.screen)) :
    browser.Rooted app := by
  rw [Browser.Rooted, if_neg (by simp [hleft])]
  exact ⟨bar, hroot, hselected, hstack⟩

theorem Matches.main (h : Matches browser app) (hleft : browser.left = false) :
    ∃ bar, app.root = some (.main bar) ∧ bar.selected = .home ∧
      bar.stack.map some = browser.screens.map (Option.map Opened.screen) := by
  have hroot := h.root
  rw [Browser.Rooted, if_neg (by simp [hleft])] at hroot
  exact hroot

theorem Matches.untrapped (h : Matches browser app) (htrapped : browser.trapped = false) :
    app.trapped = false := by
  cases htrap : app.trapped with
  | false => rfl
  | true => cases htrapped.symm.trans (h.trapped htrap)

theorem matches_opens {opened : Opened} (h : Matches browser app)
    (hsound : Sound insertComma browser) (hlayered : Layered (some opened :: browser.screens))
    (hleft : browser.left = false) (htrapped : browser.trapped = false) :
    ∃ app', bunjangClone.run app [.openScreen opened.screen] = some app' ∧
      Matches (browser.pushViewController insertComma opened) app' := by
  obtain ⟨bar, hroot, hselected, hstack⟩ := h.main hleft
  have hopens := opensFrom_of_layered hlayered hstack
  rw [← hselected] at hopens
  have hloads := loads_viewDidLoad (app.setBar (bar.setStack (opened.screen :: bar.stack)))
    h.jwtToken opened browser.controllers.length
  refine ⟨app.openScreen bar opened.screen, Machine.run_of_step ?_, ?_⟩
  · refine Session.step_of_stepMain (h.untrapped htrapped) hroot rfl ?_
    exact if_pos hopens
  · have hscreens : (browser.pushViewController insertComma opened).screens =
        some opened :: browser.screens := screens_pushViewController hsound opened
    have hpush := pushViewController_eq insertComma browser opened
    refine ⟨?_, ?_, ?_, ?_, ?_⟩
    · rw [hpush]
      exact hloads.jwtToken.trans h.jwtToken
    · cases hload : browser.loads opened with
      | true =>
          refine rooted_of_main (bar.setStack (opened.screen :: bar.stack)) ?_ ?_ hselected ?_
          · rw [hpush]
            simp [hleft, hload]
          · have hsame := hloads.root
            rw [hload] at hsame
            exact hsame
          · rw [TabBar.stack_setStack, hscreens, List.map_cons, List.map_cons, hstack]
            rfl
      | false =>
          refine rooted_of_left ?_ ?_
          · rw [hpush]
            simp [hload]
          · have hlogin := hloads.root
            rw [hload] at hlogin
            exact hlogin
    · rw [hpush]
      refine hloads.requests.trans ?_
      have hrequests : (app.setBar (bar.setStack (opened.screen :: bar.stack))).requests =
          browser.requests.map Request.inApp := h.requests
      rw [hrequests, List.map_append]
      split <;> rfl
    · rw [hpush]
      exact hloads.mainQueue.trans h.mainQueue
    · rw [hpush]
      intro htrap
      exact h.trapped (hloads.trapped.symm.trans htrap)

/-- The app sends along, with the overlay shown or not. -/
theorem Matches.send {app' : App} {request : Request} (h : Matches browser app)
    (hsame : app' = app.send request.inApp ∨ app' = app.showIndicator.send request.inApp) :
    Matches (browser.send request) app' := by
  have hrequests : app'.requests = app.requests ++ [request.inApp] := by
    obtain rfl | rfl := hsame <;> rfl
  have hroot : browser.Rooted app' := by
    obtain rfl | rfl := hsame <;> exact h.root
  refine ⟨?_, hroot, ?_, ?_, ?_⟩
  · obtain rfl | rfl := hsame <;> exact h.jwtToken
  · rw [hrequests, h.requests, Browser.send, List.map_append]
    rfl
  · obtain rfl | rfl := hsame <;> exact h.mainQueue
  · obtain rfl | rfl := hsame <;> exact h.trapped

theorem stack_eq_nil_iff {bar : TabBar}
    (hstack : bar.stack.map some = browser.screens.map (Option.map Opened.screen)) :
    bar.stack = [] ↔ browser.pushed = [] := by
  rw [← List.map_eq_nil_iff (f := some), hstack, List.map_eq_nil_iff, Browser.screens,
    List.map_eq_nil_iff]

theorem matches_pops (h : Matches browser app) (hover : browser.pushed ≠ [])
    (hleft : browser.left = false) (htrapped : browser.trapped = false) :
    ∃ app', bunjangClone.run app [.popViewController] = some app' ∧
      Matches browser.popViewController app' := by
  obtain ⟨bar, hroot, hselected, hstack⟩ := h.main hleft
  have hnonempty : bar.stack ≠ [] := fun hnil => hover ((stack_eq_nil_iff hstack).mp hnil)
  have htail : (bar.setStack bar.stack.tail).stack.map some =
      ({ browser with pushed := browser.pushed.tail } : Browser).screens.map
        (Option.map Opened.screen) := by
    rw [TabBar.stack_setStack, List.map_tail, hstack]
    simp [Browser.screens, Browser.kinds]
  have hpopped : Matches { browser with pushed := browser.pushed.tail }
      (app.setBar (bar.setStack bar.stack.tail)) :=
    ⟨h.jwtToken, rooted_of_main _ hleft rfl hselected htail, h.requests, h.mainQueue, h.trapped⟩
  refine ⟨app.popViewController bar, Machine.run_of_step ?_, ?_⟩
  · refine Session.step_of_stepMain (h.untrapped htrapped) hroot rfl ?_
    exact if_neg hnonempty
  · have hhome : ((bar.setStack bar.stack.tail).selected = .home ∧
        (bar.setStack bar.stack.tail).stack = []) ↔ browser.pushed.tail = [] := by
      rw [stack_eq_nil_iff htail]
      exact and_iff_right hselected
    simp only [App.popViewController, App.homeAppears, Browser.popViewController, hhome]
    split
    · exact hpopped.send (.inr rfl)
    · exact hpopped

theorem matches_displays (h : Matches browser app) (hleft : browser.left = false)
    (htrapped : browser.trapped = false) :
    ∃ app', bunjangClone.run app [.willDisplayLastRow] = some app' ∧
      Matches ({ browser with home := { browser.home with page := browser.home.page + 1 } }.send
        (.homeItem (browser.home.page + 1))) app' := by
  obtain ⟨bar, hroot, _, _⟩ := h.main hleft
  have hcounted : Matches
      { browser with home := { browser.home with page := browser.home.page + 1 } } app :=
    ⟨h.jwtToken, h.root, h.requests, h.mainQueue, h.trapped⟩
  refine ⟨app.showIndicator.send .homeItem, Machine.run_of_step ?_, hcounted.send (.inr rfl)⟩
  exact Session.step_of_stepMain (h.untrapped htrapped) hroot rfl rfl

theorem matches_presses {id : Nat} {vc : SubCategoryViewController} (h : Matches browser app)
    (htop : browser.pushed.head? = some id)
    (hscreen : browser.controllers[id]? = some (.SubCategoryViewController vc))
    (htoken : browser.jwtToken.isSome = true) (hleft : browser.left = false)
    (htrapped : browser.trapped = false) :
    ∃ app', bunjangClone.run app [.expandButtonPressed] = some app' ∧
      Matches ((browser.setController id (.SubCategoryViewController vc.press)).send
        (.subCategory id (vc.controller.getCategory vc.press.clicked))) app' := by
  obtain ⟨bar, hroot, hselected, hstack⟩ := h.main hleft
  obtain ⟨jwt, hjwt⟩ := Option.isSome_iff_exists.mp htoken
  have hkinds : (browser.setController id (.SubCategoryViewController vc.press)).kinds =
      browser.kinds := kinds_setController hscreen rfl
  have hpressed : Matches (browser.setController id (.SubCategoryViewController vc.press)) app := by
    refine ⟨h.jwtToken, rooted_of_main bar hleft hroot hselected ?_, h.requests, h.mainQueue,
      h.trapped⟩
    rw [Browser.screens, hkinds]
    exact hstack
  have hhead : bar.stack.head? = some (Opened.subCategory vc.controller).screen := by
    have hmapped : bar.stack.head?.map some = browser.screens.head?.map
        (Option.map Opened.screen) := by
      rw [← List.head?_map, hstack, List.head?_map]
    have hfirst : browser.screens.head? = some (some (.subCategory vc.controller)) := by
      rw [Browser.screens, List.head?_map, htop, Option.map_some, kinds_getElem? hscreen]
      rfl
    rw [hfirst] at hmapped
    simpa using hmapped
  have hsend : ∀ request, app.sendWithToken request = app.send request := by
    intro request
    rw [App.sendWithToken, h.jwtToken, hjwt]
  refine ⟨app.send (Request.subCategory id (vc.controller.getCategory vc.press.clicked)).inApp,
    Machine.run_of_step ?_, hpressed.send (.inl rfl)⟩
  refine Session.step_of_stepMain (h.untrapped htrapped) hroot rfl ?_
  cases hcontroller : vc.controller <;>
    simp [Session.stepMain, hhead, hcontroller, hsend, Opened.screen, Request.inApp,
      Category.Controller.getCategory]

/-! ## Answers and blocks -/

theorem Matches.withOverlay (h : Matches browser app) (overlay : Bool) :
    Matches browser { app with overlay := overlay } :=
  ⟨h.jwtToken, h.root, h.requests, h.mainQueue, h.trapped⟩

theorem alerts_getHomeItem {response : HomeItemResponse} (h : response.isSuccess = false) :
    ∀ command ∈ HomeItemDataManager.getHomeItem response, IsAlert command := by
  cases response with
  | failure => simp [HomeItemDataManager.getHomeItem, IsAlert]
  | success body =>
      have hrefused : body.isSuccess = false := h
      by_cases hcode : body.code = 3008 <;>
        simp [HomeItemDataManager.getHomeItem, IsAlert, hrefused, hcode]

theorem alerts_getSubCategory {response : ProductResponse} (h : response.isSuccess = false) :
    ∀ command ∈ ProductDataManager.getSubCategory response, IsAlert command := by
  cases response with
  | failure => simp [ProductDataManager.getSubCategory, IsAlert]
  | success body =>
      have hrefused : body.isSuccess = false := h
      by_cases hcode : body.code = 3008 <;>
        simp [ProductDataManager.getSubCategory, IsAlert, hrefused, hcode]

/-- The handlers of the app, by what the request is in it. -/
theorem handleSubCategory_eq (screen : Session.Screen) (response : SubCategoryResponse) :
    screen.handleSubCategory response = deliverOrAlert connectionAlert response := by
  cases screen <;> rfl

theorem handleProduct_eq (screen : Session.Screen) (response : ProductResponse) :
    screen.handleProduct response = ProductDataManager.getSubCategory response := by
  cases screen <;> rfl

theorem complete_refused {request : Request} {answer : Answer}
    (htakes : request.takes answer = true) (hrefused : answer.grants = false) (app : App) :
    ∃ overlay, app.complete request.inApp answer.inApp = some { app with overlay := overlay } := by
  have hdone : ∀ {ρ : Type} {commands : List (Command ρ)} {deliver : App → App},
      (∀ command ∈ commands, IsAlert command) →
        ∃ overlay, some (commands.foldl (App.perform deliver) app) =
          some { app with overlay := overlay } := by
    intro ρ commands deliver halerts
    obtain ⟨overlay, hoverlay⟩ := Session.foldl_alerts deliver halerts app
    exact ⟨overlay, congrArg some hoverlay⟩
  unfold Request.takes at htakes
  split at htakes
  · exact hdone (alerts_getHomeItem hrefused)
  · exact hdone (Session.alerts_deliverOrAlert hrefused)
  · rename_i id endpoint response
    have halerts := fun screen : Session.Screen =>
      (handleSubCategory_eq screen response).symm ▸ Session.alerts_deliverOrAlert hrefused
    cases endpoint
    · exact hdone (halerts .subCategory)
    · exact hdone (halerts .secondSubCategory)
  · rename_i id endpoint response
    have halerts := fun screen : Session.Screen =>
      (handleProduct_eq screen response).symm ▸ alerts_getSubCategory hrefused
    cases endpoint
    · exact hdone (halerts .subCategory)
    · exact hdone (halerts .secondSubCategory)
  · rename_i id postId response
    cases response with
    | failure => exact hdone (Session.alerts_deliverOrAlert rfl)
    | success body => exact hdone (Session.alerts_deliverOrAlert hrefused)
  · cases htakes

theorem Matches.queue {block : Block} (h : Matches browser app) :
    Matches (browser.queue block) (app.queue block.inApp) := by
  refine ⟨h.jwtToken, h.root, h.requests, ?_, h.trapped⟩
  rw [App.queue, h.mainQueue, Browser.queue, List.map_append]
  rfl

theorem Matches.trap (h : Matches browser app) (trapped : Bool) :
    Matches { browser with trapped := true } { app with trapped := trapped } :=
  ⟨h.jwtToken, h.root, h.requests, h.mainQueue, fun _ => rfl⟩

theorem Matches.setController {id : Nat} {vc vc' : ViewController} (h : Matches browser app)
    (hvc : browser.controllers[id]? = some vc) (hopened : vc'.opened = vc.opened) :
    Matches (browser.setController id vc') app := by
  have hscreens : (browser.setController id vc').screens = browser.screens := by
    rw [Browser.screens, kinds_setController hvc hopened]
    rfl
  refine ⟨h.jwtToken, ?_, h.requests, h.mainQueue, h.trapped⟩
  have hroot := h.root
  rw [Browser.Rooted] at hroot ⊢
  rw [hscreens]
  exact hroot

/-- The app's handler does to the app what the screen's does to the browser. -/
theorem matches_complete {request : Request} {answer : Answer} (h : Matches browser app)
    (hanswers : Answers insertComma browser request answer browser') :
    ∃ app', app.complete request.inApp answer.inApp = some app' ∧ Matches browser' app' := by
  cases hanswers with
  | refused takes refused =>
      obtain ⟨overlay, hcomplete⟩ := complete_refused takes refused app
      exact ⟨_, hcomplete, h.withOverlay overlay⟩
  | @homeItem page body result success present =>
      refine ⟨app.queue .setProduct, ?_, h.queue⟩
      simp [App.complete, Request.inApp, Answer.inApp, HomeItemDataManager.getHomeItem, success,
        present, deliverUnwrapped, App.perform]
  | @noHomeItem page body success absent =>
      refine ⟨{ app with trapped := true }, ?_, h.trap true⟩
      simp [App.complete, Request.inApp, Answer.inApp, HomeItemDataManager.getHomeItem, success,
        absent, deliverUnwrapped, App.perform]
  | @category id body vc success asker =>
      have hshown : Matches (browser.setController id
          (.FirstCategoryViewController (vc.setCategory body.result))) app :=
        h.setController asker rfl
      refine ⟨app.dismissIndicator, ?_, hshown.withOverlay false⟩
      simp [App.complete, Request.inApp, Answer.inApp, CategoryDataManager.getCategory,
        deliverOrAlert, success, App.perform, App.setCategory]
  | @subCategory id endpoint body success =>
      refine ⟨app.queue .setCategory, ?_, h.queue⟩
      cases endpoint <;>
        simp [App.complete, Request.inApp, Answer.inApp, handleSubCategory_eq, deliverOrAlert,
          success, App.perform, App.setCategory]
  | @product id endpoint body result success present =>
      refine ⟨app.queue .setProduct, ?_, h.queue⟩
      cases endpoint <;>
        simp [App.complete, Request.inApp, Answer.inApp, handleProduct_eq,
          ProductDataManager.getSubCategory, success, present, deliverUnwrapped, App.perform]
  | @noProduct id endpoint body success absent =>
      refine ⟨{ app with trapped := true }, ?_, h.trap true⟩
      cases endpoint <;>
        simp [App.complete, Request.inApp, Answer.inApp, handleProduct_eq,
          ProductDataManager.getSubCategory, success, absent, deliverUnwrapped, App.perform]
  | @detail id postId body vc vc' success asker shown =>
      refine ⟨app, ?_, h.setController asker rfl⟩
      simp [App.complete, Request.inApp, Answer.inApp, DetailDataManager.getDetail,
        deliverOrAlert, success, App.perform]
  | @noDetail id postId body vc success asker trap =>
      refine ⟨app, ?_, h.trap app.trapped⟩
      simp [App.complete, Request.inApp, Answer.inApp, DetailDataManager.getDetail,
        deliverOrAlert, success, App.perform]

theorem matches_answers {index : Nat} {answer : Answer} {request : Request} {rest : List Request}
    (h : Matches browser app) (htrapped : browser.trapped = false)
    (htaken : takeAt browser.requests index = some (request, rest))
    (hanswers : Answers insertComma { browser with requests := rest } request answer browser') :
    ∃ app', bunjangClone.run app [.answered index answer.inApp] = some app' ∧
      Matches browser' app' := by
  have htake := takeAt_map Request.inApp htaken
  rw [← h.requests] at htake
  have hrest : Matches { browser with requests := rest }
      { app with requests := rest.map Request.inApp } :=
    ⟨h.jwtToken, h.root, rfl, h.mainQueue, h.trapped⟩
  obtain ⟨app', hcomplete, hmatches⟩ := matches_complete hrest hanswers
  refine ⟨app', Machine.run_of_step ?_, hmatches⟩
  exact (Session.step_answered (h.untrapped htrapped) htake).trans hcomplete

theorem matches_runs {block : Block} {rest : List Block} (h : Matches browser app)
    (htrapped : browser.trapped = false) (hqueue : browser.mainQueue = block :: rest) :
    ∃ app', bunjangClone.run app [.runBlock] = some app' ∧
      Matches ({ browser with mainQueue := rest }.runBlock insertComma block) app' := by
  have happ : app.mainQueue = block.inApp :: rest.map Block.inApp := by
    rw [h.mainQueue, hqueue, List.map_cons]
  have hrest : Matches { browser with mainQueue := rest }
      { app with mainQueue := rest.map Block.inApp } :=
    ⟨h.jwtToken, h.root, h.requests, rfl, h.trapped⟩
  refine ⟨({ app with mainQueue := rest.map Block.inApp } : App).runBlock block.inApp,
    Machine.run_of_step (Session.step_runBlock (h.untrapped htrapped) happ), ?_⟩
  cases block with
  | setHomeItem result =>
      exact ⟨h.jwtToken, h.root, h.requests, rfl, h.trapped⟩
  | setCategory id result =>
      simp only [Browser.runBlock]
      split
      · rename_i vc hvc
        exact hrest.setController hvc rfl
      · exact hrest
  | setProduct id result =>
      have hdismissed : Matches { browser with mainQueue := rest }
          ({ app with mainQueue := rest.map Block.inApp } : App).dismissIndicator :=
        hrest.withOverlay false
      simp only [Browser.runBlock]
      split
      · rename_i vc hvc
        exact hdismissed.setController hvc rfl
      · exact hdismissed

/-! ## Every run -/

/-- Each event is for the app what `appEvents` says. -/
theorem matches_of_steps {deliveries : List Delivery} (h : Matches browser app)
    (hsound : Sound insertComma browser) (hbrowsed : Browsed deliveries browser)
    (htrapped : browser.trapped = false) (hleft : ∀ touch, e = .touched touch →
      browser.left = false) (hsteps : Steps insertComma browser e browser') :
    ∃ app', bunjangClone.run app (browser.appEvents e) = some app' ∧ Matches browser' app' := by
  cases hsteps with
  | @idle touch opens button back last =>
      have hnothing : browser.appEvents (.touched touch) = [] := by
        cases touch with
        | popViewController => exact absurd rfl back
        | buttonPressed => exact absurd rfl button
        | willDisplay row => simp [Browser.appEvents, opens, last row rfl]
        | headerButtonPressed | didSelectItemAt => simp [Browser.appEvents, opens]
      rw [hnothing]
      exact ⟨app, rfl, h⟩
  | @opens touch opened opens =>
      have hevents : browser.appEvents (.touched touch) = [.openScreen opened.screen] := by
        simp [Browser.appEvents, opens]
      rw [hevents]
      have hlayered := (hbrowsed.opens (opensFrom_of_opening hsound opens)).1
      exact matches_opens h hsound hlayered (hleft touch rfl) htrapped
  | pops covered => exact matches_pops h covered (hleft _ rfl) htrapped
  | @displays row last =>
      have hevents : browser.appEvents (.touched (.willDisplay row)) = [.willDisplayLastRow] :=
        if_pos last
      rw [hevents]
      exact matches_displays h (hleft _ rfl) htrapped
  | presses top screen token => exact matches_presses h top screen token (hleft _ rfl) htrapped
  | answers taken answers => exact matches_answers h htrapped taken answers
  | runs queue => exact matches_runs h htrapped queue

theorem app_simulates (insertComma : String → String) :
    (browsing insertComma).Simulates bunjangClone (fun _ _ => True) Browser.appEvents
      fun browser app => Sound insertComma browser ∧
        (∃ deliveries, Browsed deliveries browser) ∧ Matches browser app := by
  rintro browser e browser' app ⟨hsound, ⟨deliveries, hbrowsed⟩, hmatches⟩ _ hstep
  obtain ⟨htrapped, hleft, hsteps⟩ := hsound.steps hstep
  obtain ⟨app', hrun, hmatches'⟩ :=
    matches_of_steps hmatches hsound hbrowsed htrapped hleft hsteps
  exact ⟨app', hrun, hsound.of_steps hsteps, ⟨_, hbrowsed.of_steps hsound hsteps⟩, hmatches'⟩

/-- The home tab is there after the launch, logged in or as a guest. -/
theorem launched_reaches_home (jwtToken : Option String) : ∃ events,
    bunjangClone.run (launched jwtToken) events =
      some ({ jwtToken := jwtToken : App }.goToMain) := by
  cases jwtToken with
  | some jwt => exact ⟨[.answered 0 (.autoLogin (.success ⟨true, 1000, "", ()⟩))], rfl⟩
  | none =>
      exact ⟨[.answered 0 (.autoLogin (.success ⟨false, 2000, "", ()⟩)), .goOutButtonPressed], rfl⟩

variable {jwtToken : Option String} {es : List Event}

/-- Every run of browsing is the rest of a run of the app after its launch. -/
theorem browsing_in_app (h : (browsing insertComma).run (opened jwtToken) es = some browser) :
    ∃ events app, bunjangClone.run (launched jwtToken)
      (events ++ (browsing insertComma).collect Browser.appEvents (opened jwtToken) es) =
        some app ∧ Matches browser app := by
  obtain ⟨events, hlaunch⟩ := launched_reaches_home jwtToken
  have hhome : Matches (opened jwtToken) ({ jwtToken := jwtToken : App }.goToMain) := by
    refine ⟨rfl, ?_, rfl, rfl, by simp [App.goToMain, App.homeViewWillAppear, App.send,
      App.showIndicator]⟩
    exact rooted_of_main {} rfl rfl rfl rfl
  obtain ⟨app, hrun, _, _, hmatches⟩ := (app_simulates insertComma).run
    ⟨sound_opened insertComma jwtToken, ⟨[], browsed_opened jwtToken⟩, hhome⟩
    (fun _ _ _ _ _ => trivial) h
  exact ⟨events, app, Machine.run_append hlaunch hrun, hmatches⟩

theorem dresses_in_app : ∃ browser,
    (browsing id).run (opened (some "jwt")) dresses = some browser ∧
      ∃ events app, bunjangClone.run (launched (some "jwt"))
        (events ++ (browsing id).collect Browser.appEvents (opened (some "jwt")) dresses) =
          some app ∧ Matches browser app :=
  ⟨_, rfl, browsing_in_app rfl⟩

end BunjangClone.Browsing
