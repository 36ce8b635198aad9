import BunjangClone.Session.Overlay

/-!
# No dead screen

A screen is dead when nothing is left to happen by itself and the window is empty or
lies under the overlay. Two invariants keep a run from it: the overlay is covered while
it is shown, and a window without a root still waits for the launch request. Both
survive every step that finds other cover when it uncovers the overlay and does not use
up the launch request on a refusal that is only printed. Each of the excluded steps is
enough to end in a dead screen.
-/

namespace BunjangClone.Session

open Reactive

variable {app app' : App} {bar : TabBar} {e : Event}
variable {ρ : Type} {commands : List (Command ρ)} {deliver : App → App}

/-- No request is in flight, and every queued block has run. -/
def AtRest (app : App) : Prop :=
  app.requests = [] ∧ app.mainQueue = []

/-- The window shows nothing, or nothing but the overlay. -/
def DeadScreen (app : App) : Prop :=
  app.root.isNone = true ∨ app.overlay = true

/-- At rest, a process that has not trapped does not show a dead screen. -/
def NeverDead (app : App) : Prop :=
  app.trapped = false → AtRest app → ¬ DeadScreen app

/-! ## The window's root -/

/-- Requests are only added, and a window with a root keeps one. -/
structure Grows (app app' : App) : Prop where
  requests : app.requests ⊆ app'.requests
  root : app.root.isSome = true → app'.root.isSome = true

theorem Grows.refl (app : App) : Grows app app :=
  ⟨List.Subset.refl _, id⟩

theorem Grows.trans {mid : App} (h : Grows app mid) (h' : Grows mid app') : Grows app app' :=
  ⟨List.Subset.trans h.requests h'.requests, fun hroot => h'.root (h.root hroot)⟩

theorem grows_send (app : App) (request : Request) : Grows app (app.send request) :=
  ⟨List.subset_append_left _ _, id⟩

theorem grows_goToMain (app : App) : Grows app app.goToMain :=
  ⟨List.subset_append_left _ _, fun _ => rfl⟩

theorem grows_goToLogin (app : App) : Grows app app.goToLogin :=
  ⟨List.Subset.refl _, fun _ => rfl⟩

theorem grows_sendWithToken (app : App) (request : Request) :
    Grows app (app.sendWithToken request) := by
  rw [App.sendWithToken]
  split
  · exact grows_send app request
  · exact grows_goToLogin app

theorem grows_deliver (h : Delivers deliver) (app : App) : Grows app (deliver app) := by
  cases h with
  | category vc => cases vc <;> exact ⟨List.Subset.refl _, id⟩
  | _ => exact ⟨List.Subset.refl _, id⟩

theorem grows_perform (hdeliver : ∀ app, Grows app (deliver app)) (app : App)
    (command : Command ρ) : Grows app (app.perform deliver command) := by
  cases command with
  | deliver result => exact hdeliver app
  | goToMain => exact grows_goToMain app
  | goToLogin => exact grows_goToLogin app
  | _ => exact ⟨List.Subset.refl _, id⟩

theorem grows_handle (hdeliver : ∀ app, Grows app (deliver app)) (app : App)
    (commands : List (Command ρ)) : Grows app (commands.foldl (App.perform deliver) app) := by
  induction commands generalizing app with
  | nil => exact Grows.refl app
  | cons command rest ih => exact (grows_perform hdeliver app command).trans (ih _)

theorem grows_complete {request : Request} {answer : Answer}
    (h : app.complete request answer = some app') : Grows app app' := by
  obtain ⟨_, commands, _, hdeliver, rfl, _⟩ := complete_cases h
  exact grows_handle (grows_deliver hdeliver) app commands

theorem grows_homeAppears (app : App) (bar : TabBar) : Grows app (app.homeAppears bar) := by
  rw [App.homeAppears]
  split
  · exact ⟨List.subset_append_left _ _, id⟩
  · exact Grows.refl app

theorem grows_setBar (app : App) (bar : TabBar) : Grows app (app.setBar bar) :=
  ⟨List.Subset.refl _, fun _ => rfl⟩

theorem grows_tabViewDidLoad (app : App) (tab : Tab) : Grows app (app.tabViewDidLoad tab) := by
  cases tab with
  | home => exact Grows.refl app
  | _ =>
      rw [App.tabViewDidLoad]
      split
      · exact Grows.refl app
      · exact grows_goToLogin app

theorem grows_selectTab (app : App) (bar : TabBar) (tab : Tab) :
    Grows app (app.selectTab bar tab) := by
  rw [App.selectTab]
  split
  · exact (grows_setBar app _).trans (grows_homeAppears _ _)
  · exact (grows_setBar app _).trans (grows_tabViewDidLoad _ tab)

theorem grows_showIndicator (app : App) : Grows app app.showIndicator :=
  ⟨List.Subset.refl _, id⟩

theorem grows_viewDidLoad (app : App) (screen : Screen) : Grows app (app.viewDidLoad screen) := by
  cases screen with
  | firstCategory => exact (grows_showIndicator app).trans (grows_send _ _)
  | subCategory =>
      exact ((grows_showIndicator app).trans (grows_sendWithToken _ _)).trans
        (grows_sendWithToken _ _)
  | secondSubCategory =>
      exact ((grows_showIndicator app).trans (grows_sendWithToken _ _)).trans
        (grows_sendWithToken _ _)
  | detail => exact grows_sendWithToken app _
  | registerCategory => exact (grows_showIndicator app).trans (grows_send _ _)
  | registerSubCategory => exact (grows_showIndicator app).trans (grows_sendWithToken _ _)
  | registerThirdCategory => exact (grows_showIndicator app).trans (grows_sendWithToken _ _)
  | setting => exact Grows.refl app
  | logoutDialog => exact Grows.refl app

theorem grows_kakaoLoggedIn (app : App) (login : KakaoLogin) (result : KakaoResult) :
    Grows app (app.kakaoLoggedIn login result) := by
  cases result with
  | error => cases login <;> exact ⟨List.Subset.refl _, id⟩
  | success oauthToken =>
      cases oauthToken with
      | none => cases login <;> exact grows_showIndicator app
      | some accessToken =>
          cases login <;> exact (grows_showIndicator app).trans (grows_send _ _)

theorem grows_logout (app : App) (accessToken : String) : Grows app (app.logout accessToken) := by
  rw [App.logout]
  split
  · exact grows_send app _
  · exact ⟨List.Subset.refl _, id⟩

theorem grows_logoutButtonPressed (app : App) (oauthToken : Option String) :
    Grows app (app.logoutButtonPressed oauthToken) := by
  cases oauthToken with
  | none => exact grows_showIndicator app
  | some accessToken =>
      exact (grows_showIndicator app).trans (grows_logout _ accessToken)

theorem grows_submitButtonPressed (app : App) (accepted : Bool) :
    Grows app (app.submitButtonPressed accepted) := by
  cases accepted <;> exact ⟨List.Subset.refl _, id⟩

theorem grows_submitted (app : App) (submission : Submission) :
    Grows app (app.submitted submission) := by
  cases submission with
  | failed => exact Grows.refl app
  | built =>
      rw [App.submitted, App.registerItem]
      split
      · exact grows_send app .registerItem
      · exact Grows.refl app
  | trapped => exact ⟨List.Subset.refl _, id⟩

theorem grows_stepMain (h : stepMain app bar e = some app') : Grows app app' := by
  obtain ⟨tab, _, _, rfl⟩ | ⟨screen, _, _, rfl⟩ | ⟨_, _, rfl⟩ | ⟨_, rfl⟩ | ⟨vc, _, _, _, rfl⟩ |
    ⟨_, _, rfl⟩ | ⟨_, rfl⟩ | ⟨_, rfl⟩ | ⟨accepted, _, rfl⟩ | ⟨oauthToken, _, _, rfl⟩ :=
      stepMain_cases h
  · exact grows_selectTab app bar tab
  · exact (grows_setBar app _).trans (grows_viewDidLoad _ screen)
  · exact (grows_setBar app _).trans (grows_homeAppears _ _)
  · exact (grows_showIndicator app).trans (grows_send _ _)
  · exact grows_sendWithToken app _
  · exact (grows_showIndicator app).trans (grows_sendWithToken _ _)
  · exact grows_goToMain app
  · exact ⟨List.Subset.refl _, id⟩
  · exact grows_submitButtonPressed app accepted
  · exact grows_logoutButtonPressed app oauthToken

/-- A window without a root is waiting for the launch request. -/
def Rooted (app : App) : Prop :=
  app.root.isSome = true ∨ ∃ accessToken, .autoLogin accessToken ∈ app.requests

theorem Rooted.grows (h : Rooted app) (hgrows : Grows app app') : Rooted app' := by
  obtain hroot | ⟨accessToken, hmem⟩ := h
  · exact .inl (hgrows.root hroot)
  · exact .inr ⟨accessToken, hgrows.requests hmem⟩

/-- The launch request sets a root, unless its answer is only printed. -/
theorem root_autoLogin {response : AutoLoginResponse}
    (h : (Answer.autoLogin response).onlyPrinted = false) :
    ((AutoLoginDataManager.autoLogin response).foldl (App.perform id) app).root.isSome =
      true := by
  cases response with
  | failure => rfl
  | success response =>
      by_cases hsuccess : response.isSuccess = true
      · simp only [AutoLoginDataManager.autoLogin, hsuccess, if_true]
        rfl
      · by_cases hmissing : response.code = 2000
        · simp [AutoLoginDataManager.autoLogin, hsuccess, hmissing, App.perform, App.goToLogin]
        · have hrejected : response.code = 3000 := by
            simpa [Answer.onlyPrinted, DataResponse.isRefused, hsuccess, hmissing] using h
          simp [AutoLoginDataManager.autoLogin, hsuccess, hrejected, App.perform, App.goToLogin]

theorem rooted_answered {index : Nat} {answer : Answer} {request : Request}
    {rest : List Request} (h : Rooted app) (hmatched : Matched app (.answered index answer))
    (htake : takeAt app.requests index = some (request, rest))
    (hcomplete : { app with requests := rest }.complete request answer = some app') :
    Rooted app' := by
  have hgrows := grows_complete hcomplete
  obtain hroot | ⟨accessToken, hmem⟩ := h
  · exact .inl (hgrows.root hroot)
  · rw [(takeAt_perm htake).mem_iff, List.mem_cons] at hmem
    obtain rfl | hmem := hmem
    · cases completes_of_complete hcomplete
      exact .inl (root_autoLogin hmatched.1)
    · exact .inr ⟨accessToken, hgrows.requests hmem⟩

theorem rooted_step (h : Rooted app) (hmatched : Matched app e)
    (hstep : step app e = some app') : Rooted app' := by
  obtain ⟨_, ⟨index, answer, request, rest, rfl, htake, hcomplete⟩ |
    ⟨index, result, login, rest, rfl, _, rfl⟩ | ⟨submission, rest, rfl, _, rfl⟩ |
    ⟨block, rest, rfl, _, rfl⟩ | ⟨_, huser⟩ | ⟨bar, _, huser⟩⟩ := step_cases hstep
  · exact rooted_answered h hmatched htake hcomplete
  · have hbefore : Rooted { app with kakaoLogins := rest } := h
    exact hbefore.grows (grows_kakaoLoggedIn _ login result)
  · have hbefore : Rooted { app with submissions := rest } := h
    exact hbefore.grows (grows_submitted _ submission)
  · cases block <;> exact h
  · obtain ⟨rfl, rfl⟩ | ⟨rfl, rfl⟩ := stepLogin_cases huser
    · exact h
    · exact h.grows (grows_goToMain app)
  · exact h.grows (grows_stepMain huser)

/-! ## Runs -/

/-- What keeps the screen from dying. -/
structure Live (app : App) : Prop where
  covered : Covered app
  rooted : Rooted app

theorem live_launched (jwtToken : Option String) : Live (launched jwtToken) :=
  ⟨fun _ hshown => Bool.noConfusion hshown, .inr ⟨jwtToken.getD "", List.mem_singleton_self _⟩⟩

theorem Live.step (h : Live app) (hmatched : Matched app e)
    (hstep : bunjangClone.step app e = some app') : Live app' :=
  ⟨covered_step h.covered hmatched hstep, rooted_step h.rooted hmatched hstep⟩

theorem Live.neverDead (h : Live app) : NeverDead app := by
  rintro htrapped ⟨hrequests, hqueue⟩ (hnone | hshown)
  · obtain hroot | ⟨accessToken, hmem⟩ := h.rooted
    · rw [Option.isNone_iff_eq_none] at hnone
      simp [hnone] at hroot
    · simp [hrequests] at hmem
  · have hcovered := h.covered htrapped hshown
    simp [App.covered, hrequests, hqueue] at hcovered

/-- In every run, from any keychain and with any answers, whose steps find other cover
when they uncover the overlay and leave the window a root, no state is a dead screen. -/
theorem never_dead_of_matched {jwtToken : Option String} {es : List Event}
    (h : bunjangClone.Meets Matched (launched jwtToken) es) :
    bunjangClone.Along NeverDead (launched jwtToken) es :=
  Machine.along_of_meets (live_launched jwtToken)
    (fun _ _ _ hlive hmatched hstep => hlive.step hmatched hstep) (fun _ hlive => hlive.neverDead) h

/-- The home feed ends, a category is browsed with one refused and one granted request, and
the recommendations fail. -/
def browsing : List Event :=
  [.answered 0 (.autoLogin (.success ⟨true, 1000, "", ()⟩)),
    .answered 0 (.homeItem (.success ⟨false, 3008, "", none⟩)), .openScreen .subCategory,
    .answered 0 (.subCategory (.success ⟨false, 4000, "", []⟩)),
    .answered 0 (.product (.success ⟨true, 1000, "", some []⟩)), .runBlock,
    .selectTab .following, .selectRecommend, .answered 0 (.recommend .failure)]

theorem never_dead_while_browsing :
    (∃ app, bunjangClone.run (launched (some "")) browsing = some app ∧ AtRest app) ∧
      bunjangClone.Along NeverDead (launched (some "")) browsing :=
  ⟨⟨_, rfl, rfl, rfl⟩, never_dead_of_matched (by decide)⟩

/-- The first page of the home feed is refused with a code the handler only prints. -/
theorem refused_page_leaves_overlay :
    ¬ ∀ jwtToken es, bunjangClone.Along NeverDead (launched jwtToken) es := by
  intro halways
  have hrun : ∃ app, bunjangClone.run (launched (some ""))
      [.answered 0 (.autoLogin (.success ⟨true, 1000, "", ()⟩)),
        .answered 0 (.homeItem (.success ⟨false, 4000, "", none⟩))] = some app ∧
      app.trapped = false ∧ AtRest app ∧ app.overlay = true := ⟨_, rfl, rfl, ⟨rfl, rfl⟩, rfl⟩
  obtain ⟨app, hrun, htrapped, hrest, hshown⟩ := hrun
  exact (halways _ _).last hrun htrapped hrest (.inr hshown)

/-! ## The condition cannot be spared -/

/-- A refusal that the handler of the request only prints. -/
def Request.refusal : Request → Answer
  | .autoLogin _ => .autoLogin (.success ⟨false, 0, "", ()⟩)
  | .login _ => .login (.success ⟨false, 0, "", ⟨0, ""⟩⟩)
  | .logout _ _ => .logout (.success ⟨false, 0, "", ()⟩)
  | .homeItem => .homeItem (.success ⟨false, 0, "", none⟩)
  | .category _ => .category (.success ⟨false, 0, "", []⟩)
  | .subCategory _ => .subCategory (.success ⟨false, 0, "", []⟩)
  | .product _ => .product (.success ⟨false, 0, "", none⟩)
  | .recommend => .recommend (.success ⟨false, 0, "", []⟩)
  | .detail => .detail (.success ⟨false, 0, "", ()⟩)
  | .registerItem => .registerItem (.success ⟨false, 0, "", none⟩)

theorem complete_refusal (app : App) (request : Request) :
    app.complete request request.refusal = some app := by
  cases request with
  | subCategory vc => cases vc <;> rfl
  | product vc => cases vc <;> rfl
  | _ => rfl

/-- Refusing everything in flight changes nothing else. -/
theorem refuse_all (htrapped : app.trapped = false) (requests : List Request)
    (hdown : requests.any Request.takesDown = false)
    (hlaunch : ∀ accessToken, .autoLogin accessToken ∉ requests) :
    bunjangClone.run { app with requests := requests }
        (requests.map fun request => .answered 0 request.refusal) =
          some { app with requests := [] } ∧
      bunjangClone.Meets Matched { app with requests := requests }
        (requests.map fun request => .answered 0 request.refusal) := by
  induction requests with
  | nil => exact ⟨rfl, Machine.meets_nil⟩
  | cons request rest ih =>
      simp only [List.any_cons, Bool.or_eq_false_iff] at hdown
      obtain ⟨hrun, hmeets⟩ := ih hdown.2 fun accessToken hmem =>
        hlaunch accessToken (List.mem_cons_of_mem _ hmem)
      have hstep : bunjangClone.step { app with requests := request :: rest }
          (.answered 0 request.refusal) = some { app with requests := rest } := by
        refine (step_answered ?_ (takeAt_zero request rest)).trans (complete_refusal _ request)
        exact htrapped
      refine ⟨Machine.run_cons_iff.mpr ⟨_, hstep, hrun⟩,
        Machine.meets_cons.mpr ⟨⟨?_, ?_⟩, fun t ht => ?_⟩⟩
      · cases request with
        | autoLogin accessToken => exact absurd List.mem_cons_self (hlaunch accessToken)
        | _ => rfl
      · simp [App.uncovers, hdown.1]
      · obtain rfl := Option.some.inj (hstep.symm.trans ht)
        exact hmeets

/-- Running what is queued changes nothing else, if no block takes the overlay down. -/
theorem run_queued (htrapped : app.trapped = false) (mainQueue : List Block)
    (hdown : mainQueue.any Block.takesDown = false) :
    bunjangClone.run { app with mainQueue := mainQueue } (mainQueue.map fun _ => .runBlock) =
        some { app with mainQueue := [] } ∧
      bunjangClone.Meets Matched { app with mainQueue := mainQueue }
        (mainQueue.map fun _ => .runBlock) := by
  induction mainQueue with
  | nil => exact ⟨rfl, Machine.meets_nil⟩
  | cons block rest ih =>
      simp only [List.any_cons, Bool.or_eq_false_iff] at hdown
      obtain ⟨hrun, hmeets⟩ := ih hdown.2
      have hstep : bunjangClone.step { app with mainQueue := block :: rest } .runBlock =
          some { app with mainQueue := rest } := by
        cases block with
        | setProduct => exact Bool.noConfusion hdown.1
        | setCategory =>
            have hrunning : { app with mainQueue := .setCategory :: rest }.trapped = false :=
              htrapped
            exact step_runBlock hrunning rfl
      refine ⟨Machine.run_cons_iff.mpr ⟨_, hstep, hrun⟩,
        Machine.meets_cons.mpr ⟨⟨rfl, fun huncovers => Bool.noConfusion huncovers⟩,
          fun t ht => ?_⟩⟩
      obtain rfl := Option.some.inj (hstep.symm.trans ht)
      exact hmeets

theorem deliverOrAlert_of_refused {title : String} {response : DataResponse ρ}
    (h : (response.isRefused fun _ => true) = true) : deliverOrAlert title response = [] := by
  obtain ⟨body, rfl, hsuccess, _⟩ := DataResponse.isRefused_iff.mp h
  simp [deliverOrAlert, hsuccess]

theorem handleProduct_of_refused {response : ProductResponse} (vc : Screen)
    (h : (Answer.product response).onlyPrinted = true) : vc.handleProduct response = [] := by
  have hhandler : vc.handleProduct response = ProductDataManager.getSubCategory response := by
    cases vc <;> rfl
  rw [Answer.onlyPrinted, DataResponse.isRefused_iff] at h
  obtain ⟨body, rfl, hsuccess, hcode⟩ := h
  rw [hhandler]
  simp [ProductDataManager.getSubCategory, hsuccess, of_decide_eq_true hcode]

/-- A handler that only prints leaves the app as it is. -/
theorem eq_of_onlyPrinted {request : Request} {answer : Answer}
    (h : app.complete request answer = some app') (hprinted : answer.onlyPrinted = true) :
    app' = app := by
  cases completes_of_complete h with
  | autoLogin accessToken response =>
      rw [Answer.onlyPrinted, DataResponse.isRefused_iff] at hprinted
      obtain ⟨body, rfl, hsuccess, hcode⟩ := hprinted
      obtain ⟨hmissing, hrejected⟩ := of_decide_eq_true hcode
      simp [AutoLoginDataManager.autoLogin, hsuccess, hmissing, hrejected]
  | login accessToken response =>
      rw [Answer.onlyPrinted, DataResponse.isRefused_iff] at hprinted
      obtain ⟨body, rfl, hsuccess, _⟩ := hprinted
      simp [LoginDataManager.login, hsuccess]
  | logout accessToken jwt response =>
      rw [Answer.onlyPrinted, DataResponse.isRefused_iff] at hprinted
      obtain ⟨body, rfl, hsuccess, _⟩ := hprinted
      simp [LogoutDataManager.logout, hsuccess]
  | homeItem response =>
      rw [Answer.onlyPrinted, DataResponse.isRefused_iff] at hprinted
      obtain ⟨body, rfl, hsuccess, hcode⟩ := hprinted
      simp [HomeItemDataManager.getHomeItem, hsuccess, of_decide_eq_true hcode]
  | category vc response =>
      rw [CategoryDataManager.getCategory, deliverOrAlert_of_refused hprinted, List.foldl_nil]
  | subCategory vc response =>
      have hhandler : vc.handleSubCategory response = [] := by
        cases vc <;> exact deliverOrAlert_of_refused hprinted
      rw [hhandler, List.foldl_nil]
  | product vc response => rw [handleProduct_of_refused vc hprinted, List.foldl_nil]
  | recommend response =>
      rw [RecommendDataManager.getRecommend, deliverOrAlert_of_refused hprinted, List.foldl_nil]
  | detail response =>
      rw [DetailDataManager.getDetail, deliverOrAlert_of_refused hprinted, List.foldl_nil]
  | registerItem response =>
      rw [Answer.onlyPrinted, DataResponse.isRefused_iff] at hprinted
      obtain ⟨body, rfl, hsuccess, _⟩ := hprinted
      simp [RegisterDataManager.registerItem, hsuccess]

theorem sendWithToken_of_no_token (h : app.jwtToken = none) (request : Request) :
    app.sendWithToken request = app.goToLogin := by
  rw [App.sendWithToken, h]

/-- Without a token, the screens that show the overlay for a request leave it over the
login screen. -/
theorem viewDidLoad_of_no_token {screen : Screen} (hshows : screen.showsForToken = true)
    (h : app.jwtToken = none) : app.viewDidLoad screen = app.showIndicator.goToLogin := by
  have htoken : app.showIndicator.jwtToken = none := h
  have hlogin : app.showIndicator.goToLogin.jwtToken = none := h
  cases screen with
  | subCategory =>
      rw [App.viewDidLoad, sendWithToken_of_no_token htoken, sendWithToken_of_no_token hlogin]
      rfl
  | secondSubCategory =>
      rw [App.viewDidLoad, sendWithToken_of_no_token htoken, sendWithToken_of_no_token hlogin]
      rfl
  | registerSubCategory => rw [App.viewDidLoad, sendWithToken_of_no_token htoken]
  | registerThirdCategory => rw [App.viewDidLoad, sendWithToken_of_no_token htoken]
  | _ => cases hshows

/-- A step that uncovers the overlay, and finds no other cover, leaves it shown with
nothing to take it down. -/
theorem bare_of_uncovers (hstep : step app e = some app') (huncovers : app.uncovers e = true)
    (hbare : (app.without e).covered = false) :
    app'.trapped = false ∧ app'.overlay = true ∧ app'.covered = false ∧
      app'.requests = (app.without e).requests := by
  obtain ⟨htrapped, ⟨index, answer, request, rest, rfl, htake, hcomplete⟩ |
    ⟨index, result, login, rest, rfl, _, rfl⟩ | ⟨submission, rest, rfl, _, rfl⟩ |
    ⟨block, rest, rfl, _, rfl⟩ | ⟨_, huser⟩ | ⟨bar, _, huser⟩⟩ := step_cases hstep
  · obtain ⟨_, rfl⟩ := takeAt_eq_some_iff.mp htake
    simp only [App.uncovers, Bool.and_eq_true] at huncovers
    obtain rfl := eq_of_onlyPrinted hcomplete huncovers.1.2
    exact ⟨htrapped, huncovers.1.1, hbare, rfl⟩
  · cases result with
    | error => cases huncovers
    | success oauthToken =>
        cases oauthToken with
        | some accessToken => cases huncovers
        | none => cases login <;> exact ⟨htrapped, rfl, hbare, rfl⟩
  · cases huncovers
  · cases huncovers
  · obtain ⟨rfl, _⟩ | ⟨rfl, _⟩ := stepLogin_cases huser <;> cases huncovers
  · obtain ⟨tab, rfl, _⟩ | ⟨screen, rfl, _, rfl⟩ | ⟨rfl, _⟩ | ⟨rfl, _⟩ | ⟨vc, rfl, _⟩ |
      ⟨rfl, _, rfl⟩ | ⟨rfl, _⟩ | ⟨rfl, _⟩ | ⟨accepted, rfl, _⟩ | ⟨oauthToken, rfl, _, rfl⟩ :=
        stepMain_cases huser
    · cases huncovers
    · simp only [App.uncovers, Bool.and_eq_true, Bool.not_eq_true'] at huncovers
      have htoken : app.jwtToken = none := by simpa [App.isLogin] using huncovers.2
      have hbar : (app.setBar (bar.setStack (screen :: bar.stack))).jwtToken = none := htoken
      rw [App.openScreen, viewDidLoad_of_no_token huncovers.1 hbar]
      exact ⟨htrapped, rfl, hbare, rfl⟩
    · cases huncovers
    · cases huncovers
    · cases huncovers
    · have htoken : app.showIndicator.jwtToken = none := by
        simpa [App.uncovers, App.isLogin] using huncovers
      rw [sendWithToken_of_no_token htoken]
      exact ⟨htrapped, rfl, hbare, rfl⟩
    · cases huncovers
    · cases huncovers
    · cases huncovers
    · cases oauthToken with
      | some accessToken => cases huncovers
      | none => exact ⟨htrapped, rfl, hbare, rfl⟩

/-- With no cover left, steps that meet the condition lead to rest with the window as it is. -/
theorem dead_screen_follows (htrapped : app.trapped = false) (huncovered : app.covered = false)
    (hlaunch : ∀ accessToken, .autoLogin accessToken ∉ app.requests) (hdead : DeadScreen app) :
    ∃ fs app', bunjangClone.Meets Matched app fs ∧ bunjangClone.run app fs = some app' ∧
      app'.trapped = false ∧ AtRest app' ∧ DeadScreen app' := by
  simp only [App.covered, Bool.or_eq_false_iff] at huncovered
  obtain ⟨hrun, hmeets⟩ := refuse_all htrapped app.requests huncovered.1 hlaunch
  have hrunning : { app with requests := [] }.trapped = false := htrapped
  have hqueue := run_queued hrunning app.mainQueue huncovered.2
  refine ⟨_, _, Machine.meets_append.mpr ⟨hmeets, fun t ht => ?_⟩,
    Machine.run_append hrun hqueue.1, htrapped, ⟨rfl, rfl⟩, hdead⟩
  obtain rfl := Option.some.inj (hrun.symm.trans ht)
  exact hqueue.2

/-- Once the launch request is answered, one step that uncovers the overlay without other
cover is enough: steps that all meet the condition lead on to a dead screen. -/
theorem dead_screen_of_uncovers (hlaunch : ∀ accessToken, .autoLogin accessToken ∉ app.requests)
    (hstep : step app e = some app') (huncovers : app.uncovers e = true)
    (hbare : (app.without e).covered = false) :
    ∃ fs last, bunjangClone.Meets Matched app' fs ∧ bunjangClone.run app' fs = some last ∧
      last.trapped = false ∧ AtRest last ∧ DeadScreen last := by
  obtain ⟨htrapped, hshown, hcovered, hrequests⟩ := bare_of_uncovers hstep huncovers hbare
  refine dead_screen_follows htrapped hcovered (fun accessToken hmem => ?_) (.inr hshown)
  rw [hrequests] at hmem
  cases e with
  | answered index answer => exact hlaunch accessToken (List.mem_of_mem_eraseIdx hmem)
  | _ => exact hlaunch accessToken hmem

/-- A launch request met with a refusal that is only printed leaves the window empty. -/
theorem dead_screen_of_leavesNoRoot {jwtToken : Option String}
    (hstep : step (launched jwtToken) e = some app') (h : e.leavesNoRoot = true) :
    AtRest app' ∧ DeadScreen app' := by
  obtain ⟨_, ⟨index, answer, request, rest, rfl, htake, hcomplete⟩ |
    ⟨index, result, login, rest, rfl, _, rfl⟩ | ⟨submission, rest, rfl, _, rfl⟩ |
    ⟨block, rest, rfl, _, rfl⟩ | ⟨hroot, _⟩ | ⟨bar, hroot, _⟩⟩ := step_cases hstep
  · cases answer with
    | autoLogin response =>
        obtain rfl := eq_of_onlyPrinted hcomplete h
        have hrest : rest = [] := by
          simpa [launched] using (takeAt_perm htake).length_eq.symm
        exact ⟨⟨hrest, rfl⟩, .inl rfl⟩
    | _ => cases h
  · cases h
  · cases h
  · cases h
  · cases hroot
  · cases hroot

end BunjangClone.Session
