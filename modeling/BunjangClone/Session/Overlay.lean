import BunjangClone.Session.App

/-!
# What takes the overlay down

`showIndicator` is called where a request is about to be sent, and the matching
`dismissIndicator` by whoever handles the answer. An overlay that is shown is covered
when a request that takes it down is in flight, or a block that does is queued. A step
uncovers it by showing it without sending anything, or by answering such a request with
a refusal its handler only prints; no other step does.
-/

namespace BunjangClone.Session

open Reactive

variable {app app' : App} {bar : TabBar} {e : Event}

/-- The controllers whose `setCategory` dismisses the overlay itself. -/
def Screen.setCategoryDismisses : Screen → Bool
  | .firstCategory | .registerCategory | .registerSubCategory | .registerThirdCategory => true
  | _ => false

/-- Answering the request takes the overlay down, unless the answer is only printed. -/
def Request.takesDown : Request → Bool
  | .login _ | .logout _ _ | .homeItem | .product _ | .recommend | .registerItem => true
  | .category vc | .subCategory vc => vc.setCategoryDismisses
  | .autoLogin _ | .detail => false

def Block.takesDown : Block → Bool
  | .setProduct => true
  | .setCategory => false

/-- What is in flight or queued will take the overlay down. -/
def App.covered (app : App) : Bool :=
  app.requests.any Request.takesDown || app.mainQueue.any Block.takesDown

/-- The refusals a handler does nothing about but print the message. -/
def Answer.onlyPrinted : Answer → Bool
  | .autoLogin response => response.isRefused fun code => code ≠ 2000 ∧ code ≠ 3000
  | .homeItem response => response.isRefused fun code => code ≠ 3008
  | .product response => response.isRefused fun code => code ≠ 3008
  | .login response => response.isRefused fun _ => true
  | .logout response => response.isRefused fun _ => true
  | .category response => response.isRefused fun _ => true
  | .subCategory response => response.isRefused fun _ => true
  | .recommend response => response.isRefused fun _ => true
  | .detail response => response.isRefused fun _ => true
  | .registerItem response => response.isRefused fun _ => true

/-- The screens that show the overlay before a request that needs a token. -/
def Screen.showsForToken : Screen → Bool
  | .subCategory | .secondSubCategory | .registerSubCategory | .registerThirdCategory => true
  | _ => false

/-- The launch request is met with a refusal that is only printed. -/
def Event.leavesNoRoot : Event → Bool
  | .answered _ (.autoLogin response) => (Answer.autoLogin response).onlyPrinted
  | _ => false

/-- The step shows the overlay without sending a request, or uses up a request that was
to take it down. -/
def App.uncovers (app : App) : Event → Bool
  | .openScreen screen => screen.showsForToken && !app.isLogin
  | .selectRecommend => !app.isLogin
  | .kakaoLoggedIn _ (.success none) => true
  | .logoutButtonPressed none => true
  | .answered index answer =>
      app.overlay && answer.onlyPrinted && app.requests[index]?.any Request.takesDown
  | _ => false

/-- The state without the request the step answers. -/
def App.without (app : App) : Event → App
  | .answered index _ => { app with requests := app.requests.eraseIdx index }
  | _ => app

/-- A step that uncovers the overlay finds other cover. -/
def Matched (app : App) (e : Event) : Prop :=
  e.leavesNoRoot = false ∧ (app.uncovers e = true → (app.without e).covered = true)

instance (app : App) : DecidablePred (Matched app) :=
  fun _ => inferInstanceAs (Decidable (_ ∧ _))

/-! ## Operations -/

/-- An overlay that is shown is covered. -/
def Covered (app : App) : Prop :=
  app.trapped = false → app.overlay = true → app.covered = true

theorem covered_dismissIndicator (app : App) : Covered app.dismissIndicator := by
  intro _ hshown
  cases hshown

theorem covered_send {request : Request} (h : request.takesDown = true) (app : App) :
    Covered (app.send request) := by
  intro _ _
  simp [App.covered, App.send, h]

theorem covered_queue (app : App) : Covered (app.queue .setProduct) := by
  intro _ _
  simp [App.covered, App.queue, Block.takesDown]

theorem covered_trap (app : App) : Covered { app with trapped := true } := by
  intro htrapped
  cases htrapped

theorem covered_goToMain (app : App) : Covered app.goToMain :=
  covered_send rfl _

theorem Covered.send (h : Covered app) (request : Request) : Covered (app.send request) := by
  intro htrapped hshown
  have hcovered := h htrapped hshown
  simp only [App.covered, Bool.or_eq_true] at hcovered
  simp only [App.covered, App.send, List.any_append, Bool.or_eq_true]
  exact hcovered.imp_left Or.inl

theorem Covered.queue (h : Covered app) (block : Block) : Covered (app.queue block) := by
  intro htrapped hshown
  have hcovered := h htrapped hshown
  simp only [App.covered, Bool.or_eq_true] at hcovered
  simp only [App.covered, App.queue, List.any_append, Bool.or_eq_true]
  exact hcovered.imp_right Or.inl

theorem Covered.sendWithToken (h : Covered app) (request : Request) :
    Covered (app.sendWithToken request) := by
  rw [App.sendWithToken]
  split
  · exact h.send request
  · exact h

/-- With a token, the request covers; without one, only what was there before does. -/
theorem covered_sendWithToken {request : Request} (hdown : request.takesDown = true)
    (h : app.isLogin = false → Covered app) : Covered (app.sendWithToken request) := by
  rw [App.sendWithToken]
  split
  · exact covered_send hdown app
  · rename_i htoken
    exact h (by simp [App.isLogin, htoken])

/-! ## Handlers -/

variable {ρ : Type} {commands : List (Command ρ)} {deliver : App → App}

/-- The commands that leave nothing uncovered, whatever was there before. -/
def Settles : Command ρ → Prop
  | .presentAlert _ | .dismissIndicator | .goToMain | .trap => True
  | _ => False

theorem Settles.covered {command : Command ρ} (h : Settles command) (app : App) :
    Covered (app.perform deliver command) := by
  cases command with
  | presentAlert title => exact covered_dismissIndicator app
  | dismissIndicator => exact covered_dismissIndicator app
  | goToMain => exact covered_goToMain app
  | trap => exact covered_trap app
  | _ => cases h

theorem Covered.perform (hdeliver : ∀ app, Covered app → Covered (deliver app))
    (h : Covered app) (command : Command ρ) : Covered (app.perform deliver command) := by
  cases command with
  | deliver result => exact hdeliver app h
  | presentAlert title => exact covered_dismissIndicator app
  | presentBottomAlert message => exact h
  | dismissIndicator => exact covered_dismissIndicator app
  | goToMain => exact covered_goToMain app
  | goToLogin => exact h
  | setToken jwt => exact h
  | deleteToken => exact h
  | trap => exact covered_trap app

theorem Covered.handle (hdeliver : ∀ app, Covered app → Covered (deliver app))
    (h : Covered app) : Covered (commands.foldl (App.perform deliver) app) := by
  induction commands generalizing app with
  | nil => exact h
  | cons command rest ih => exact ih (h.perform hdeliver command)

/-- A handler that performs a settling command, or delivers to a controller that settles,
covers what it leaves behind. -/
theorem covered_handle (hdeliver : ∀ app, Covered app → Covered (deliver app))
    (h : ∃ command ∈ commands, ∀ app : App, Covered (app.perform deliver command)) :
    Covered (commands.foldl (App.perform deliver) app) := by
  obtain ⟨command, hmem, hcovers⟩ := h
  obtain ⟨before, after, rfl⟩ := List.append_of_mem hmem
  rw [List.foldl_append, List.foldl_cons]
  exact (hcovers _).handle hdeliver

/-- A list endpoint whose answer is not just printed delivers it or raises an alert. -/
theorem acts_deliverOrAlert {title : String} {response : DataResponse ρ}
    (h : (response.isRefused fun _ => true) = false) :
    (∃ result, .deliver result ∈ deliverOrAlert title response) ∨
      ∃ command ∈ deliverOrAlert title response, Settles command := by
  cases response with
  | failure => exact .inr ⟨.presentAlert title, List.mem_singleton_self _, trivial⟩
  | success response =>
      have hsuccess : response.isSuccess = true := by simpa [DataResponse.isRefused] using h
      exact .inl ⟨response.result, by simp [deliverOrAlert, hsuccess]⟩

theorem acts_deliverUnwrapped (result : Option ρ) :
    (∃ result', .deliver result' ∈ deliverUnwrapped result) ∨
      ∃ command ∈ deliverUnwrapped result, Settles command := by
  cases result with
  | none => exact .inr ⟨.trap, List.mem_singleton_self _, trivial⟩
  | some result => exact .inl ⟨result, List.mem_singleton_self _⟩

theorem acts_getHomeItem {response : HomeItemResponse}
    (h : (Answer.homeItem response).onlyPrinted = false) :
    (∃ result, .deliver result ∈ HomeItemDataManager.getHomeItem response) ∨
      ∃ command ∈ HomeItemDataManager.getHomeItem response, Settles command := by
  cases response with
  | failure => exact .inr ⟨.presentAlert _, List.mem_singleton_self _, trivial⟩
  | success response =>
      by_cases hsuccess : response.isSuccess = true
      · simpa [HomeItemDataManager.getHomeItem, hsuccess] using
          acts_deliverUnwrapped response.result
      · have hcode : response.code = 3008 := by
          simpa [Answer.onlyPrinted, DataResponse.isRefused, hsuccess] using h
        refine .inr ⟨.dismissIndicator, ?_, trivial⟩
        simp [HomeItemDataManager.getHomeItem, hsuccess, hcode]

theorem acts_handleProduct {response : ProductResponse} (vc : Screen)
    (h : (Answer.product response).onlyPrinted = false) :
    (∃ result, .deliver result ∈ vc.handleProduct response) ∨
      ∃ command ∈ vc.handleProduct response, Settles command := by
  have hhandler : vc.handleProduct response = ProductDataManager.getSubCategory response := by
    cases vc <;> rfl
  rw [hhandler]
  cases response with
  | failure => exact .inr ⟨.presentAlert _, List.mem_singleton_self _, trivial⟩
  | success response =>
      by_cases hsuccess : response.isSuccess = true
      · simpa [ProductDataManager.getSubCategory, hsuccess] using
          acts_deliverUnwrapped response.result
      · have hcode : response.code = 3008 := by
          simpa [Answer.onlyPrinted, DataResponse.isRefused, hsuccess] using h
        refine .inr ⟨.presentAlert response.message, ?_, trivial⟩
        simp [ProductDataManager.getSubCategory, hsuccess, hcode]

theorem acts_handleSubCategory {response : SubCategoryResponse} (vc : Screen)
    (h : (Answer.subCategory response).onlyPrinted = false) :
    (∃ result, .deliver result ∈ vc.handleSubCategory response) ∨
      ∃ command ∈ vc.handleSubCategory response, Settles command := by
  have hhandler : vc.handleSubCategory response = deliverOrAlert connectionAlert response := by
    cases vc <;> rfl
  rw [hhandler]
  exact acts_deliverOrAlert h

theorem acts_login {response : LoginResponse}
    (h : (Answer.login response).onlyPrinted = false) :
    ∃ command ∈ LoginDataManager.login response, Settles command := by
  cases response with
  | failure => exact ⟨.presentAlert _, List.mem_singleton_self _, trivial⟩
  | success response =>
      have hsuccess : response.isSuccess = true := by
        simpa [Answer.onlyPrinted, DataResponse.isRefused] using h
      exact ⟨.goToMain, by simp [LoginDataManager.login, hsuccess], trivial⟩

theorem acts_logout {response : LogoutResponse}
    (h : (Answer.logout response).onlyPrinted = false) :
    ∃ command ∈ LogoutDataManager.logout response, Settles command := by
  cases response with
  | failure => exact ⟨.presentAlert _, List.mem_singleton_self _, trivial⟩
  | success response =>
      have hsuccess : response.isSuccess = true := by
        simpa [Answer.onlyPrinted, DataResponse.isRefused] using h
      exact ⟨.goToMain, by simp [LogoutDataManager.logout, hsuccess], trivial⟩

theorem acts_registerItem {response : RegisterResponse}
    (h : (Answer.registerItem response).onlyPrinted = false) :
    ∃ command ∈ RegisterDataManager.registerItem response, Settles command := by
  cases response with
  | failure => exact ⟨.presentAlert _, List.mem_singleton_self _, trivial⟩
  | success response =>
      have hsuccess : response.isSuccess = true := by
        simpa [Answer.onlyPrinted, DataResponse.isRefused] using h
      exact ⟨.goToMain, by simp [RegisterDataManager.registerItem, hsuccess], trivial⟩

theorem Covered.setCategory (h : Covered app) (vc : Screen) : Covered (app.setCategory vc) := by
  cases vc with
  | subCategory => exact h.queue .setCategory
  | secondSubCategory => exact h.queue .setCategory
  | detail => exact h
  | setting => exact h
  | logoutDialog => exact h
  | _ => exact covered_dismissIndicator app

theorem covered_setCategory {vc : Screen} (h : vc.setCategoryDismisses = true) (app : App) :
    Covered (app.setCategory vc) := by
  cases vc with
  | firstCategory => exact covered_dismissIndicator app
  | registerCategory => exact covered_dismissIndicator app
  | registerSubCategory => exact covered_dismissIndicator app
  | registerThirdCategory => exact covered_dismissIndicator app
  | _ => cases h

/-- A handler that delivers or settles, given a controller that settles what is delivered. -/
theorem covered_of_acts (hdeliver : ∀ app, Covered (deliver app))
    (h : (∃ result, .deliver result ∈ commands) ∨ ∃ command ∈ commands, Settles command) :
    Covered (commands.foldl (App.perform deliver) app) := by
  refine covered_handle (fun app _ => hdeliver app) ?_
  obtain ⟨result, hmem⟩ | ⟨command, hmem, hsettles⟩ := h
  · exact ⟨.deliver result, hmem, hdeliver⟩
  · exact ⟨command, hmem, hsettles.covered⟩

theorem covered_deliver (hdeliver : Delivers deliver) (h : Covered app) :
    Covered (deliver app) := by
  cases hdeliver with
  | nothing => exact h
  | product => exact h.queue .setProduct
  | category vc => exact h.setCategory vc
  | recommend => exact covered_dismissIndicator app

/-- A completion handler uncovers nothing. -/
theorem Covered.complete {request : Request} {answer : Answer} (h : Covered app)
    (hcomplete : app.complete request answer = some app') : Covered app' := by
  obtain ⟨_, _, _, hdeliver, rfl, _⟩ := complete_cases hcomplete
  exact h.handle fun _ => covered_deliver hdeliver

/-- The handler of a request that is to take the overlay down covers what was not
covered before, unless it only prints. -/
theorem covered_complete {request : Request} {answer : Answer}
    (h : app.complete request answer = some app') (hdown : request.takesDown = true)
    (hacts : answer.onlyPrinted = false) : Covered app' := by
  cases completes_of_complete h with
  | autoLogin accessToken response => cases hdown
  | login accessToken response =>
      obtain ⟨command, hmem, hsettles⟩ := acts_login hacts
      exact covered_handle (fun _ h => h) ⟨command, hmem, hsettles.covered⟩
  | logout accessToken jwt response =>
      obtain ⟨command, hmem, hsettles⟩ := acts_logout hacts
      exact covered_handle (fun _ h => h) ⟨command, hmem, hsettles.covered⟩
  | homeItem response => exact covered_of_acts covered_queue (acts_getHomeItem hacts)
  | category vc response =>
      exact covered_of_acts (covered_setCategory hdown) (acts_deliverOrAlert hacts)
  | subCategory vc response =>
      exact covered_of_acts (covered_setCategory hdown) (acts_handleSubCategory vc hacts)
  | product vc response => exact covered_of_acts covered_queue (acts_handleProduct vc hacts)
  | recommend response =>
      exact covered_of_acts covered_dismissIndicator (acts_deliverOrAlert hacts)
  | detail response => cases hdown
  | registerItem response =>
      obtain ⟨command, hmem, hsettles⟩ := acts_registerItem hacts
      exact covered_handle (fun _ h => h) ⟨command, hmem, hsettles.covered⟩

/-! ## Actions of the user -/

theorem Covered.setBar (h : Covered app) (bar : TabBar) : Covered (app.setBar bar) := h

theorem Covered.homeAppears (h : Covered app) (bar : TabBar) : Covered (app.homeAppears bar) := by
  rw [App.homeAppears]
  split
  · exact covered_send rfl _
  · exact h

theorem Covered.selectTab (h : Covered app) (bar : TabBar) (tab : Tab) :
    Covered (app.selectTab bar tab) := by
  rw [App.selectTab]
  split
  · exact (h.setBar _).homeAppears _
  · cases tab with
    | home => exact h
    | _ =>
        rw [App.tabViewDidLoad]
        split <;> exact h

/-- A screen opened with a token covers what it shows; one opened without a token needs
cover from before only if it shows the overlay. -/
theorem covered_openScreen {screen : Screen} (h : Covered app)
    (hmatched : screen.showsForToken = true → app.isLogin = false → app.covered = true) :
    Covered (app.openScreen bar screen) := by
  have hother : screen.showsForToken = true → app.isLogin = false →
      Covered (app.setBar (bar.setStack (screen :: bar.stack))).showIndicator :=
    fun hshows htoken _ _ => hmatched hshows htoken
  have hlogin : ∀ request,
      ((app.setBar (bar.setStack (screen :: bar.stack))).showIndicator.sendWithToken
        request).isLogin = app.isLogin := by
    intro request
    rw [App.sendWithToken]
    split <;> rfl
  cases screen with
  | firstCategory => exact covered_send rfl _
  | subCategory =>
      refine covered_sendWithToken rfl fun htoken => ?_
      exact (hother rfl (by rwa [hlogin] at htoken)).sendWithToken _
  | secondSubCategory =>
      refine covered_sendWithToken rfl fun htoken => ?_
      exact (hother rfl (by rwa [hlogin] at htoken)).sendWithToken _
  | detail => exact (h.setBar _).sendWithToken _
  | registerCategory => exact covered_send rfl _
  | registerSubCategory => exact covered_sendWithToken rfl (hother rfl)
  | registerThirdCategory => exact covered_sendWithToken rfl (hother rfl)
  | setting => exact h
  | logoutDialog => exact h

theorem covered_kakaoLoggedIn {login : KakaoLogin} {result : KakaoResult} (h : Covered app)
    (hmatched : result = .success none → app.covered = true) :
    Covered (app.kakaoLoggedIn login result) := by
  cases result with
  | error => cases login <;> exact h
  | success oauthToken =>
      cases oauthToken with
      | none => cases login <;> exact fun _ _ => hmatched rfl
      | some accessToken => cases login <;> exact covered_send rfl _

theorem covered_logoutButtonPressed {oauthToken : Option String}
    (hmatched : oauthToken = none → app.covered = true) :
    Covered (app.logoutButtonPressed oauthToken) := by
  cases oauthToken with
  | none => exact fun _ _ => hmatched rfl
  | some accessToken =>
      rw [App.logoutButtonPressed, App.logout]
      split
      · exact covered_send rfl _
      · exact covered_trap _

theorem Covered.submitButtonPressed (h : Covered app) (accepted : Bool) :
    Covered (app.submitButtonPressed accepted) := by
  cases accepted with
  | false => exact covered_dismissIndicator app
  | true => exact h

theorem Covered.submitted (h : Covered app) (submission : Submission) :
    Covered (app.submitted submission) := by
  cases submission with
  | failed => exact h
  | built =>
      rw [App.submitted, App.registerItem]
      split
      · exact h.send .registerItem
      · exact h
  | trapped => exact covered_trap app

theorem covered_stepMain (h : Covered app) (hmatched : Matched app e)
    (hstep : stepMain app bar e = some app') : Covered app' := by
  obtain ⟨tab, rfl, _, rfl⟩ | ⟨screen, rfl, _, rfl⟩ | ⟨rfl, _, rfl⟩ | ⟨rfl, rfl⟩ |
    ⟨vc, rfl, _, _, rfl⟩ | ⟨rfl, _, rfl⟩ | ⟨rfl, rfl⟩ | ⟨rfl, rfl⟩ | ⟨accepted, rfl, rfl⟩ |
    ⟨oauthToken, rfl, _, rfl⟩ := stepMain_cases hstep
  · exact h.selectTab bar tab
  · refine covered_openScreen h fun hshows htoken => hmatched.2 ?_
    simp [App.uncovers, hshows, htoken]
  · exact (h.setBar _).homeAppears _
  · exact covered_send rfl _
  · exact h.sendWithToken _
  · refine covered_sendWithToken rfl fun htoken _ _ => hmatched.2 ?_
    rw [App.uncovers, show app.isLogin = false from htoken]
    rfl
  · exact covered_goToMain app
  · exact covered_dismissIndicator app
  · exact h.submitButtonPressed accepted
  · exact covered_logoutButtonPressed fun hnone => hmatched.2 (by rw [hnone]; rfl)

theorem covered_answered {index : Nat} {answer : Answer} {request : Request}
    {rest : List Request} (h : Covered app) (hmatched : Matched app (.answered index answer))
    (htrapped : app.trapped = false) (htake : takeAt app.requests index = some (request, rest))
    (hcomplete : { app with requests := rest }.complete request answer = some app') :
    Covered app' := by
  obtain ⟨hrequest, hrest⟩ := takeAt_eq_some_iff.mp htake
  by_cases hdown : request.takesDown = true
  · by_cases hprinted : answer.onlyPrinted = true
    · refine Covered.complete (fun _ hshown => ?_) hcomplete
      have huncovers : app.uncovers (.answered index answer) = true := by
        simp only [App.uncovers, hrequest, Option.any_some, hdown, hprinted, Bool.and_true]
        exact hshown
      rw [← hrest]
      exact hmatched.2 huncovers
    · exact covered_complete hcomplete hdown (by simpa using hprinted)
  · refine Covered.complete (fun _ hshown => ?_) hcomplete
    have hcovered := h htrapped hshown
    rw [App.covered, (takeAt_perm htake).any_eq, List.any_cons] at hcovered
    simpa [App.covered, hdown] using hcovered

/-- A step that finds other cover, if it uncovers at all, leaves the overlay covered. -/
theorem covered_step (h : Covered app) (hmatched : Matched app e)
    (hstep : step app e = some app') : Covered app' := by
  obtain ⟨htrapped, ⟨index, answer, request, rest, rfl, htake, hcomplete⟩ |
    ⟨index, result, login, rest, rfl, _, rfl⟩ | ⟨submission, rest, rfl, _, rfl⟩ |
    ⟨block, rest, rfl, hqueue, rfl⟩ | ⟨_, huser⟩ | ⟨bar, _, huser⟩⟩ := step_cases hstep
  · exact covered_answered h hmatched htrapped htake hcomplete
  · exact covered_kakaoLoggedIn h fun hnone => hmatched.2 (by rw [hnone]; rfl)
  · have hbefore : Covered { app with submissions := rest } := h
    exact hbefore.submitted submission
  · cases block with
    | setProduct => exact covered_dismissIndicator _
    | setCategory =>
        intro _ hshown
        have hcovered := h htrapped hshown
        simpa [App.covered, App.runBlock, hqueue, Block.takesDown] using hcovered
  · obtain ⟨rfl, rfl⟩ | ⟨rfl, rfl⟩ := stepLogin_cases huser
    · exact h
    · exact covered_goToMain app
  · exact covered_stepMain h hmatched huser

end BunjangClone.Session
