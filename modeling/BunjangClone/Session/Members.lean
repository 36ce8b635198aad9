import BunjangClone.Session.Token

/-!
# Members' screens

Each of the four members' tabs asks for the token once, when it is loaded, and goes to the
login screen without one. Nothing asks again while the tab bar stands. It need not: the
launch request and the logout, which alone delete the token, replace the root as well, and
a fresh tab bar has only its home tab loaded.
-/

namespace BunjangClone.Session

open Reactive

variable {app app' : App} {bar : TabBar} {e : Event} {es : List Event}

/-- The tab displayed is a loaded one, the members' tabs are loaded only with a token, and
what is opened over a tab is opened from it. -/
structure TabBar.Admits (bar : TabBar) (isLogin : Bool) : Prop where
  selected : bar.selected ∈ bar.loaded
  members : ∀ tab ∈ bar.loaded, tab ≠ .home → isLogin = true
  opened : ∀ tab, ∀ screen ∈ bar.opened tab, ∃ below, screen.opensFrom tab below = true

def Admitted (app : App) : Prop :=
  ∀ bar, app.root = some (.main bar) → bar.Admits app.isLogin

/-- A members' tab, or a screen opened from one, is displayed only with a token, and a
press of the logout button unwraps a token that is there. -/
structure Guarded (app : App) : Prop where
  token : ∀ bar, app.root = some (.main bar) → bar.selected ≠ .home →
    ∃ jwt, app.jwtToken = some jwt
  logout : ∀ oauthToken app',
    bunjangClone.step app (.logoutButtonPressed oauthToken) = some app' → app'.trapped = false

/-! ## Tab bars -/

theorem TabBar.Admits.setStack {isLogin : Bool} {screens : List Screen} (h : bar.Admits isLogin)
    (hscreens : ∀ screen ∈ screens, ∃ below, screen.opensFrom bar.selected below = true) :
    (bar.setStack screens).Admits isLogin := by
  refine ⟨h.selected, h.members, fun tab => ?_⟩
  by_cases htab : tab = bar.selected
  · subst htab
    simpa [TabBar.setStack] using hscreens
  · simpa [TabBar.setStack, htab] using h.opened tab

/-- The logout dialog stands over the tab of the user's own shop. -/
theorem TabBar.Admits.selected_of_logoutDialog {isLogin : Bool} (h : bar.Admits isLogin)
    (htop : bar.stack.head? = some .logoutDialog) : bar.selected = .myShop := by
  obtain ⟨below, hopens⟩ := h.opened bar.selected .logoutDialog (List.mem_of_head? htop)
  cases hselected : bar.selected with
  | myShop => rfl
  | _ => simp [hselected, Screen.opensFrom] at hopens

/-! ## What the screens do -/

/-- Only the root and the token matter, and a token more does no harm. -/
theorem Admitted.of_root (h : Admitted app) (hroot : app'.root = app.root)
    (htoken : app.isLogin = true → app'.isLogin = true) : Admitted app' := by
  intro bar hbar
  rw [hroot] at hbar
  have hadmits := h bar hbar
  exact ⟨hadmits.selected, fun tab htab hne => htoken (hadmits.members tab htab hne),
    hadmits.opened⟩

theorem admitted_setBar (h : bar.Admits app.isLogin) : Admitted (app.setBar bar) := by
  intro bar' hbar
  obtain rfl := Root.main.inj (Option.some.inj hbar)
  exact h

theorem admitted_goToMain (app : App) : Admitted app.goToMain := by
  intro bar hbar
  obtain rfl := Root.main.inj (Option.some.inj hbar)
  exact ⟨by simp, by simp, by simp⟩

theorem admitted_of_login (h : app.root = some .login) : Admitted app := by
  intro bar hbar
  rw [h] at hbar
  cases Option.some.inj hbar

theorem admitted_goToLogin (app : App) : Admitted app.goToLogin :=
  admitted_of_login rfl

theorem Admitted.sendWithToken (h : Admitted app) (request : Request) :
    Admitted (app.sendWithToken request) := by
  rw [App.sendWithToken]
  split
  · exact h
  · exact admitted_goToLogin app

theorem Admitted.viewDidLoad (h : Admitted app) (screen : Screen) :
    Admitted (app.viewDidLoad screen) := by
  have hshown : Admitted app.showIndicator := h
  cases screen with
  | firstCategory | registerCategory | setting | logoutDialog => exact h
  | subCategory | secondSubCategory => exact (hshown.sendWithToken _).sendWithToken _
  | registerSubCategory | registerThirdCategory => exact hshown.sendWithToken _
  | detail => exact h.sendWithToken _

theorem Admitted.homeAppears (h : Admitted app) (bar : TabBar) :
    Admitted (app.homeAppears bar) := by
  rw [App.homeAppears]
  split <;> exact h

/-- The tab's own controller asks for the token. -/
theorem admitted_selectTab {tab : Tab} (h : bar.Admits app.isLogin) :
    Admitted (app.selectTab bar tab) := by
  rw [App.selectTab]
  split
  · rename_i hloaded
    have hadmits : TabBar.Admits { bar with selected := tab } app.isLogin :=
      ⟨hloaded, h.members, h.opened⟩
    exact (admitted_setBar hadmits).homeAppears _
  · by_cases hhome : tab = .home
    · subst hhome
      refine admitted_setBar ⟨List.mem_cons_self, fun tab htab hne => ?_, h.opened⟩
      exact h.members tab ((List.mem_cons.mp htab).resolve_left hne) hne
    · cases hlogin : app.isLogin with
      | true =>
          have hkept : (app.setBar { bar with selected := tab, loaded := tab :: bar.loaded }
              ).tabViewDidLoad tab =
                app.setBar { bar with selected := tab, loaded := tab :: bar.loaded } := by
            have hlogin' : ∀ bar, (app.setBar bar).isLogin = true := fun _ => hlogin
            cases tab <;> simp [App.tabViewDidLoad, hlogin']
          rw [hkept]
          exact admitted_setBar ⟨List.mem_cons_self, fun _ _ _ => hlogin, h.opened⟩
      | false =>
          have hleft : (app.setBar { bar with selected := tab, loaded := tab :: bar.loaded }
              ).tabViewDidLoad tab =
                (app.setBar { bar with selected := tab, loaded := tab :: bar.loaded }
                  ).goToLogin := by
            have hlogin' : ∀ bar, (app.setBar bar).isLogin = false := fun _ => hlogin
            cases tab with
            | home => exact absurd rfl hhome
            | _ => simp [App.tabViewDidLoad, hlogin']
          rw [hleft]
          exact admitted_goToLogin _

theorem root_submitted (app : App) (submission : Submission) :
    (app.submitted submission).root = app.root := by
  cases submission with
  | built =>
      rw [App.submitted, App.registerItem]
      split <;> rfl
  | _ => rfl

theorem admitted_stepMain (h : bar.Admits app.isLogin) (hadmitted : Admitted app)
    (hstep : stepMain app bar e = some app') : Admitted app' := by
  obtain ⟨tab, _, _, rfl⟩ | ⟨screen, _, hopens, rfl⟩ | ⟨_, _, rfl⟩ | ⟨_, rfl⟩ |
    ⟨vc, _, _, _, rfl⟩ | ⟨_, _, rfl⟩ | ⟨_, rfl⟩ | ⟨_, rfl⟩ | ⟨accepted, _, rfl⟩ |
    ⟨oauthToken, _, _, rfl⟩ := stepMain_cases hstep
  · exact admitted_selectTab h
  · refine (admitted_setBar (h.setStack fun opened hmem => ?_)).viewDidLoad screen
    obtain rfl | hmem := List.mem_cons.mp hmem
    · exact ⟨_, hopens⟩
    · exact h.opened bar.selected opened hmem
  · refine (admitted_setBar (h.setStack fun opened hmem => ?_)).homeAppears _
    exact h.opened bar.selected opened (List.mem_of_mem_tail hmem)
  · exact hadmitted
  · exact hadmitted.sendWithToken _
  · have hshown : Admitted app.showIndicator := hadmitted
    exact hshown.sendWithToken _
  · exact admitted_goToMain app
  · exact hadmitted
  · cases accepted <;> exact hadmitted
  · refine hadmitted.of_root ?_ ?_
    · cases oauthToken with
      | none => rfl
      | some accessToken =>
          rw [App.logoutButtonPressed, App.logout]
          split <;> rfl
    · intro hlogin
      rw [App.isLogin, App.logoutButtonPressed_jwtToken]
      exact hlogin

/-! ## What the handlers do -/

theorem Admitted.deliver {deliver : App → App} (hdeliver : Delivers deliver) (h : Admitted app) :
    Admitted (deliver app) := by
  cases hdeliver with
  | nothing | product | recommend => exact h
  | category vc => cases vc <;> exact h

theorem Admitted.handle {ρ : Type} {commands : List (Command ρ)} {deliver : App → App}
    (hdeliver : Delivers deliver) (hkeeps : .deleteToken ∉ commands) (h : Admitted app) :
    Admitted (commands.foldl (App.perform deliver) app) := by
  induction commands generalizing app with
  | nil => exact h
  | cons command rest ih =>
      refine ih (fun hmem => hkeeps (List.mem_cons_of_mem _ hmem)) ?_
      cases command with
      | deliver result => exact h.deliver hdeliver
      | goToMain => exact admitted_goToMain app
      | goToLogin => exact admitted_goToLogin app
      | setToken jwt => exact h.of_root rfl fun _ => rfl
      | deleteToken => exact absurd List.mem_cons_self hkeeps
      | _ => exact h

theorem admitted_complete {request : Request} {answer : Answer} (h : Admitted app)
    (hcomplete : app.complete request answer = some app') : Admitted app' := by
  cases completes_of_complete hcomplete with
  | autoLogin accessToken response =>
      cases response with
      | failure =>
          -- The login screen is up before the token goes.
          exact admitted_of_login rfl
      | success response =>
          apply h.handle .nothing
          simp only [AutoLoginDataManager.autoLogin]
          split_ifs <;> simp
  | login accessToken response =>
      apply h.handle .nothing
      cases response with
      | failure => simp [LoginDataManager.login]
      | success response =>
          simp only [LoginDataManager.login]
          split_ifs <;> simp
  | logout accessToken jwt response =>
      by_cases hsuccess : response.isSuccess = true
      · obtain ⟨body, rfl⟩ : ∃ body, response = .success body := by
          cases response with
          | success body => exact ⟨body, rfl⟩
          | failure => cases hsuccess
        have hsuccess : body.isSuccess = true := hsuccess
        simp only [LogoutDataManager.logout, hsuccess, if_true, List.foldl_cons, List.foldl_nil]
        exact admitted_goToMain _
      · apply h.handle .nothing
        cases response with
        | failure => simp [LogoutDataManager.logout]
        | success body =>
            have hsuccess : ¬ body.isSuccess = true := hsuccess
            simp [LogoutDataManager.logout, hsuccess]
  | homeItem response => exact h.handle .product keepsToken_getHomeItem.2
  | category vc response => exact h.handle (.category vc) keepsToken_deliverOrAlert.2
  | subCategory vc response =>
      exact h.handle (.category vc) (keepsToken_handleSubCategory vc).2
  | product vc response => exact h.handle .product (keepsToken_handleProduct vc).2
  | recommend response => exact h.handle .recommend keepsToken_deliverOrAlert.2
  | detail response => exact h.handle .nothing keepsToken_deliverOrAlert.2
  | registerItem response => exact h.handle .nothing keepsToken_registerItem.2

theorem admitted_step (h : Admitted app) (hstep : bunjangClone.step app e = some app') :
    Admitted app' := by
  obtain ⟨_, ⟨index, answer, request, rest, rfl, _, hcomplete⟩ |
    ⟨index, result, login, rest, rfl, _, rfl⟩ | ⟨submission, rest, rfl, _, rfl⟩ |
    ⟨block, rest, rfl, _, rfl⟩ | ⟨_, huser⟩ | ⟨bar, hroot, huser⟩⟩ := step_cases hstep
  · have htaken : Admitted { app with requests := rest } := h
    exact admitted_complete htaken hcomplete
  · have hroot : ({ app with kakaoLogins := rest }.kakaoLoggedIn login result).root =
        app.root := by
      rcases result with _ | _ | _ <;> cases login <;> rfl
    refine h.of_root hroot fun hlogin => ?_
    rw [App.isLogin, App.kakaoLoggedIn_jwtToken]
    exact hlogin
  · have hroot : ({ app with submissions := rest }.submitted submission).root = app.root :=
      root_submitted _ submission
    refine h.of_root hroot fun hlogin => ?_
    rw [App.isLogin, App.submitted_jwtToken]
    exact hlogin
  · cases block <;> exact h
  · obtain ⟨_, rfl⟩ | ⟨_, rfl⟩ := stepLogin_cases huser
    · exact h
    · exact admitted_goToMain app
  · exact admitted_stepMain (h bar hroot) h huser

/-! ## Runs -/

/-- The logout finds the token it unwraps. -/
theorem Admitted.untrapped_logout {oauthToken : Option String} (h : Admitted app)
    (hstep : bunjangClone.step app (.logoutButtonPressed oauthToken) = some app') :
    app'.trapped = false := by
  have hmain : ∃ bar, app.trapped = false ∧ app.root = some (.main bar) ∧
      bar.stack.head? = some .logoutDialog ∧ app' = app.logoutButtonPressed oauthToken := by
    have hpressed : step app (.logoutButtonPressed oauthToken) = some app' := hstep
    obtain ⟨htrapped, ⟨_, _, _, _, heq, _⟩ | ⟨_, _, _, _, heq, _⟩ | ⟨_, _, heq, _⟩ |
      ⟨_, _, heq, _⟩ | ⟨_, huser⟩ | ⟨bar, hroot, huser⟩⟩ := step_cases hpressed
    · cases heq
    · cases heq
    · cases heq
    · cases heq
    · cases huser
    · simp only [stepMain, Option.ite_none_right_eq_some, Option.some.injEq] at huser
      exact ⟨bar, htrapped, hroot, huser.1, huser.2.symm⟩
  obtain ⟨bar, htrapped, hroot, htop, rfl⟩ := hmain
  have hadmits := h bar hroot
  have hmember : bar.selected ≠ .home := by
    rw [hadmits.selected_of_logoutDialog htop]
    decide
  obtain ⟨jwt, hjwt⟩ := Option.isSome_iff_exists.mp
    (hadmits.members _ hadmits.selected hmember)
  cases oauthToken with
  | none => exact htrapped
  | some accessToken =>
      have hunwrapped : app.showIndicator.jwtToken = some jwt := hjwt
      rw [App.logoutButtonPressed, App.logout, hunwrapped]
      exact htrapped

theorem Admitted.guarded (h : Admitted app) : Guarded app := by
  constructor
  · intro bar hroot hmember
    have hadmits := h bar hroot
    exact Option.isSome_iff_exists.mp (hadmits.members _ hadmits.selected hmember)
  · exact fun _ _ hstep => h.untrapped_logout hstep

/-- In every state of every run, members' screens are displayed with a token and the
logout finds it. -/
theorem guarded_along (jwtToken : Option String) (es : List Event) :
    bunjangClone.Along Guarded (launched jwtToken) es := by
  have hlaunched : Admitted (launched jwtToken) := fun bar hbar => by cases hbar
  intro before app hbefore hrun
  have hadmitted : Admitted app := by
    refine Machine.invariant_of_step hlaunched ?_ hrun
    exact fun _ _ _ hadmitted hstep => admitted_step hadmitted hstep
  exact hadmitted.guarded

end BunjangClone.Session
