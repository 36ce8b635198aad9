import BunjangClone.Session.Token

/-!
# The tab bar

A tab bar is made with the home tab alone, and replaced as a whole. In between, each tab is
loaded once, screens are opened over loaded tabs only, and each screen stands over the one it
was opened from, so no tab has more than three. A guest that opens anything but the list of
categories is sent to the login screen, which replaces the tab bar.
-/

namespace BunjangClone.Session

open Reactive

variable {app app' : App} {bar : TabBar} {e : Event} {es : List Event}

/-- Each screen is opened from the one below it, and the last from the tab's own. -/
def Chained (tab : Tab) : List Screen → Prop
  | [] => True
  | screen :: below => screen.opensFrom tab below.head? = true ∧ Chained tab below

/-- The tab displayed is a loaded one, the home tab is always loaded, no tab is loaded twice,
and screens stand over loaded tabs only, each over the one it was opened from. -/
structure TabBar.WellFormed (bar : TabBar) : Prop where
  selected : bar.selected ∈ bar.loaded
  home : .home ∈ bar.loaded
  once : bar.loaded.Nodup
  unloaded : ∀ tab, tab ∉ bar.loaded → bar.opened tab = []
  chained : ∀ tab, Chained tab (bar.opened tab)

/-- What a guest gets to see. -/
structure TabBar.ForGuest (bar : TabBar) : Prop where
  loaded : bar.loaded = [.home]
  opened : ∀ screen ∈ bar.opened .home, screen = .firstCategory

structure TabBar.Fits (bar : TabBar) (isLogin : Bool) : Prop extends bar.WellFormed where
  guest : isLogin = false → bar.ForGuest

def Fitted (app : App) : Prop :=
  ∀ bar, app.root = some (.main bar) → bar.Fits app.isLogin

/-- What stands in the window: a tab bar whose stacks have at most three screens each, and
for a guest the home tab alone, with the list of categories over it or nothing. -/
structure TabBars (app : App) : Prop where
  wellFormed : ∀ bar, app.root = some (.main bar) → bar.WellFormed
  height : ∀ bar, app.root = some (.main bar) → ∀ tab, (bar.opened tab).length ≤ 3
  guest : ∀ bar, app.root = some (.main bar) → app.isLogin = false →
    bar.loaded = [.home] ∧ (bar.opened .home = [] ∨ bar.opened .home = [.firstCategory])

/-! ## Stacks -/

theorem Chained.tail {tab : Tab} {screens : List Screen} (h : Chained tab screens) :
    Chained tab screens.tail := by
  cases screens with
  | nil => exact h
  | cons screen below => exact h.2

/-- What a screen can be opened from, and at which height it then stands. -/
def Screen.height : Screen → Nat
  | .firstCategory | .detail | .registerCategory | .setting => 1
  | .subCategory | .registerSubCategory | .logoutDialog => 2
  | .secondSubCategory | .registerThirdCategory => 3

theorem Chained.length_le_height {tab : Tab} {screen : Screen} {below : List Screen}
    (h : Chained tab (screen :: below)) : below.length + 1 ≤ screen.height := by
  induction below generalizing screen with
  | nil => cases screen <;> decide
  | cons next rest ih =>
      obtain ⟨hopens, hrest⟩ := h
      have hheight := ih hrest
      have hnext : next.height < screen.height := by
        cases screen <;> cases tab <;> cases next <;> simp [Screen.opensFrom] at hopens <;> decide
      rw [List.length_cons]
      omega

theorem Chained.length_le {tab : Tab} {screens : List Screen} (h : Chained tab screens) :
    screens.length ≤ 3 := by
  cases screens with
  | nil => exact Nat.zero_le 3
  | cons screen below =>
      have hheight := h.length_le_height
      have hthree : screen.height ≤ 3 := by cases screen <;> decide
      exact Nat.le_trans hheight hthree

/-! ## Tab bars -/

theorem TabBar.WellFormed.setStack {screens : List Screen} (h : bar.WellFormed)
    (hscreens : Chained bar.selected screens) : (bar.setStack screens).WellFormed := by
  refine ⟨h.selected, h.home, h.once, fun tab hunloaded => ?_, fun tab => ?_⟩
  · have hother : tab ≠ bar.selected := fun heq => hunloaded (heq ▸ h.selected)
    simpa [TabBar.setStack, hother] using h.unloaded tab hunloaded
  · by_cases htab : tab = bar.selected
    · subst htab
      simpa [TabBar.setStack] using hscreens
    · simpa [TabBar.setStack, htab] using h.chained tab

theorem TabBar.WellFormed.select {tab : Tab} (h : bar.WellFormed) (hloaded : tab ∈ bar.loaded) :
    TabBar.WellFormed { bar with selected := tab } :=
  ⟨hloaded, h.home, h.once, h.unloaded, h.chained⟩

theorem TabBar.WellFormed.load {tab : Tab} (h : bar.WellFormed) (hloaded : tab ∉ bar.loaded) :
    TabBar.WellFormed { bar with selected := tab, loaded := tab :: bar.loaded } := by
  refine ⟨List.mem_cons_self, List.mem_cons_of_mem _ h.home,
    List.nodup_cons.mpr ⟨hloaded, h.once⟩, fun other hunloaded => ?_, h.chained⟩
  exact h.unloaded other fun hmem => hunloaded (List.mem_cons_of_mem tab hmem)

theorem TabBar.Fits.selected_of_guest (h : bar.Fits false) : bar.selected = .home := by
  have hmem := h.selected
  rw [(h.guest rfl).loaded] at hmem
  exact List.mem_singleton.mp hmem

theorem TabBar.Fits.of_login {isLogin : Bool} (h : bar.WellFormed) (hlogin : isLogin = true) :
    bar.Fits isLogin :=
  ⟨h, fun hguest => by rw [hlogin] at hguest; cases hguest⟩

theorem TabBar.Fits.setStack {isLogin : Bool} {screens : List Screen} (h : bar.Fits isLogin)
    (hscreens : Chained bar.selected screens)
    (hguest : isLogin = false → ∀ screen ∈ screens, screen = .firstCategory) :
    (bar.setStack screens).Fits isLogin := by
  refine ⟨h.toWellFormed.setStack hscreens, fun hfalse => ?_⟩
  subst hfalse
  refine ⟨(h.guest rfl).loaded, ?_⟩
  rw [TabBar.setStack, h.selected_of_guest]
  simpa using hguest rfl

theorem TabBar.Fits.stack_of_guest (h : bar.Fits false) :
    ∀ screen ∈ bar.stack, screen = .firstCategory := by
  rw [TabBar.stack, h.selected_of_guest]
  exact (h.guest rfl).opened

/-- Leaving a screen opens nothing. -/
theorem TabBar.Fits.pop {isLogin : Bool} (h : bar.Fits isLogin) :
    (bar.setStack bar.stack.tail).Fits isLogin := by
  apply h.setStack (h.chained bar.selected).tail
  intro hguest screen hmem
  subst hguest
  exact h.stack_of_guest screen (List.mem_of_mem_tail hmem)

/-- The list of categories is what a guest can open. -/
theorem TabBar.Fits.openFirstCategory {isLogin : Bool} (h : bar.Fits isLogin)
    (hopens : Screen.firstCategory.opensFrom bar.selected bar.stack.head? = true) :
    (bar.setStack (.firstCategory :: bar.stack)).Fits isLogin := by
  have hchained : Chained bar.selected (.firstCategory :: bar.stack) :=
    ⟨hopens, h.chained bar.selected⟩
  apply h.setStack hchained
  intro hguest screen hmem
  subst hguest
  obtain rfl | hmem := List.mem_cons.mp hmem
  · rfl
  · exact h.stack_of_guest screen hmem

/-! ## What stands in the window -/

/-- The root stays, and the token with it, or is replaced by the login screen or a fresh tab
bar. -/
inductive Moved (app app' : App) : Prop
  | kept (root : app'.root = app.root) (token : app.isLogin = true → app'.isLogin = true)
  | login (root : app'.root = some .login)
  | main (root : app'.root = some (.main {}))

theorem Moved.refl (app : App) : Moved app app :=
  .kept rfl fun hlogin => hlogin

theorem Moved.trans {mid : App} (h : Moved app mid) (h' : Moved mid app') : Moved app app' := by
  cases h' with
  | kept hroot htoken =>
      cases h with
      | kept hroot' htoken' =>
          exact .kept (hroot.trans hroot') fun hlogin => htoken (htoken' hlogin)
      | login hroot' => exact .login (hroot.trans hroot')
      | main hroot' => exact .main (hroot.trans hroot')
  | login hroot => exact .login hroot
  | main hroot => exact .main hroot

theorem moved_sendWithToken (app : App) (request : Request) :
    Moved app (app.sendWithToken request) := by
  rw [App.sendWithToken]
  split
  · exact .kept rfl fun hlogin => hlogin
  · exact .login rfl

theorem moved_viewDidLoad (app : App) (screen : Screen) : Moved app (app.viewDidLoad screen) := by
  have hshown : Moved app app.showIndicator := .kept rfl fun hlogin => hlogin
  cases screen with
  | firstCategory | registerCategory => exact .kept rfl fun hlogin => hlogin
  | setting | logoutDialog => exact .refl app
  | subCategory | secondSubCategory =>
      exact (hshown.trans (moved_sendWithToken _ _)).trans (moved_sendWithToken _ _)
  | registerSubCategory | registerThirdCategory => exact hshown.trans (moved_sendWithToken _ _)
  | detail => exact moved_sendWithToken app .detail

theorem moved_homeAppears (app : App) (bar : TabBar) : Moved app (app.homeAppears bar) := by
  rw [App.homeAppears]
  split
  · exact .kept rfl fun hlogin => hlogin
  · exact .refl app

theorem moved_deliver {deliver : App → App} (h : Delivers deliver) (app : App) :
    Moved app (deliver app) := by
  refine .kept ?_ fun hlogin => ?_
  · cases h with
    | category vc => cases vc <;> rfl
    | _ => rfl
  · rw [App.isLogin, deliver_jwtToken h]
    exact hlogin

theorem moved_handle {ρ : Type} {commands : List (Command ρ)} {deliver : App → App}
    (hdeliver : Delivers deliver) (hkeeps : .deleteToken ∉ commands) (app : App) :
    Moved app (commands.foldl (App.perform deliver) app) := by
  induction commands generalizing app with
  | nil => exact .refl app
  | cons command rest ih =>
      refine Moved.trans ?_ (ih (fun hmem => hkeeps (List.mem_cons_of_mem _ hmem)) _)
      cases command with
      | deliver result => exact moved_deliver hdeliver app
      | goToMain => exact .main rfl
      | goToLogin => exact .login rfl
      | setToken jwt => exact .kept rfl fun _ => rfl
      | deleteToken => exact absurd List.mem_cons_self hkeeps
      | _ => exact .kept rfl fun hlogin => hlogin

theorem moved_complete {request : Request} {answer : Answer}
    (h : app.complete request answer = some app') : Moved app app' := by
  cases completes_of_complete h with
  | autoLogin accessToken response =>
      cases response with
      | failure => exact .login rfl
      | success body =>
          apply moved_handle .nothing
          simp only [AutoLoginDataManager.autoLogin]
          (repeat' split) <;> simp
  | login accessToken response =>
      apply moved_handle .nothing
      cases response with
      | failure => simp [LoginDataManager.login]
      | success body => cases hsuccess : body.isSuccess <;> simp [LoginDataManager.login, hsuccess]
  | logout accessToken jwt response =>
      cases response with
      | failure =>
          apply moved_handle .nothing
          simp [LogoutDataManager.logout]
      | success body =>
          cases hsuccess : body.isSuccess with
          | true =>
              apply Moved.main
              simp [LogoutDataManager.logout, hsuccess, App.perform, App.goToMain,
                App.homeViewWillAppear, App.send, App.showIndicator]
          | false =>
              apply moved_handle .nothing
              simp [LogoutDataManager.logout, hsuccess]
  | homeItem response => exact moved_handle .product keepsToken_getHomeItem.2 app
  | category vc response => exact moved_handle (.category vc) keepsToken_deliverOrAlert.2 app
  | subCategory vc response =>
      exact moved_handle (.category vc) (keepsToken_handleSubCategory vc).2 app
  | product vc response => exact moved_handle .product (keepsToken_handleProduct vc).2 app
  | recommend response => exact moved_handle .recommend keepsToken_deliverOrAlert.2 app
  | detail response => exact moved_handle .nothing keepsToken_deliverOrAlert.2 app
  | registerItem response => exact moved_handle .nothing keepsToken_registerItem.2 app

theorem moved_logoutButtonPressed (app : App) (oauthToken : Option String) :
    Moved app (app.logoutButtonPressed oauthToken) := by
  refine .kept ?_ fun hlogin => ?_
  · cases oauthToken with
    | none => rfl
    | some accessToken =>
        rw [App.logoutButtonPressed, App.logout]
        split <;> rfl
  · rw [App.isLogin, App.logoutButtonPressed_jwtToken]
    exact hlogin

theorem moved_kakaoLoggedIn (app : App) (login : KakaoLogin) (result : KakaoResult) :
    Moved app (app.kakaoLoggedIn login result) := by
  refine .kept ?_ fun hlogin => ?_
  · rcases result with _ | _ | _ <;> cases login <;> rfl
  · rw [App.isLogin, App.kakaoLoggedIn_jwtToken]
    exact hlogin

theorem moved_submitted (app : App) (submission : Submission) :
    Moved app (app.submitted submission) := by
  cases submission with
  | built =>
      rw [App.submitted, App.registerItem]
      split
      · exact .kept rfl fun hlogin => hlogin
      · exact .refl app
  | _ => exact .kept rfl fun hlogin => hlogin

theorem TabBar.wellFormed_fresh : ({} : TabBar).WellFormed := by
  refine ⟨by simp, by simp, by simp, fun tab _ => ?_, fun tab => trivial⟩
  show [] = []
  rfl

theorem Fitted.moved (h : Fitted app) (hmoved : Moved app app') : Fitted app' := by
  intro bar hbar
  cases hmoved with
  | kept hroot htoken =>
      rw [hroot] at hbar
      refine ⟨(h bar hbar).toWellFormed, fun hguest => (h bar hbar).guest ?_⟩
      apply Bool.eq_false_iff.mpr
      intro hlogin
      rw [htoken hlogin] at hguest
      cases hguest
  | login hroot => cases hroot.symm.trans hbar
  | main hroot =>
      obtain rfl := Root.main.inj (Option.some.inj (hroot.symm.trans hbar))
      exact ⟨TabBar.wellFormed_fresh, fun _ => ⟨rfl, by simp⟩⟩

theorem fitted_of_login (h : app.root = some .login) : Fitted app := by
  intro bar hbar
  cases h.symm.trans hbar

theorem fitted_setBar (h : bar.Fits app.isLogin) : Fitted (app.setBar bar) := by
  intro bar' hbar
  obtain rfl := Root.main.inj (Option.some.inj hbar)
  exact h

/-- Without a token the screen that asked for one is gone. -/
theorem fitted_sendWithToken_of_guest (h : app.isLogin = false) (request : Request) :
    Fitted (app.sendWithToken request) := by
  rw [App.sendWithToken]
  split
  · rename_i jwt hjwt
    rw [App.isLogin, hjwt] at h
    cases h
  · exact fitted_of_login rfl

/-! ## Steps -/

/-- A guest opens the list of categories, and on the way to any other screen is sent to the
login screen. -/
theorem fitted_openScreen {screen : Screen} (h : bar.Fits app.isLogin)
    (hopens : screen.opensFrom bar.selected bar.stack.head? = true) :
    Fitted (app.openScreen bar screen) := by
  rw [App.openScreen]
  cases hlogin : app.isLogin with
  | true =>
      have hchained : Chained bar.selected (screen :: bar.stack) :=
        ⟨hopens, h.chained bar.selected⟩
      have hwell := h.toWellFormed.setStack hchained
      have hbar : (bar.setStack (screen :: bar.stack)).Fits app.isLogin := .of_login hwell hlogin
      exact (fitted_setBar hbar).moved (moved_viewDidLoad _ screen)
  | false =>
      rw [hlogin] at h
      have hhome := h.selected_of_guest
      have hguest : ∀ bar, (app.setBar bar).isLogin = false := fun _ => hlogin
      have hshown : ∀ bar, (app.setBar bar).showIndicator.isLogin = false := fun _ => hlogin
      cases screen with
      | firstCategory =>
          have hbar := h.openFirstCategory hopens
          rw [← hlogin] at hbar
          exact (fitted_setBar hbar).moved (moved_viewDidLoad _ .firstCategory)
      | detail => exact fitted_sendWithToken_of_guest (hguest _) .detail
      | subCategory | secondSubCategory =>
          refine Fitted.moved ?_ (moved_sendWithToken _ _)
          exact fitted_sendWithToken_of_guest (hshown _) _
      | _ => simp [hhome, Screen.opensFrom] at hopens

theorem tabViewDidLoad_of_login (tab : Tab) (h : app.isLogin = true) :
    app.tabViewDidLoad tab = app := by
  cases tab <;> simp [App.tabViewDidLoad, h]

theorem tabViewDidLoad_of_guest {tab : Tab} (hmember : tab ≠ .home) (h : app.isLogin = false) :
    app.tabViewDidLoad tab = app.goToLogin := by
  cases tab with
  | home => exact absurd rfl hmember
  | _ => simp [App.tabViewDidLoad, h]

/-- The tab's own controller asks for the token. -/
theorem fitted_selectTab {tab : Tab} (h : bar.Fits app.isLogin) :
    Fitted (app.selectTab bar tab) := by
  rw [App.selectTab]
  split
  · rename_i hloaded
    have hbar : TabBar.Fits { bar with selected := tab } app.isLogin :=
      ⟨h.toWellFormed.select hloaded, fun hguest => ⟨(h.guest hguest).loaded,
        (h.guest hguest).opened⟩⟩
    exact (fitted_setBar hbar).moved (moved_homeAppears _ _)
  · rename_i hloaded
    have hmember : tab ≠ .home := fun heq => hloaded (heq ▸ h.home)
    cases hlogin : app.isLogin with
    | true =>
        have hbar : TabBar.Fits { bar with selected := tab, loaded := tab :: bar.loaded }
            app.isLogin := .of_login (h.toWellFormed.load hloaded) hlogin
        have hlogin' : (app.setBar { bar with selected := tab, loaded := tab :: bar.loaded }
            ).isLogin = true := hlogin
        rw [tabViewDidLoad_of_login tab hlogin']
        exact fitted_setBar hbar
    | false =>
        have hguest : (app.setBar { bar with selected := tab, loaded := tab :: bar.loaded }
            ).isLogin = false := hlogin
        rw [tabViewDidLoad_of_guest hmember hguest]
        exact fitted_of_login rfl

theorem fitted_stepMain (h : bar.Fits app.isLogin) (hfitted : Fitted app)
    (hstep : stepMain app bar e = some app') : Fitted app' := by
  obtain ⟨tab, _, _, rfl⟩ | ⟨screen, _, hopens, rfl⟩ | ⟨_, _, rfl⟩ | ⟨_, rfl⟩ |
    ⟨vc, _, _, _, rfl⟩ | ⟨_, _, rfl⟩ | ⟨_, rfl⟩ | ⟨_, rfl⟩ | ⟨accepted, _, rfl⟩ |
    ⟨oauthToken, _, _, rfl⟩ := stepMain_cases hstep
  · exact fitted_selectTab h
  · exact fitted_openScreen h hopens
  · exact (fitted_setBar h.pop).moved (moved_homeAppears _ _)
  · exact hfitted
  · exact hfitted.moved (moved_sendWithToken _ _)
  · have hshown : Fitted app.showIndicator := hfitted
    exact hshown.moved (moved_sendWithToken _ _)
  · exact hfitted.moved (.main rfl)
  · exact hfitted
  · cases accepted <;> exact hfitted
  · exact hfitted.moved (moved_logoutButtonPressed app oauthToken)

theorem fitted_step (h : Fitted app) (hstep : bunjangClone.step app e = some app') :
    Fitted app' := by
  obtain ⟨_, ⟨index, answer, request, rest, rfl, _, hcomplete⟩ |
    ⟨index, result, login, rest, rfl, _, rfl⟩ | ⟨submission, rest, rfl, _, rfl⟩ |
    ⟨block, rest, rfl, _, rfl⟩ | ⟨_, huser⟩ | ⟨bar, hroot, huser⟩⟩ := step_cases hstep
  · have htaken : Fitted { app with requests := rest } := h
    exact htaken.moved (moved_complete hcomplete)
  · have htaken : Fitted { app with kakaoLogins := rest } := h
    exact htaken.moved (moved_kakaoLoggedIn _ login result)
  · have htaken : Fitted { app with submissions := rest } := h
    exact htaken.moved (moved_submitted _ submission)
  · cases block <;> exact h
  · obtain ⟨_, rfl⟩ | ⟨_, rfl⟩ := stepLogin_cases huser
    · exact h
    · exact h.moved (.main rfl)
  · exact fitted_stepMain (h bar hroot) h huser

/-! ## Runs -/

/-- Over the list of categories stands nothing but what is opened from it, so it stands alone
where no other screen does. -/
theorem Chained.eq_of_firstCategory {screens : List Screen} (h : Chained .home screens)
    (honly : ∀ screen ∈ screens, screen = .firstCategory) :
    screens = [] ∨ screens = [.firstCategory] := by
  cases screens with
  | nil => exact .inl rfl
  | cons screen below =>
      obtain rfl := honly screen List.mem_cons_self
      have hheight := h.length_le_height
      have hbelow : below = [] := by
        apply List.eq_nil_of_length_eq_zero
        rw [Screen.height] at hheight
        omega
      exact .inr (by rw [hbelow])

theorem Fitted.tabBars (h : Fitted app) : TabBars app := by
  constructor
  · exact fun bar hbar => (h bar hbar).toWellFormed
  · exact fun bar hbar tab => ((h bar hbar).chained tab).length_le
  · intro bar hbar hlogin
    have hguest := (h bar hbar).guest hlogin
    exact ⟨hguest.loaded, ((h bar hbar).chained .home).eq_of_firstCategory hguest.opened⟩

/-- In every state of every run, the tab bar in the window is well formed, and a guest's is the
home tab with at most the list of categories over it. -/
theorem tab_bars_along (jwtToken : Option String) (es : List Event) :
    bunjangClone.Along TabBars (launched jwtToken) es := by
  have hlaunched : Fitted (launched jwtToken) := fun bar hbar => by cases hbar
  intro before app hbefore hrun
  have hfitted : Fitted app := by
    refine Machine.invariant_of_step hlaunched ?_ hrun
    exact fun _ _ _ hfitted hstep => fitted_step hfitted hstep
  exact hfitted.tabBars

end BunjangClone.Session
