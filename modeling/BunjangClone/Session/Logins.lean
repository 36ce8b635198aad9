import BunjangClone.Reactive.Conservation
import BunjangClone.Session.App

/-!
# Logging in and out

Three requests log in or out: the launch request with the token of the keychain, a login with
the one that Kakao has delivered, a logout with that of Kakao and that of the keychain. Each is
sent once for what asked for it, whatever else is in flight, and nothing else sends one. Other
requests send the token of the keychain along; they are not counted here.
-/

namespace BunjangClone.Session

open Reactive

variable {app app' : App} {bar : TabBar} {e : Event} {es : List Event}

/-- The answer decides who is logged in. -/
def Request.logsInOrOut : Request → Bool
  | .autoLogin _ | .login _ | .logout _ _ => true
  | _ => false

namespace App

/-- The requests in flight that log in or out. -/
def logins (app : App) : List Request :=
  app.requests.filter Request.logsInOrOut

/-- The request to log in or out that an event asks for. -/
def asked (app : App) : Event → List Request
  | .kakaoLoggedIn _ (.success (some accessToken)) => [.login accessToken]
  | .logoutButtonPressed (some accessToken) =>
      (app.jwtToken.map (Request.logout accessToken)).toList
  | _ => []

/-- The request to log in or out that an event answers. -/
def answered (app : App) : Event → List Request
  | .answered index _ => (app.requests[index]?.filter Request.logsInOrOut).toList
  | _ => []

/-- A login with the Kakao account follows one with KakaoTalk that failed. -/
def kakaoAsked (app : App) : Event → List KakaoLogin
  | .kakaoLoginButtonPressed => [.loginWithKakaoTalk]
  | .kakaoLoggedIn index .error =>
      if app.kakaoLogins[index]? = some .loginWithKakaoTalk then [.loginWithKakaoAccount] else []
  | _ => []

def kakaoAnswered (app : App) : Event → List KakaoLogin
  | .kakaoLoggedIn index _ => app.kakaoLogins[index]?.toList
  | _ => []

end App

theorem logins_send (app : App) (request : Request) (h : request.logsInOrOut = true) :
    (app.send request).logins = app.logins ++ [request] := by
  rw [App.logins, App.send, List.filter_append]
  simp [h, App.logins]

/-! ## What logs nobody in or out -/

/-- Neither a request to log in or out nor a Kakao login is sent or answered. -/
structure LoginsKept (app app' : App) : Prop where
  logins : app'.logins = app.logins
  kakaoLogins : app'.kakaoLogins = app.kakaoLogins

theorem LoginsKept.refl (app : App) : LoginsKept app app := ⟨rfl, rfl⟩

theorem LoginsKept.trans {mid : App} (h : LoginsKept app mid)
    (h' : LoginsKept mid app') : LoginsKept app app' :=
  ⟨h'.logins.trans h.logins, h'.kakaoLogins.trans h.kakaoLogins⟩

theorem loginsKept_send {request : Request} (h : request.logsInOrOut = false) (app : App) :
    LoginsKept app (app.send request) := by
  refine ⟨?_, rfl⟩
  rw [App.logins, App.send, List.filter_append]
  simp [h, App.logins]

theorem loginsKept_sendWithToken {request : Request} (h : request.logsInOrOut = false)
    (app : App) : LoginsKept app (app.sendWithToken request) := by
  rw [App.sendWithToken]
  split
  · exact loginsKept_send h app
  · exact ⟨rfl, rfl⟩

theorem loginsKept_homeViewWillAppear (app : App) :
    LoginsKept app app.homeViewWillAppear := by
  have hsend : LoginsKept app.showIndicator (app.showIndicator.send .homeItem) :=
    loginsKept_send rfl app.showIndicator
  exact ⟨hsend.logins, hsend.kakaoLogins⟩

theorem loginsKept_goToMain (app : App) : LoginsKept app app.goToMain := by
  have happears := loginsKept_homeViewWillAppear { app with root := some (.main {}) }
  exact ⟨happears.logins, happears.kakaoLogins⟩

theorem loginsKept_viewDidLoad (app : App) (screen : Screen) :
    LoginsKept app (app.viewDidLoad screen) := by
  have hshown : LoginsKept app app.showIndicator := ⟨rfl, rfl⟩
  cases screen with
  | firstCategory | registerCategory => exact hshown.trans (loginsKept_send rfl _)
  | setting | logoutDialog => exact .refl app
  | subCategory | secondSubCategory =>
      exact (hshown.trans (loginsKept_sendWithToken rfl _)).trans
        (loginsKept_sendWithToken rfl _)
  | registerSubCategory | registerThirdCategory =>
      exact hshown.trans (loginsKept_sendWithToken rfl _)
  | detail => exact loginsKept_sendWithToken rfl app

theorem loginsKept_submitButtonPressed (app : App) (accepted : Bool) :
    LoginsKept app (app.submitButtonPressed accepted) := by
  cases accepted <;> exact ⟨rfl, rfl⟩

theorem loginsKept_submitted (app : App) (submission : Submission) :
    LoginsKept app (app.submitted submission) := by
  cases submission with
  | built =>
      rw [App.submitted, App.registerItem]
      split
      · exact loginsKept_send rfl app
      · exact .refl app
  | _ => exact ⟨rfl, rfl⟩

theorem loginsKept_homeAppears (app : App) (bar : TabBar) :
    LoginsKept app (app.homeAppears bar) := by
  rw [App.homeAppears]
  split
  · exact loginsKept_homeViewWillAppear app
  · exact .refl app

theorem loginsKept_selectTab (app : App) (bar : TabBar) (tab : Tab) :
    LoginsKept app (app.selectTab bar tab) := by
  have hset : ∀ bar, LoginsKept app (app.setBar bar) := fun _ => ⟨rfl, rfl⟩
  rw [App.selectTab]
  split
  · exact (hset _).trans (loginsKept_homeAppears _ _)
  · refine (hset { bar with selected := tab, loaded := tab :: bar.loaded }).trans ?_
    cases tab with
    | home => exact .refl _
    | _ =>
        rw [App.tabViewDidLoad]
        split <;> exact ⟨rfl, rfl⟩

theorem loginsKept_deliver {deliver : App → App} (h : Delivers deliver) (app : App) :
    LoginsKept app (deliver app) := by
  cases h with
  | category vc => cases vc <;> exact ⟨rfl, rfl⟩
  | _ => exact ⟨rfl, rfl⟩

/-- No completion handler asks to log in or out. -/
theorem loginsKept_foldl {ρ : Type} (commands : List (Command ρ)) {deliver : App → App}
    (hdeliver : Delivers deliver) (app : App) :
    LoginsKept app (commands.foldl (App.perform deliver) app) := by
  induction commands generalizing app with
  | nil => exact .refl app
  | cons command rest ih =>
      refine LoginsKept.trans ?_ (ih _)
      cases command with
      | deliver result => exact loginsKept_deliver hdeliver app
      | goToMain => exact loginsKept_goToMain app
      | _ => exact ⟨rfl, rfl⟩

theorem loginsKept_complete {request : Request} {answer : Answer}
    (h : app.complete request answer = some app') : LoginsKept app app' := by
  obtain ⟨ρ, commands, deliver, hdeliver, rfl, _⟩ := complete_cases h
  exact loginsKept_foldl commands hdeliver app

/-! ## One step -/

/-- What a step takes in and gives out, of requests to log in or out and of Kakao logins. -/
structure Accounts (app : App) (e : Event) (app' : App) : Prop where
  requests : (app'.logins ++ app.answered e).Perm (app.logins ++ app.asked e)
  kakaoLogins : (app'.kakaoLogins ++ app.kakaoAnswered e).Perm
    (app.kakaoLogins ++ app.kakaoAsked e)

theorem LoginsKept.accounts (h : LoginsKept app app') (hanswered : app.answered e = [])
    (hasked : app.asked e = []) (hkakaoAnswered : app.kakaoAnswered e = [])
    (hkakaoAsked : app.kakaoAsked e = []) : Accounts app e app' := by
  constructor
  · rw [h.logins, hanswered, hasked]
  · rw [h.kakaoLogins, hkakaoAnswered, hkakaoAsked]

theorem accounts_answered {index : Nat} {answer : Answer} {request : Request}
    {rest : List Request} (htake : takeAt app.requests index = some (request, rest))
    (hcomplete : { app with requests := rest }.complete request answer = some app') :
    Accounts app (.answered index answer) app' := by
  have hsent := loginsKept_complete hcomplete
  obtain ⟨hindex, _⟩ := takeAt_eq_some_iff.mp htake
  constructor
  · have hperm := (takeAt_perm htake).filter Request.logsInOrOut
    show (app'.logins ++ (app.requests[index]?.filter _).toList).Perm (app.logins ++ [])
    rw [hsent.logins, hindex, List.append_nil]
    refine List.Perm.trans ?_ hperm.symm
    cases hlogs : request.logsInOrOut <;>
      simp [App.logins, Option.filter, hlogs]
  · rw [hsent.kakaoLogins]
    exact List.Perm.refl _

theorem accounts_kakaoLoggedIn {index : Nat} {result : KakaoResult} {login : KakaoLogin}
    {rest : List KakaoLogin} (htake : takeAt app.kakaoLogins index = some (login, rest)) :
    Accounts app (.kakaoLoggedIn index result)
      ({ app with kakaoLogins := rest }.kakaoLoggedIn login result) := by
  obtain ⟨hindex, _⟩ := takeAt_eq_some_iff.mp htake
  have hlast : (rest ++ [login]).Perm app.kakaoLogins :=
    (List.perm_append_singleton _ _).trans (takeAt_perm htake).symm
  constructor
  · rcases result with _ | _ | accessToken <;> cases login <;>
      simp only [App.kakaoLoggedIn, App.answered, App.asked, List.append_nil,
        logins_send _ (.login _) rfl] <;>
      exact List.Perm.refl _
  · have hanswered : app.kakaoAnswered (.kakaoLoggedIn index result) = [login] := by
      simp [App.kakaoAnswered, hindex]
    rw [hanswered]
    cases result with
    | success oauthToken =>
        cases oauthToken <;> cases login <;>
          simpa [App.kakaoLoggedIn, App.kakaoAsked, App.showIndicator, App.send] using hlast
    | error =>
        cases login with
        | loginWithKakaoAccount =>
            simpa [App.kakaoLoggedIn, App.kakaoAsked, hindex] using hlast
        | loginWithKakaoTalk =>
            let account : List KakaoLogin := [.loginWithKakaoAccount]
            let talk : List KakaoLogin := [.loginWithKakaoTalk]
            have hboth : (rest ++ account ++ talk).Perm (rest ++ talk ++ account) := by
              rw [List.append_assoc, List.append_assoc]
              exact List.perm_append_comm.append_left rest
            have hmoved := hboth.trans (hlast.append_right account)
            simpa [App.kakaoLoggedIn, App.kakaoAsked, hindex, account, talk] using hmoved

theorem accounts_stepMain (h : stepMain app bar e = some app') : Accounts app e app' := by
  obtain ⟨tab, rfl, _, rfl⟩ | ⟨screen, rfl, _, rfl⟩ | ⟨rfl, _, rfl⟩ | ⟨rfl, rfl⟩ |
    ⟨vc, rfl, _, _, rfl⟩ | ⟨rfl, _, rfl⟩ | ⟨rfl, rfl⟩ | ⟨rfl, rfl⟩ | ⟨accepted, rfl, rfl⟩ |
    ⟨oauthToken, rfl, _, rfl⟩ := stepMain_cases h
  · exact (loginsKept_selectTab app bar tab).accounts rfl rfl rfl rfl
  · have hset : LoginsKept app (app.setBar (bar.setStack (screen :: bar.stack))) := ⟨rfl, rfl⟩
    exact (hset.trans (loginsKept_viewDidLoad _ screen)).accounts rfl rfl rfl rfl
  · have hset : LoginsKept app (app.setBar (bar.setStack bar.stack.tail)) := ⟨rfl, rfl⟩
    exact (hset.trans (loginsKept_homeAppears _ _)).accounts rfl rfl rfl rfl
  · exact (loginsKept_homeViewWillAppear app).accounts rfl rfl rfl rfl
  · exact (loginsKept_sendWithToken rfl app).accounts rfl rfl rfl rfl
  · have hshown : LoginsKept app app.showIndicator := ⟨rfl, rfl⟩
    exact (hshown.trans (loginsKept_sendWithToken rfl _)).accounts rfl rfl rfl rfl
  · exact (loginsKept_goToMain app).accounts rfl rfl rfl rfl
  · exact ⟨List.Perm.refl _, List.Perm.refl _⟩
  · exact (loginsKept_submitButtonPressed app accepted).accounts rfl rfl rfl rfl
  · cases oauthToken with
    | none => exact ⟨List.Perm.refl _, List.Perm.refl _⟩
    | some accessToken =>
        have hshown : app.showIndicator.jwtToken = app.jwtToken := rfl
        cases hjwt : app.jwtToken with
        | none =>
            rw [hjwt] at hshown
            simp only [App.logoutButtonPressed, App.logout, hshown]
            refine ⟨?_, List.Perm.refl _⟩
            simp only [App.asked, hjwt]
            exact List.Perm.refl _
        | some jwt =>
            rw [hjwt] at hshown
            simp only [App.logoutButtonPressed, App.logout, hshown]
            refine ⟨?_, List.Perm.refl _⟩
            rw [logins_send _ (.logout accessToken jwt) rfl]
            simp only [App.asked, App.answered, hjwt, List.append_nil]
            exact List.Perm.refl _

theorem accounts_step (h : bunjangClone.step app e = some app') : Accounts app e app' := by
  obtain ⟨_, ⟨index, answer, request, rest, rfl, htake, hcomplete⟩ |
    ⟨index, result, login, rest, rfl, htake, rfl⟩ | ⟨submission, rest, rfl, _, rfl⟩ |
    ⟨block, rest, rfl, _, rfl⟩ | ⟨_, huser⟩ | ⟨bar, _, huser⟩⟩ := step_cases h
  · exact accounts_answered htake hcomplete
  · exact accounts_kakaoLoggedIn htake
  · have htaken : LoginsKept app { app with submissions := rest } := ⟨rfl, rfl⟩
    exact (htaken.trans (loginsKept_submitted _ submission)).accounts rfl rfl rfl rfl
  · cases block <;> exact ⟨List.Perm.refl _, List.Perm.refl _⟩
  · obtain ⟨rfl, rfl⟩ | ⟨rfl, rfl⟩ := stepLogin_cases huser
    · exact ⟨List.Perm.refl _, by simp [App.kakaoAnswered, App.kakaoAsked]⟩
    · exact (loginsKept_goToMain app).accounts rfl rfl rfl rfl
  · exact accounts_stepMain huser

/-! ## Runs -/

/-- Each request to log in or out was asked for once and is in flight or answered, and so is each
Kakao login. A login carries a token that Kakao delivered, a logout the token of the keychain at
the press. -/
structure LoginsAccounted (jwtToken : Option String) (es : List Event) (app : App) : Prop
    where
  requests : (app.logins ++ bunjangClone.collect App.answered (launched jwtToken) es).Perm
    (.autoLogin (jwtToken.getD "") :: bunjangClone.collect App.asked (launched jwtToken) es)
  kakaoLogins :
    (app.kakaoLogins ++ bunjangClone.collect App.kakaoAnswered (launched jwtToken) es).Perm
      (bunjangClone.collect App.kakaoAsked (launched jwtToken) es)
  login : ∀ accessToken, .login accessToken ∈ app.requests →
    ∃ index, .kakaoLoggedIn index (.success (some accessToken)) ∈ es
  logout : ∀ accessToken jwt, .logout accessToken jwt ∈ app.requests →
    ∃ before after pressed, es = before ++ .logoutButtonPressed (some accessToken) :: after ∧
      bunjangClone.run (launched jwtToken) before = some pressed ∧ pressed.jwtToken = some jwt

/-- A request to log in or out that is in flight was asked for by some event of the run. -/
theorem asked_of_mem {jwtToken : Option String} {request : Request}
    (h : (app.logins ++ bunjangClone.collect App.answered (launched jwtToken) es).Perm
      (.autoLogin (jwtToken.getD "") :: bunjangClone.collect App.asked (launched jwtToken) es))
    (hmem : request ∈ app.requests) (hlogs : request.logsInOrOut = true)
    (hother : ∀ accessToken, request ≠ .autoLogin accessToken) :
    ∃ before e after asking, es = before ++ e :: after ∧
      bunjangClone.run (launched jwtToken) before = some asking ∧ request ∈ asking.asked e := by
  have hheld : request ∈ app.logins := List.mem_filter.mpr ⟨hmem, hlogs⟩
  obtain heq | hasked := List.mem_cons.mp (h.mem_iff.mp (List.mem_append_left _ hheld))
  · exact absurd heq (hother _)
  · exact Machine.mem_collect hasked

theorem logins_accounted {jwtToken : Option String}
    (h : bunjangClone.run (launched jwtToken) es = some app) :
    LoginsAccounted jwtToken es app := by
  have hrequests := Machine.conserved_collect App.logins App.asked App.answered
    (fun _ _ _ hstep => (accounts_step hstep).requests) h
  refine ⟨hrequests, ?_, fun accessToken hmem => ?_, fun accessToken jwt hmem => ?_⟩
  · exact Machine.conserved_collect App.kakaoLogins App.kakaoAsked App.kakaoAnswered
      (fun _ _ _ hstep => (accounts_step hstep).kakaoLogins) h
  · obtain ⟨before, e, after, asking, rfl, _, hasked⟩ :=
      asked_of_mem hrequests hmem rfl fun _ => by simp
    unfold App.asked at hasked
    split at hasked
    · obtain rfl := Request.login.inj (List.mem_singleton.mp hasked)
      exact ⟨_, List.mem_append_right _ List.mem_cons_self⟩
    · simp at hasked
    · cases hasked
  · obtain ⟨before, e, after, asking, rfl, hrun, hasked⟩ :=
      asked_of_mem hrequests hmem rfl fun _ => by simp
    unfold App.asked at hasked
    split at hasked
    · simp at hasked
    · rw [Option.mem_toList, Option.map_eq_some_iff] at hasked
      obtain ⟨stored, hstored, heq⟩ := hasked
      obtain ⟨rfl, rfl⟩ := Request.logout.inj heq
      exact ⟨before, after, asking, rfl, hrun, hstored⟩
    · cases hasked

/-- KakaoTalk fails, and the login with the account sends its token. -/
def fellBack : List Event :=
  [.answered 0 (.autoLogin .failure), .kakaoLoginButtonPressed, .kakaoLoggedIn 0 .error,
    .kakaoLoggedIn 0 (.success (some "kakao"))]

theorem logins_accounted_fellBack : ∃ app,
    bunjangClone.run (launched none) fellBack = some app ∧
      LoginsAccounted none fellBack app :=
  ⟨_, rfl, logins_accounted rfl⟩

end BunjangClone.Session
