import BunjangClone.Session.Token

/-!
# What the keychain holds

Three answers write the keychain: a successful login, a successful logout and a launch request
that fails. Nothing else does, on whatever screen and however late the answer comes, so the
stored token is the one written last.
-/

namespace BunjangClone.Session

open Reactive

variable {app app' : App} {e : Event} {es : List Event}

/-- What an event writes into the keychain. -/
def Event.writesToken : Event → Option (Option String)
  | .answered _ (.login (.success body)) =>
      if body.isSuccess then some (some body.result.jwt) else none
  | .answered _ (.logout (.success body)) => if body.isSuccess then some none else none
  | .answered _ (.autoLogin .failure) => some none
  | _ => none

theorem jwtToken_foldl {ρ : Type} {commands : List (Command ρ)} {deliver : App → App}
    (hdeliver : Delivers deliver) (hkeeps : KeepsToken commands) (app : App) :
    (commands.foldl (App.perform deliver) app).jwtToken = app.jwtToken := by
  induction commands generalizing app with
  | nil => rfl
  | cons command rest ih =>
      have hrest : KeepsToken rest := ⟨fun jwt hmem => hkeeps.1 jwt (List.mem_cons_of_mem _ hmem),
        fun hmem => hkeeps.2 (List.mem_cons_of_mem _ hmem)⟩
      rw [List.foldl_cons, ih hrest]
      cases command with
      | deliver result => exact deliver_jwtToken hdeliver app
      | setToken jwt => exact absurd List.mem_cons_self (hkeeps.1 jwt)
      | deleteToken => exact absurd List.mem_cons_self hkeeps.2
      | _ => rfl

theorem jwtToken_of_complete (index : Nat) {request : Request} {answer : Answer}
    (h : app.complete request answer = some app') :
    app'.jwtToken = ((Event.answered index answer).writesToken).getD app.jwtToken := by
  cases completes_of_complete h with
  | autoLogin accessToken response =>
      cases response with
      | failure => rfl
      | success body =>
          show _ = app.jwtToken
          apply jwtToken_foldl .nothing
          refine ⟨fun jwt => setToken_notMem_autoLogin, ?_⟩
          simp only [AutoLoginDataManager.autoLogin]
          (repeat' split) <;> simp
  | login accessToken response =>
      cases response with
      | failure => rfl
      | success body =>
          cases hsuccess : body.isSuccess <;>
            simp [LoginDataManager.login, Event.writesToken, hsuccess, App.perform]
  | logout accessToken jwt response =>
      cases response with
      | failure => rfl
      | success body =>
          cases hsuccess : body.isSuccess <;>
            simp [LogoutDataManager.logout, Event.writesToken, hsuccess, App.perform]
  | homeItem response => exact jwtToken_foldl .product keepsToken_getHomeItem app
  | category vc response => exact jwtToken_foldl (.category vc) keepsToken_deliverOrAlert app
  | subCategory vc response =>
      exact jwtToken_foldl (.category vc) (keepsToken_handleSubCategory vc) app
  | product vc response => exact jwtToken_foldl .product (keepsToken_handleProduct vc) app
  | recommend response => exact jwtToken_foldl .recommend keepsToken_deliverOrAlert app
  | detail response => exact jwtToken_foldl .nothing keepsToken_deliverOrAlert app
  | registerItem response => exact jwtToken_foldl .nothing keepsToken_registerItem app

theorem jwtToken_of_step (hstep : bunjangClone.step app e = some app') :
    app'.jwtToken = e.writesToken.getD app.jwtToken := by
  obtain ⟨_, ⟨index, answer, request, rest, rfl, _, hcomplete⟩ |
    ⟨index, result, login, rest, rfl, _, rfl⟩ | ⟨submission, rest, rfl, _, rfl⟩ |
    ⟨block, rest, rfl, _, rfl⟩ | ⟨_, huser⟩ | ⟨bar, _, huser⟩⟩ := step_cases hstep
  · have htoken := jwtToken_of_complete index hcomplete
    exact htoken
  · rw [App.kakaoLoggedIn_jwtToken]
    rfl
  · rw [App.submitted_jwtToken]
    rfl
  · rw [App.runBlock_jwtToken]
    rfl
  · obtain ⟨rfl, rfl⟩ | ⟨rfl, rfl⟩ := stepLogin_cases huser <;> rfl
  · have hsilent : e.writesToken = none := by
      cases e with
      | answered => cases huser
      | _ => rfl
    rw [stepMain_jwtToken huser, hsilent]
    rfl

/-- In every run, the keychain holds what was written last, or what it held at the launch. -/
theorem keychain_last_write {jwtToken : Option String}
    (h : bunjangClone.run (launched jwtToken) es = some app) :
    app.jwtToken = (es.filterMap Event.writesToken).getLast?.getD jwtToken :=
  Machine.last_write App.jwtToken Event.writesToken (fun _ _ _ hstep => jwtToken_of_step hstep) h

/-- A member logs out, and logs in again as somebody else. -/
def relogin : List Event :=
  [.answered 0 (.autoLogin (.success ⟨true, 1000, "", ()⟩)), .selectTab .myShop,
    .openScreen .setting, .openScreen .logoutDialog, .logoutButtonPressed (some "kakao"),
    .answered 1 (.logout (.success ⟨true, 1000, "", ()⟩)), .selectTab .following,
    .kakaoLoginButtonPressed, .kakaoLoggedIn 0 (.success (some "kakao")),
    .answered 2 (.login (.success ⟨true, 1000, "", ⟨1, "new"⟩⟩))]

theorem keychain_last_write_relogin : ∃ app,
    bunjangClone.run (launched (some "old")) relogin = some app ∧
      app.jwtToken = (relogin.filterMap Event.writesToken).getLast?.getD (some "old") :=
  ⟨_, rfl, keychain_last_write rfl⟩

end BunjangClone.Session
