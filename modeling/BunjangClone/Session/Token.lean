import BunjangClone.Session.App

/-!
# The stored token

`isLogin` tests that some token is stored, so a token counts as a login from the moment
it is stored until it is deleted, whatever the server thinks of it. Only a successful
login stores one. A launch request that fails deletes the token, one that is refused
does not.
-/

namespace BunjangClone.Session

open Reactive

variable {app app' : App} {bar : TabBar} {e : Event} {es : List Event}

/-- `LoginDataManager.login` stores a token. -/
def Event.storesToken : Event → Bool
  | .answered _ (.login response) => response.isSuccess
  | _ => false

/-- The launch request is refused because the token is missing or fails verification. -/
def Event.rejectsToken : Event → Bool
  | .answered _ (.autoLogin response) => response.isRefused fun code => code = 2000 ∨ code = 3000
  | _ => false

/-- The launch request fails. -/
def Event.failsLaunch : Event → Bool
  | .answered _ (.autoLogin .failure) => true
  | _ => false

/-- After a callback of the given kind nobody is logged in until a login succeeds. -/
def LoggedOutAfter (kind : Event → Bool) (start : App) (es : List Event) : Prop :=
  ∀ before e after app, before ++ e :: after <+: es → kind e = true →
    (∀ f ∈ after, f.storesToken = false) →
      bunjangClone.run start (before ++ e :: after) = some app → app.isLogin = false

/-- Nothing is stored when the token is rejected. -/
def NothingStored (app : App) (e : Event) : Prop :=
  e.rejectsToken = true → app.jwtToken = none

instance (app : App) : DecidablePred (NothingStored app) :=
  fun _ => inferInstanceAs (Decidable (_ → _))

/-! ## What changes the token -/

theorem stepMain_jwtToken (h : stepMain app bar e = some app') :
    app'.jwtToken = app.jwtToken := by
  obtain ⟨tab, _, _, rfl⟩ | ⟨screen, _, _, rfl⟩ | ⟨_, _, rfl⟩ | ⟨_, rfl⟩ | ⟨vc, _, _, _, rfl⟩ |
    ⟨_, _, rfl⟩ | ⟨_, rfl⟩ | ⟨_, rfl⟩ | ⟨accepted, _, rfl⟩ | ⟨oauthToken, _, _, rfl⟩ :=
      stepMain_cases h <;>
    simp [App.openScreen, App.popViewController]

theorem deliver_jwtToken {deliver : App → App} (h : Delivers deliver) (app : App) :
    (deliver app).jwtToken = app.jwtToken := by
  cases h <;> simp

/-- Commands that store no token leave nobody logged in who was not. -/
theorem jwtToken_handle {ρ : Type} {commands : List (Command ρ)} {deliver : App → App}
    (hdeliver : Delivers deliver) (hstores : ∀ jwt, .setToken jwt ∉ commands)
    (h : app.jwtToken = none) :
    (commands.foldl (App.perform deliver) app).jwtToken = none := by
  induction commands generalizing app with
  | nil => exact h
  | cons command rest ih =>
      refine ih (fun jwt hmem => hstores jwt (List.mem_cons_of_mem _ hmem)) ?_
      cases command with
      | deliver result => rw [App.perform, deliver_jwtToken hdeliver, h]
      | setToken jwt => exact absurd List.mem_cons_self (hstores jwt)
      | deleteToken => rfl
      | _ => exact h

theorem jwtToken_complete {index : Nat} {request : Request} {answer : Answer}
    (hstores : (Event.answered index answer).storesToken = false)
    (hcomplete : app.complete request answer = some app') (h : app.jwtToken = none) :
    app'.jwtToken = none := by
  obtain ⟨_, _, _, hdeliver, rfl, honly⟩ := complete_cases hcomplete
  refine jwtToken_handle hdeliver (fun jwt hmem => ?_) h
  obtain ⟨response, rfl, hsuccess⟩ := honly jwt hmem
  rw [Event.storesToken, hsuccess] at hstores
  cases hstores

/-- Nobody is logged in without a successful login. -/
theorem jwtToken_step (hstores : e.storesToken = false)
    (hstep : bunjangClone.step app e = some app') (h : app.jwtToken = none) :
    app'.jwtToken = none := by
  obtain ⟨_, ⟨index, answer, request, rest, rfl, _, hcomplete⟩ |
    ⟨index, result, login, rest, rfl, _, rfl⟩ | ⟨submission, rest, rfl, _, rfl⟩ |
    ⟨block, rest, rfl, _, rfl⟩ | ⟨_, huser⟩ | ⟨bar, _, huser⟩⟩ := step_cases hstep
  · exact jwtToken_complete hstores hcomplete h
  · rw [App.kakaoLoggedIn_jwtToken]
    exact h
  · rw [App.submitted_jwtToken]
    exact h
  · rw [App.runBlock_jwtToken]
    exact h
  · obtain ⟨_, rfl⟩ | ⟨_, rfl⟩ := stepLogin_cases huser
    · exact h
    · exact h
  · rw [stepMain_jwtToken huser, h]

theorem jwtToken_run (hstores : ∀ f ∈ es, f.storesToken = false)
    (hrun : bunjangClone.run app es = some app') (h : app.jwtToken = none) :
    app'.jwtToken = none := by
  refine Machine.invariant_of_mem (P := fun t => t.jwtToken = none) h ?_ hstores hrun
  exact fun _ _ _ hnone hstores hstep => jwtToken_step hstores hstep hnone

/-- A rejection opens the login screen and leaves the token where it is. -/
theorem autoLogin_of_rejected {response : AutoLoginResponse}
    (h : (response.isRefused fun code => code = 2000 ∨ code = 3000) = true) :
    AutoLoginDataManager.autoLogin response = [.goToLogin] := by
  obtain ⟨body, rfl, hsuccess, hcode⟩ := DataResponse.isRefused_iff.mp h
  obtain hcode | hcode := of_decide_eq_true hcode <;>
    simp [AutoLoginDataManager.autoLogin, hsuccess, hcode]

/-- What is left of an answer to the launch request, whichever request is answered. -/
theorem step_autoLogin {index : Nat} {response : AutoLoginResponse}
    (h : bunjangClone.step app (.answered index (.autoLogin response)) = some app') :
    ∃ rest, app' = (AutoLoginDataManager.autoLogin response).foldl (App.perform id)
      { app with requests := rest } := by
  have hstep : step app (.answered index (.autoLogin response)) = some app' := h
  obtain ⟨_, ⟨_, _, request, rest, heq, _, hcomplete⟩ | ⟨_, _, _, _, heq, _⟩ | ⟨_, _, heq, _⟩ |
    ⟨_, _, heq, _⟩ | ⟨_, huser⟩ | ⟨_, _, huser⟩⟩ := step_cases hstep
  · obtain ⟨rfl, rfl⟩ := Event.answered.inj heq
    cases completes_of_complete hcomplete
    exact ⟨rest, rfl⟩
  · cases heq
  · cases heq
  · cases heq
  · cases huser
  · cases huser

theorem jwtToken_of_rejectsToken (hrejects : e.rejectsToken = true)
    (hstep : bunjangClone.step app e = some app') : app'.jwtToken = app.jwtToken := by
  cases e with
  | answered index answer =>
      cases answer with
      | autoLogin response =>
          obtain ⟨rest, rfl⟩ := step_autoLogin hstep
          rw [autoLogin_of_rejected hrejects]
          rfl
      | _ => cases hrejects
  | _ => cases hrejects

theorem jwtToken_of_failsLaunch (hfails : e.failsLaunch = true)
    (hstep : bunjangClone.step app e = some app') : app'.jwtToken = none := by
  cases e with
  | answered index answer =>
      cases answer with
      | autoLogin response =>
          cases response with
          | success response => cases hfails
          | failure =>
              obtain ⟨rest, rfl⟩ := step_autoLogin hstep
              rfl
      | _ => cases hfails
  | _ => cases hfails

/-! ## Runs -/

/-- A callback after which nothing is stored is followed by no login but a successful one. -/
theorem loggedOutAfter_of_none {kind : Event → Bool} {start : App}
    (h : ∀ before e t u, before ++ [e] <+: es → kind e = true →
      bunjangClone.run start before = some t → bunjangClone.step t e = some u →
        u.jwtToken = none) : LoggedOutAfter kind start es := by
  intro before e after app hpre hkind hstores hrun
  obtain ⟨t, ht, hlater⟩ := Machine.run_append_iff.mp hrun
  obtain ⟨u, hstep, hafter⟩ := Machine.run_cons_iff.mp hlater
  have hearlier : before ++ [e] <+: es := by
    refine List.IsPrefix.trans ?_ hpre
    simp
  have hnone := jwtToken_run hstores hafter (h before e t u hearlier hkind ht hstep)
  rw [App.isLogin, hnone]
  rfl

/-- A launch that fails logs the user out. -/
theorem loggedOut_after_failed_launch (start : App) (es : List Event) :
    LoggedOutAfter Event.failsLaunch start es :=
  loggedOutAfter_of_none fun _ _ _ _ _ hfails _ hstep => jwtToken_of_failsLaunch hfails hstep

/-- In every run, a rejected token counts as no login until the next one exactly if none
was stored when the rejection came. -/
theorem loggedOut_after_rejection_iff {jwtToken : Option String}
    (h : bunjangClone.run (launched jwtToken) es = some app) :
    LoggedOutAfter Event.rejectsToken (launched jwtToken) es ↔
      bunjangClone.Meets NothingStored (launched jwtToken) es := by
  constructor
  · intro hout before e t hpre ht hrejects
    obtain ⟨rest, rfl⟩ := hpre
    obtain ⟨u, hu, _⟩ := Machine.run_append_iff.mp h
    obtain ⟨t', ht', hstep⟩ := Machine.run_concat_iff.mp hu
    obtain rfl := Option.some.inj (ht.symm.trans ht')
    have hlogin : u.isLogin = false :=
      hout before e [] u (List.prefix_append _ _) hrejects (by simp) hu
    rw [← jwtToken_of_rejectsToken hrejects hstep]
    simpa [App.isLogin] using hlogin
  · intro hmeets
    refine loggedOutAfter_of_none fun before e t u hpre hrejects ht hstep => ?_
    rw [jwtToken_of_rejectsToken hrejects hstep]
    exact hmeets before e t hpre ht hrejects

/-- Launch is refused with `code`, and a guest selects the tab of their own shop. -/
def refusedLaunch (code : Int) : List Event :=
  [.answered 0 (.autoLogin (.success ⟨false, code, "", ()⟩)), .goOutButtonPressed,
    .selectTab .myShop]

/-- Without a stored token the guest ends up on the login screen. -/
theorem loggedOut_after_missing_token :
    LoggedOutAfter Event.rejectsToken (launched none) (refusedLaunch 2000) := by
  have hrun : ∃ app, bunjangClone.run (launched none) (refusedLaunch 2000) = some app := ⟨_, rfl⟩
  obtain ⟨app, hrun⟩ := hrun
  exact (loggedOut_after_rejection_iff hrun).mpr (by decide)

/-- A token that fails verification still opens the members' tab. -/
theorem rejected_token_is_login :
    ¬ ∀ jwtToken es, LoggedOutAfter Event.rejectsToken (launched jwtToken) es := by
  intro halways
  have hrun : ∃ app, bunjangClone.run (launched (some "")) (refusedLaunch 3000) = some app ∧
      app.isLogin = true := ⟨_, rfl, rfl⟩
  obtain ⟨app, hrun, hlogin⟩ := hrun
  have hout := halways (some "") (refusedLaunch 3000) [] _ _ app List.prefix_rfl rfl (by decide)
    hrun
  rw [hlogin] at hout
  cases hout

end BunjangClone.Session
