import BunjangClone.Keychain.History
import BunjangClone.Session.Keychain

/-!
# The app on a device

The app takes the keychain for one cell. On a device the token is read with `KeychainSwift`
whenever it is asked for, and written by the handlers of three answers. Each handler reads
before it writes, so one reading at the start of a step stands for all of them. On a keychain
that works, the app runs as with the cell.
-/

namespace BunjangClone.Session

open Reactive Keychain

variable {σ : Type} (security : Security σ)

/-- `KeychainSwift().get("jwtToken")`. -/
def stored (s : σ) : Option String :=
  (KeychainSwift.get security {} "jwtToken" s).1

/-- What the handlers of an answer do to the keychain. -/
def store (s : σ) : Event → σ
  | .answered _ (.login (.success response)) =>
      if response.isSuccess then
        (KeychainSwift.set security {} response.result.jwt "jwtToken" none s).2.2
      else s
  | .answered _ (.logout (.success response)) =>
      if response.isSuccess then (KeychainSwift.delete security {} "jwtToken" s).2.2 else s
  | .answered _ (.autoLogin .failure) =>
      if stored security s ≠ none then (KeychainSwift.delete security {} "jwtToken" s).2.2 else s
  | _ => s

/-- The app reads its token from the keychain. -/
def deviceStep (state : App × σ) (e : Event) : Option (App × σ) :=
  (bunjangClone.step { state.1 with jwtToken := stored security state.2 } e).map fun app =>
    (app, store security state.2 e)

def device : Machine (App × σ) Event := ⟨deviceStep security⟩

/-- The keychain holds the token, or nothing under its key. -/
def Holds (s : σ) (jwtToken : Option String) : Prop :=
  KeychainSwift.contents security {} "jwtToken" s =
    jwtToken.elim 0 fun jwt => {jwt.toUTF8}

variable {security} {app app' : App} {s : σ} {e : Event} {es : List Event}
variable {jwtToken : Option String}

/-! ## One step -/

theorem stored_of_holds (hworks : security.Works) (h : Holds security s jwtToken) :
    stored security s = jwtToken := by
  cases jwtToken with
  | none => exact get_of_cleared hworks.toDocumented h
  | some jwt =>
      have hread : stored security s = String.fromUTF8? jwt.toUTF8 := get_of_contents hworks h
      rw [hread]
      exact dif_pos jwt.isValidUTF8

theorem holds_set (hworks : security.Works) (jwt : String) :
    Holds security (KeychainSwift.set security {} jwt "jwtToken" none s).2.2 (some jwt) := by
  have hset : KeychainSwift.contents security {} "jwtToken"
      (KeychainSwift.set security {} jwt "jwtToken" none s).2.2 =
        if (KeychainSwift.setData security {} jwt.toUTF8 "jwtToken" none s).1 then {jwt.toUTF8}
        else 0 :=
    KeychainSwift.contents_setData hworks.toDocumented (hworks.deletes _ s) jwt.toUTF8 none
      "jwtToken"
  rw [KeychainSwift.success_setData hworks] at hset
  exact hset

theorem holds_delete (hworks : security.Works) :
    Holds security (KeychainSwift.delete security {} "jwtToken" s).2.2 none :=
  KeychainSwift.contents_deleteNoLock hworks.toDocumented (hworks.deletes _ s) "jwtToken"

/-- The keychain holds what the event writes. -/
theorem holds_store (hworks : security.Works) (h : Holds security s jwtToken) (e : Event) :
    Holds security (store security s e) (e.writesToken.getD jwtToken) := by
  cases e with
  | answered index answer =>
      cases answer with
      | login response =>
          cases response with
          | failure => exact h
          | success body =>
              simp only [store, Event.writesToken]
              split
              · exact holds_set hworks body.result.jwt
              · exact h
      | logout response =>
          cases response with
          | failure => exact h
          | success body =>
              simp only [store, Event.writesToken]
              split
              · exact holds_delete hworks
              · exact h
      | autoLogin response =>
          cases response with
          | success body => exact h
          | failure =>
              simp only [store, Event.writesToken]
              split
              · exact holds_delete hworks
              · rename_i hstored
                rw [not_not, stored_of_holds hworks h] at hstored
                rw [hstored] at h
                exact h
      | _ => exact h
  | _ => exact h

theorem device_step (hworks : security.Works) (h : Holds security s app.jwtToken) (e : Event) :
    (device security).step (app, s) e =
      (bunjangClone.step app e).map fun app => (app, store security s e) := by
  show (bunjangClone.step { app with jwtToken := stored security s } e).map _ = _
  rw [stored_of_holds hworks h]

/-! ## Runs -/

/-- What the device does in a run, step for step what the app does with the cell. -/
structure OnDevice (security : Security σ) (app : App) (s : σ) (es : List Event) : Prop where
  run : (device security).run (app, s) es =
    (bunjangClone.run app es).map fun app => (app, es.foldl (store security) s)
  stored : ∀ app', bunjangClone.run app es = some app' →
    stored security (es.foldl (store security) s) = app'.jwtToken

theorem device_run (hworks : security.Works) (h : Holds security s app.jwtToken)
    (es : List Event) : OnDevice security app s es := by
  induction es generalizing app s with
  | nil =>
      refine ⟨rfl, fun app' hrun => ?_⟩
      obtain rfl := Option.some.inj hrun
      exact stored_of_holds hworks h
  | cons e es ih =>
      have hstep := device_step hworks h e
      cases happ : bunjangClone.step app e with
      | none =>
          refine ⟨?_, fun app' hrun => ?_⟩
          · rw [Machine.run, hstep, Machine.run, happ]
            rfl
          · rw [Machine.run, happ] at hrun
            cases hrun
      | some next =>
          have hnext : Holds security (store security s e) next.jwtToken := by
            rw [jwtToken_of_step happ]
            exact holds_store hworks h e
          obtain ⟨hrun, hstored⟩ := ih hnext
          refine ⟨?_, fun app' hrun' => ?_⟩
          · rw [Machine.run, hstep, Machine.run, happ]
            exact hrun
          · rw [Machine.run, happ] at hrun'
            exact hstored app' hrun'

/-- The keychain of a member. -/
def memberItems : List Item := [⟨"jwtToken", "", false, .accessibleWhenUnlocked, "old".toUTF8⟩]

theorem device_run_relogin : OnDevice listed (launched (some "old")) memberItems relogin ∧
    stored listed (relogin.foldl (store listed) memberItems) = some "new" := by
  have hholds : Holds listed memberItems (some "old") := rfl
  have hrun : OnDevice listed (launched (some "old")) memberItems relogin :=
    device_run works_listed hholds relogin
  exact ⟨hrun, hrun.stored _ rfl⟩

end BunjangClone.Session
