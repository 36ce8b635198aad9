import BunjangClone.Following.Feed
import BunjangClone.Reactive.Simulation
import BunjangClone.Session.App

/-!
# The following tab within the app

Whenever "추천" becomes the selected segment, the recommended shops are asked for, and each answer
delivers to the tables of that moment, however many requests are in flight. Every run of the
tab with its requests is a run of the screen, and a run of the app on the following tab.
-/

namespace BunjangClone.Following

open Reactive FollowingViewController
open Session (App bunjangClone launched)

/-- The screen, and how many requests are in flight. They are all alike. -/
structure Visit where
  screen : FeedScreen := {}
  requests : Nat := 0

/-- The touches of the user, and the answers. The user leaves for another tab and comes back
with `viewDidAppear`. -/
inductive VisitEvent where
  | touch (e : FeedTouch)
  | answered (index : Nat) (response : RecommendResponse)
deriving DecidableEq, Repr

/-- "추천" becomes the selected segment. -/
def FollowingViewController.recommends (vc : FollowingViewController) : FeedTouch → Bool
  | .touch (.didSelectItemAt index) =>
      vc.segmentioView.any (fun segmentio => index ≠ segmentio.selectedSegmentioIndex) &&
        decide (index = 2)
  | .touch .recommendButtonPressed =>
      vc.segmentioView.any fun segmentio => 2 ≠ segmentio.selectedSegmentioIndex
  | _ => false

namespace FeedScreen

/-- A command of the completion handler. The alert is not part of the screen. -/
def perform (screen : FeedScreen) : Command (List FollowingData) → FeedScreen
  | .deliver result => { screen with vc := screen.vc.setRecommend result }
  | _ => screen

end FeedScreen

def visitStep (visit : Visit) : VisitEvent → Option Visit
  | .touch (.touch (.setRecommend _)) => none
  | .touch e =>
      (feedStep visit.screen e).map fun screen =>
        { screen := screen
          requests := visit.requests + if visit.screen.vc.recommends e then 1 else 0 }
  | .answered index response =>
      if index < visit.requests then
        some {
          screen := (RecommendDataManager.getRecommend response).foldl FeedScreen.perform
            visit.screen
          requests := visit.requests - 1 }
      else none

def visits : Machine Visit VisitEvent := ⟨visitStep⟩

/-- The tab is selected for the first time. -/
def Visit.appeared : Visit :=
  { screen := { vc := ({} : FollowingViewController).viewDidAppear } }

variable {visit visit' : Visit} {e : VisitEvent} {es : List VisitEvent} {app : App}

/-! ## What the screen sees -/

def Visit.touches (_ : Visit) : VisitEvent → List FeedTouch
  | .touch e => [e]
  | .answered _ (.success body) =>
      if body.isSuccess then [.touch (.setRecommend body.result)] else []
  | .answered _ .failure => []

theorem foldl_getRecommend (screen : FeedScreen) (response : RecommendResponse) (index : Nat) :
    feeds.run screen (visit.touches (.answered index response)) =
      some ((RecommendDataManager.getRecommend response).foldl FeedScreen.perform screen) := by
  cases response with
  | failure => rfl
  | success body =>
      cases hsuccess : body.isSuccess with
      | false =>
          simp [Visit.touches, RecommendDataManager.getRecommend, deliverOrAlert, hsuccess]
      | true =>
          have hstep : feeds.step screen (.touch (.setRecommend body.result)) =
              some { screen with vc := screen.vc.setRecommend body.result } := rfl
          simp [Visit.touches, RecommendDataManager.getRecommend, deliverOrAlert, hsuccess,
            Machine.run, hstep, FeedScreen.perform]

theorem visitStep_touch {e : FeedTouch} (h : visits.step visit (.touch e) = some visit') :
    ∃ screen, feedStep visit.screen e = some screen ∧
      visit' = ⟨screen, visit.requests + if visit.screen.vc.recommends e then 1 else 0⟩ := by
  have htouch : visitStep visit (.touch e) = some visit' := h
  unfold visitStep at htouch
  split at htouch
  · cases htouch
  · rename_i heq
    obtain rfl := VisitEvent.touch.inj heq
    obtain ⟨screen, hscreen, rfl⟩ := Option.map_eq_some_iff.mp htouch
    exact ⟨screen, hscreen, rfl⟩
  · rename_i heq
    cases heq

theorem visitStep_answered {index : Nat} {response : RecommendResponse}
    (h : visits.step visit (.answered index response) = some visit') :
    index < visit.requests ∧ visit' = ⟨(RecommendDataManager.getRecommend response).foldl
      FeedScreen.perform visit.screen, visit.requests - 1⟩ := by
  obtain ⟨hindex, heq⟩ := Option.ite_none_right_eq_some.mp h
  exact ⟨hindex, (Option.some.inj heq).symm⟩

/-- The screen of the tab is the screen alone. -/
theorem visits_screen : visits.Simulates feeds (fun _ _ => True) Visit.touches
    fun visit screen => visit.screen = screen := by
  rintro visit e visit' _ rfl _ hstep
  cases e with
  | touch e =>
      obtain ⟨screen, hscreen, rfl⟩ := visitStep_touch hstep
      exact ⟨screen, Machine.run_of_step hscreen, rfl⟩
  | answered index response =>
      obtain ⟨_, rfl⟩ := visitStep_answered hstep
      exact ⟨_, foldl_getRecommend _ response index, rfl⟩

/-! ## What the app sees -/

/-- Another tab is selected and this one again, or "추천" becomes the selected segment. -/
def Visit.appEvents (visit : Visit) : VisitEvent → List Session.Event
  | .touch (.touch .viewDidAppear) => [.selectTab .talk, .selectTab .following]
  | .touch e => if visit.screen.vc.recommends e then [.selectRecommend] else []
  | .answered index response => [.answered index (.recommend response)]

/-- The following tab is the one selected, of a member. -/
structure InApp (visit : Visit) (app : App) : Prop where
  member : app.jwtToken.isSome = true
  root : ∃ bar, app.root = some (.main bar) ∧ bar.selected = .following ∧
    .following ∈ bar.loaded
  requests : app.requests = List.replicate visit.requests .recommend
  untrapped : app.trapped = false

/-- The user sees another tab, which sends nothing. -/
theorem inApp_comesBack (h : InApp visit app) : ∃ app',
    bunjangClone.run app [.selectTab .talk, .selectTab .following] = some app' ∧
      InApp visit app' := by
  obtain ⟨bar, hroot, hselected, hloaded⟩ := h.root
  have hmember : app.isLogin = true := h.member
  have haway : ∃ away : Session.TabBar, app.selectTab bar .talk = app.setBar away ∧
      away.selected = .talk ∧ .following ∈ away.loaded := by
    rw [App.selectTab]
    split
    · exact ⟨{ bar with selected := .talk }, by simp [App.homeAppears], rfl, hloaded⟩
    · refine ⟨{ bar with selected := .talk, loaded := .talk :: bar.loaded }, ?_, rfl,
        List.mem_cons_of_mem _ hloaded⟩
      have hlogin : (app.setBar { bar with selected := .talk, loaded := .talk :: bar.loaded }
        ).isLogin = true := hmember
      rw [App.tabViewDidLoad, if_pos hlogin]
  obtain ⟨away, haway, htalk, hfollowing⟩ := haway
  have hback : (app.setBar away).selectTab away .following =
      app.setBar { away with selected := .following } := by
    rw [App.selectTab, if_pos hfollowing]
    simp [App.homeAppears, App.setBar]
  refine ⟨app.setBar { away with selected := .following }, ?_,
    ⟨h.member, ⟨_, rfl, rfl, hfollowing⟩, h.requests, h.untrapped⟩⟩
  refine Machine.run_cons_iff.mpr ⟨app.setBar away, ?_, Machine.run_of_step ?_⟩
  · refine Session.step_of_stepMain h.untrapped hroot rfl ?_
    rw [Session.stepMain, if_neg (by simp [hselected]), haway]
  · refine Session.step_of_stepMain h.untrapped rfl rfl ?_
    rw [Session.stepMain, if_neg (by simp [htalk]), hback]

/-- The request is sent, as a member has a token. -/
theorem inApp_recommends (h : InApp visit app) (screen : FeedScreen) : ∃ app',
    bunjangClone.run app [.selectRecommend] = some app' ∧
      InApp ⟨screen, visit.requests + 1⟩ app' := by
  obtain ⟨bar, hroot, hselected, hloaded⟩ := h.root
  obtain ⟨jwt, hjwt⟩ := Option.isSome_iff_exists.mp h.member
  refine ⟨app.showIndicator.send .recommend, Machine.run_of_step ?_, ?_⟩
  · refine Session.step_of_stepMain h.untrapped hroot rfl ?_
    simp [Session.stepMain, hselected, App.sendWithToken, App.showIndicator, hjwt]
  · refine ⟨h.member, ⟨bar, hroot, hselected, hloaded⟩, ?_, h.untrapped⟩
    show app.requests ++ [.recommend] = _
    rw [h.requests, List.replicate_succ']

theorem inApp_touch {e : FeedTouch} {screen : FeedScreen} (h : InApp visit app) : ∃ app',
    bunjangClone.run app (visit.appEvents (.touch e)) = some app' ∧
      InApp ⟨screen, visit.requests + if visit.screen.vc.recommends e then 1 else 0⟩ app' := by
  by_cases hback : e = .touch .viewDidAppear
  · subst hback
    obtain ⟨app', hrun, h'⟩ := inApp_comesBack h
    exact ⟨app', hrun, h'.member, h'.root, h'.requests, h'.untrapped⟩
  · have hevents : visit.appEvents (.touch e) =
        if visit.screen.vc.recommends e then [.selectRecommend] else [] := by
      unfold Visit.appEvents
      split
      · rename_i heq
        exact absurd (VisitEvent.touch.inj heq) hback
      · rename_i heq
        rw [VisitEvent.touch.inj heq]
      · rename_i heq
        cases heq
    rw [hevents]
    cases visit.screen.vc.recommends e with
    | true => exact inApp_recommends h screen
    | false => exact ⟨app, rfl, h.member, h.root, h.requests, h.untrapped⟩

/-- The app's handler does nothing but to end the overlay. -/
theorem complete_recommend (app : App) (response : RecommendResponse) : ∃ overlay,
    app.complete .recommend (.recommend response) = some { app with overlay := overlay } := by
  have hcomplete : app.complete .recommend (.recommend response) =
      some ((RecommendDataManager.getRecommend response).foldl
        (App.perform App.dismissIndicator) app) := rfl
  rw [hcomplete]
  cases hsuccess : response.isSuccess with
  | false =>
      have halerts : ∀ command ∈ RecommendDataManager.getRecommend response,
          Session.IsAlert command := Session.alerts_deliverOrAlert hsuccess
      obtain ⟨overlay, hoverlay⟩ := Session.foldl_alerts App.dismissIndicator halerts app
      exact ⟨overlay, congrArg some hoverlay⟩
  | true =>
      cases response with
      | failure => cases hsuccess
      | success body =>
          have hsuccess : body.isSuccess = true := hsuccess
          refine ⟨false, ?_⟩
          simp [RecommendDataManager.getRecommend, deliverOrAlert, hsuccess, App.perform,
            App.dismissIndicator]

theorem inApp_answered {index : Nat} {response : RecommendResponse} {screen : FeedScreen}
    (h : InApp visit app) (hindex : index < visit.requests) : ∃ app',
      bunjangClone.run app [.answered index (.recommend response)] = some app' ∧
        InApp ⟨screen, visit.requests - 1⟩ app' := by
  have htake : takeAt app.requests index =
      some (.recommend, List.replicate (visit.requests - 1) .recommend) := by
    rw [h.requests]
    refine takeAt_eq_some_iff.mpr ⟨by simp [hindex], ?_⟩
    rw [List.eraseIdx_replicate, if_pos hindex]
  obtain ⟨overlay, hcomplete⟩ := complete_recommend
    { app with requests := List.replicate (visit.requests - 1) .recommend } response
  refine ⟨_, Machine.run_of_step ((Session.step_answered h.untrapped htake).trans hcomplete), ?_⟩
  exact ⟨h.member, h.root, rfl, h.untrapped⟩

theorem visits_in_app : visits.Simulates bunjangClone (fun _ _ => True) Visit.appEvents
    InApp := by
  rintro visit e visit' app h _ hstep
  cases e with
  | touch e =>
      obtain ⟨screen, _, rfl⟩ := visitStep_touch hstep
      exact inApp_touch h
  | answered index response =>
      obtain ⟨hindex, rfl⟩ := visitStep_answered hstep
      exact inApp_answered h hindex

/-! ## Runs -/

/-- A member is let in, sees the home tab and selects the following tab. -/
def selectsFollowing : List Session.Event :=
  [.answered 0 (.autoLogin (.success ⟨true, 1000, "", ()⟩)),
    .answered 0 (.homeItem (.success ⟨true, 1000, "", some []⟩)), .runBlock,
    .selectTab .following]

theorem following_selected (jwt : String) : ∃ app,
    bunjangClone.run (launched (some jwt)) selectsFollowing = some app ∧
      InApp .appeared app :=
  ⟨_, rfl, rfl, ⟨_, rfl, rfl, by simp⟩, rfl, rfl⟩

/-- A run of the tab, as the screen and as the app see it. -/
structure VisitParts (jwt : String) (es : List VisitEvent) (visit : Visit) : Prop where
  screen : feeds.run {} (.touch .viewDidAppear :: visits.collect Visit.touches .appeared es) =
    some visit.screen
  app : ∃ app, bunjangClone.run (launched (some jwt))
    (selectsFollowing ++ visits.collect Visit.appEvents .appeared es) = some app ∧ InApp visit app

/-- Every run of the tab is a run of the screen and the rest of a run of the app in which the tab
was selected. -/
theorem visit_parts (jwt : String) (h : visits.run .appeared es = some visit) :
    VisitParts jwt es visit := by
  constructor
  · obtain ⟨screen, hscreen, rfl⟩ := visits_screen.run rfl (fun _ _ _ _ _ => trivial) h
    exact Machine.run_cons_iff.mpr ⟨_, rfl, hscreen⟩
  · obtain ⟨app, hselected, hopened⟩ := following_selected jwt
    obtain ⟨app', hrun, h'⟩ := visits_in_app.run hopened (fun _ _ _ _ _ => trivial) h
    exact ⟨app', Machine.run_append hselected hrun, h'⟩

/-- Two requests are in flight over an appearance, and answered the second before the first. -/
def askedTwice : List VisitEvent :=
  [.touch (.touch .recommendButtonPressed), .touch (.touch .viewDidAppear),
    .touch (.touch .recommendButtonPressed),
    .answered 1 (.success ⟨true, 1000, "", [shop 1]⟩), .answered 0 .failure]

theorem visit_parts_askedTwice :
    ∃ visit, visits.run .appeared askedTwice = some visit ∧ VisitParts "jwt" askedTwice visit :=
  ⟨_, rfl, visit_parts "jwt" rfl⟩

end BunjangClone.Following
