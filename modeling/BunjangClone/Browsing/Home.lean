import BunjangClone.Browsing.Steps
import BunjangClone.Home.Pager
import BunjangClone.Reactive.Simulation

/-!
# The home screen under the others

Seen alone, the home screen of a browsing run is the controller of the home feed: opening a
screen over it makes it disappear, popping the last one makes it appear, and its answers and
blocks stand in the order they have among all others. What the pages asked for are, and what
becomes of them, is therefore the same while the user browses.
-/

namespace BunjangClone.Browsing

open Reactive

variable {insertComma : String → String} {browser browser' : Browser} {e : Event}

/-! ## What the home screen sees -/

/-- The page a request of the home screen asks for. -/
def Request.page : Request → Option Nat
  | homeItem page => some page
  | category _ | subCategory _ _ | product _ _ | detail _ _ => none

/-- The items of a block of the home screen. -/
def Block.items : Block → Option (List HomeItem)
  | setHomeItem result => some result
  | setCategory _ _ | setProduct _ _ => none

def Browser.homePart (browser : Browser) : Home.HomeViewController where
  ItemArray := browser.home.ItemArray
  page := browser.home.page
  visible := browser.pushed.isEmpty
  requests := browser.requests.filterMap Request.page
  mainQueue := browser.mainQueue.filterMap Block.items

/-- The callbacks an event is for the home screen. A row before the last is displayed without
effect. -/
def Browser.homeCallbacks (browser : Browser) : Event → List Home.Callback
  | .touched touch =>
      match browser.opening touch, touch with
      | some _, _ => if browser.pushed = [] then [.viewWillDisappear] else []
      | none, .popViewController => if browser.pushed.tail = [] then [.viewWillAppear] else []
      | none, .willDisplay row =>
          if row + 1 = browser.home.ItemArray.length then [.willDisplay row] else []
      | none, _ => []
  | .answered index answer =>
      match browser.requests[index]?, answer with
      | some (.homeItem _), .homeItem response =>
          [.answer (rank Request.page browser.requests index) response]
      | _, _ => []
  | .runBlock =>
      match browser.mainQueue with
      | .setHomeItem _ :: _ => [.runBlock]
      | _ => []

/-- The step does not trap. -/
def Untrapped (insertComma : String → String) (browser : Browser) (e : Event) : Prop :=
  ∀ browser', (browsing insertComma).step browser e = some browser' → browser'.trapped = false

/-! ## Steps -/

theorem homePart_opens (opened : Opened) :
    (browser.pushViewController insertComma opened).homePart =
      if browser.pushed = [] then browser.homePart.viewWillDisappear else browser.homePart := by
  have hrequests : ∀ id, (opened.requests id).filterMap Request.page = [] := by
    intro id
    cases opened <;> rfl
  rw [pushViewController_eq]
  by_cases hpushed : browser.pushed = [] <;> by_cases hloads : browser.loads opened = true <;>
    simp [Browser.homePart, Home.HomeViewController.viewWillDisappear, hpushed, hloads, hrequests]

theorem homePart_pops :
    browser.popViewController.homePart =
      if browser.pushed.tail = [] then
        { browser.homePart with visible := false }.viewWillAppear
      else { browser.homePart with visible := false } := by
  by_cases htail : browser.pushed.tail = [] <;>
    simp [Browser.popViewController, Browser.homeViewWillAppear, Browser.send, Browser.homePart,
      Home.HomeViewController.viewWillAppear, Home.HomeViewController.getHomeItem, Request.page,
      htail]

theorem homePart_press {id : Nat} {vc : ViewController} {request : Request}
    (hpage : request.page = none) :
    ((browser.setController id vc).send request).homePart = browser.homePart := by
  simp [Browser.setController, Browser.send, Browser.homePart, hpage]

theorem homePart_runBlock {block : Block} {rest : List Block}
    (hqueue : browser.mainQueue = block :: rest) (hitems : block.items = none) :
    ({ browser with mainQueue := rest }.runBlock insertComma block).homePart =
      browser.homePart := by
  cases block with
  | setHomeItem => cases hitems
  | setCategory id result | setProduct id result =>
      simp only [Browser.runBlock]
      split <;> simp [Browser.setController, Browser.homePart, hqueue, hitems]

theorem succeeds_eq (response : HomeItemResponse) :
    Home.succeeds response = response.isSuccess := by
  cases response <;> rfl

/-- The answer to a request of the home screen. -/
theorem home_answer {index page : Nat} {response : HomeItemResponse} {rest : List Request}
    {vc : Home.HomeViewController}
    (htaken : takeAt browser.requests index = some (.homeItem page, rest))
    (hnext : (if response.isSuccess then
        (Home.received response).map { browser with requests := rest }.homePart.setProduct
      else some { browser with requests := rest }.homePart) = some vc) :
    Home.controller.run browser.homePart
      (browser.homeCallbacks (.answered index (.homeItem response))) = some vc := by
  obtain ⟨hindex, _⟩ := takeAt_eq_some_iff.mp htaken
  have htake := takeAt_filterMap (f := Request.page) htaken rfl
  have hcallbacks : browser.homeCallbacks (.answered index (.homeItem response)) =
      [.answer (rank Request.page browser.requests index) response] := by
    simp [Browser.homeCallbacks, hindex]
  rw [hcallbacks]
  refine Machine.run_of_step (Home.step_answer.mpr ⟨page, _, htake, ?_⟩)
  rw [succeeds_eq]
  exact hnext

/-- The answer to another screen. -/
theorem home_unanswered {index : Nat} {request : Request} {answer : Answer} {rest : List Request}
    (htaken : takeAt browser.requests index = some (request, rest)) (hpage : request.page = none) :
    Home.controller.run browser.homePart (browser.homeCallbacks (.answered index answer)) =
      some { browser with requests := rest }.homePart := by
  obtain ⟨hindex, _⟩ := takeAt_eq_some_iff.mp htaken
  have hcallbacks : browser.homeCallbacks (.answered index answer) = [] := by
    cases request with
    | homeItem => cases hpage
    | category | subCategory | product | detail => simp [Browser.homeCallbacks, hindex]
  rw [hcallbacks, Machine.run_nil, Browser.homePart, Browser.homePart]
  simp [filterMap_of_takeAt htaken hpage]

theorem home_answered {index : Nat} {request : Request} {answer : Answer} {rest : List Request}
    (htaken : takeAt browser.requests index = some (request, rest))
    (htrapped : browser'.trapped = false)
    (hanswers : Answers insertComma { browser with requests := rest } request answer browser') :
    Home.controller.run browser.homePart (browser.homeCallbacks (.answered index answer)) =
      some browser'.homePart := by
  cases hanswers with
  | refused takes refused =>
      cases hrequest : request.page with
      | none => exact home_unanswered htaken hrequest
      | some page =>
          cases request with
          | homeItem page =>
              cases answer with
              | homeItem response =>
                  have hrefused : ¬ response.isSuccess = true := by
                    simpa [Answer.grants] using refused
                  exact home_answer htaken (if_neg hrefused)
              | category | subCategory | product | detail => cases takes
          | category | subCategory | product | detail => cases hrequest
  | @homeItem page body result success present =>
      have hsuccess : DataResponse.isSuccess (.success body) = true := success
      refine home_answer htaken ?_
      rw [if_pos hsuccess, Home.received, present]
      simp [Browser.homePart, Browser.queue, Home.HomeViewController.setProduct, Block.items]
  | noHomeItem success absent => cases htrapped
  | category | noProduct | detail | noDetail => exact home_unanswered htaken rfl
  | subCategory | product =>
      rw [home_unanswered htaken rfl]
      simp [Browser.homePart, Browser.queue, Block.items]

/-- Each event is for the home screen what `homeCallbacks` says. -/
theorem home_step (htrapped : browser'.trapped = false)
    (hsteps : Steps insertComma browser e browser') :
    Home.controller.run browser.homePart (browser.homeCallbacks e) = some browser'.homePart := by
  cases hsteps with
  | @idle touch opens button back last =>
      have hcallbacks : browser.homeCallbacks (.touched touch) = [] := by
        cases touch with
        | popViewController => exact absurd rfl back
        | willDisplay row => simp [Browser.homeCallbacks, opens, last row rfl]
        | headerButtonPressed | didSelectItemAt | buttonPressed =>
            simp [Browser.homeCallbacks, opens]
      rw [hcallbacks, Machine.run_nil]
  | @opens touch opened opens =>
      rw [homePart_opens]
      by_cases hpushed : browser.pushed = []
      · have hvisible : browser.homePart.visible = true := List.isEmpty_iff.mpr hpushed
        simp only [Browser.homeCallbacks, opens, if_pos hpushed]
        exact Machine.run_cons_iff.mpr
          ⟨_, Home.step_viewWillDisappear.mpr ⟨hvisible, rfl⟩, rfl⟩
      · simp [Browser.homeCallbacks, opens, hpushed]
  | pops covered =>
      have hvisible : browser.homePart.visible = false := List.isEmpty_eq_false_iff.mpr covered
      have hhidden : { browser.homePart with visible := false } = browser.homePart := by
        rw [← hvisible]
      rw [homePart_pops, hhidden]
      by_cases htail : browser.pushed.tail = []
      · have hcallbacks : browser.homeCallbacks (.touched .popViewController) =
            [.viewWillAppear] := if_pos htail
        rw [hcallbacks, if_pos htail]
        exact Machine.run_cons_iff.mpr ⟨_, Home.step_viewWillAppear.mpr ⟨hvisible, rfl⟩, rfl⟩
      · have hcallbacks : browser.homeCallbacks (.touched .popViewController) = [] :=
          if_neg htail
        rw [hcallbacks, if_neg htail, Machine.run_nil]
  | @displays row last =>
      have hrow : row < browser.homePart.ItemArray.length := by
        have hlength : browser.homePart.ItemArray.length = browser.home.ItemArray.length := rfl
        omega
      have hcallbacks : browser.homeCallbacks (.touched (.willDisplay row)) =
          [.willDisplay row] := if_pos last
      rw [hcallbacks]
      refine Machine.run_cons_iff.mpr
        ⟨_, Home.step_willDisplay.mpr ⟨hrow, rfl⟩, ?_⟩
      have hlast : row + 1 = browser.homePart.ItemArray.length := last
      rw [Machine.run_nil, Home.HomeViewController.willDisplay, if_pos hlast]
      simp [Browser.homePart, Browser.send, Home.HomeViewController.getHomeItem, Request.page]
  | presses top screen token =>
      rw [homePart_press rfl]
      rfl
  | answers taken answers => exact home_answered taken htrapped answers
  | @runs block rest queue =>
      cases hitems : block.items with
      | none =>
          have hcallbacks : browser.homeCallbacks .runBlock = [] := by
            cases block with
            | setHomeItem => cases hitems
            | setCategory | setProduct => simp [Browser.homeCallbacks, queue]
          rw [homePart_runBlock queue hitems, hcallbacks, Machine.run_nil]
      | some result =>
          cases block with
          | setHomeItem items =>
              have hcallbacks : browser.homeCallbacks .runBlock = [.runBlock] := by
                simp [Browser.homeCallbacks, queue]
              have hmain : browser.homePart.mainQueue = items :: rest.filterMap Block.items := by
                simp [Browser.homePart, queue, Block.items]
              rw [hcallbacks]
              exact Machine.run_cons_iff.mpr
                ⟨_, Home.step_runBlock.mpr ⟨items, _, hmain, rfl⟩, rfl⟩
          | setCategory | setProduct => cases hitems

/-! ## Every run -/

theorem home_simulates (insertComma : String → String) :
    (browsing insertComma).Simulates Home.controller (Untrapped insertComma) Browser.homeCallbacks
      fun browser vc => Sound insertComma browser ∧ browser.homePart = vc := by
  rintro browser e browser' vc ⟨hsound, rfl⟩ huntrapped hstep
  have hsteps := (hsound.steps hstep).2.2
  exact ⟨browser'.homePart, home_step (huntrapped browser' hstep) hsteps,
    hsound.of_steps hsteps, rfl⟩

variable {jwtToken : Option String} {es : List Event}

/-- Nothing follows a trap. -/
theorem untrapped_of_step (h : (browsing insertComma).step browser e = some browser') :
    browser.trapped = false := by
  cases htrapped : browser.trapped with
  | false => rfl
  | true => simp [browsing, step, htrapped] at h

/-- In every run without a trap, whatever is opened over it, the home screen is in the state its
controller reaches by the callbacks meant for it. -/
theorem home_is_pager (h : (browsing insertComma).run (opened jwtToken) es = some browser)
    (htrapped : browser.trapped = false) :
    Home.controller.run {} (.viewWillAppear ::
      (browsing insertComma).collect Browser.homeCallbacks (opened jwtToken) es) =
        some browser.homePart := by
  have happeared : (opened jwtToken).homePart = ({} : Home.HomeViewController).viewWillAppear :=
    rfl
  have huntrapped : (browsing insertComma).Meets (Untrapped insertComma) (opened jwtToken) es :=
    Machine.meets_of_last (Q := fun browser : Browser => browser.trapped = false)
      (fun _ _ _ hstep => untrapped_of_step hstep) h htrapped
  obtain ⟨vc, hrun, _, rfl⟩ := (home_simulates insertComma).run
    ⟨sound_opened insertComma jwtToken, rfl⟩ huntrapped h
  rw [happeared] at hrun
  exact Machine.run_cons_iff.mpr ⟨_, Home.step_viewWillAppear.mpr ⟨rfl, rfl⟩, hrun⟩

def coat : HomeItem := ⟨1, "코트", 12000, none, 2, "min", none, "1일 전"⟩

/-- The page of the only item is opened, whose row is displayed once more meanwhile, and popped
again. -/
def coatOpened : List Event :=
  [.answered 0 (.homeItem (.success ⟨true, 1000, "", some [coat]⟩)), .runBlock,
    .touched (.didSelectItemAt 0 0), .touched (.willDisplay 0), .touched .popViewController]

theorem home_is_pager_of_coat : ∃ browser,
    (browsing id).run (opened (some "jwt")) coatOpened = some browser ∧
      Home.controller.run {} (.viewWillAppear ::
        (browsing id).collect Browser.homeCallbacks (opened (some "jwt")) coatOpened) =
          some browser.homePart ∧ browser.homePart.requests = [2, 2] :=
  ⟨_, rfl, home_is_pager rfl rfl, rfl⟩

end BunjangClone.Browsing
