import BunjangClone.DataManager
import BunjangClone.Reactive.Machine
import BunjangClone.Reactive.Pending

/-!
# The home feed pager

`HomeViewController` keeps the loaded items and a page counter. Appearing requests the
current page, displaying the last row advances the counter and requests the next one,
disappearing resets the counter, and a delivered page is appended by a block queued on
the main queue. The state below adds to these two fields what UIKit and the network
hold for the controller: whether the screen is on, the pages requested and not yet
answered, and the blocks not yet run.

UIKit announces a disappearance before the transition starts, so rows are displayed after it
as well; when the transition ends is not told apart. Answers come in any order, each one a
success, a refusal or a failure. `controller` takes any of them, `pager` those of a server that
keeps its promise. The accounting laws at the end hold in every run: every page asked for is
served or was lost, and the items are those of the pages served, in the order served.
-/

namespace BunjangClone.Home

open Reactive

structure HomeViewController where
  ItemArray : List HomeItem := []
  page : Nat := 1
  visible : Bool := false
  requests : List Nat := []
  mainQueue : List (List HomeItem) := []
deriving DecidableEq, Repr

namespace HomeViewController

/-- `HomeItemDataManager().getHomeItem(page:viewController:)`, the sending half. -/
def getHomeItem (vc : HomeViewController) (page : Nat) : HomeViewController :=
  { vc with requests := vc.requests ++ [page] }

def viewWillAppear (vc : HomeViewController) : HomeViewController :=
  { vc.getHomeItem vc.page with visible := true }

def viewWillDisappear (vc : HomeViewController) : HomeViewController :=
  { vc with page := 1, visible := false }

/-- `setProduct` only queues its block; `setProductBlock` is the block. -/
def setProduct (vc : HomeViewController) (result : List HomeItem) : HomeViewController :=
  { vc with mainQueue := vc.mainQueue ++ [result] }

def setProductBlock (vc : HomeViewController) (result : List HomeItem) : HomeViewController :=
  { vc with ItemArray := vc.ItemArray ++ result }

/-- `collectionView(_:willDisplay:forItemAt:)`. -/
def willDisplay (vc : HomeViewController) (row : Nat) : HomeViewController :=
  if row + 1 = vc.ItemArray.length then
    { vc with page := vc.page + 1 }.getHomeItem (vc.page + 1)
  else vc

/-- Of the commands a completion handler can issue, only the delivery reaches the
fields of the pager. Alerts and the overlay leave them alone, a trap ends the process. -/
def perform (vc : HomeViewController) : Command (List HomeItem) → Option HomeViewController
  | .deliver result => some (vc.setProduct result)
  | .trap => none
  | _ => some vc

end HomeViewController

/-- The answer is a success, rather than a refusal or a failure. -/
def succeeds : HomeItemResponse → Bool
  | .success response => response.isSuccess
  | .failure => false

/-- The page that comes with an answer. -/
def received : HomeItemResponse → Option (List HomeItem)
  | .success response => response.result
  | .failure => none

inductive Callback where
  | viewWillAppear
  | viewWillDisappear
  | willDisplay (row : Nat)
  | answer (index : Nat) (response : HomeItemResponse)
  | runBlock
deriving DecidableEq, Repr

/-- Appearances and disappearances alternate, answers come for outstanding requests only, and
queued blocks run first in, first out. -/
def step (vc : HomeViewController) : Callback → Option HomeViewController
  | .viewWillAppear => if vc.visible then none else some vc.viewWillAppear
  | .viewWillDisappear => if vc.visible then some vc.viewWillDisappear else none
  | .willDisplay row => if row < vc.ItemArray.length then some (vc.willDisplay row) else none
  | .answer index response =>
      (takeAt vc.requests index).bind fun (_, rest) =>
        (HomeItemDataManager.getHomeItem response).foldlM HomeViewController.perform
          { vc with requests := rest }
  | .runBlock =>
      match vc.mainQueue with
      | [] => none
      | result :: rest => some ({ vc with mainQueue := rest }.setProductBlock result)

def controller : Machine HomeViewController Callback := ⟨step⟩

/-- A server that keeps its promise answers a successful request for `page` with that
page of the feed. Refusals and failures are unconstrained. -/
def Serves (feed : Nat → List HomeItem) (page : Nat) (response : HomeItemResponse) : Prop :=
  succeeds response = true → received response = some (feed page)

def Promised (feed : Nat → List HomeItem) (vc : HomeViewController) : Callback → Prop
  | .answer index response => ∀ page ∈ vc.requests[index]?, Serves feed page response
  | _ => True

instance (feed : Nat → List HomeItem) (page : Nat) (response : HomeItemResponse) :
    Decidable (Serves feed page response) :=
  inferInstanceAs (Decidable (succeeds response = true → received response = some (feed page)))

instance (feed : Nat → List HomeItem) (vc : HomeViewController) (e : Callback) :
    Decidable (Promised feed vc e) :=
  match e with
  | .answer index response =>
      inferInstanceAs (Decidable (∀ page ∈ vc.requests[index]?, Serves feed page response))
  | .viewWillAppear | .viewWillDisappear | .willDisplay _ | .runBlock =>
      inferInstanceAs (Decidable True)

/-- The granting answer of a server that keeps its promise. -/
def grant (feed : Nat → List HomeItem) (page : Nat) : HomeItemResponse :=
  .success ⟨true, 1000, "", some (feed page)⟩

/-- The controller on a server that keeps its promise. -/
def pager (feed : Nat → List HomeItem) : Machine HomeViewController Callback :=
  controller.restrict (Promised feed)

variable {feed : Nat → List HomeItem} {vc vc' : HomeViewController}
variable {index row : Nat} {response : HomeItemResponse}

/-! ## What one callback does -/

/-- What the handler does with an answer: a success is delivered, or traps if it carries no
page, and anything else leaves the pager as it is. -/
theorem foldlM_perform_getHomeItem (response : HomeItemResponse) (vc : HomeViewController) :
    (HomeItemDataManager.getHomeItem response).foldlM HomeViewController.perform vc =
      if succeeds response then (received response).map vc.setProduct else some vc := by
  cases response with
  | failure => rfl
  | success response =>
      by_cases hs : response.isSuccess = true
      · cases hr : response.result <;>
          simp [HomeItemDataManager.getHomeItem, succeeds, received, hs, hr, deliverUnwrapped,
            HomeViewController.perform]
      · by_cases hc : response.code = 3008 <;>
          simp [HomeItemDataManager.getHomeItem, succeeds, hs, hc, HomeViewController.perform]

theorem step_viewWillAppear :
    controller.step vc .viewWillAppear = some vc' ↔
      vc.visible = false ∧ vc.viewWillAppear = vc' := by
  simp [controller, step]

theorem step_viewWillDisappear :
    controller.step vc .viewWillDisappear = some vc' ↔
      vc.visible = true ∧ vc.viewWillDisappear = vc' := by
  simp [controller, step]

theorem step_willDisplay :
    controller.step vc (.willDisplay row) = some vc' ↔
      row < vc.ItemArray.length ∧ vc.willDisplay row = vc' := by
  simp [controller, step]

theorem step_answer :
    controller.step vc (.answer index response) = some vc' ↔
      ∃ page rest, takeAt vc.requests index = some (page, rest) ∧
        (if succeeds response then (received response).map { vc with requests := rest }.setProduct
          else some { vc with requests := rest }) = some vc' := by
  simp only [controller, step, Option.bind_eq_some_iff, Prod.exists, foldlM_perform_getHomeItem]

theorem step_runBlock :
    controller.step vc .runBlock = some vc' ↔
      ∃ result rest, vc.mainQueue = result :: rest ∧
        { vc with mainQueue := rest }.setProductBlock result = vc' := by
  cases hq : vc.mainQueue <;> simp [controller, step, hq]

/-- An answer takes its request out, and at most queues a block. -/
theorem answer_cases (h : controller.step vc (.answer index response) = some vc') :
    ∃ page rest, takeAt vc.requests index = some (page, rest) ∧
      ∃ mainQueue, vc' = { vc with requests := rest, mainQueue := mainQueue } := by
  obtain ⟨page, rest, htake, h⟩ := step_answer.mp h
  refine ⟨page, rest, htake, ?_⟩
  split at h
  · obtain ⟨result, _, rfl⟩ := Option.map_eq_some_iff.mp h
    exact ⟨_, rfl⟩
  · exact ⟨vc.mainQueue, (Option.some.inj h).symm⟩

/-- On a server that keeps its promise, the page asked for is delivered. In particular the
forced unwrap never meets `nil`. -/
theorem pager_step_answer :
    (pager feed).step vc (.answer index response) = some vc' ↔
      ∃ page rest, takeAt vc.requests index = some (page, rest) ∧
        Serves feed page response ∧
        vc' = if succeeds response then { vc with requests := rest }.setProduct (feed page)
          else { vc with requests := rest } := by
  rw [pager, Machine.restrict_step_iff, step_answer]
  constructor
  · rintro ⟨hpromised, page, rest, htake, h⟩
    have hserves : Serves feed page response := hpromised page (takeAt_eq_some_iff.mp htake).1
    refine ⟨page, rest, htake, hserves, ?_⟩
    split at h
    · rename_i hs
      rw [hserves hs] at h
      rw [if_pos hs]
      exact (Option.some.inj h).symm
    · rename_i hs
      rw [if_neg hs]
      exact (Option.some.inj h).symm
  · rintro ⟨page, rest, htake, hserves, rfl⟩
    refine ⟨?_, page, rest, htake, ?_⟩
    · intro asked hasked
      obtain rfl : page = asked :=
        Option.some.inj ((takeAt_eq_some_iff.mp htake).1.symm.trans hasked)
      exact hserves
    · split
      · rename_i hs
        rw [hserves hs]
        rfl
      · rfl

/-! ## Accounting for pages -/

/-- The pages a callback asks the server for. -/
def sent (vc : HomeViewController) : Callback → List Nat
  | .viewWillAppear => [vc.page]
  | .willDisplay row => if row + 1 = vc.ItemArray.length then [vc.page + 1] else []
  | _ => []

/-- The page a callback settles, if it answers a request with outcome `outcome`. -/
def settled (outcome : Bool) (vc : HomeViewController) : Callback → List Nat
  | .answer index response =>
      if succeeds response = outcome then
        (takeAt vc.requests index).elim [] fun (page, _) => [page]
      else []
  | _ => []

def served : HomeViewController → Callback → List Nat := settled true
def lost : HomeViewController → Callback → List Nat := settled false

/-- The items loaded, followed by those of the blocks still queued. -/
def content (vc : HomeViewController) : List HomeItem :=
  vc.ItemArray ++ vc.mainQueue.flatten

variable {es : List Callback} {e : Callback}

theorem requests_step (h : controller.step vc e = some vc') :
    (served vc e ++ lost vc e ++ vc'.requests).Perm (vc.requests ++ sent vc e) := by
  cases e with
  | viewWillAppear =>
      obtain ⟨_, rfl⟩ := step_viewWillAppear.mp h
      simp [served, lost, settled, sent, HomeViewController.viewWillAppear,
        HomeViewController.getHomeItem]
  | viewWillDisappear =>
      obtain ⟨_, rfl⟩ := step_viewWillDisappear.mp h
      simp [served, lost, settled, sent, HomeViewController.viewWillDisappear]
  | willDisplay row =>
      obtain ⟨_, rfl⟩ := step_willDisplay.mp h
      simp only [HomeViewController.willDisplay, sent]
      split <;> simp [served, lost, settled, HomeViewController.getHomeItem]
  | answer index response =>
      obtain ⟨page, rest, htake, mainQueue, rfl⟩ := answer_cases h
      have hperm := (takeAt_perm htake).symm
      by_cases hs : succeeds response = true <;>
        simpa [served, lost, settled, sent, htake, hs] using hperm
  | runBlock =>
      obtain ⟨result, rest, hq, rfl⟩ := step_runBlock.mp h
      simp [served, lost, settled, sent, HomeViewController.setProductBlock]

/-- Every page asked for is served, lost or still outstanding, as often as it was
asked for. -/
theorem requests_run (h : controller.run vc es = some vc') :
    (controller.collect served vc es ++ controller.collect lost vc es ++
      vc'.requests).Perm (vc.requests ++ controller.collect sent vc es) := by
  refine Machine.run_induction (m := controller)
    (P := fun es t => (controller.collect served vc es ++ controller.collect lost vc es ++
      t.requests).Perm (vc.requests ++ controller.collect sent vc es))
    (by simp) ?_ es vc' h
  intro es t e u ht ih hstep
  rw [Machine.collect_concat _ ht, Machine.collect_concat _ ht, Machine.collect_concat _ ht]
  have hstep' := requests_step hstep
  rw [List.perm_iff_count] at ih hstep' ⊢
  intro page
  have h₁ := ih page
  have h₂ := hstep' page
  simp only [List.count_append] at h₁ h₂ ⊢
  omega

theorem content_step (h : (pager feed).step vc e = some vc') :
    content vc' = content vc ++ (served vc e).flatMap feed := by
  have hstep := (Machine.restrict_step_iff.mp h).2
  cases e with
  | viewWillAppear =>
      obtain ⟨_, rfl⟩ := step_viewWillAppear.mp hstep
      simp [content, served, settled, HomeViewController.viewWillAppear,
        HomeViewController.getHomeItem]
  | viewWillDisappear =>
      obtain ⟨_, rfl⟩ := step_viewWillDisappear.mp hstep
      simp [content, served, settled, HomeViewController.viewWillDisappear]
  | willDisplay row =>
      obtain ⟨_, rfl⟩ := step_willDisplay.mp hstep
      simp only [HomeViewController.willDisplay]
      split <;> simp [content, served, settled, HomeViewController.getHomeItem]
  | answer index response =>
      obtain ⟨page, rest, htake, _, rfl⟩ := pager_step_answer.mp h
      by_cases hs : succeeds response = true <;>
        simp [content, served, settled, htake, hs, HomeViewController.setProduct]
  | runBlock =>
      obtain ⟨result, rest, hq, rfl⟩ := step_runBlock.mp hstep
      simp [content, served, settled, hq, HomeViewController.setProductBlock]

/-- The items are those of the pages served, in the order they were served. -/
theorem content_run (h : (pager feed).run vc es = some vc') :
    content vc' = content vc ++ (controller.collect served vc es).flatMap feed := by
  refine Machine.run_induction (m := pager feed)
    (P := fun es t => content t = content vc ++ (controller.collect served vc es).flatMap feed)
    (by simp) ?_ es vc' h
  intro es t e u ht ih hstep
  rw [content_step hstep, ih, Machine.collect_concat served (Machine.run_of_restrict ht)]
  simp

/-- The items on screen are a first part of those of the pages served. -/
theorem itemArray_leading (h : (pager feed).run vc es = some vc') (hempty : content vc = []) :
    vc'.ItemArray <+: (controller.collect served vc es).flatMap feed := by
  have hc := content_run h
  rw [hempty, List.nil_append] at hc
  exact ⟨vc'.mainQueue.flatten, hc⟩

end BunjangClone.Home
