import BunjangClone.Home.Repeats
import BunjangClone.Reactive.Numbering

/-!
# When the home feed keeps the page order

The counter advances when a request is sent, whatever becomes of it. A request that is
refused or fails leaves a gap that later pages close over, and answers that overtake
each other append their pages in the order of arrival. Within a stay request number `n` is for
page `n`, so the loaded items are pages `1..k` in order exactly if the requests granted were
the first, the second, the third and so on, in this order, pages without items aside.
-/

namespace BunjangClone.Home

open Reactive

variable {feed : Nat → List HomeItem} {vc vc' : HomeViewController}
variable {es before : List Callback} {e : Callback}

/-- The items are the first pages of the feed, concatenated in page order. -/
def InPageOrder (feed : Nat → List HomeItem) (items : List HomeItem) : Prop :=
  ∃ k, items = (List.range' 1 k).flatMap feed

/-! ## Requests by number -/

/-- 1 for an appearance of the screen, 0 for any other callback. -/
def Callback.entered : Callback → Nat
  | .viewWillAppear => 1
  | _ => 0

/-- How often a run enters the screen. -/
def appearances (es : List Callback) : Nat := (es.map Callback.entered).sum

def traffic (vc : HomeViewController) : Callback → List Traffic
  | .viewWillAppear => [.asked]
  | .willDisplay row => if row + 1 = vc.ItemArray.length then [.asked] else []
  | .answer index response => [.answered index (succeeds response)]
  | .viewWillDisappear | .runBlock => []

/-- The requests of a run by number, from 0 on. -/
def ledger (es : List Callback) : Ledger :=
  .ofTraffic (controller.collect traffic {} es)

/-- The callback does not end the stay, and does not begin one. -/
def Callback.Stays : Callback → Prop
  | .viewWillAppear | .viewWillDisappear => False
  | .willDisplay _ | .answer _ _ | .runBlock => True

instance : DecidablePred Callback.Stays
  | .viewWillAppear | .viewWillDisappear => inferInstanceAs (Decidable False)
  | .willDisplay _ | .answer _ _ | .runBlock => inferInstanceAs (Decidable True)

/-- Counted from the appearance that began the stay as the first. The requests before it, of
stays that loaded nothing, count as first as well. -/
def numberInStay (earlier number : Nat) : Nat := number - earlier + 1

/-- The requests granted are the first, the second and so on up to the `k`-th of the stay, in
this order, but for those whose page has no items. -/
def GrantedInOrder (feed : Nat → List HomeItem) (numbers : List Nat) : Prop :=
  ∃ k, Paging.filled feed numbers = Paging.filled feed (List.range' 1 k)

/-! ## What the numbers stand for -/

theorem appearances_concat : appearances (es ++ [e]) = appearances es + e.entered := by
  simp [appearances]

theorem ledger_concat (h : controller.run {} es = some vc) :
    ledger (es ++ [e]) = (traffic vc e).foldl Ledger.note (ledger es) := by
  rw [ledger, Machine.collect_concat traffic h, Ledger.ofTraffic_append]
  rfl

/-- The ledger follows what is asked for and what is served. -/
theorem accounts_step {content : Nat → Nat} (h : controller.run {} es = some vc)
    (haccounts : (ledger es).Accounts content vc.requests (controller.collect served {} es))
    (hsent : ∀ page ∈ sent vc e, page = content (ledger es).next)
    (hstep : controller.step vc e = some vc') :
    (ledger (es ++ [e])).Accounts content vc'.requests
      (controller.collect served {} (es ++ [e])) := by
  rw [ledger_concat h, Machine.collect_concat served h]
  cases e with
  | viewWillAppear =>
      obtain ⟨_, rfl⟩ := step_viewWillAppear.mp hstep
      rw [show served vc .viewWillAppear = [] from rfl, List.append_nil]
      exact haccounts.asked (hsent _ (List.mem_singleton_self _))
  | viewWillDisappear =>
      obtain ⟨_, rfl⟩ := step_viewWillDisappear.mp hstep
      rw [show served vc .viewWillDisappear = [] from rfl, List.append_nil]
      exact haccounts
  | willDisplay row =>
      obtain ⟨_, rfl⟩ := step_willDisplay.mp hstep
      rw [show served vc (.willDisplay row) = [] from rfl, List.append_nil]
      simp only [HomeViewController.willDisplay, sent, traffic] at hsent ⊢
      split
      · rename_i hlast
        rw [if_pos hlast] at hsent
        exact haccounts.asked (hsent _ (List.mem_singleton_self _))
      · exact haccounts
  | answer index response =>
      obtain ⟨page, rest, htake, mainQueue, rfl⟩ := answer_cases hstep
      have hserved : served vc (.answer index response) =
          if succeeds response then [page] else [] := by
        simp [served, settled, htake]
      rw [hserved]
      exact haccounts.answered (succeeds response) htake
  | runBlock =>
      obtain ⟨result, rest, _, rfl⟩ := step_runBlock.mp hstep
      rw [show served vc .runBlock = [] from rfl, List.append_nil]
      exact haccounts

theorem next_step (h : controller.run {} es = some vc) :
    (ledger (es ++ [e])).next = (ledger es).next + (sent vc e).length := by
  rw [ledger_concat h]
  cases e with
  | willDisplay row =>
      simp only [traffic, sent]
      split <;> rfl
  | answer index response =>
      simp only [traffic, sent, List.foldl_cons, List.foldl_nil, Ledger.note]
      split <;> rfl
  | viewWillAppear | viewWillDisappear | runBlock => rfl

/-- As long as nothing is loaded, no row is displayed, and all requests are those of
appearances. -/
structure Unloaded (earlier : Nat) (es : List Callback) (vc : HomeViewController) : Prop where
  page : vc.page = 1
  next : (ledger es).next = appearances es
  appeared : vc.visible = true → 0 < appearances es
  accounts : appearances es ≤ earlier + 1 → (ledger es).Accounts (numberInStay earlier)
    vc.requests (controller.collect served {} es)

theorem Unloaded.step {earlier : Nat} (h : controller.run {} es = some vc)
    (hunloaded : Unloaded earlier es vc) (hitems : vc.ItemArray = [])
    (hstep : controller.step vc e = some vc') : Unloaded earlier (es ++ [e]) vc' := by
  have hnext := next_step (e := e) h
  have haccounts : appearances es + e.entered ≤ earlier + 1 →
      (∀ page ∈ sent vc e, page = numberInStay earlier (ledger es).next) →
      (ledger (es ++ [e])).Accounts (numberInStay earlier) vc'.requests
        (controller.collect served {} (es ++ [e])) := fun hle hsent =>
    accounts_step h (hunloaded.accounts (by omega)) hsent hstep
  have hcount : appearances (es ++ [e]) = appearances es + e.entered := appearances_concat
  cases e with
  | viewWillAppear =>
      obtain ⟨_, rfl⟩ := step_viewWillAppear.mp hstep
      refine ⟨hunloaded.page, ?_, fun _ => ?_, fun hle => ?_⟩
      · rw [hnext, hunloaded.next, hcount]
        rfl
      · rw [hcount]
        exact Nat.succ_pos _
      · rw [hcount] at hle
        refine haccounts hle fun page hmem => ?_
        simp only [Callback.entered] at hle
        rw [List.mem_singleton.mp hmem, hunloaded.page, hunloaded.next, numberInStay]
        omega
  | willDisplay row =>
      have hrow := (step_willDisplay.mp hstep).1
      rw [hitems] at hrow
      cases hrow
  | viewWillDisappear =>
      obtain ⟨_, rfl⟩ := step_viewWillDisappear.mp hstep
      refine ⟨rfl, by rw [hnext, hunloaded.next, hcount]; rfl, nofun, fun hle => ?_⟩
      rw [hcount] at hle
      exact haccounts hle (by simp [sent])
  | answer index response =>
      obtain ⟨page, rest, htake, mainQueue, rfl⟩ := answer_cases hstep
      refine ⟨hunloaded.page, by rw [hnext, hunloaded.next, hcount]; rfl,
        fun hon => hcount ▸ hunloaded.appeared hon, fun hle => ?_⟩
      rw [hcount] at hle
      exact haccounts hle (by simp [sent])
  | runBlock =>
      obtain ⟨result, rest, _, rfl⟩ := step_runBlock.mp hstep
      refine ⟨hunloaded.page, by rw [hnext, hunloaded.next, hcount]; rfl,
        fun hon => hcount ▸ hunloaded.appeared hon, fun hle => ?_⟩
      rw [hcount] at hle
      exact haccounts hle (by simp [sent])

/-- Items are only ever added. -/
theorem itemArray_step (h : controller.step vc e = some vc') : vc.ItemArray <+: vc'.ItemArray := by
  cases e with
  | viewWillAppear =>
      obtain ⟨_, rfl⟩ := step_viewWillAppear.mp h
      exact List.prefix_rfl
  | viewWillDisappear =>
      obtain ⟨_, rfl⟩ := step_viewWillDisappear.mp h
      exact List.prefix_rfl
  | willDisplay row =>
      obtain ⟨_, rfl⟩ := step_willDisplay.mp h
      rw [HomeViewController.willDisplay]
      split <;> exact List.prefix_rfl
  | answer index response =>
      obtain ⟨page, rest, _, mainQueue, rfl⟩ := answer_cases h
      exact List.prefix_rfl
  | runBlock =>
      obtain ⟨result, rest, _, rfl⟩ := step_runBlock.mp h
      exact List.prefix_append _ _

theorem unloaded_run (earlier : Nat) (h : controller.run {} es = some vc)
    (hitems : vc.ItemArray = []) : Unloaded earlier es vc := by
  have key := Machine.run_induction (m := controller) (s := {})
    (P := fun es vc => vc.ItemArray = [] → Unloaded earlier es vc)
    (fun _ => ⟨rfl, rfl, nofun, fun _ => Ledger.accounts_empty _⟩) ?_
  · exact key es vc h hitems
  · intro es t e u ht ih hstep hnone
    have hitems : t.ItemArray = [] := by
      have hprefix := itemArray_step hstep
      rw [hnone] at hprefix
      exact List.prefix_nil.mp hprefix
    exact (ih hitems).step ht hitems hstep

/-- Within the stay, the next request is for the page after the last. -/
structure Staying (earlier : Nat) (es : List Callback) (vc : HomeViewController) : Prop where
  next : (ledger es).next = earlier + vc.page
  accounts : (ledger es).Accounts (numberInStay earlier) vc.requests
    (controller.collect served {} es)

theorem Staying.step {earlier : Nat} (h : controller.run {} es = some vc)
    (hstaying : Staying earlier es vc) (hstays : e.Stays)
    (hstep : controller.step vc e = some vc') : Staying earlier (es ++ [e]) vc' := by
  have hnext := next_step (e := e) h
  have hsent : ∀ page ∈ sent vc e, page = numberInStay earlier (ledger es).next := by
    intro page hmem
    rw [hstaying.next, numberInStay]
    cases e with
    | viewWillAppear => cases hstays
    | willDisplay row =>
        simp only [sent] at hmem
        split at hmem
        · rw [List.mem_singleton.mp hmem]
          omega
        · cases hmem
    | viewWillDisappear | answer | runBlock => cases hmem
  refine ⟨?_, accounts_step h hstaying.accounts hsent hstep⟩
  rw [hnext, hstaying.next]
  cases e with
  | viewWillAppear | viewWillDisappear => cases hstays
  | willDisplay row =>
      obtain ⟨_, rfl⟩ := step_willDisplay.mp hstep
      simp only [sent, HomeViewController.willDisplay]
      split <;> rfl
  | answer index response =>
      obtain ⟨page, rest, _, mainQueue, rfl⟩ := answer_cases hstep
      rfl
  | runBlock =>
      obtain ⟨result, rest, _, rfl⟩ := step_runBlock.mp hstep
      rfl

/-- The pages served in a stay that began with nothing loaded are those of the requests
granted. -/
theorem served_eq_numbers (hbefore : controller.run {} before = some vc)
    (hvisible : vc.visible = true) (hitems : vc.ItemArray = []) (hstay : ∀ e ∈ es, e.Stays)
    (h : controller.run vc es = some vc') :
    controller.collect served {} (before ++ es) =
      (ledger (before ++ es)).granted.map (numberInStay (appearances before - 1)) := by
  have hunloaded := unloaded_run (appearances before - 1) hbefore hitems
  have hpos := hunloaded.appeared hvisible
  have hstart : Staying (appearances before - 1) before vc := by
    refine ⟨?_, hunloaded.accounts (by omega)⟩
    rw [hunloaded.next, hunloaded.page]
    omega
  have key := Machine.run_induction (m := controller) (s := vc)
    (P := fun es vc' => (∀ e ∈ es, e.Stays) →
      Staying (appearances before - 1) (before ++ es) vc')
    (fun _ => (List.append_nil before).symm ▸ hstart) ?_
  · exact (key es vc' h hstay).accounts.granted
  · intro es t e u ht ih hstep hstay
    rw [← List.append_assoc]
    exact (ih fun f hmem => hstay f (List.mem_append_left _ hmem)).step
      (Machine.run_append hbefore ht)
      (hstay e (List.mem_append_right _ (List.mem_singleton_self e))) hstep

/-! ## The exact condition -/

theorem itemArray_of_idle (h : (pager feed).run {} es = some vc) (hqueue : vc.mainQueue = []) :
    vc.ItemArray = (controller.collect served {} es).flatMap feed := by
  have hcontent := content_run h
  simpa [content, hqueue] using hcontent

/-- In every stay that began with nothing loaded, at rest, the items are in page order if the
requests granted are the first, the second and so on. For the converse the items of the feed
must be distinct, or repeated items may hide a gap. -/
theorem in_page_order_iff_granted (hbefore : (pager feed).run {} before = some vc)
    (hvisible : vc.visible = true) (hitems : vc.ItemArray = []) (hstay : ∀ e ∈ es, e.Stays)
    (h : (pager feed).run vc es = some vc') (hidle : vc'.requests = [] ∧ vc'.mainQueue = []) :
    (GrantedInOrder feed ((ledger (before ++ es)).granted.map
        (numberInStay (appearances before - 1))) → InPageOrder feed vc'.ItemArray) ∧
      ∀ distinct : ServerFeed, distinct.page = feed → InPageOrder feed vc'.ItemArray →
        GrantedInOrder feed ((ledger (before ++ es)).granted.map
          (numberInStay (appearances before - 1))) := by
  have hrun := Machine.run_append hbefore h
  have hloaded := itemArray_of_idle hrun hidle.2
  rw [served_eq_numbers (Machine.run_of_restrict hbefore) hvisible hitems hstay
    (Machine.run_of_restrict h)] at hloaded
  constructor
  · rintro ⟨k, hk⟩
    refine ⟨k, ?_⟩
    rw [hloaded, ← Paging.flatMap_filled, hk, Paging.flatMap_filled]
  · rintro distinct rfl ⟨k, hk⟩
    exact ⟨k, Paging.Feed.flatMap_eq_iff.mp (hloaded.symm.trans hk)⟩

/-- Pages 2 and 3 are requested together and granted in this order. -/
theorem in_page_order_iff_granted_overlapping :
    InPageOrder numberedFeed.page ((List.range' 1 3).flatMap numberedFeed.page) := by
  have hbefore : (pager numberedFeed.page).run {} [.viewWillAppear] = some _ := rfl
  have hrun : (pager numberedFeed.page).run { visible := true, requests := [1] }
      [.answer 0 (grant numberedFeed.page 1), .runBlock, .willDisplay 0, .willDisplay 0,
        .answer 0 (grant numberedFeed.page 2), .answer 0 (grant numberedFeed.page 3),
        .runBlock, .runBlock] =
      some ⟨(List.range' 1 3).flatMap numberedFeed.page, 3, true, [], []⟩ := rfl
  exact (in_page_order_iff_granted hbefore rfl rfl (by decide) hrun ⟨rfl, rfl⟩).1 ⟨3, rfl⟩

/-- Page 2 fails, the last row is displayed again, and page 3 is appended to page 1. -/
theorem failed_page_is_skipped :
    ¬ ∀ es vc, (∀ e ∈ es, Callback.Stays e) →
      (pager numberedFeed.page).run { visible := true, requests := [1] } es = some vc →
      vc.requests = [] ∧ vc.mainQueue = [] → InPageOrder numberedFeed.page vc.ItemArray := by
  intro halways
  have hrun : (pager numberedFeed.page).run { visible := true, requests := [1] }
      [.answer 0 (grant numberedFeed.page 1), .runBlock, .willDisplay 0, .answer 0 .failure,
        .willDisplay 0, .answer 0 (grant numberedFeed.page 3), .runBlock] =
      some { ItemArray := [1, 3].flatMap numberedFeed.page, page := 3, visible := true } := rfl
  obtain ⟨k, hk⟩ := halways _ _ (by decide) hrun ⟨rfl, rfl⟩
  have hlength : 2 = k := by
    simpa [numberedFeed, numberedPage, List.length_flatMap] using congrArg List.length hk
  subst hlength
  exact absurd hk (by decide)

end BunjangClone.Home
