import BunjangClone.Home.Stays
import BunjangClone.Paging.Feed

/-!
# When the home feed shows an item twice

`viewWillDisappear` resets the page counter but leaves the loaded items in place, so
the next stay asks for its pages on top of what is there. With all requests granted, the
feed stays free of repetitions exactly as long as no page with items is asked for twice, in
one stay or in two: by the last rows displayed, or by an appearance.
-/

namespace BunjangClone.Home

open Reactive

/-- The server's feed: pages of items with pairwise distinct `postId`s. -/
abbrev ServerFeed := Paging.Feed HomeItem Int HomeItem.postId

/-- Answers and queued blocks, the callbacks that bring outstanding work to an end. -/
def Callback.isDelivery : Callback → Bool
  | .answer _ _ => true
  | .runBlock => true
  | _ => false

/-- The callback does not refuse or fail a request. -/
def Callback.Granted : Callback → Prop
  | .answer _ response => succeeds response = true
  | _ => True

instance : DecidablePred Callback.Granted
  | .answer _ response => inferInstanceAs (Decidable (succeeds response = true))
  | .viewWillAppear | .viewWillDisappear | .willDisplay _ | .runBlock =>
      inferInstanceAs (Decidable True)

variable {feed : Nat → List HomeItem} {vc vc' : HomeViewController}
variable {es ds : List Callback} {e : Callback}

theorem lost_of_granted (h : e.Granted) : lost vc e = [] := by
  cases e with
  | answer index response =>
      have hs : succeeds response = true := h
      simp [lost, settled, hs]
  | _ => rfl

theorem sent_of_delivery (h : e.isDelivery = true) : sent vc e = [] := by
  cases e with
  | answer | runBlock => rfl
  | _ => cases h

/-- With all requests granted, the pages asked for are those served and those still
outstanding. -/
theorem served_perm_sent (h : controller.run {} es = some vc) (hok : ∀ e ∈ es, e.Granted) :
    (controller.collect served {} es ++ vc.requests).Perm (controller.collect sent {} es) := by
  have hlost : controller.collect lost {} es = [] :=
    Machine.collect_eq_nil (fun _ _ => lost_of_granted) hok _
  simpa [hlost] using requests_run h

/-- Deliveries ask for nothing. -/
theorem sent_append_deliveries (h : controller.run {} es = some vc)
    (hds : ∀ d ∈ ds, d.isDelivery = true) :
    controller.collect sent {} (es ++ ds) = controller.collect sent {} es := by
  have hnone : controller.collect sent vc ds = [] :=
    Machine.collect_eq_nil (fun _ _ => sent_of_delivery) hds _
  rw [Machine.collect_append sent h, hnone, List.append_nil]

/-! ## Bringing outstanding work to an end -/

theorem drain_requests (feed : Nat → List HomeItem) (vc : HomeViewController) :
    ∃ ds t, (∀ d ∈ ds, d.isDelivery = true ∧ d.Granted) ∧
      (pager feed).run vc ds = some t ∧ t.requests = [] := by
  induction hr : vc.requests generalizing vc with
  | nil => exact ⟨[], vc, by simp, rfl, hr⟩
  | cons page rest ih =>
      obtain ⟨ds, t, hds, hrun, ht⟩ := ih ({ vc with requests := rest }.setProduct (feed page)) rfl
      refine ⟨.answer 0 (grant feed page) :: ds, t, ?_, ?_, ht⟩
      · intro d hd
        rcases List.mem_cons.mp hd with rfl | hd
        · exact ⟨rfl, rfl⟩
        · exact hds d hd
      · refine Machine.run_cons_iff.mpr
          ⟨_, pager_step_answer.mpr ⟨page, rest, ?_, fun _ => rfl, rfl⟩, hrun⟩
        rw [hr, takeAt_zero]

theorem drain_mainQueue (feed : Nat → List HomeItem) (vc : HomeViewController) :
    ∃ ds t, (∀ d ∈ ds, d.isDelivery = true ∧ d.Granted) ∧
      (pager feed).run vc ds = some t ∧ t.requests = vc.requests ∧ t.mainQueue = [] := by
  induction hq : vc.mainQueue generalizing vc with
  | nil => exact ⟨[], vc, by simp, rfl, rfl, hq⟩
  | cons result rest ih =>
      obtain ⟨ds, t, hds, hrun, ht⟩ :=
        ih ({ vc with mainQueue := rest }.setProductBlock result) rfl
      refine ⟨.runBlock :: ds, t, ?_, ?_, ht⟩
      · intro d hd
        rcases List.mem_cons.mp hd with rfl | hd
        · exact ⟨rfl, trivial⟩
        · exact hds d hd
      · exact Machine.run_cons_iff.mpr ⟨_, Machine.restrict_step_iff.mpr
          ⟨trivial, step_runBlock.mpr ⟨result, rest, hq, rfl⟩⟩, hrun⟩

/-- Every state can be brought to rest by granting what is outstanding. -/
theorem drain (feed : Nat → List HomeItem) (vc : HomeViewController) :
    ∃ ds t, (∀ d ∈ ds, d.isDelivery = true ∧ d.Granted) ∧
      (pager feed).run vc ds = some t ∧ t.requests = [] ∧ t.mainQueue = [] := by
  obtain ⟨ds, u, hds, hrun, hu⟩ := drain_requests feed vc
  obtain ⟨ds', t, hds', hrun', hreq, hqueue⟩ := drain_mainQueue feed u
  refine ⟨ds ++ ds', t, ?_, Machine.run_append hrun hrun', hreq.trans hu, hqueue⟩
  intro d hd
  rcases List.mem_append.mp hd with hd | hd
  · exact hds d hd
  · exact hds' d hd

/-! ## The exact condition -/

/-- No `postId` occurs twice among the loaded items. -/
def NoItemTwice (vc : HomeViewController) : Prop := (vc.ItemArray.map HomeItem.postId).Nodup

instance : DecidablePred NoItemTwice := fun vc =>
  inferInstanceAs (Decidable (vc.ItemArray.map HomeItem.postId).Nodup)

/-- The stays ask at most once for each page that has items. -/
def AskedOnce (feed : Nat → List HomeItem) (stays : Stays) : Prop :=
  ∀ page, feed page ≠ [] → (stays.all.map fun stay => stay.asks page).sum ≤ 1

theorem askedOnce_iff (h : controller.run {} es = some vc) :
    AskedOnce feed (stays es) ↔ (Paging.filled feed (controller.collect sent {} es)).Nodup := by
  simp only [AskedOnce, Paging.nodup_filled_iff, (stays_run h).asked, Stays.count_pages]

/-- The screen has appeared once at most, and last rows were displayed in one stay at most. -/
def Stays.Single (stays : Stays) : Prop :=
  stays.all.countP (fun stay => stay.after.isSome) ≤ 1 ∧
    stays.all.countP (fun stay => 1 < stay.reached) ≤ 1

instance : DecidablePred Stays.Single := fun _ => inferInstanceAs (Decidable (_ ∧ _))

/-- A stay that appears asks for page 1, which the first stay has asked for, or for the page it
has reached again. -/
theorem Stay.two_le_asks (first : Stay) {stay : Stay} (hfirst : first.before = 0)
    (hafter : first.after.isSome = true) (hagain : stay.after.isSome = true) :
    2 ≤ first.asks (stay.before + 1) + stay.asks (stay.before + 1) := by
  simp only [Stay.asks, Stay.reached, hfirst, hafter, hagain]
  grind

theorem Stays.asks_le_one_of_again {stays : Stays} {displayed : Nat} {second : Stay}
    {rest : List Stay} (hall : stays.all = ⟨0, some displayed⟩ :: second :: rest)
    (hagain : second.after.isSome = true) :
    (∀ page, (stays.all.map fun stay => stay.asks page).sum ≤ 1) ↔ stays.Single := by
  refine iff_of_false (fun hle => ?_) ?_
  · have htwo := Stay.two_le_asks ⟨0, some displayed⟩ rfl rfl hagain
    have hone := hle (second.before + 1)
    simp only [hall, List.map_cons, List.sum_cons] at hone
    omega
  · simp [Stays.Single, hall, hagain]

theorem Stays.asks_le_one_iff {stays : Stays} (h : stays.Entered)
    (happeared : ∀ stay ∈ stays.earlier, stay.after.isSome = true) :
    (∀ page, (stays.all.map fun stay => stay.asks page).sum ≤ 1) ↔ stays.Single := by
  obtain ⟨displayed, hfirst⟩ := h
  obtain ⟨earlier, current⟩ := stays
  match earlier with
  | [] =>
      obtain rfl : current = ⟨0, some displayed⟩ := Option.some.inj hfirst
      refine iff_of_true (fun page => ?_) ⟨List.countP_le_length, List.countP_le_length⟩
      simp only [Stays.all, List.nil_append, List.map_cons, List.map_nil, List.sum_cons,
        List.sum_nil, Stay.asks, Stay.reached]
      grind
  | [first] =>
      obtain rfl : first = ⟨0, some displayed⟩ := Option.some.inj hfirst
      obtain ⟨before, _ | later⟩ := current
      · have hsingle : Stays.Single ⟨[⟨0, some displayed⟩], ⟨before, none⟩⟩ ↔
            displayed = 0 ∨ before = 0 := by
          simp only [Stays.Single, Stays.all, Stay.reached, List.cons_append, List.nil_append,
            List.countP_cons, List.countP_nil]
          grind
        rw [hsingle]
        simp only [Stays.all, List.cons_append, List.nil_append, List.map_cons, List.map_nil,
          List.sum_cons, List.sum_nil, Stay.asks, Stay.reached]
        constructor
        · intro hle
          -- a last row displayed on both sides of the disappearance asks for page 2 twice
          have htwo := hle 2
          grind
        · grind
      · exact Stays.asks_le_one_of_again rfl rfl
  | first :: second :: rest =>
      obtain rfl : first = ⟨0, some displayed⟩ := Option.some.inj hfirst
      exact Stays.asks_le_one_of_again rfl (happeared second (by simp))

/-- What the condition says if every page has items. -/
theorem askedOnce_iff_single (h : controller.run {} es = some vc)
    (hpages : ∀ page, feed page ≠ []) : AskedOnce feed (stays es) ↔ (stays es).Single := by
  have hasked : AskedOnce feed (stays es) ↔
      ∀ page, ((stays es).all.map fun stay => stay.asks page).sum ≤ 1 :=
    forall_congr' fun page => forall_prop_of_true (hpages page)
  rw [hasked]
  by_cases hnil : es = []
  · subst hnil
    refine iff_of_true (fun page => ?_) ⟨Nat.zero_le 1, Nat.zero_le 1⟩
    have hnone : ¬ (2 ≤ page ∧ page ≤ 1) := by omega
    simp [stays, Stays.all, Stay.asks, Stay.reached, hnone]
  · exact Stays.asks_le_one_iff (entered_run h hnil) (stays_run h).appeared

theorem noItemTwice_of_filled {feed : ServerFeed} (h : (pager feed.page).run {} es = some vc)
    (hnodup : (Paging.filled feed.page (controller.collect served {} es)).Nodup) :
    NoItemTwice vc := by
  have hsub := ((itemArray_leading h rfl).sublist).map HomeItem.postId
  exact (Paging.Feed.nodup_flatMap_iff.mpr hnodup).sublist hsub

/-- At rest the loaded items are exactly those of the pages asked for. -/
theorem noItemTwice_iff_of_idle {feed : ServerFeed} (h : (pager feed.page).run {} es = some vc)
    (hok : ∀ e ∈ es, e.Granted) (hreq : vc.requests = []) (hqueue : vc.mainQueue = []) :
    NoItemTwice vc ↔ (Paging.filled feed.page (controller.collect sent {} es)).Nodup := by
  have hcontent := content_run h
  have hperm := served_perm_sent (Machine.run_of_restrict h) hok
  simp only [content, hqueue, List.flatten_nil, List.append_nil, List.nil_append] at hcontent
  rw [hreq, List.append_nil] at hperm
  rw [NoItemTwice, hcontent, Paging.Feed.nodup_flatMap_iff]
  exact (Paging.filled_perm feed.page hperm).nodup_iff

theorem granted_append {ds : List Callback} (hok : ∀ e ∈ es, e.Granted)
    (hds : ∀ d ∈ ds, d.isDelivery = true ∧ d.Granted) : ∀ e ∈ es ++ ds, e.Granted := by
  intro e he
  rcases List.mem_append.mp he with he | he
  · exact hok e he
  · exact (hds e he).2

/-- With all requests granted, no item is shown twice, now and after any deliveries of
what is outstanding, exactly if the stays ask at most once for each page with items. -/
theorem no_item_twice_iff (feed : ServerFeed) (h : (pager feed.page).run {} es = some vc)
    (hok : ∀ e ∈ es, e.Granted) :
    (∀ ds t, (∀ d ∈ ds, d.isDelivery = true ∧ d.Granted) →
      (pager feed.page).run vc ds = some t → NoItemTwice t) ↔
      AskedOnce feed.page (stays es) := by
  have hcode := Machine.run_of_restrict h
  rw [askedOnce_iff hcode]
  constructor
  · intro hnever
    obtain ⟨ds, t, hds, hrun, hreq, hqueue⟩ := drain feed.page vc
    have hrun' := Machine.run_append h hrun
    have hok' := granted_append hok hds
    rw [← sent_append_deliveries hcode fun d hd => (hds d hd).1]
    exact (noItemTwice_iff_of_idle hrun' hok' hreq hqueue).mp (hnever ds t hds hrun)
  · intro hnodup ds t hds hrun
    have hrun' := Machine.run_append h hrun
    have hok' := granted_append hok hds
    rw [← sent_append_deliveries hcode fun d hd => (hds d hd).1] at hnodup
    apply noItemTwice_of_filled hrun'
    have hperm := Paging.filled_perm feed.page
      (served_perm_sent (Machine.run_of_restrict hrun') hok')
    have hboth := hperm.nodup_iff.mpr hnodup
    rw [Paging.filled, List.filter_append] at hboth
    exact hboth.of_append_left

/-- A feed with one item a page, item `k` on page `k`. -/
def numberedFeed : ServerFeed where
  page := numberedPage
  nodup k := by simp [numberedPage]
  disjoint j k hne := by
    simp only [numberedPage, List.map_cons, List.map_nil, List.disjoint_singleton,
      List.mem_singleton]
    omega

/-- Enter, load page 1, leave, come back and ask for page 1 again. -/
def twoStays : List Callback :=
  [.viewWillAppear, .answer 0 (grant numberedFeed.page 1), .runBlock, .viewWillDisappear,
    .viewWillAppear, .answer 0 (grant numberedFeed.page 1), .runBlock]

/-- Within the first stay the condition holds, also with page 2 still outstanding. -/
theorem no_item_twice_iff_firstStay :
    NoItemTwice
      { ItemArray := numberedFeed.page 1, page := 2, visible := true, requests := [2] } := by
  have hrun : (pager numberedFeed.page).run {} (twoStays.take 3 ++ [.willDisplay 0]) =
      some { ItemArray := numberedFeed.page 1, page := 2, visible := true, requests := [2] } := rfl
  have honce : AskedOnce numberedFeed.page (stays (twoStays.take 3 ++ [.willDisplay 0])) :=
    (askedOnce_iff_single (Machine.run_of_restrict hrun) fun _ => List.cons_ne_nil _ _).mpr
      (by decide)
  exact (no_item_twice_iff numberedFeed hrun (by decide)).mpr honce [] _ (by simp) rfl

/-- Coming back to the screen appends page 1 to a feed that already holds it: all
requests are granted, and the item of page 1 is on screen twice. -/
theorem reappearance_repeats_item :
    ¬ ∀ es vc, (∀ e ∈ es, Callback.Granted e) →
      (pager numberedFeed.page).run {} es = some vc → NoItemTwice vc := by
  intro hnever
  have hrun : (pager numberedFeed.page).run {} twoStays =
      some { ItemArray := numberedFeed.page 1 ++ numberedFeed.page 1, visible := true } := rfl
  exact absurd (hnever twoStays _ (by decide) hrun) (by decide)

end BunjangClone.Home
