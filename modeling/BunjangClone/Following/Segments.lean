import BunjangClone.Following.Dispatch

/-!
# The segments

The segmented control is set up again on every appearance with a list that grows by the
same three titles, and its handler reads the bare index: 2 is "추천", 1 is "팔로잉" and
everything else "내피드". So the titles past the first three are out of step with what
their items do.
-/

namespace BunjangClone.Following

open Reactive FollowingViewController

variable {vc vc' : FollowingViewController} {e : Callback} {es : List Callback}
variable {segmentio : Segmentio} {index i : Nat}

/-! ## Titles -/

/-- The three branches of `valueDidChange`. -/
inductive Branch where
  | feed
  | following
  | recommend
deriving DecidableEq, Repr

def Branch.title : Branch → String
  | feed => "내피드"
  | following => "팔로잉"
  | recommend => "추천"

def Branch.run (vc : FollowingViewController) : Branch → FollowingViewController
  | feed => vc.feedSelected
  | following => vc.followingSelected
  | recommend => vc.recommendSelected

/-- The branch taken for an index. -/
def branchAt (segmentIndex : Nat) : Branch :=
  if segmentIndex = 2 then .recommend else if segmentIndex = 1 then .following else .feed

/-- `valueDidChange` runs the branch of its index. -/
theorem valueDidChange_eq_run (vc : FollowingViewController) (segmentIndex : Nat) :
    vc.valueDidChange segmentIndex = (branchAt segmentIndex).run vc := by
  simp only [valueDidChange, branchAt]
  split
  · rfl
  · split <;> rfl

/-- The item at the index runs the branch of the title it shows. -/
def AlignedAt (segmentio : Segmentio) (index : Nat) : Prop :=
  segmentio.segmentioItems[index]? = some (branchAt index).title

/-- The titles appended by each `setUp`. -/
def titles : List String := ["내피드", "팔로잉", "추천"]

/-- After `n` appearances the titles have been appended `n` times, and a control shows
them all. -/
structure Offers (n : Nat) (vc : FollowingViewController) : Prop where
  length : vc.content.length = 3 * n
  content : ∀ i < vc.content.length, vc.content[i]? = titles[i % 3]?
  shown : ∀ segmentio ∈ vc.segmentioView, 0 < n ∧ segmentio.segmentioItems = vc.content

theorem offers_viewDidAppear {n : Nat} (h : Offers n vc) : Offers (n + 1) vc.viewDidAppear := by
  have hcontent : vc.viewDidAppear.content = vc.content ++ titles := rfl
  have hlength := h.length
  refine ⟨?_, ?_, ?_⟩
  · rw [hcontent, List.length_append, hlength, titles]
    simp only [List.length_cons, List.length_nil]
    omega
  · intro i hi
    rw [hcontent] at hi ⊢
    by_cases hold : i < vc.content.length
    · rw [List.getElem?_append_left hold]
      exact h.content i hold
    · have hnew : i - vc.content.length = i % 3 := by
        simp only [List.length_append, titles, List.length_cons, List.length_nil] at hi
        omega
      rw [List.getElem?_append_right (by omega), hnew]
  · intro segmentio hsegmentio
    obtain rfl := Option.some.inj hsegmentio
    exact ⟨Nat.succ_pos n, rfl⟩

/-- Every other callback keeps the titles, and the items of the control. -/
structure KeepsTitles (vc vc' : FollowingViewController) : Prop where
  content : vc'.content = vc.content
  items : vc'.segmentioView.map Segmentio.segmentioItems =
    vc.segmentioView.map Segmentio.segmentioItems

theorem connect_content (vc : FollowingViewController) (table : TableView)
    (identifier : String) : (vc.connect table identifier).content = vc.content ∧
      (vc.connect table identifier).segmentioView = vc.segmentioView := by
  simp only [connect]
  split
  · exact ⟨rfl, rfl⟩
  · exact ⟨rfl, rfl⟩

theorem valueDidChange_content (vc : FollowingViewController) (segmentIndex : Nat) :
    (vc.valueDidChange segmentIndex).content = vc.content ∧
      (vc.valueDidChange segmentIndex).segmentioView = vc.segmentioView := by
  rw [valueDidChange_eq_run]
  cases branchAt segmentIndex with
  | feed =>
      simp only [Branch.run, feedSelected]
      split <;> exact ⟨rfl, rfl⟩
  | following =>
      simp only [Branch.run, followingSelected]
      split
      · exact ⟨rfl, rfl⟩
      · exact connect_content _ _ _
  | recommend => exact connect_content _ _ _

theorem keepsTitles_setSelectedSegmentioIndex
    (h : vc.setSelectedSegmentioIndex index = some vc') : KeepsTitles vc vc' := by
  obtain ⟨segmentio, hsegmentio, rfl⟩ := Option.map_eq_some_iff.mp h
  split
  · exact ⟨rfl, rfl⟩
  · obtain ⟨hcontent, hview⟩ := valueDidChange_content { vc with
      segmentioView := some { segmentio with selectedSegmentioIndex := index } } index
    refine ⟨hcontent, ?_⟩
    rw [hview, hsegmentio]
    rfl

theorem keepsTitles_step (he : e ≠ .viewDidAppear) (h : controller.step vc e = some vc') :
    KeepsTitles vc vc' := by
  obtain ⟨index, hselect⟩ | ⟨followingArray, recommendArray, rfl⟩ | ⟨followingArray, rfl⟩ :=
    step_cases he h
  · exact keepsTitles_setSelectedSegmentioIndex hselect
  · exact ⟨rfl, rfl⟩
  · simp only [followingRemoved]
    split <;> exact ⟨rfl, rfl⟩

theorem Offers.keep {n : Nat} (h : Offers n vc) (hkeeps : KeepsTitles vc vc') : Offers n vc' := by
  refine ⟨?_, ?_, ?_⟩
  · rw [hkeeps.content]
    exact h.length
  · rw [hkeeps.content]
    exact h.content
  · intro segmentio hsegmentio
    have hitems : some segmentio.segmentioItems =
        vc.segmentioView.map Segmentio.segmentioItems := by
      rw [← hkeeps.items, hsegmentio]
      rfl
    obtain ⟨earlier, hearlier, heq⟩ := Option.map_eq_some_iff.mp hitems.symm
    rw [hkeeps.content, ← heq]
    exact h.shown earlier hearlier

theorem offers_run (h : controller.run {} es = some vc) :
    Offers (es.count .viewDidAppear) vc := by
  refine Machine.run_induction (P := fun es vc => Offers (es.count .viewDidAppear) vc)
    ⟨rfl, by simp, by simp⟩ (fun es vc e vc' _ ih hstep => ?_) es vc h
  rw [List.count_append]
  by_cases he : e = .viewDidAppear
  · subst he
    obtain rfl : vc.viewDidAppear = vc' := Option.some.inj hstep
    exact offers_viewDidAppear ih
  · rw [List.count_singleton, if_neg (by simpa using he)]
    exact ih.keep (keepsTitles_step he hstep)

/-- A title past the first three is that of its branch only for the feed. -/
theorem branchAt_title_iff :
    titles[i % 3]? = some (branchAt i).title ↔ i < 3 ∨ i % 3 = 0 := by
  have hthree : i % 3 = 0 ∨ i % 3 = 1 ∨ i % 3 = 2 := by omega
  by_cases hsmall : i < 3
  · have hcases : i = 0 ∨ i = 1 ∨ i = 2 := by omega
    obtain rfl | rfl | rfl := hcases <;> decide
  · have hbranch : branchAt i = .feed := by
      rw [branchAt, if_neg (by omega), if_neg (by omega)]
    rw [hbranch]
    obtain hzero | hone | htwo := hthree
    · simp [hzero, titles, Branch.title]
    · simp [hone, hsmall, titles, Branch.title]
    · simp [htwo, hsmall, titles, Branch.title]

/-- In every run, an item offered runs the branch of its title exactly if its index is
below three or a multiple of three, and all of them do exactly if the screen has appeared
once. -/
theorem titles_aligned_iff (h : controller.run {} es = some vc)
    (hsegmentio : vc.segmentioView = some segmentio) :
    (∀ index < segmentio.segmentioItems.length,
      AlignedAt segmentio index ↔ index < 3 ∨ index % 3 = 0) ∧
      ((∀ index < segmentio.segmentioItems.length, AlignedAt segmentio index) ↔
        es.count .viewDidAppear = 1) := by
  have hoffers := offers_run h
  obtain ⟨hpos, hitems⟩ := hoffers.shown segmentio hsegmentio
  have hitem : ∀ index < segmentio.segmentioItems.length,
      (AlignedAt segmentio index ↔ index < 3 ∨ index % 3 = 0) := by
    intro index hindex
    rw [hitems] at hindex
    rw [AlignedAt, hitems, hoffers.content index hindex]
    exact branchAt_title_iff
  refine ⟨hitem, ?_⟩
  have hlength : segmentio.segmentioItems.length = 3 * es.count .viewDidAppear := by
    rw [hitems]
    exact hoffers.length
  constructor
  · intro hall
    by_contra hmore
    have hfour : 4 < segmentio.segmentioItems.length := by omega
    have hbad := (hitem 4 hfour).mp (hall 4 hfour)
    omega
  · intro honce index hindex
    refine (hitem index hindex).mpr (.inl ?_)
    omega

theorem titles_aligned_once :
    ∃ vc segmentio, controller.run {} [.viewDidAppear] = some vc ∧
      vc.segmentioView = some segmentio ∧
        ∀ index < segmentio.segmentioItems.length, AlignedAt segmentio index := by
  have hrun : ∃ vc segmentio, controller.run {} [.viewDidAppear] = some vc ∧
      vc.segmentioView = some segmentio := ⟨_, _, rfl, rfl⟩
  obtain ⟨vc, segmentio, hrun, hsegmentio⟩ := hrun
  exact ⟨vc, segmentio, hrun, hsegmentio, (titles_aligned_iff hrun hsegmentio).2.mpr rfl⟩

/-- The second appearance offers "팔로잉" again at index 4, which runs the feed branch. -/
theorem second_titles_misaligned :
    ¬ ∀ es vc segmentio, controller.run {} es = some vc → vc.segmentioView = some segmentio →
      ∀ index < segmentio.segmentioItems.length, AlignedAt segmentio index := by
  intro halways
  have hrun : ∃ vc segmentio, controller.run {} [.viewDidAppear, .viewDidAppear] = some vc ∧
      vc.segmentioView = some segmentio ∧ 4 < segmentio.segmentioItems.length ∧
        segmentio.segmentioItems[4]? = some "팔로잉" ∧ branchAt 4 = .feed :=
    ⟨_, _, rfl, rfl, by decide, rfl, rfl⟩
  obtain ⟨vc, segmentio, hrun, hsegmentio, hindex, htitle, hbranch⟩ := hrun
  have haligned := halways _ vc segmentio hrun hsegmentio 4 hindex
  rw [AlignedAt, htitle, hbranch] at haligned
  exact absurd haligned (by decide)

end BunjangClone.Following
