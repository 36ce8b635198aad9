import BunjangClone.Following.Segments

/-!
# The content area

The handlers decide which subview of `contentView` is on top. Each adds the view its segment
calls for, except that "팔로잉" adds none when nothing is followed: it relies on `emptyView`
still being there.

What lies on top is told from the past alone: from the segments that were opened since, with
shops followed or without, the appearances and the times the followed shops ran out.
-/

namespace BunjangClone.Following

open Reactive FollowingViewController

variable {vc vc' : FollowingViewController} {e : Callback} {es : List Callback}
variable {index : Nat} {branch : Branch}

/-- The view a segment calls for. -/
def calledFor (vc : FollowingViewController) : Branch → View
  | .recommend => .table vc.recommendTableView
  | .following =>
      if 0 < vc.followingArray.length then .table vc.followingTableView else .emptyView
  | .feed => if 0 < vc.followingArray.length then vc.collectionView else .emptyView

/-- The selected segment's view is the top-most subview of `contentView`. -/
def ShowsSelected (vc : FollowingViewController) : Prop :=
  ∀ segmentio ∈ vc.segmentioView,
    vc.contentView.getLast? = some (calledFor vc (branchAt segmentio.selectedSegmentioIndex))

/-- A segment is selected, or a followed shop is unfollowed on its own row. -/
def Callback.selectsOrUnfollows : Callback → Bool
  | .didSelectItemAt _ | .recommendButtonPressed | .unFollowingButtonPressed _ => true
  | .viewDidAppear | .setRecommend _ | .followingButtonPressed _ => false

/-- Right after the callback the selected segment's view is on top. -/
def ShownAfter (vc : FollowingViewController) (e : Callback) : Prop :=
  e.selectsOrUnfollows = true → ∀ vc', controller.step vc e = some vc' → ShowsSelected vc'

/-! ## The past of the content area -/

/-- What happened to the content area. A segment is opened when it is selected anew, with a view
of its own to bring up or without one. -/
inductive Deed where
  | appeared
  | opened (branch : Branch)
  | openedNothing
  | emptied
deriving DecidableEq, Repr

/-- The recommendations always have a table to show, the other segments if a shop is followed. -/
def hasOwnView (vc : FollowingViewController) (branch : Branch) : Prop :=
  branch = .recommend ∨ 0 < vc.followingArray.length

instance (vc : FollowingViewController) (branch : Branch) : Decidable (hasOwnView vc branch) :=
  inferInstanceAs (Decidable (branch = .recommend ∨ 0 < vc.followingArray.length))

def opening (vc : FollowingViewController) (branch : Branch) : Deed :=
  if hasOwnView vc branch then .opened branch
  else if branch = .following then .openedNothing else .emptied

def selectionDeeds (vc : FollowingViewController) (index : Nat) : List Deed :=
  vc.segmentioView.toList.flatMap fun segmentio =>
    if index = segmentio.selectedSegmentioIndex then [] else [opening vc (branchAt index)]

def deeds (vc : FollowingViewController) : Callback → List Deed
  | .viewDidAppear => [.appeared]
  | .didSelectItemAt index => selectionDeeds vc index
  | .recommendButtonPressed => selectionDeeds vc 2
  | .unFollowingButtonPressed _ => if vc.followingArray.length = 1 then [.emptied] else []
  | .setRecommend _ | .followingButtonPressed _ => []

/-- The deeds of a run, the last one first. -/
def history (past : List Callback) : List Deed := (controller.collect deeds {} past).reverse

/-- `emptyView` lies under the current views: since it was brought up, no shops were shown and
the screen did not appear over the recommendations. -/
def emptyViewLeft : List Deed → Bool
  | [] => true
  | .emptied :: _ => true
  | .opened .recommend :: past => emptyViewLeft past
  | .opened .following :: _ => false
  | .opened .feed :: _ => false
  | .openedNothing :: past => emptyViewLeft past
  | .appeared :: .opened .recommend :: _ => false
  | .appeared :: past => emptyViewLeft past

/-- A segment with a view of its own was the last thing opened, and one without finds
`emptyView`. -/
def InPlace (past : List Deed) (vc : FollowingViewController) (branch : Branch) : Prop :=
  if hasOwnView vc branch then past.head? = some (.opened branch) else emptyViewLeft past

/-- Selecting the selected segment changes nothing, and "팔로잉" brings up no view if
nothing is followed. -/
def SelectionShows (past : List Deed) (vc : FollowingViewController) (index : Nat) : Prop :=
  ∀ segmentio ∈ vc.segmentioView,
    if index = segmentio.selectedSegmentioIndex then InPlace past vc (branchAt index)
    else branchAt index = .following → vc.followingArray = [] → emptyViewLeft past

/-- Unfollowing brings up `emptyView` with the last shop and changes nothing before. -/
def UnfollowShows (past : List Deed) (vc : FollowingViewController) : Prop :=
  ∀ segmentio ∈ vc.segmentioView,
    if vc.followingArray.length = 1 then branchAt segmentio.selectedSegmentioIndex ≠ .recommend
    else InPlace past vc (branchAt segmentio.selectedSegmentioIndex)

def ContentReady (past : List Deed) (vc : FollowingViewController) : Callback → Prop
  | .didSelectItemAt index => SelectionShows past vc index
  | .recommendButtonPressed => SelectionShows past vc 2
  | .unFollowingButtonPressed _ => UnfollowShows past vc
  | _ => True

section Decidable

variable (past : List Deed) (vc : FollowingViewController)

instance : Decidable (InPlace past vc branch) :=
  inferInstanceAs (Decidable (if hasOwnView vc branch then past.head? = some (.opened branch)
    else emptyViewLeft past = true))

instance : Decidable (SelectionShows past vc index) :=
  inferInstanceAs (Decidable (∀ segmentio ∈ vc.segmentioView,
    if index = segmentio.selectedSegmentioIndex then InPlace past vc (branchAt index)
    else branchAt index = .following → vc.followingArray = [] → emptyViewLeft past))

instance : Decidable (UnfollowShows past vc) :=
  inferInstanceAs (Decidable (∀ segmentio ∈ vc.segmentioView,
    if vc.followingArray.length = 1 then branchAt segmentio.selectedSegmentioIndex ≠ .recommend
    else InPlace past vc (branchAt segmentio.selectedSegmentioIndex)))

instance : DecidablePred (ContentReady past vc)
  | .didSelectItemAt index => inferInstanceAs (Decidable (SelectionShows past vc index))
  | .recommendButtonPressed => inferInstanceAs (Decidable (SelectionShows past vc 2))
  | .unFollowingButtonPressed _ => inferInstanceAs (Decidable (UnfollowShows past vc))
  | .viewDidAppear | .setRecommend _ | .followingButtonPressed _ =>
      inferInstanceAs (Decidable True)

end Decidable

/-! ## What the handlers do to the views -/

def ownView (vc : FollowingViewController) : Branch → View
  | .recommend => .table vc.recommendTableView
  | .following => .table vc.followingTableView
  | .feed => vc.collectionView

theorem ownView_inj {other : Branch} : ownView vc branch = ownView vc other ↔ branch = other := by
  cases branch <;> cases other <;>
    simp [ownView, recommendTableView, followingTableView, FollowingViewController.collectionView]

theorem ownView_congr (branch : Branch) (happearance : vc'.appearance = vc.appearance) :
    ownView vc' branch = ownView vc branch := by
  cases branch <;>
    simp only [ownView, recommendTableView, followingTableView,
      FollowingViewController.collectionView, happearance]

theorem ownView_ne_emptyView (vc : FollowingViewController) (branch : Branch) :
    ownView vc branch ≠ .emptyView := by
  cases branch <;> simp [ownView, FollowingViewController.collectionView]

theorem calledFor_eq (vc : FollowingViewController) (branch : Branch) : calledFor vc branch =
    if hasOwnView vc branch then ownView vc branch else .emptyView := by
  cases branch <;> simp [calledFor, hasOwnView, ownView]

/-- The appearance that created a view. `emptyView` comes from the storyboard. -/
def View.createdBy : View → Option Nat
  | .emptyView => none
  | .table rows => some rows.appearance
  | .collectionView appearance => some appearance

theorem createdBy_ownView (vc : FollowingViewController) (branch : Branch) :
    (ownView vc branch).createdBy = some vc.appearance := by
  cases branch <;> rfl

/-- The views apart from this appearance's tables and collection view. -/
def others (vc : FollowingViewController) : List View :=
  vc.contentView.filter (·.createdBy ≠ some vc.appearance)

theorem others_congr (hviews : vc'.contentView = vc.contentView)
    (happearance : vc'.appearance = vc.appearance) : others vc' = others vc := by
  rw [others, others, hviews, happearance]

@[simp] theorem createdBy_recommendTableView (vc : FollowingViewController) :
    (View.table vc.recommendTableView).createdBy = some vc.appearance := rfl

@[simp] theorem createdBy_followingTableView (vc : FollowingViewController) :
    (View.table vc.followingTableView).createdBy = some vc.appearance := rfl

@[simp] theorem createdBy_collectionView (vc : FollowingViewController) :
    vc.collectionView.createdBy = some vc.appearance := rfl

@[simp] theorem removeFromSuperview_appearance (vc : FollowingViewController) (view : View) :
    (vc.removeFromSuperview view).appearance = vc.appearance := rfl

theorem others_removeFromSuperview {view : View} (hown : view.createdBy = some vc.appearance) :
    others (vc.removeFromSuperview view) = others vc := by
  simp only [others, removeFromSuperview, List.filter_filter]
  refine List.filter_congr fun other _ => ?_
  have hnot : other.createdBy ≠ some vc.appearance → other ≠ view := by
    rintro hother rfl
    exact hother hown
  by_cases hother : other.createdBy = some vc.appearance
  · simp [hother]
  · simp [hother, hnot hother]

theorem others_addSubview {view : View} (hown : view.createdBy = some vc.appearance) :
    others (vc.addSubview view) = others vc := by
  rw [← others_removeFromSuperview hown]
  simp [others, addSubview, removeFromSuperview, hown]

theorem getLast?_addSubview (vc : FollowingViewController) (view : View) :
    (vc.addSubview view).contentView.getLast? = some view := by
  simp [addSubview]

/-- With `emptyView` on top, it is on top of the other views as well. -/
theorem getLast?_others (h : vc.contentView.getLast? = some .emptyView) :
    (others vc).getLast? = some .emptyView := by
  obtain ⟨below, hviews⟩ := List.getLast?_eq_some_iff.mp h
  simp [others, hviews, View.createdBy]

theorem getLast?_others_removed (vc : FollowingViewController) :
    (others (vc.removeFromSuperview .emptyView)).getLast? ≠ some .emptyView := by
  intro hlast
  have hmem := List.mem_of_getLast? hlast
  simp [others, removeFromSuperview] at hmem

/-! ## What the handlers leave on top -/

theorem valueDidChange_followingArray (vc : FollowingViewController) (segmentIndex : Nat) :
    (vc.valueDidChange segmentIndex).followingArray = vc.followingArray := by
  have hfollows := congrArg Follows.following (follows_valueDidChange vc segmentIndex)
  split at hfollows <;> exact hfollows

/-- The handler of a segment with a view of its own. Only the one of the recommendations leaves
`emptyView` where it is. -/
structure Opens (vc : FollowingViewController) (branch : Branch) (vc' : FollowingViewController) :
    Prop where
  top : vc'.contentView.getLast? = some (ownView vc branch)
  left : (others vc').getLast? = some .emptyView ↔
    branch = .recommend ∧ (others vc).getLast? = some .emptyView

theorem opens_recommendSelected (vc : FollowingViewController) :
    Opens vc .recommend vc.recommendSelected := by
  have hothers : others vc.recommendSelected = others vc := by
    rw [recommendSelected, others_congr (connect_contentView _ _ _) (connect_appearance _ _ _),
      others_addSubview, others_removeFromSuperview, others_removeFromSuperview] <;> rfl
  constructor
  · rw [recommendSelected, connect_contentView]
    exact getLast?_addSubview _ _
  · simp [hothers]

theorem opens_followingSelected (h : 0 < vc.followingArray.length) :
    Opens vc .following vc.followingSelected := by
  rw [followingSelected, if_neg (by omega)]
  constructor
  · rw [reloadData_contentView, connect_contentView]
    exact getLast?_addSubview _ _
  · refine iff_of_false ?_ (by simp)
    rw [others_congr (reloadData_contentView _ _) rfl,
      others_congr (connect_contentView _ _ _) (connect_appearance _ _ _), others_addSubview rfl]
    exact getLast?_others_removed _

theorem opens_feedSelected (h : 0 < vc.followingArray.length) :
    Opens vc .feed vc.feedSelected := by
  rw [feedSelected]
  rw [if_pos h]
  constructor
  · exact getLast?_addSubview _ _
  · refine iff_of_false ?_ (by simp)
    show ¬ (others ((((vc.removeFromSuperview (.table vc.followingTableView)).removeFromSuperview
      (.table vc.recommendTableView)).removeFromSuperview .emptyView).addSubview
        vc.collectionView)).getLast? = some .emptyView
    rw [others_addSubview rfl]
    exact getLast?_others_removed _

/-- With nothing followed, "팔로잉" only takes this appearance's views away. -/
theorem contentView_followingSelected (h : ¬ 0 < vc.followingArray.length) :
    vc.followingSelected.contentView = others vc := by
  rw [followingSelected, if_pos (by omega)]
  simp only [removeFromSuperview, others, List.filter_filter]
  refine List.filter_congr fun view _ => ?_
  cases view with
  | emptyView => simp [View.createdBy, FollowingViewController.collectionView]
  | collectionView appearance =>
      simp [View.createdBy, FollowingViewController.collectionView]
  | table rows =>
      cases rows <;>
        simp [View.createdBy, TableView.appearance, FollowingViewController.collectionView,
          recommendTableView, followingTableView]

theorem getLast?_feedSelected (h : ¬ 0 < vc.followingArray.length) :
    vc.feedSelected.contentView.getLast? = some .emptyView := by
  rw [feedSelected]
  rw [if_neg h]
  exact getLast?_addSubview _ _

/-- The handler of a segment changes the content area only, and adds no view but a current one. -/
structure KeepsViews (vc vc' : FollowingViewController) : Prop where
  appearance : vc'.appearance = vc.appearance
  views : ∀ view ∈ vc'.contentView,
    view ∈ vc.contentView ∨ view = .emptyView ∨ view.createdBy = some vc.appearance

theorem keepsViews_run (vc : FollowingViewController) (branch : Branch) :
    KeepsViews vc (branch.run vc) := by
  constructor
  · cases branch with
    | recommend => exact (keeps_recommendSelected vc).appearance
    | following => exact (keeps_followingSelected vc).appearance
    | feed => exact (keeps_feedSelected vc).appearance
  · intro view hmem
    cases branch with
    | recommend =>
        simp only [Branch.run, recommendSelected, connect_contentView, mem_addSubview,
          mem_removeFromSuperview] at hmem
        obtain hold | rfl := hmem
        · exact .inl hold.1.1
        · exact .inr (.inr rfl)
    | following =>
        simp only [Branch.run, followingSelected] at hmem
        split at hmem
        · simp only [mem_removeFromSuperview] at hmem
          exact .inl hmem.1.1.1
        · simp only [reloadData_contentView, connect_contentView, mem_addSubview,
            mem_removeFromSuperview] at hmem
          obtain hold | rfl := hmem
          · exact .inl hold.1.1.1
          · exact .inr (.inr rfl)
    | feed =>
        simp only [Branch.run, feedSelected] at hmem
        split at hmem
        · simp only [mem_addSubview, mem_removeFromSuperview] at hmem
          obtain hold | rfl := hmem
          · exact .inl hold.1.1.1
          · exact .inr (.inr rfl)
        · simp only [mem_addSubview, mem_removeFromSuperview] at hmem
          obtain hold | rfl := hmem
          · exact .inl hold.1.1.1
          · exact .inr (.inl rfl)

/-! ## What is on top is told from the past -/

variable {past : List Deed}

/-- The invariant of the content area. Views are no newer than the appearance, and what is on top
goes by the deeds. -/
structure ViewsKept (past : List Deed) (vc : FollowingViewController) : Prop where
  older : ∀ view ∈ vc.contentView, ∀ a ∈ view.createdBy, a ≤ vc.appearance
  left : (others vc).getLast? = some .emptyView ↔ emptyViewLeft past = true
  top : ∀ branch, vc.contentView.getLast? = some (ownView vc branch) ↔
    past.head? = some (.opened branch)
  empty : vc.contentView.getLast? = some .emptyView ↔
    emptyViewLeft past = true ∧ past.head? ≠ some (.opened .recommend)

theorem ViewsKept.frame (h : ViewsKept past vc) (hviews : vc'.contentView = vc.contentView)
    (happearance : vc'.appearance = vc.appearance) : ViewsKept past vc' := by
  constructor
  · rw [hviews, happearance]
    exact h.older
  · rw [others_congr hviews happearance]
    exact h.left
  · intro branch
    rw [hviews, ownView_congr branch happearance]
    exact h.top branch
  · rw [hviews]
    exact h.empty

theorem KeepsViews.older (h : KeepsViews vc vc') (hpast : ViewsKept past vc) :
    ∀ view ∈ vc'.contentView, ∀ a ∈ view.createdBy, a ≤ vc'.appearance := by
  intro view hmem a ha
  rw [h.appearance]
  obtain hold | rfl | hown := h.views view hmem
  · exact hpast.older view hold a ha
  · cases ha
  · rw [hown] at ha
    exact Nat.le_of_eq (Option.some.inj ha).symm

/-- `emptyView` is brought up. -/
theorem ViewsKept.emptied (h : ViewsKept past vc) (hkeeps : KeepsViews vc vc')
    (htop : vc'.contentView.getLast? = some .emptyView) : ViewsKept (.emptied :: past) vc' := by
  refine ⟨hkeeps.older h, ?_, fun branch => ?_, ?_⟩
  · exact iff_of_true (getLast?_others htop) rfl
  · rw [htop]
    simp [(ownView_ne_emptyView vc' branch).symm]
  · exact iff_of_true htop ⟨rfl, by simp⟩

/-- A segment brings up its own view. -/
theorem ViewsKept.opened (h : ViewsKept past vc) (hkeeps : KeepsViews vc vc')
    (hopens : Opens vc branch vc') : ViewsKept (.opened branch :: past) vc' := by
  refine ⟨hkeeps.older h, ?_, fun other => ?_, ?_⟩
  · rw [hopens.left, h.left]
    cases branch <;> simp [emptyViewLeft]
  · rw [hopens.top, ownView_congr other hkeeps.appearance]
    simp [ownView_inj]
  · rw [hopens.top]
    cases branch <;> simp [emptyViewLeft, ownView_ne_emptyView]

/-- This appearance's views are taken away. -/
theorem ViewsKept.openedNothing (h : ViewsKept past vc) (hkeeps : KeepsViews vc vc')
    (hviews : vc'.contentView = others vc) : ViewsKept (.openedNothing :: past) vc' := by
  have hothers : others vc' = others vc := by
    rw [others, hviews, hkeeps.appearance, others, List.filter_filter]
    simp
  refine ⟨hkeeps.older h, ?_, fun branch => ?_, ?_⟩
  · rw [hothers]
    exact h.left
  · refine iff_of_false (fun hlast => ?_) (by simp)
    have hmem := List.mem_of_getLast? hlast
    rw [hviews, ownView_congr branch hkeeps.appearance] at hmem
    simp [others, createdBy_ownView] at hmem
  · rw [hviews, h.left]
    simp [emptyViewLeft]

/-- The screen appears again, and what is on top is none of the new views. -/
theorem ViewsKept.appeared (h : ViewsKept past vc) :
    ViewsKept (.appeared :: past) vc.viewDidAppear := by
  have hnew : ∀ view ∈ vc.contentView, view.createdBy ≠ some (vc.appearance + 1) := by
    intro view hmem hcreated
    have holder : vc.appearance + 1 ≤ vc.appearance := h.older view hmem _ hcreated
    omega
  have hothers : others vc.viewDidAppear = vc.contentView := by
    refine List.filter_eq_self.mpr fun view hmem => ?_
    exact decide_eq_true (hnew view hmem)
  have hleft : emptyViewLeft (.appeared :: past) = true ↔
      emptyViewLeft past = true ∧ past.head? ≠ some (.opened .recommend) := by
    rcases past with _ | ⟨_ | branch | _ | _, past⟩
    · simp [emptyViewLeft]
    · simp [emptyViewLeft]
    · cases branch <;> simp [emptyViewLeft]
    · simp [emptyViewLeft]
    · simp [emptyViewLeft]
  refine ⟨fun view hmem a ha => ?_, ?_, fun branch => ?_, ?_⟩
  · exact Nat.le_succ_of_le (h.older view hmem a ha)
  · rw [hothers, hleft]
    exact h.empty
  · refine iff_of_false (fun hlast => ?_) (by simp)
    exact hnew _ (List.mem_of_getLast? hlast) (createdBy_ownView vc.viewDidAppear branch)
  · show vc.contentView.getLast? = some .emptyView ↔ _
    rw [hleft, h.empty]
    simp

/-- A segment is selected anew. -/
theorem ViewsKept.run (h : ViewsKept past vc) (branch : Branch) :
    ViewsKept (opening vc branch :: past) (branch.run vc) := by
  have hkeeps := keepsViews_run vc branch
  rw [opening]
  split
  · rename_i hview
    refine h.opened hkeeps ?_
    cases branch with
    | recommend => exact opens_recommendSelected vc
    | following => exact opens_followingSelected (by simpa [hasOwnView] using hview)
    | feed => exact opens_feedSelected (by simpa [hasOwnView] using hview)
  · rename_i hview
    have hnone : ¬ 0 < vc.followingArray.length := fun hsome => hview (.inr hsome)
    cases branch with
    | recommend => exact absurd (.inl rfl) hview
    | feed => exact h.emptied hkeeps (getLast?_feedSelected hnone)
    | following => exact h.openedNothing hkeeps (contentView_followingSelected hnone)

/-- The deeds so far, the view they leave on top, and the segment opened last being the selected
one. -/
structure ContentKept (past : List Deed) (vc : FollowingViewController) : Prop where
  views : ViewsKept past vc
  selected : ∀ branch, past.head? = some (.opened branch) →
    ∀ segmentio ∈ vc.segmentioView, branchAt segmentio.selectedSegmentioIndex = branch

theorem history_concat (h : controller.run {} es = some vc) :
    history (es ++ [e]) = (deeds vc e).reverse ++ history es := by
  rw [history, Machine.collect_concat deeds h, List.reverse_append, history]

theorem selectionDeeds_eq {segmentio : Segmentio} (h : vc.segmentioView = some segmentio)
    (index : Nat) : selectionDeeds vc index =
      if index = segmentio.selectedSegmentioIndex then [] else [opening vc (branchAt index)] := by
  simp [selectionDeeds, h]

theorem ContentKept.select (h : ContentKept past vc)
    (hselect : vc.setSelectedSegmentioIndex index = some vc') :
    ContentKept ((selectionDeeds vc index).reverse ++ past) vc' := by
  obtain ⟨segmentio, hsegmentio, rfl⟩ := Option.map_eq_some_iff.mp hselect
  rw [selectionDeeds_eq hsegmentio]
  by_cases hsame : index = segmentio.selectedSegmentioIndex
  · simpa [hsame] using h
  · simp only [if_neg hsame, List.reverse_singleton, List.singleton_append]
    rw [valueDidChange_eq_run]
    have hmoved : ViewsKept past { vc with
        segmentioView := some { segmentio with selectedSegmentioIndex := index } } :=
      h.views.frame rfl rfl
    refine ⟨hmoved.run (branchAt index), fun branch hbranch other hother => ?_⟩
    rw [← valueDidChange_eq_run, (valueDidChange_content _ index).2] at hother
    obtain rfl := Option.some.inj hother
    rw [List.head?_cons, Option.some_inj, opening] at hbranch
    split at hbranch
    · exact Deed.opened.inj hbranch
    · split at hbranch <;> cases hbranch

theorem ContentKept.unfollow {row : Nat} (h : ContentKept past vc)
    (hpress : vc.unFollowingButtonPressed row = some vc') :
    ContentKept ((deeds vc (.unFollowingButtonPressed row)).reverse ++ past) vc' := by
  obtain ⟨hrow, rfl⟩ := unFollowingButtonPressed_eq_some_iff.mp hpress
  have hlength : (vc.followingArray.eraseIdx row).length = vc.followingArray.length - 1 :=
    List.length_eraseIdx_of_lt hrow
  by_cases hlast : vc.followingArray.length = 1
  · have hnone : (vc.followingArray.eraseIdx row).length = 0 := by omega
    simp only [deeds, if_pos hlast, List.reverse_singleton, List.singleton_append]
    rw [followingRemoved]
    rw [if_pos hnone]
    refine ⟨h.views.emptied ⟨rfl, fun view hmem => ?_⟩ (getLast?_addSubview _ _), by simp⟩
    simp only [mem_addSubview, mem_removeFromSuperview, reloadData_contentView] at hmem
    obtain hold | rfl := hmem
    · exact .inl hold.1
    · exact .inr (.inl rfl)
  · have hsome : (vc.followingArray.eraseIdx row).length ≠ 0 := by omega
    simp only [deeds, if_neg hlast, List.reverse_nil, List.nil_append]
    rw [followingRemoved]
    rw [if_neg hsome]
    exact ⟨h.views.frame rfl rfl, h.selected⟩

theorem contentKept_step (h : ContentKept past vc) (hstep : controller.step vc e = some vc') :
    ContentKept ((deeds vc e).reverse ++ past) vc' := by
  cases e with
  | viewDidAppear =>
      obtain rfl : vc.viewDidAppear = vc' := Option.some.inj hstep
      exact ⟨h.views.appeared, by simp [deeds]⟩
  | didSelectItemAt index => exact h.select (setSelectedSegmentioIndex_of_didSelectItemAt hstep)
  | recommendButtonPressed => exact h.select hstep
  | setRecommend result =>
      obtain rfl : vc.setRecommend result = vc' := Option.some.inj hstep
      exact ⟨h.views.frame rfl rfl, h.selected⟩
  | followingButtonPressed row =>
      obtain ⟨next, hnext, rfl⟩ := Option.map_eq_some_iff.mp hstep
      rw [toggleRow_frame hnext]
      exact ⟨h.views.frame rfl rfl, h.selected⟩
  | unFollowingButtonPressed row => exact h.unfollow hstep

theorem contentKept_initial : ContentKept (history []) {} := by
  refine ⟨⟨by simp [View.createdBy], by decide, fun branch => ?_, by decide⟩, by simp [history]⟩
  cases branch <;> decide

theorem contentKept_run (h : controller.run {} es = some vc) : ContentKept (history es) vc := by
  refine Machine.run_induction (P := fun es vc => ContentKept (history es) vc)
    contentKept_initial (fun es vc e vc' hrun ih hstep => ?_) es vc h
  rw [history_concat hrun]
  exact contentKept_step ih hstep

/-- The view called for is on top if it is in place. -/
theorem ContentKept.shows (h : ContentKept past vc) :
    ShowsSelected vc ↔ ∀ segmentio ∈ vc.segmentioView,
      InPlace past vc (branchAt segmentio.selectedSegmentioIndex) := by
  refine forall_congr' fun segmentio => forall_congr' fun hsegmentio => ?_
  rw [calledFor_eq, InPlace]
  split
  · exact h.views.top _
  · rename_i hview
    rw [h.views.empty, and_iff_left]
    intro hhead
    exact hview (.inl (h.selected _ hhead segmentio hsegmentio))

/-! ## When it is in place -/

theorem inPlace_congr (hfollowing : 0 < vc'.followingArray.length ↔ 0 < vc.followingArray.length) :
    InPlace past vc' branch ↔ InPlace past vc branch := by
  have hview : hasOwnView vc' branch ↔ hasOwnView vc branch := or_congr_right hfollowing
  by_cases hown : hasOwnView vc branch
  · rw [InPlace, InPlace, if_pos hown, if_pos (hview.mpr hown)]
  · rw [InPlace, InPlace, if_neg hown, if_neg fun hown' => hown (hview.mp hown')]

theorem inPlace_opening : InPlace (opening vc branch :: past) vc branch ↔
    (branch = .following → vc.followingArray = [] → emptyViewLeft past) := by
  by_cases hview : hasOwnView vc branch
  · rw [InPlace, if_pos hview, opening, if_pos hview]
    refine iff_of_true rfl ?_
    rintro rfl hnone
    simp [hasOwnView, hnone] at hview
  · have hnone : vc.followingArray = [] := by
      by_contra hsome
      exact hview (.inr (List.length_pos_iff.mpr hsome))
    rw [InPlace, if_neg hview, opening, if_neg hview]
    cases branch with
    | recommend => exact absurd (.inl rfl) hview
    | following => simp [emptyViewLeft, hnone]
    | feed => simp [emptyViewLeft]

theorem inPlace_emptied (h : vc.followingArray.length = 0) :
    InPlace (.emptied :: past) vc branch ↔ branch ≠ .recommend := by
  by_cases hrecommend : branch = .recommend
  · simp [InPlace, hasOwnView, hrecommend]
  · simp [InPlace, hasOwnView, h, hrecommend, emptyViewLeft]

/-- After a selection the view called for is in place exactly if `SelectionShows`. -/
theorem inPlace_select (hselect : vc.setSelectedSegmentioIndex index = some vc') :
    (∀ segmentio ∈ vc'.segmentioView, InPlace ((selectionDeeds vc index).reverse ++ past) vc'
      (branchAt segmentio.selectedSegmentioIndex)) ↔ SelectionShows past vc index := by
  obtain ⟨segmentio, hsegmentio, rfl⟩ := Option.map_eq_some_iff.mp hselect
  rw [selectionDeeds_eq hsegmentio]
  by_cases hsame : index = segmentio.selectedSegmentioIndex
  · simp [SelectionShows, hsegmentio, hsame]
  · simp only [if_neg hsame, List.reverse_singleton, List.singleton_append,
      (valueDidChange_content _ index).2, SelectionShows, hsegmentio, Option.mem_def,
      Option.some.injEq, forall_eq']
    rw [← inPlace_opening]
    apply inPlace_congr
    rw [valueDidChange_followingArray]

/-- After an unfollow press it is in place exactly if `UnfollowShows`. -/
theorem inPlace_unfollow {row : Nat} (hpress : vc.unFollowingButtonPressed row = some vc') :
    (∀ segmentio ∈ vc'.segmentioView,
      InPlace ((deeds vc (.unFollowingButtonPressed row)).reverse ++ past) vc'
        (branchAt segmentio.selectedSegmentioIndex)) ↔ UnfollowShows past vc := by
  obtain ⟨hrow, rfl⟩ := unFollowingButtonPressed_eq_some_iff.mp hpress
  have hlength : (vc.followingArray.eraseIdx row).length = vc.followingArray.length - 1 :=
    List.length_eraseIdx_of_lt hrow
  by_cases hlast : vc.followingArray.length = 1
  · have hnone : (vc.followingArray.eraseIdx row).length = 0 := by omega
    simp only [deeds, UnfollowShows, if_pos hlast, List.reverse_singleton,
      List.singleton_append, followingRemoved]
    rw [if_pos hnone]
    exact forall_congr' fun segmentio => forall_congr' fun _ => inPlace_emptied hnone
  · have hsome : (vc.followingArray.eraseIdx row).length ≠ 0 := by omega
    simp only [deeds, UnfollowShows, if_neg hlast, List.reverse_nil, List.nil_append,
      followingRemoved]
    rw [if_neg hsome]
    refine forall_congr' fun segmentio => forall_congr' fun _ => inPlace_congr ?_
    show 0 < (vc.followingArray.eraseIdx row).length ↔ _
    omega

theorem shownAfter_step (h : ContentKept past vc) (hstep : controller.step vc e = some vc') :
    ShownAfter vc e ↔ ContentReady past vc e := by
  have hkept := contentKept_step h hstep
  have hafter : e.selectsOrUnfollows = true → (ShownAfter vc e ↔ ShowsSelected vc') := by
    intro hselects
    simp only [ShownAfter, hselects, hstep, Option.some.injEq, forall_const, forall_eq']
  cases e with
  | didSelectItemAt index =>
      rw [hafter rfl, hkept.shows]
      exact inPlace_select (setSelectedSegmentioIndex_of_didSelectItemAt hstep)
  | recommendButtonPressed =>
      rw [hafter rfl, hkept.shows]
      exact inPlace_select hstep
  | unFollowingButtonPressed row =>
      rw [hafter rfl, hkept.shows]
      exact inPlace_unfollow hstep
  | viewDidAppear | setRecommend result | followingButtonPressed row =>
      exact iff_of_true (fun hselects => by cases hselects) trivial

/-- In every run, the view on top is the one the selected segment calls for after each
selection and each unfollow press exactly if the past has made the content area ready for it. -/
theorem content_shown_iff (h : controller.run {} es = some vc) :
    controller.Meets ShownAfter {} es ↔
      controller.MeetsPast (fun past => ContentReady (history past)) {} es := by
  refine Machine.meetsPast_iff_meetsPast (J := fun es vc => ContentKept (history es) vc)
    (C := fun _ => ShownAfter) contentKept_initial ?_ ?_ h
  · intro es t e u hrun hkept hstep
    exact contentKept_run (Machine.run_concat hrun hstep)
  · exact fun es t e u hkept hstep => shownAfter_step hkept hstep

/-- Follow a shop, look at the segments and unfollow it on its row. -/
theorem content_shown_following :
    controller.Meets ShownAfter {}
      [.viewDidAppear, .didSelectItemAt 2, .setRecommend [shop 1], .followingButtonPressed 0,
        .didSelectItemAt 1, .didSelectItemAt 0, .didSelectItemAt 1,
        .unFollowingButtonPressed 0, .didSelectItemAt 0] := by
  have hrun : ∃ vc, controller.run {}
      [.viewDidAppear, .didSelectItemAt 2, .setRecommend [shop 1], .followingButtonPressed 0,
        .didSelectItemAt 1, .didSelectItemAt 0, .didSelectItemAt 1,
        .unFollowingButtonPressed 0, .didSelectItemAt 0] = some vc := ⟨_, rfl⟩
  obtain ⟨vc, hrun⟩ := hrun
  exact (content_shown_iff hrun).mpr (by decide)

/-- A shop is followed and "팔로잉" takes `emptyView` away; then the shop is unfollowed on
the recommendation table and "팔로잉" leaves the content area without a subview. -/
theorem unfollowed_leaves_content_empty :
    ¬ ∀ es vc, controller.run {} es = some vc → controller.Meets ShownAfter {} es := by
  intro halways
  have hrun : ∃ vc vc', controller.run {}
      [.viewDidAppear, .didSelectItemAt 2, .setRecommend [shop 1], .followingButtonPressed 0,
        .didSelectItemAt 1, .didSelectItemAt 2, .followingButtonPressed 0] = some vc ∧
      controller.step vc (.didSelectItemAt 1) = some vc' ∧ vc'.contentView = [] ∧
      vc'.segmentioView.isSome := ⟨_, _, rfl, rfl, by decide, rfl⟩
  obtain ⟨vc, vc', hrun, hstep, hempty, hsegmentio⟩ := hrun
  obtain ⟨segmentio, hsegmentio⟩ := Option.isSome_iff_exists.mp hsegmentio
  have hshown := halways _ vc' (Machine.run_concat hrun hstep) _ _ vc List.prefix_rfl hrun rfl
    vc' hstep segmentio hsegmentio
  rw [hempty] at hshown
  cases hshown

end BunjangClone.Following
