import BunjangClone.Following.Tables

/-!
# Which array a table shows

`numberOfRowsInSection` and `cellForRowAt` compare the asking table with
`recommendTableView` and take every other table for `followingTableView`. So a table is
served its own rows as long as it is one of the two tables the properties hold now. The
handlers of one appearance put no other table into `contentView`, and register on each
the cell it will be asked for.
-/

namespace BunjangClone.Following

open Reactive

/-- The cell the table was given to dequeue. -/
def TableView.identifier : TableView → String
  | recommend _ => recommendCell
  | following _ => followingCell

namespace FollowingViewController

/-- The cell `cellForRowAt` dequeues for the table. -/
def dequeued (vc : FollowingViewController) (table : TableView) : String :=
  if table = vc.recommendTableView then recommendCell else followingCell

/-- The array the table was filled from. -/
def filledFrom (vc : FollowingViewController) : TableView → List FollowingData
  | .recommend _ => vc.recommendArray
  | .following _ => vc.followingArray

end FollowingViewController

open FollowingViewController

variable {vc vc' vc'' : FollowingViewController} {table : TableView} {e : Callback}
variable {es : List Callback}

def IsCurrent (vc : FollowingViewController) (table : TableView) : Prop :=
  table = vc.recommendTableView ∨ table = vc.followingTableView

/-- The table is asked for rows of its own array, and its cell can be dequeued. -/
structure Serves (vc : FollowingViewController) (table : TableView) : Prop where
  current : IsCurrent vc table
  rows : vc.numberOfRowsInSection table = (vc.filledFrom table).length
  registered : vc.dequeued table ∈ (vc.tables table).registered

/-- Every table in `contentView` with this controller as its data source is served. -/
def Dispatched (vc : FollowingViewController) : Prop :=
  ∀ table, .table table ∈ vc.contentView → (vc.tables table).dataSource = true → Serves vc table

def View.isTable : View → Bool
  | .table _ => true
  | _ => false

/-- The screen does not appear while a table is in `contentView`. -/
def NoTableShown (vc : FollowingViewController) : Callback → Prop
  | .viewDidAppear => ∀ view ∈ vc.contentView, view.isTable = false
  | _ => True

instance (vc : FollowingViewController) : DecidablePred (NoTableShown vc)
  | .viewDidAppear =>
      inferInstanceAs (Decidable (∀ view ∈ vc.contentView, view.isTable = false))
  | .didSelectItemAt _ | .recommendButtonPressed | .setRecommend _
  | .followingButtonPressed _ | .unFollowingButtonPressed _ => inferInstanceAs (Decidable True)

/-! ## Wired tables -/

/-- The table has its data source and its own cell registered. -/
structure Wired (vc : FollowingViewController) (table : TableView) : Prop where
  dataSource : (vc.tables table).dataSource = true
  registered : table.identifier ∈ (vc.tables table).registered

/-- A current table is asked for the cell registered on it. -/
theorem Wired.serves (h : Wired vc table) (hcurrent : IsCurrent vc table) : Serves vc table := by
  have hrows : vc.numberOfRowsInSection table = (vc.filledFrom table).length ∧
      vc.dequeued table = table.identifier := by
    obtain rfl | rfl := hcurrent
    · exact ⟨if_pos rfl, if_pos rfl⟩
    · exact ⟨if_neg (recommend_ne_following vc).symm, if_neg (recommend_ne_following vc).symm⟩
  refine ⟨hcurrent, hrows.1, ?_⟩
  rw [hrows.2]
  exact h.registered

/-- Only the table's own connections count. -/
theorem Wired.congr (h : Wired vc table)
    (hsource : (vc'.tables table).dataSource = (vc.tables table).dataSource)
    (hregistered : (vc'.tables table).registered = (vc.tables table).registered) :
    Wired vc' table := by
  constructor
  · rw [hsource]
    exact h.dataSource
  · rw [hregistered]
    exact h.registered

theorem Wired.of_tables (h : Wired vc table) (hsame : vc'.tables table = vc.tables table) :
    Wired vc' table := by
  apply h.congr
  · rw [hsame]
  · rw [hsame]

theorem Wired.reloadData (h : Wired vc table) (other : TableView) :
    Wired (vc.reloadData other) table := by
  by_cases hsame : table = other
  · subst hsame
    apply h.congr
    · simp [FollowingViewController.reloadData]
    · simp [FollowingViewController.reloadData]
  · exact h.of_tables (reloadData_tables_of_ne vc hsame)

theorem wired_connect (vc : FollowingViewController) (table : TableView) :
    Wired (vc.connect table table.identifier) table := by
  have hconnected : Wired { vc with
      tables := Function.update vc.tables table
        { vc.tables table with
          dataSource := true
          registered := table.identifier :: (vc.tables table).registered } } table :=
    ⟨by simp, by simp⟩
  simp only [connect]
  split
  · exact hconnected
  · exact hconnected.reloadData table

theorem Wired.connect (h : Wired vc table) (other : TableView) :
    Wired (vc.connect other other.identifier) table := by
  by_cases hsame : table = other
  · rw [hsame]
    exact wired_connect vc other
  · exact h.of_tables (connect_tables_of_ne vc other.identifier hsame)

/-! ## What a handler keeps -/

/-- Wired tables stay wired, and only a current one that is wired joins the screen. -/
structure Keeps (vc vc' : FollowingViewController) : Prop where
  appearance : vc'.appearance = vc.appearance
  wired : ∀ table, Wired vc table → Wired vc' table
  view : ∀ table, .table table ∈ vc'.contentView →
    .table table ∈ vc.contentView ∨ (IsCurrent vc table ∧ Wired vc' table)

theorem IsCurrent.congr (h : IsCurrent vc' table) (happearance : vc'.appearance = vc.appearance) :
    IsCurrent vc table := by
  rw [IsCurrent, recommendTableView, followingTableView, happearance] at h
  exact h

theorem Keeps.trans (h : Keeps vc vc') (h' : Keeps vc' vc'') : Keeps vc vc'' := by
  refine ⟨h'.appearance.trans h.appearance,
    fun table hwired => h'.wired table (h.wired table hwired), fun table hmem => ?_⟩
  obtain hmem | ⟨hcurrent, hwired⟩ := h'.view table hmem
  · obtain hmem | ⟨hcurrent, hwired⟩ := h.view table hmem
    · exact .inl hmem
    · exact .inr ⟨hcurrent, h'.wired table hwired⟩
  · exact .inr ⟨hcurrent.congr h.appearance, hwired⟩

/-- A handler that leaves the tables alone and adds none. -/
theorem keeps_of_tables (htables : vc'.tables = vc.tables)
    (happearance : vc'.appearance = vc.appearance)
    (hview : ∀ table, .table table ∈ vc'.contentView → .table table ∈ vc.contentView) :
    Keeps vc vc' := by
  refine ⟨happearance, fun table hwired => ?_, fun table hmem => .inl (hview table hmem)⟩
  exact hwired.of_tables (congrFun htables table)

theorem keeps_removeFromSuperview (vc : FollowingViewController) (view : View) :
    Keeps vc (vc.removeFromSuperview view) :=
  keeps_of_tables rfl rfl fun _ hmem => (mem_removeFromSuperview.mp hmem).1

theorem keeps_addSubview (vc : FollowingViewController) {view : View}
    (hview : ∀ table, view ≠ .table table) : Keeps vc (vc.addSubview view) := by
  refine keeps_of_tables rfl rfl fun table hmem => ?_
  obtain hmem | heq := mem_addSubview.mp hmem
  · exact hmem
  · exact absurd heq.symm (hview table)

theorem keeps_reloadData (vc : FollowingViewController) (table : TableView) :
    Keeps vc (vc.reloadData table) :=
  ⟨rfl, fun _ hwired => hwired.reloadData table, fun _ hmem => .inl hmem⟩

/-- A current table is added and connected at once. -/
theorem keeps_connect (hcurrent : IsCurrent vc table) :
    Keeps vc ((vc.addSubview (.table table)).connect table table.identifier) := by
  refine ⟨connect_appearance _ _ _, fun other hwired => ?_, fun other hmem => ?_⟩
  · have hadded : Wired (vc.addSubview (.table table)) other :=
      ⟨hwired.dataSource, hwired.registered⟩
    exact hadded.connect table
  · rw [connect_contentView, mem_addSubview] at hmem
    obtain hmem | heq := hmem
    · exact .inl hmem
    · obtain rfl := View.table.inj heq
      exact .inr ⟨hcurrent, wired_connect _ other⟩

theorem keeps_recommendSelected (vc : FollowingViewController) :
    Keeps vc vc.recommendSelected := by
  apply (keeps_removeFromSuperview vc (.table vc.followingTableView)).trans
  apply (keeps_removeFromSuperview _ vc.collectionView).trans
  have hcurrent : IsCurrent ((vc.removeFromSuperview (.table vc.followingTableView)
      ).removeFromSuperview vc.collectionView) vc.recommendTableView := .inl rfl
  exact keeps_connect hcurrent

theorem keeps_followingSelected (vc : FollowingViewController) :
    Keeps vc vc.followingSelected := by
  have hcleared := (keeps_removeFromSuperview vc (.table vc.recommendTableView)).trans
    (keeps_removeFromSuperview _ vc.collectionView)
  simp only [followingSelected]
  split
  · exact hcleared.trans (keeps_removeFromSuperview _ _)
  · refine hcleared.trans ((keeps_removeFromSuperview _ .emptyView).trans ?_)
    have hcurrent : IsCurrent (((vc.removeFromSuperview (.table vc.recommendTableView)
        ).removeFromSuperview vc.collectionView).removeFromSuperview .emptyView)
          vc.followingTableView := .inr rfl
    exact (keeps_connect hcurrent).trans (keeps_reloadData _ vc.followingTableView)

theorem keeps_feedSelected (vc : FollowingViewController) : Keeps vc vc.feedSelected := by
  have hcleared := (keeps_removeFromSuperview vc (.table vc.followingTableView)).trans
    (keeps_removeFromSuperview _ (.table vc.recommendTableView))
  simp only [feedSelected]
  split
  · have hcollection : ∀ table, vc.collectionView ≠ .table table := by simp [collectionView]
    apply (hcleared.trans (keeps_removeFromSuperview _ .emptyView)).trans
    exact (keeps_addSubview _ hcollection).trans (keeps_of_tables rfl rfl fun _ hmem => hmem)
  · exact (hcleared.trans (keeps_removeFromSuperview _ _)).trans (keeps_addSubview _ (by simp))

theorem keeps_valueDidChange (vc : FollowingViewController) (segmentIndex : Nat) :
    Keeps vc (vc.valueDidChange segmentIndex) := by
  simp only [valueDidChange]
  split
  · exact keeps_recommendSelected vc
  · split
    · exact keeps_followingSelected vc
    · exact keeps_feedSelected vc

theorem keeps_refl (vc : FollowingViewController) : Keeps vc vc :=
  keeps_of_tables rfl rfl fun _ hmem => hmem

theorem keeps_setSelectedSegmentioIndex {index : Nat}
    (h : vc.setSelectedSegmentioIndex index = some vc') : Keeps vc vc' := by
  obtain ⟨segmentio, _, rfl⟩ := Option.map_eq_some_iff.mp h
  split
  · exact keeps_refl vc
  · refine Keeps.trans ?_ (keeps_valueDidChange _ index)
    exact keeps_of_tables rfl rfl fun _ hmem => hmem

/-- Every callback but an appearance selects a segment, changes the arrays and reloads the
recommendation table, or removes an entry of the following table. -/
theorem step_cases (he : e ≠ .viewDidAppear) (h : controller.step vc e = some vc') :
    (∃ index, vc.setSelectedSegmentioIndex index = some vc') ∨
      (∃ followingArray recommendArray, vc' = { vc with
        followingArray := followingArray
        recommendArray := recommendArray }.reloadData vc.recommendTableView) ∨
      ∃ followingArray, vc' = { vc with followingArray := followingArray }.followingRemoved := by
  cases e with
  | viewDidAppear => exact absurd rfl he
  | didSelectItemAt index => exact .inl ⟨index, setSelectedSegmentioIndex_of_didSelectItemAt h⟩
  | recommendButtonPressed => exact .inl ⟨2, h⟩
  | setRecommend result =>
      obtain rfl : vc.setRecommend result = vc' := Option.some.inj h
      exact .inr (.inl ⟨_, _, rfl⟩)
  | followingButtonPressed row =>
      obtain ⟨next, hnext, rfl⟩ := Option.map_eq_some_iff.mp h
      rw [toggleRow_frame hnext]
      exact .inr (.inl ⟨_, _, rfl⟩)
  | unFollowingButtonPressed row =>
      obtain ⟨_, rfl⟩ := unFollowingButtonPressed_eq_some_iff.mp h
      exact .inr (.inr ⟨_, rfl⟩)

/-- What every callback but an appearance keeps. -/
theorem keeps_step (he : e ≠ .viewDidAppear) (h : controller.step vc e = some vc') :
    Keeps vc vc' := by
  obtain ⟨index, hselect⟩ | ⟨followingArray, recommendArray, rfl⟩ | ⟨followingArray, rfl⟩ :=
    step_cases he h
  · exact keeps_setSelectedSegmentioIndex hselect
  · refine Keeps.trans ?_ (keeps_reloadData _ _)
    exact keeps_of_tables rfl rfl fun _ hmem => hmem
  · have hreloaded : Keeps vc ({ vc with followingArray := followingArray }.reloadData
        vc.followingTableView) := by
      refine Keeps.trans ?_ (keeps_reloadData _ _)
      exact keeps_of_tables rfl rfl fun _ hmem => hmem
    simp only [followingRemoved]
    split
    · exact (hreloaded.trans (keeps_removeFromSuperview _ _)).trans (keeps_addSubview _ (by simp))
    · exact hreloaded

/-! ## Runs -/

/-- The tables on screen are wired, and none is newer than the appearance. -/
def AllWired (vc : FollowingViewController) : Prop :=
  ∀ table, .table table ∈ vc.contentView → Wired vc table ∧ table.appearance ≤ vc.appearance

theorem IsCurrent.past (h : IsCurrent vc table) : table.appearance ≤ vc.appearance := by
  obtain rfl | rfl := h
  · exact Nat.le_refl _
  · exact Nat.le_refl _

theorem AllWired.keep (h : AllWired vc) (hkeeps : Keeps vc vc') : AllWired vc' := by
  intro table hmem
  rw [hkeeps.appearance]
  obtain hmem | ⟨hcurrent, hwired⟩ := hkeeps.view table hmem
  · exact ⟨hkeeps.wired table (h table hmem).1, (h table hmem).2⟩
  · exact ⟨hwired, hcurrent.past⟩

theorem AllWired.viewDidAppear (h : AllWired vc) : AllWired vc.viewDidAppear := by
  intro table hmem
  obtain ⟨hwired, hpast⟩ := h table hmem
  have hkept := viewDidAppear_tables_of_past hpast
  exact ⟨hwired.of_tables hkept, Nat.le_succ_of_le hpast⟩

theorem allWired_step (h : AllWired vc) (hstep : controller.step vc e = some vc') :
    AllWired vc' := by
  by_cases he : e = .viewDidAppear
  · subst he
    obtain rfl : vc.viewDidAppear = vc' := Option.some.inj hstep
    exact h.viewDidAppear
  · exact h.keep (keeps_step he hstep)

/-- Within one appearance the tables on screen stay the current ones. -/
theorem Dispatched.keep (hdispatched : Dispatched vc) (h : AllWired vc)
    (hkeeps : Keeps vc vc') : Dispatched vc' := by
  intro table hmem _
  have hwired := (h.keep hkeeps table hmem).1
  refine hwired.serves (IsCurrent.congr ?_ hkeeps.appearance.symm)
  obtain hmem | ⟨hcurrent, _⟩ := hkeeps.view table hmem
  · exact (hdispatched table hmem (h table hmem).1.dataSource).current
  · exact hcurrent

/-- An appearance makes every table on screen an old one. -/
theorem dispatched_viewDidAppear_iff (h : AllWired vc) :
    Dispatched vc.viewDidAppear ↔ NoTableShown vc .viewDidAppear := by
  constructor
  · intro hdispatched view hmem
    cases view with
    | emptyView => rfl
    | collectionView appearance => rfl
    | table table =>
        obtain ⟨hwired, hpast⟩ := h table hmem
        have hsource := hwired.dataSource
        rw [← viewDidAppear_tables_of_past hpast] at hsource
        obtain ⟨hrecommend, hfollowing⟩ := ne_fresh_of_past hpast
        obtain heq | heq := (hdispatched table hmem hsource).current
        · exact absurd heq hrecommend
        · exact absurd heq hfollowing
  · intro hnone table hmem
    cases hnone _ hmem

theorem dispatched_step (h : AllWired vc) (hdispatched : Dispatched vc)
    (hstep : controller.step vc e = some vc') : Dispatched vc' ↔ NoTableShown vc e := by
  by_cases he : e = .viewDidAppear
  · subst he
    obtain rfl : vc.viewDidAppear = vc' := Option.some.inj hstep
    exact dispatched_viewDidAppear_iff h
  · apply iff_of_true (hdispatched.keep h (keeps_step he hstep))
    cases e with
    | viewDidAppear => exact absurd rfl he
    | _ => trivial

end BunjangClone.Following
