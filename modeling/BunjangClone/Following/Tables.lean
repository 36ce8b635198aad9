import BunjangClone.Following.Follows

/-!
# When a press acts on the shop shown

A tag is the row number of the last reload of one table, and the handlers reload only
the tables the properties hold now. As long as these are the only tables in
`contentView` that show rows, every tag is in step with the array it indexes: the
recommendation table is reloaded with every change of its array, and the following
table is off screen whenever its array changes without it.

`viewDidAppear` replaces both tables and leaves the old ones in place. A table that
shows rows at that moment is left behind, and no handler will reload it again.
-/

namespace BunjangClone.Following

open Reactive

/-- The appearance that created the table. -/
def TableView.appearance : TableView → Nat
  | recommend appearance => appearance
  | following appearance => appearance

/-- The callbacks of a run in which buttons are pressed on loaded rows. -/
inductive Touch where
  | viewDidAppear
  | didSelectItemAt (index : Nat)
  | recommendButtonPressed
  | setRecommend (result : List FollowingData)
  | press (table : TableView) (row : Nat)
deriving DecidableEq, Repr

/-- The cell of a loaded row, if the row can be displayed. -/
def FollowingViewController.cell (vc : FollowingViewController) (table : TableView)
    (row : Nat) : Option Cell :=
  (vc.tables table).cells[row]?.join

/-- A press calls the action of the cell's button with the tag of the cell. -/
def Cell.press (cell : Cell) : Callback :=
  match cell.action with
  | .followingButtonPressed => .followingButtonPressed cell.tag
  | .unFollowingButtonPressed => .unFollowingButtonPressed cell.tag

def touchStep (vc : FollowingViewController) : Touch → Option FollowingViewController
  | .viewDidAppear => controller.step vc .viewDidAppear
  | .didSelectItemAt index => controller.step vc (.didSelectItemAt index)
  | .recommendButtonPressed => controller.step vc .recommendButtonPressed
  | .setRecommend result => controller.step vc (.setRecommend result)
  | .press table row =>
      if .table table ∈ vc.contentView then
        (vc.cell table row).bind fun cell => controller.step vc cell.press
      else none

def touches : Machine FollowingViewController Touch := ⟨touchStep⟩

/-- The array an action indexes with the tag. -/
def FollowingViewController.indexed (vc : FollowingViewController) :
    Action → List FollowingData
  | .followingButtonPressed => vc.recommendArray
  | .unFollowingButtonPressed => vc.followingArray

/-- The tag of the cell is in bounds, and the entry there is the shop shown. -/
def Hits (vc : FollowingViewController) (cell : Cell) : Prop :=
  ∃ entry, (vc.indexed cell.action)[cell.tag]? = some entry ∧ shopId entry = shopId cell.data

/-- Every button that can be pressed now acts on the shop shown on its row. -/
def PressesHit (vc : FollowingViewController) : Prop :=
  ∀ table row cell, .table table ∈ vc.contentView → vc.cell table row = some cell → Hits vc cell

/-- The view is a table with a row that can be displayed. -/
def showsRows (vc : FollowingViewController) : View → Bool
  | .table table => (vc.tables table).cells.any Option.isSome
  | _ => false

/-- The screen does not appear again while a table in `contentView` shows rows. -/
def NoTableLeftBehind (vc : FollowingViewController) : Touch → Prop
  | .viewDidAppear => ∀ view ∈ vc.contentView, showsRows vc view = false
  | _ => True

instance (vc : FollowingViewController) : DecidablePred (NoTableLeftBehind vc)
  | .viewDidAppear =>
      inferInstanceAs (Decidable (∀ view ∈ vc.contentView, showsRows vc view = false))
  | .didSelectItemAt _ | .recommendButtonPressed | .setRecommend _ | .press _ _ =>
      inferInstanceAs (Decidable True)

variable {vc vc' : FollowingViewController} {table other : TableView} {cell : Cell}
variable {row : Nat} {e : Touch} {es : List Touch}

theorem showsRows_of_cell (h : vc.cell table row = some cell) :
    showsRows vc (.table table) = true := by
  have hmem : some cell ∈ (vc.tables table).cells :=
    List.mem_of_getElem? (Option.join_eq_some_iff.mp h)
  exact List.any_eq_true.mpr ⟨some cell, hmem, rfl⟩

/-! ## Which parts the helpers touch -/

namespace FollowingViewController

theorem cell_congr (h : (vc'.tables table).cells = (vc.tables table).cells) :
    vc'.cell table row = vc.cell table row := by
  rw [cell, cell, h]

@[simp] theorem reloadData_contentView (vc : FollowingViewController) (table : TableView) :
    (vc.reloadData table).contentView = vc.contentView := rfl

theorem reloadData_tables_of_ne (vc : FollowingViewController) (h : other ≠ table) :
    (vc.reloadData table).tables other = vc.tables other :=
  Function.update_of_ne h _ _

@[simp] theorem connect_contentView (vc : FollowingViewController) (table : TableView)
    (identifier : String) : (vc.connect table identifier).contentView = vc.contentView := by
  simp only [connect]
  split <;> rfl

@[simp] theorem connect_appearance (vc : FollowingViewController) (table : TableView)
    (identifier : String) : (vc.connect table identifier).appearance = vc.appearance := by
  simp only [connect]
  split <;> rfl

theorem connect_tables_of_ne (vc : FollowingViewController) (identifier : String)
    (h : other ≠ table) : (vc.connect table identifier).tables other = vc.tables other := by
  simp only [connect]
  split
  · exact Function.update_of_ne h _ _
  · rw [reloadData_tables_of_ne _ h]
    exact Function.update_of_ne h _ _

/-- A row loaded from the recommendation array is one of the current table for it. -/
theorem cellForRowAt_recommend (h : table = vc.recommendTableView)
    (hcell : vc.cellForRowAt table row = some cell) :
    cell.action = .followingButtonPressed ∧ vc.recommendArray[cell.tag]? = some cell.data := by
  simp only [cellForRowAt, if_pos h] at hcell
  split at hcell
  · simp only [recommendRow, Option.bind_eq_bind, Option.bind_eq_some_iff, Cell.load,
      Option.pure_def, Option.some.injEq] at hcell
    obtain ⟨data, hdata, _, _, _, _, _, _, _, _, _, _, rfl⟩ := hcell
    exact ⟨rfl, hdata⟩
  · cases hcell

/-- Any other table that asks for a row gets one of the following array. -/
theorem cellForRowAt_following (h : table ≠ vc.recommendTableView)
    (hcell : vc.cellForRowAt table row = some cell) :
    cell.action = .unFollowingButtonPressed ∧ vc.followingArray[cell.tag]? = some cell.data := by
  simp only [cellForRowAt, if_neg h] at hcell
  split at hcell
  · simp only [followingRow, Option.bind_eq_bind, Option.bind_eq_some_iff, Cell.load,
      Option.pure_def, Option.some.injEq] at hcell
    obtain ⟨data, hdata, _, _, _, _, _, _, _, _, rfl⟩ := hcell
    exact ⟨rfl, hdata⟩
  · cases hcell

/-- After a reload every row is the answer of the data source for it. -/
theorem cell_reloadData (h : (vc.reloadData table).cell table row = some cell) :
    vc.cellForRowAt table row = some cell := by
  simp only [FollowingViewController.cell, reloadData, Function.update_self,
    Option.join_eq_some_iff] at h
  split at h
  · rw [List.getElem?_map] at h
    obtain ⟨index, hindex, hload⟩ := Option.map_eq_some_iff.mp h
    obtain rfl : row = index := by
      have hbound := (List.getElem?_eq_some_iff.mp hindex)
      simpa using hbound.2
    exact hload
  · cases h

end FollowingViewController

/-! ## Tables in step with their arrays -/

/-- Every row of the table is wired to `action` and hits the shop it shows. -/
def InStep (vc : FollowingViewController) (table : TableView) (action : Action) : Prop :=
  ∀ row cell, vc.cell table row = some cell → cell.action = action ∧ Hits vc cell

theorem InStep.congr {action : Action} (h : InStep vc table action)
    (htable : (vc'.tables table).cells = (vc.tables table).cells)
    (harray : vc'.indexed action = vc.indexed action) : InStep vc' table action := by
  intro row cell hcell
  rw [FollowingViewController.cell_congr htable] at hcell
  obtain ⟨haction, entry, hentry, hshop⟩ := h row cell hcell
  refine ⟨haction, entry, ?_, hshop⟩
  rw [haction, harray, ← haction, hentry]

theorem inStep_of_no_cells {action : Action} (h : (vc.tables table).cells = []) :
    InStep vc table action := by
  intro row cell hcell
  simp [FollowingViewController.cell, h] at hcell

theorem inStep_reload_recommend (vc : FollowingViewController) :
    InStep (vc.reloadData vc.recommendTableView) vc.recommendTableView
      .followingButtonPressed := by
  intro row cell hcell
  obtain ⟨haction, hentry⟩ := FollowingViewController.cellForRowAt_recommend rfl
    (FollowingViewController.cell_reloadData hcell)
  exact ⟨haction, cell.data, by rw [haction]; exact hentry, rfl⟩

/-- A reloaded table other than the recommendation table follows the other array. -/
theorem inStep_reload_following (h : table ≠ vc.recommendTableView) :
    InStep (vc.reloadData table) table .unFollowingButtonPressed := by
  intro row cell hcell
  obtain ⟨haction, hentry⟩ := FollowingViewController.cellForRowAt_following h
    (FollowingViewController.cell_reloadData hcell)
  exact ⟨haction, cell.data, by rw [haction]; exact hentry, rfl⟩

/-- The invariant of runs that leave no table behind. The recommendation table is in
step even off screen; the following table is while it is on screen, and then the other
one is not. -/
structure Current (vc : FollowingViewController) : Prop where
  shown : ∀ table row cell, .table table ∈ vc.contentView → vc.cell table row = some cell →
    table = vc.recommendTableView ∨ table = vc.followingTableView
  recommend : InStep vc vc.recommendTableView .followingButtonPressed
  following : .table vc.followingTableView ∈ vc.contentView →
    InStep vc vc.followingTableView .unFollowingButtonPressed
  exclusive : .table vc.recommendTableView ∈ vc.contentView →
    .table vc.followingTableView ∉ vc.contentView
  past : ∀ table, .table table ∈ vc.contentView → table.appearance ≤ vc.appearance

theorem Current.pressesHit (h : Current vc) : PressesHit vc := by
  intro table row cell hmem hcell
  cases h.shown table row cell hmem hcell with
  | inl hrecommend =>
      subst hrecommend
      exact (h.recommend row cell hcell).2
  | inr hfollowing =>
      subst hfollowing
      exact (h.following hmem row cell hcell).2

theorem recommend_ne_following (vc : FollowingViewController) :
    vc.recommendTableView ≠ vc.followingTableView := by
  simp [FollowingViewController.recommendTableView, FollowingViewController.followingTableView]

/-- An update of one of the current tables, which it may also put on screen. What is to
be shown is that the two tables are in step afterwards. -/
theorem Current.update (h : Current vc) (table : TableView)
    (hcurrent : table = vc.recommendTableView ∨ table = vc.followingTableView)
    (happearance : vc'.appearance = vc.appearance)
    (htables : ∀ other, other ≠ table → vc'.tables other = vc.tables other)
    (hview : ∀ other, .table other ∈ vc'.contentView →
      .table other ∈ vc.contentView ∨ other = table)
    (hrecommend : InStep vc' vc.recommendTableView .followingButtonPressed)
    (hfollowing : .table vc.followingTableView ∈ vc'.contentView →
      InStep vc' vc.followingTableView .unFollowingButtonPressed)
    (hexclusive : .table vc.recommendTableView ∈ vc'.contentView →
      .table vc.followingTableView ∉ vc'.contentView) : Current vc' := by
  have hr : vc'.recommendTableView = vc.recommendTableView :=
    congrArg TableView.recommend happearance
  have hf : vc'.followingTableView = vc.followingTableView :=
    congrArg TableView.following happearance
  refine ⟨?_, hr ▸ hrecommend, hf ▸ hfollowing, hr ▸ hf ▸ hexclusive, ?_⟩
  · intro other row cell hmem hcell
    rw [hr, hf]
    by_cases hsame : other = table
    · exact hsame ▸ hcurrent
    · rw [FollowingViewController.cell_congr (congrArg Table.cells (htables other hsame))] at hcell
      exact h.shown other row cell ((hview other hmem).resolve_right hsame) hcell
  · intro other hmem
    rw [happearance]
    cases hview other hmem with
    | inl hold => exact h.past other hold
    | inr hnew =>
        cases hcurrent with
        | inl hsame => exact le_of_eq (by rw [hnew, hsame]; rfl)
        | inr hsame => exact le_of_eq (by rw [hnew, hsame]; rfl)

/-- An update that keeps the arrays and the tables, and adds no table to the screen. -/
theorem Current.frame (h : Current vc) (htables : vc'.tables = vc.tables)
    (hfollows : vc'.follows = vc.follows) (happearance : vc'.appearance = vc.appearance)
    (hview : ∀ table, .table table ∈ vc'.contentView → .table table ∈ vc.contentView) :
    Current vc' := by
  refine h.update vc.recommendTableView (Or.inl rfl) happearance
    (fun other _ => congrFun htables other) (fun other hmem => Or.inl (hview other hmem)) ?_ ?_ ?_
  · exact h.recommend.congr (by rw [htables]) (congrArg Follows.recommend hfollows)
  · intro hmem
    exact (h.following (hview _ hmem)).congr (by rw [htables])
      (congrArg Follows.following hfollows)
  · exact fun hmem hboth => h.exclusive (hview _ hmem) (hview _ hboth)

/-! ## What keeps the tables current -/

@[simp] theorem mem_removeFromSuperview {view removed : View} :
    view ∈ (vc.removeFromSuperview removed).contentView ↔
      view ∈ vc.contentView ∧ view ≠ removed := by
  simp [FollowingViewController.removeFromSuperview]

@[simp] theorem mem_addSubview {view added : View} :
    view ∈ (vc.addSubview added).contentView ↔ view ∈ vc.contentView ∨ view = added := by
  simp only [FollowingViewController.addSubview, List.mem_append, List.mem_filter,
    List.mem_singleton, decide_eq_true_eq]
  tauto

theorem Current.removeFromSuperview (h : Current vc) (view : View) :
    Current (vc.removeFromSuperview view) :=
  h.frame rfl rfl rfl fun _ hmem => (mem_removeFromSuperview.mp hmem).1

theorem Current.addSubview (h : Current vc) {view : View} (hview : ∀ table, view ≠ .table table) :
    Current (vc.addSubview view) := by
  refine h.frame rfl rfl rfl fun table hmem => ?_
  cases mem_addSubview.mp hmem with
  | inl hold => exact hold
  | inr hnew => exact absurd hnew.symm (hview table)

theorem inStep_connect_recommend {identifier : String}
    (h : InStep vc vc.recommendTableView .followingButtonPressed) :
    InStep (vc.connect vc.recommendTableView identifier) vc.recommendTableView
      .followingButtonPressed := by
  simp only [FollowingViewController.connect]
  split
  · exact h.congr (by simp) rfl
  · exact inStep_reload_recommend _

/-- The recommendation table replaces the following table on screen. -/
theorem Current.recommendSelected (h : Current vc) : Current vc.recommendSelected := by
  have hoff : .table vc.followingTableView ∉ vc.recommendSelected.contentView := by
    simp [FollowingViewController.recommendSelected, (recommend_ne_following vc).symm]
  apply h.update vc.recommendTableView (Or.inl rfl)
  · exact FollowingViewController.connect_appearance _ _ _
  · exact fun other hne => FollowingViewController.connect_tables_of_ne _ _ hne
  · intro other hmem
    simp only [FollowingViewController.recommendSelected,
      FollowingViewController.connect_contentView, mem_addSubview, mem_removeFromSuperview] at hmem
    cases hmem with
    | inl hold => exact Or.inl hold.1.1
    | inr hnew => exact Or.inr (View.table.inj hnew)
  · exact inStep_connect_recommend (h.recommend.congr rfl rfl)
  · exact fun hmem => absurd hmem hoff
  · exact fun _ => hoff

/-- The following table replaces the recommendation table on screen, unless it would be
empty. -/
theorem Current.followingSelected (h : Current vc) : Current vc.followingSelected := by
  simp only [FollowingViewController.followingSelected]
  split
  · exact ((h.removeFromSuperview _).removeFromSuperview _).removeFromSuperview _
  · have hne := recommend_ne_following vc
    apply h.update vc.followingTableView (Or.inr rfl)
    · exact FollowingViewController.connect_appearance _ _ _
    · exact fun other hne => (FollowingViewController.reloadData_tables_of_ne _ hne).trans
        (FollowingViewController.connect_tables_of_ne _ _ hne)
    · intro other hmem
      simp only [FollowingViewController.reloadData_contentView,
        FollowingViewController.connect_contentView, mem_addSubview,
        mem_removeFromSuperview] at hmem
      cases hmem with
      | inl hold => exact Or.inl hold.1.1.1
      | inr hnew => exact Or.inr (View.table.inj hnew)
    · refine h.recommend.congr (congrArg Table.cells ?_) ?_
      · exact (FollowingViewController.reloadData_tables_of_ne _ hne).trans
          (FollowingViewController.connect_tables_of_ne _ _ hne)
      · exact congrArg Follows.recommend (FollowingViewController.follows_connect _ _ _)
    · intro _
      apply inStep_reload_following
      simp [FollowingViewController.recommendTableView,
        FollowingViewController.followingTableView]
    · intro hmem
      simp [hne] at hmem

theorem Current.feedSelected (h : Current vc) : Current vc.feedSelected := by
  have hcleared := (h.removeFromSuperview (.table vc.followingTableView)).removeFromSuperview
    (.table vc.recommendTableView)
  simp only [FollowingViewController.feedSelected]
  split
  · have hshown : Current (((vc.removeFromSuperview (.table vc.followingTableView)
        ).removeFromSuperview (.table vc.recommendTableView)).removeFromSuperview .emptyView
        |>.addSubview vc.collectionView) :=
      (hcleared.removeFromSuperview .emptyView).addSubview fun _ h => by cases h
    exact ⟨hshown.shown, hshown.recommend, hshown.following, hshown.exclusive, hshown.past⟩
  · exact (hcleared.removeFromSuperview _).addSubview fun _ h => by cases h

theorem Current.valueDidChange (h : Current vc) (segmentIndex : Nat) :
    Current (vc.valueDidChange segmentIndex) := by
  simp only [FollowingViewController.valueDidChange]
  split
  · exact h.recommendSelected
  · split
    · exact h.followingSelected
    · exact h.feedSelected

theorem Current.setSelectedSegmentioIndex (h : Current vc) {index : Nat}
    (hselect : vc.setSelectedSegmentioIndex index = some vc') : Current vc' := by
  simp only [FollowingViewController.setSelectedSegmentioIndex, Option.map_eq_some_iff] at hselect
  obtain ⟨segmentio, _, rfl⟩ := hselect
  split
  · exact h
  · apply Current.valueDidChange
    exact h.frame rfl rfl rfl fun _ hmem => hmem

theorem Current.didSelectItemAt (h : Current vc) {index : Nat}
    (hselect : vc.didSelectItemAt index = some vc') : Current vc' :=
  h.setSelectedSegmentioIndex (setSelectedSegmentioIndex_of_didSelectItemAt hselect)

/-- A new list reaches the recommendation table at once. -/
theorem Current.setRecommend (h : Current vc) (result : List FollowingData) :
    Current (vc.setRecommend result) := by
  refine h.update vc.recommendTableView (Or.inl rfl) rfl ?_ ?_ ?_ ?_ ?_
  · exact fun other hne => FollowingViewController.reloadData_tables_of_ne _ hne
  · exact fun other hmem => Or.inl hmem
  · exact inStep_reload_recommend _
  · intro hmem
    exact (h.following hmem).congr (congrArg Table.cells
      (FollowingViewController.reloadData_tables_of_ne _ (recommend_ne_following vc).symm)) rfl
  · exact h.exclusive

theorem toggleRow_frame (h : vc.toggleRow row = some vc') :
    vc' = { vc with
      followingArray := vc'.followingArray, recommendArray := vc'.recommendArray } := by
  simp only [FollowingViewController.toggleRow, Option.bind_eq_some_iff] at h
  obtain ⟨data, _, h⟩ := h
  split at h
  · obtain ⟨rest, _, rfl⟩ := Option.map_eq_some_iff.mp h
    rfl
  · obtain rfl := Option.some.inj h
    rfl

/-- A press on the recommendation table changes the following array, but then the
following table is not on screen. -/
theorem Current.followingButtonPressed (h : Current vc)
    (hshown : .table vc.recommendTableView ∈ vc.contentView)
    (hpress : vc.followingButtonPressed row = some vc') : Current vc' := by
  obtain ⟨next, hnext, rfl⟩ := Option.map_eq_some_iff.mp hpress
  rw [toggleRow_frame hnext]
  have hoff := h.exclusive hshown
  refine h.update vc.recommendTableView (Or.inl rfl) rfl ?_ ?_ ?_ ?_ ?_
  · exact fun other hne => FollowingViewController.reloadData_tables_of_ne _ hne
  · exact fun other hmem => Or.inl hmem
  · exact inStep_reload_recommend _
  · exact fun hmem => absurd hmem hoff
  · exact h.exclusive

/-- A press on the following table reloads it, or takes it off screen. -/
theorem Current.unFollowingButtonPressed (h : Current vc)
    (hshown : .table vc.followingTableView ∈ vc.contentView)
    (hpress : vc.unFollowingButtonPressed row = some vc') : Current vc' := by
  have hoff : .table vc.recommendTableView ∉ vc.contentView :=
    fun hmem => h.exclusive hmem hshown
  have hreloaded : Current ({ vc with followingArray := vc.followingArray.eraseIdx row }.reloadData
      vc.followingTableView) := by
    refine h.update vc.followingTableView (Or.inr rfl) rfl ?_ ?_ ?_ ?_ ?_
    · exact fun other hne => FollowingViewController.reloadData_tables_of_ne _ hne
    · exact fun other hmem => Or.inl hmem
    · exact h.recommend.congr (congrArg Table.cells
        (FollowingViewController.reloadData_tables_of_ne _ (recommend_ne_following vc))) rfl
    · exact fun _ => inStep_reload_following (recommend_ne_following vc).symm
    · exact h.exclusive
  obtain ⟨_, rfl⟩ := unFollowingButtonPressed_eq_some_iff.mp hpress
  simp only [FollowingViewController.followingRemoved]
  split
  · exact (hreloaded.removeFromSuperview _).addSubview fun _ h => by cases h
  · exact hreloaded

/-- The tables of an appearance are new. -/
theorem ne_fresh_of_past (h : table.appearance ≤ vc.appearance) :
    table ≠ vc.viewDidAppear.recommendTableView ∧ table ≠ vc.viewDidAppear.followingTableView := by
  have hfresh : vc.viewDidAppear.appearance = vc.appearance + 1 := rfl
  constructor
  · rintro rfl
    simp only [FollowingViewController.recommendTableView, TableView.appearance] at h
    omega
  · rintro rfl
    simp only [FollowingViewController.followingTableView, TableView.appearance] at h
    omega

theorem viewDidAppear_tables_of_past (h : table.appearance ≤ vc.appearance) :
    vc.viewDidAppear.tables table = vc.tables table := by
  obtain ⟨hrecommend, hfollowing⟩ := ne_fresh_of_past h
  exact (Function.update_of_ne hfollowing _ _).trans (Function.update_of_ne hrecommend _ _)

/-- With no rows on screen, the fresh tables are the only ones that can show any. -/
theorem Current.viewDidAppear (h : Current vc)
    (hnone : ∀ view ∈ vc.contentView, showsRows vc view = false) :
    Current vc.viewDidAppear := by
  constructor
  · intro table row cell hmem hcell
    rw [FollowingViewController.cell_congr (congrArg Table.cells
      (viewDidAppear_tables_of_past (h.past table hmem)))] at hcell
    have hshows := showsRows_of_cell hcell
    rw [hnone _ hmem] at hshows
    cases hshows
  · apply inStep_of_no_cells
    simp [FollowingViewController.viewDidAppear, FollowingViewController.setUp,
      FollowingViewController.recommendTableView]
  · intro _
    apply inStep_of_no_cells
    simp [FollowingViewController.viewDidAppear, FollowingViewController.setUp,
      FollowingViewController.followingTableView]
  · intro hmem
    have hpast := h.past _ hmem
    simp only [FollowingViewController.recommendTableView, TableView.appearance,
      FollowingViewController.viewDidAppear, FollowingViewController.setUp] at hpast
    omega
  · intro table hmem
    exact Nat.le_succ_of_le (h.past table hmem)

theorem current_step (h : Current vc) (hcondition : NoTableLeftBehind vc e)
    (hstep : touches.step vc e = some vc') : Current vc' := by
  cases e with
  | viewDidAppear =>
      obtain rfl : vc.viewDidAppear = vc' := Option.some.inj hstep
      exact h.viewDidAppear hcondition
  | didSelectItemAt index => exact h.didSelectItemAt hstep
  | recommendButtonPressed => exact h.setSelectedSegmentioIndex hstep
  | setRecommend result =>
      obtain rfl : vc.setRecommend result = vc' := Option.some.inj hstep
      exact h.setRecommend result
  | press table row =>
      simp only [touches, touchStep] at hstep
      split at hstep
      · rename_i hmem
        obtain ⟨cell, hcell, hpress⟩ := Option.bind_eq_some_iff.mp hstep
        cases h.shown table row cell hmem hcell with
        | inl hrecommend =>
            subst hrecommend
            rw [Cell.press, (h.recommend row cell hcell).1] at hpress
            exact h.followingButtonPressed hmem hpress
        | inr hfollowing =>
            subst hfollowing
            rw [Cell.press, (h.following hmem row cell hcell).1] at hpress
            exact h.unFollowingButtonPressed hmem hpress
      · cases hstep

theorem current_initial : Current {} := by
  have hnone : ∀ table, View.table table ∉ ({} : FollowingViewController).contentView := by
    simp
  exact ⟨fun table _ _ hmem => absurd hmem (hnone table), inStep_of_no_cells rfl,
    fun hmem => absurd hmem (hnone _), fun hmem => absurd hmem (hnone _),
    fun table hmem => absurd hmem (hnone table)⟩

/-! ## A table left behind -/

/-- No handler reloads a table left behind, so pressing one of its rows again and again
leaves its tag out of bounds. -/
theorem exists_miss_following (hmem : .table table ∈ vc.contentView)
    (hleft : table ≠ vc.followingTableView) (hcell : vc.cell table row = some cell)
    (haction : cell.action = .unFollowingButtonPressed) :
    ∃ k t, touches.run vc (List.replicate k (.press table row)) = some t ∧ ¬ PressesHit t := by
  induction hn : vc.followingArray.length - cell.tag generalizing vc with
  | zero =>
      refine ⟨0, vc, rfl, fun hhit => ?_⟩
      obtain ⟨entry, hentry, _⟩ := hhit table row cell hmem hcell
      rw [haction] at hentry
      have hbound := (List.getElem?_eq_some_iff.mp hentry).1
      simp only [FollowingViewController.indexed] at hbound
      omega
  | succ n ih =>
      have hbound : cell.tag < vc.followingArray.length := by omega
      have hpress : ∃ next : FollowingViewController,
          vc.unFollowingButtonPressed cell.tag = some next ∧
            next.followingArray = vc.followingArray.eraseIdx cell.tag ∧
              next.appearance = vc.appearance ∧ next.tables table = vc.tables table ∧
                .table table ∈ next.contentView := by
        refine ⟨_, if_pos hbound, ?_⟩
        have htable := FollowingViewController.reloadData_tables_of_ne
          { vc with followingArray := vc.followingArray.eraseIdx cell.tag } hleft
        simp only [FollowingViewController.followingRemoved]
        split
        · exact ⟨rfl, rfl, htable, mem_addSubview.mpr (Or.inl (mem_removeFromSuperview.mpr
            ⟨hmem, fun hsame => hleft (View.table.inj hsame)⟩))⟩
        · exact ⟨rfl, rfl, htable, hmem⟩
      obtain ⟨next, hnext, harray, happearance, htable, hmem'⟩ := hpress
      have hcell' : next.cell table row = some cell := by
        rw [FollowingViewController.cell_congr (congrArg Table.cells htable), hcell]
      have hlength : next.followingArray.length - cell.tag = n := by
        rw [harray, List.length_eraseIdx_of_lt hbound]
        omega
      have hleft' : table ≠ next.followingTableView := by
        rw [FollowingViewController.followingTableView, happearance]
        exact hleft
      obtain ⟨k, t, hrun, hmiss⟩ := ih hmem' hleft' hcell' hlength
      have hstep : touches.step vc (.press table row) = some next := by
        simp only [touches, touchStep, if_pos hmem, hcell, Option.bind_some, Cell.press, haction]
        exact hnext
      exact ⟨k + 1, t, Machine.run_cons_iff.mpr ⟨next, hstep, hrun⟩, hmiss⟩

/-- The rows of a recommendation table left behind outlive the array they index. -/
theorem exists_miss_recommend (hmem : .table table ∈ vc.contentView)
    (hleft : table ≠ vc.recommendTableView) (hcell : vc.cell table row = some cell)
    (haction : cell.action = .followingButtonPressed) :
    ¬ PressesHit (vc.setRecommend []) := by
  intro hhit
  have htable : (vc.setRecommend []).tables table = vc.tables table :=
    FollowingViewController.reloadData_tables_of_ne _ hleft
  have hcell' : (vc.setRecommend []).cell table row = some cell := by
    rw [FollowingViewController.cell_congr (congrArg Table.cells htable), hcell]
  obtain ⟨entry, hentry, _⟩ := hhit table row cell hmem hcell'
  rw [haction] at hentry
  cases hentry

/-- If a table with rows is left behind, some presses and lists without a further
appearance lead to a press that misses. -/
theorem exists_miss (h : Current vc) (hleft : ¬ NoTableLeftBehind vc .viewDidAppear) :
    ∃ fs t, (∀ f ∈ fs, f ≠ .viewDidAppear) ∧ touches.run vc.viewDidAppear fs = some t ∧
      ¬ PressesHit t := by
  obtain ⟨view, hmem, hshows⟩ : ∃ view ∈ vc.contentView, showsRows vc view = true := by
    by_contra hnone
    apply hleft
    intro view hmem
    by_contra hshows
    exact hnone ⟨view, hmem, by simpa using hshows⟩
  cases view with
  | emptyView => cases hshows
  | collectionView appearance => cases hshows
  | table table =>
      obtain ⟨loaded, hloaded, hsome⟩ := List.any_eq_true.mp hshows
      obtain ⟨cell, rfl⟩ := Option.isSome_iff_exists.mp hsome
      obtain ⟨row, hrow⟩ := List.mem_iff_getElem?.mp hloaded
      have hcell : vc.cell table row = some cell := Option.join_eq_some_iff.mpr hrow
      have hpast := h.past table hmem
      obtain ⟨hrecommend', hfollowing'⟩ := ne_fresh_of_past hpast
      have hmem' : .table table ∈ vc.viewDidAppear.contentView := hmem
      have hcell' : vc.viewDidAppear.cell table row = some cell := by
        rw [FollowingViewController.cell_congr (congrArg Table.cells
          (viewDidAppear_tables_of_past hpast)), hcell]
      cases h.shown table row cell hmem hcell with
      | inl hrecommend =>
          refine ⟨[.setRecommend []], _, by simp, rfl, ?_⟩
          exact exists_miss_recommend hmem' hrecommend' hcell'
            (h.recommend row cell (hrecommend ▸ hcell)).1
      | inr hfollowing =>
          obtain ⟨k, t, hrun, hmiss⟩ := exists_miss_following hmem' hfollowing' hcell'
            (h.following (hfollowing ▸ hmem) row cell (hfollowing ▸ hcell)).1
          refine ⟨_, t, fun f hf => ?_, hrun, hmiss⟩
          rw [List.eq_of_mem_replicate hf]
          simp

theorem current_run (hmeets : touches.Meets NoTableLeftBehind {} es)
    (h : touches.run {} es = some vc) : Current vc :=
  Machine.invariant_of_meets current_initial
    (fun _ _ _ hcurrent hcondition hstep => current_step hcurrent hcondition hstep) hmeets h

/-- Every press along a run, and after it until the screen appears again, acts on the
shop shown on its row, exactly if the screen never appears again while a table in
`contentView` shows rows. -/
theorem presses_hit_iff (h : touches.run {} es = some vc) :
    (∀ pre fs t, pre <+: es → (∀ f ∈ fs, f ≠ .viewDidAppear) →
      touches.run {} (pre ++ fs) = some t → PressesHit t) ↔
      touches.Meets NoTableLeftBehind {} es := by
  constructor
  · refine Machine.run_induction (m := touches) (P := fun es _ =>
      (∀ pre fs t, pre <+: es → (∀ f ∈ fs, f ≠ .viewDidAppear) →
        touches.run {} (pre ++ fs) = some t → PressesHit t) →
        touches.Meets NoTableLeftBehind {} es) (fun _ => Machine.meets_nil) ?_ es vc h
    intro es t e u ht ih hstep hhits
    have hbefore := ih fun pre fs t hpre => hhits pre fs t (hpre.trans (List.prefix_append es [e]))
    refine Machine.meets_concat.mpr ⟨hbefore, fun t' ht' => ?_⟩
    obtain rfl : t = t' := Option.some.inj (ht.symm.trans ht')
    cases e with
    | viewDidAppear =>
        by_contra hleft
        obtain ⟨fs, v, hfs, hrun, hmiss⟩ := exists_miss (current_run hbefore ht) hleft
        obtain rfl : t.viewDidAppear = u := Option.some.inj hstep
        exact hmiss (hhits _ fs v List.prefix_rfl hfs
          (Machine.run_append (Machine.run_concat ht hstep) hrun))
    | _ => trivial
  · intro hmeets pre fs t hpre hfs hrun
    obtain ⟨u, hu, hrest⟩ := Machine.run_append_iff.mp hrun
    have hcurrent : Current u := current_run (hmeets.initial hpre) hu
    refine (Machine.invariant_of_mem (A := (· ≠ .viewDidAppear)) hcurrent ?_ hfs hrest).pressesHit
    intro v e w hcurrent he hstep
    refine current_step hcurrent ?_ hstep
    cases e with
    | viewDidAppear => exact absurd rfl he
    | _ => trivial

/-- Two shops are followed and shown on the following table. -/
def followedTwo : List Touch :=
  [.viewDidAppear, .didSelectItemAt 2, .setRecommend [shop 1, shop 2],
    .press (.recommend 1) 0, .press (.recommend 1) 1, .didSelectItemAt 1]

/-- The screen appears again while the feed is selected. -/
theorem presses_hit_on_feed :
    ∃ vc, touches.run {} (followedTwo ++ [.didSelectItemAt 0, .viewDidAppear,
      .didSelectItemAt 2, .press (.recommend 2) 1]) = some vc ∧ PressesHit vc := by
  have hrun : ∃ vc, touches.run {} (followedTwo ++ [.didSelectItemAt 0, .viewDidAppear,
      .didSelectItemAt 2, .press (.recommend 2) 1]) = some vc := ⟨_, rfl⟩
  obtain ⟨vc, hrun⟩ := hrun
  exact ⟨vc, hrun, (presses_hit_iff hrun).mpr (by decide) _ [] vc List.prefix_rfl (by simp)
    (by simpa using hrun)⟩

/-- The screen appears again over the following table. Its first row removes the first
shop, and what its second row would remove is gone. -/
theorem reappearance_misses :
    ¬ ∀ es vc, touches.run {} es = some vc → PressesHit vc := by
  intro halways
  have hrun : ∃ vc cell, touches.run {} (followedTwo ++ [.viewDidAppear,
      .press (.following 1) 0]) = some vc ∧ .table (.following 1) ∈ vc.contentView ∧
        vc.cell (.following 1) 1 = some cell ∧ (vc.indexed cell.action)[cell.tag]? = none :=
    ⟨_, _, rfl, by decide, rfl, rfl⟩
  obtain ⟨vc, cell, hrun, hmem, hcell, hnone⟩ := hrun
  obtain ⟨entry, hentry, _⟩ := halways _ vc hrun _ 1 cell hmem hcell
  rw [hnone] at hentry
  cases hentry

end BunjangClone.Following
