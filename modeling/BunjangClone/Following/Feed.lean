import BunjangClone.Following.Content

/-!
# The feed

The feed's collection view is told to reload when "내피드" is selected, and again when the button
of its header is pressed. It then asks for the number of its items, and for a cell each time one
is displayed, at once or when it is scrolled. Like the tables, each appearance has one of its
own, and the handlers take only the current one away: a collection view that is in `contentView`
when the screen appears again stays there, with the number of items it was told.

Presses go to the view on top. So the followed shops do not change under the current collection
view. One left behind shows posts of the feed as it was filled last, and runs past its end where
it was told more items.
-/

namespace BunjangClone.Following

open Reactive FollowingViewController

/-- A cell of the feed, once its like button is removed and `setImage(with:)` has returned. -/
structure FeedCell where
  imageView : String
  priceLabel : String
  timeLabel : String
  productNameLabel : String
deriving DecidableEq, Repr

def feedCell (post : PostData) : FeedCell where
  imageView := post.postImgURL
  priceLabel := toString post.price ++ "원"
  timeLabel := ""
  productNameLabel := ""

namespace FollowingViewController

def numberOfItemsInSection (vc : FollowingViewController) : Nat := vc.postArray.length

def cellForItemAt (vc : FollowingViewController) (row : Nat) : Option FeedCell :=
  vc.postArray[row]?.map feedCell

/-- The selection changes, and its handler fills the feed. -/
def fillsFeed (vc : FollowingViewController) : Touch → Bool
  | .didSelectItemAt index => vc.selectionFills index
  | _ => false

/-- A press goes to the view on top. -/
def receives (vc : FollowingViewController) : Touch → Bool
  | .press table _ => vc.contentView.getLast? = some (.table table)
  | _ => true

/-- The posts of the followed shops. -/
def followedPosts (vc : FollowingViewController) : List PostData :=
  vc.followingArray.flatMap FollowingData.postData

end FollowingViewController

/-- A collection view with a data source: the number of items it was told, and the cells of the
rows it has displayed since. -/
structure FeedView where
  items : Nat
  cells : Nat → Option FeedCell := fun _ => none

/-- The screen with the collection views of its appearances, `none` before one has a data
source. -/
structure FeedScreen where
  vc : FollowingViewController := {}
  views : Nat → Option FeedView := fun _ => none
  countOfCollectionView : Nat := 2

inductive FeedTouch where
  | touch (e : Touch)
  | headerButtonPressed
  | display (appearance row : Nat)
deriving DecidableEq, Repr

namespace FeedScreen

/-- The current collection view asks for the number of its items. -/
def reloadData (screen : FeedScreen) : FeedScreen :=
  { screen with
    views := Function.update screen.views screen.vc.appearance
      (some { items := screen.vc.numberOfItemsInSection }) }

def headerButtonPressed (screen : FeedScreen) : FeedScreen :=
  let counted := { screen with
    countOfCollectionView := if screen.countOfCollectionView = 2 then 3 else 2 }
  if (screen.views screen.vc.appearance).isSome then counted.reloadData else counted

/-- The state after a touch has led to `vc`. -/
def moveTo (screen : FeedScreen) (e : Touch) (vc : FollowingViewController) : FeedScreen :=
  if screen.vc.fillsFeed e then { screen with vc := vc }.reloadData else { screen with vc := vc }

/-- A row is scrolled into view, and the data source is asked for its cell. -/
def display (screen : FeedScreen) (appearance row : Nat) : Option FeedScreen :=
  (screen.views appearance).bind fun view =>
    if .collectionView appearance ∈ screen.vc.contentView ∧ row < view.items then
      (screen.vc.cellForItemAt row).map fun cell =>
        { screen with
          views := Function.update screen.views appearance
            (some { view with cells := Function.update view.cells row (some cell) }) }
    else none

/-- The cell a collection view shows for a row. -/
def shown (screen : FeedScreen) (appearance row : Nat) : Option FeedCell :=
  (screen.views appearance).bind fun view => view.cells row

end FeedScreen

def feedStep (screen : FeedScreen) : FeedTouch → Option FeedScreen
  | .touch e =>
      if screen.vc.receives e then (touchStep screen.vc e).map (screen.moveTo e) else none
  | .headerButtonPressed =>
      match screen.vc.contentView.getLast? with
      | some (.collectionView appearance) =>
          if (screen.views appearance).isSome then some screen.headerButtonPressed else none
      | _ => none
  | .display appearance row => screen.display appearance row

def feeds : Machine FeedScreen FeedTouch := ⟨feedStep⟩

/-- The posts a touch fills the feed with, if it does. -/
def fillsWith (screen : FeedScreen) : FeedTouch → List (List PostData)
  | .touch e => if screen.vc.fillsFeed e then [screen.vc.followedPosts] else []
  | _ => []

/-- The posts the feed was filled with last. -/
def filledWith (es : List FeedTouch) : List PostData :=
  (feeds.collect fillsWith {} es).getLast?.getD []

/-- The collection view has an item for each of the posts, and shows their cells. -/
structure Presents (screen : FeedScreen) (appearance : Nat) (posts : List PostData) : Prop where
  items : (screen.views appearance).map FeedView.items = some posts.length
  shown : ∀ row cell, screen.shown appearance row = some cell → posts[row]?.map feedCell = some cell

/-- The cell a collection view gets for a row, if it has one to display without a trap. -/
def displayed (screen : FeedScreen) (appearance row : Nat) : Option FeedCell :=
  (feeds.step screen (.display appearance row)).bind fun screen => screen.shown appearance row

/-- The collection view of the `a`-th appearance was left behind with the items of the posts of
the shops followed when the screen appeared again. -/
def LeftWith (es : List FeedTouch) (a : Nat) (items : Nat) : Prop :=
  ∃ before after screen, es = before ++ .touch .viewDidAppear :: after ∧
    before.count (.touch .viewDidAppear) = a ∧ feeds.run {} before = some screen ∧
      items = screen.vc.followedPosts.length

/-- What the collection views in `contentView` show. The current one presents the posts of the
shops followed now, and gets the cell of each. One left behind keeps its number of items and gets
the cells of the feed filled last, so it traps from its end on. -/
structure FeedShows (es : List FeedTouch) (screen : FeedScreen) : Prop where
  current : screen.vc.collectionView ∈ screen.vc.contentView →
    Presents screen screen.vc.appearance screen.vc.followedPosts ∧
      ∀ row, displayed screen screen.vc.appearance row = screen.vc.followedPosts[row]?.map feedCell
  left : ∀ a, .collectionView a ∈ screen.vc.contentView → a ≠ screen.vc.appearance →
    ∃ items, LeftWith es a items ∧ (screen.views a).map FeedView.items = some items ∧
      ∀ row < items, displayed screen a row = (filledWith es)[row]?.map feedCell

variable {vc vc' : FollowingViewController} {screen screen' : FeedScreen} {e : Touch}
variable {es : List FeedTouch}

/-! ## What a touch does to the collection views -/

/-- No collection view is added, and as long as the current one is there, neither the views nor
the followed shops change. -/
structure KeepsFeed (vc vc' : FollowingViewController) : Prop where
  appearance : vc'.appearance = vc.appearance
  views : ∀ a, .collectionView a ∈ vc'.contentView → .collectionView a ∈ vc.contentView
  shown : vc.collectionView ∈ vc'.contentView → vc'.contentView = vc.contentView ∧
    vc'.followingArray = vc.followingArray

/-- The current collection view is put on top, for the posts of the followed shops. -/
structure FillsFeed (vc vc' : FollowingViewController) : Prop where
  appearance : vc'.appearance = vc.appearance
  views : ∀ a, .collectionView a ∈ vc'.contentView →
    .collectionView a ∈ vc.contentView ∨ a = vc.appearance
  top : vc'.contentView.getLast? = some vc.collectionView
  following : vc'.followingArray = vc.followingArray

theorem KeepsFeed.refl (vc : FollowingViewController) : KeepsFeed vc vc :=
  ⟨rfl, fun _ hmem => hmem, fun _ => ⟨rfl, rfl⟩⟩

/-- Whatever takes the current collection view away and adds none. -/
theorem keepsFeed_of_removed (happearance : vc'.appearance = vc.appearance)
    (hviews : ∀ a, .collectionView a ∈ vc'.contentView → .collectionView a ∈ vc.contentView)
    (hremoved : vc.collectionView ∉ vc'.contentView) : KeepsFeed vc vc' :=
  ⟨happearance, hviews, fun hmem => absurd hmem hremoved⟩

theorem keepsFeed_recommendSelected (vc : FollowingViewController) :
    KeepsFeed vc vc.recommendSelected := by
  apply keepsFeed_of_removed
  · rw [recommendSelected, connect_appearance]
    rfl
  · intro a hmem
    simp only [recommendSelected, connect_contentView, mem_addSubview, mem_removeFromSuperview,
      reduceCtorEq, or_false] at hmem
    exact hmem.1.1
  · simp [recommendSelected, FollowingViewController.collectionView]

theorem keepsFeed_followingSelected (vc : FollowingViewController) :
    KeepsFeed vc vc.followingSelected := by
  rw [followingSelected]
  split
  · apply keepsFeed_of_removed
    · rfl
    · intro a hmem
      simp only [mem_removeFromSuperview] at hmem
      exact hmem.1.1.1
    · simp [FollowingViewController.collectionView]
  · apply keepsFeed_of_removed
    · show (FollowingViewController.connect _ _ _).appearance = _
      rw [connect_appearance]
      rfl
    · intro a hmem
      simp only [reloadData_contentView, connect_contentView, mem_addSubview,
        mem_removeFromSuperview, reduceCtorEq, or_false] at hmem
      exact hmem.1.1.1
    · simp [FollowingViewController.collectionView]

theorem keepsFeed_feedSelected (h : ¬ 0 < vc.followingArray.length) :
    KeepsFeed vc vc.feedSelected := by
  rw [feedSelected]
  rw [if_neg h]
  apply keepsFeed_of_removed
  · rfl
  · intro a hmem
    simp only [mem_addSubview, mem_removeFromSuperview, reduceCtorEq, or_false] at hmem
    exact hmem.1.1.1
  · simp [FollowingViewController.collectionView]

theorem fillsFeed_feedSelected (h : 0 < vc.followingArray.length) :
    FillsFeed vc vc.feedSelected := by
  rw [feedSelected]
  rw [if_pos h]
  refine ⟨rfl, fun a hmem => ?_, getLast?_addSubview _ _, rfl⟩
  simp only [mem_addSubview, mem_removeFromSuperview] at hmem
  obtain hmem | hmem := hmem
  · exact .inl hmem.1.1.1
  · exact .inr (View.collectionView.inj hmem)

theorem branchAt_eq_feed {index : Nat} : branchAt index = .feed ↔ index ≠ 2 ∧ index ≠ 1 := by
  simp only [branchAt]
  split
  · simp_all
  · split <;> simp_all

theorem selectionFills_iff {segmentio : Segmentio} (h : vc.segmentioView = some segmentio)
    (index : Nat) : vc.selectionFills index ↔ index ≠ segmentio.selectedSegmentioIndex ∧
      branchAt index = .feed ∧ 0 < vc.followingArray.length := by
  simp [selectionFills, handlerFills, h, branchAt_eq_feed, and_assoc]

theorem feed_setSelectedSegmentioIndex {index : Nat}
    (h : vc.setSelectedSegmentioIndex index = some vc') :
    (vc.fillsFeed (.didSelectItemAt index) = true ∧ FillsFeed vc vc') ∨
      (vc.fillsFeed (.didSelectItemAt index) = false ∧ KeepsFeed vc vc') := by
  obtain ⟨segmentio, hsegmentio, rfl⟩ := Option.map_eq_some_iff.mp h
  by_cases hsame : index = segmentio.selectedSegmentioIndex
  · rw [if_pos hsame]
    refine .inr ⟨?_, .refl vc⟩
    simp [fillsFeed, selectionFills_iff hsegmentio, hsame]
  · rw [if_neg hsame, valueDidChange_eq_run]
    -- The control has changed, which no handler and no collection view depends on.
    let selected : FollowingViewController := { vc with
      segmentioView := some { segmentio with selectedSegmentioIndex := index } }
    have hfills : vc.fillsFeed (.didSelectItemAt index) =
        decide (branchAt index = .feed ∧ 0 < vc.followingArray.length) := by
      simp [fillsFeed, selectionFills_iff hsegmentio, hsame]
    rw [hfills]
    cases hbranch : branchAt index with
    | recommend =>
        have hkeeps := keepsFeed_recommendSelected selected
        exact .inr ⟨by simp, hkeeps.appearance, hkeeps.views, hkeeps.shown⟩
    | following =>
        have hkeeps := keepsFeed_followingSelected selected
        exact .inr ⟨by simp, hkeeps.appearance, hkeeps.views, hkeeps.shown⟩
    | feed =>
        by_cases hsome : 0 < vc.followingArray.length
        · have hshown : FillsFeed selected selected.feedSelected := fillsFeed_feedSelected hsome
          exact .inl ⟨by simpa using hsome, hshown.appearance, hshown.views, hshown.top,
            hshown.following⟩
        · have hkeeps : KeepsFeed selected selected.feedSelected := keepsFeed_feedSelected hsome
          exact .inr ⟨by simpa using hsome, hkeeps.appearance, hkeeps.views, hkeeps.shown⟩

/-- A press on a table changes the followed shops, but then the collection view is not there. -/
theorem keepsFeed_press {cell : Cell} (hhidden : vc.collectionView ∉ vc.contentView)
    (h : controller.step vc cell.press = some vc') : KeepsFeed vc vc' := by
  have hviews : vc'.appearance = vc.appearance ∧
      ∀ a, .collectionView a ∈ vc'.contentView → .collectionView a ∈ vc.contentView := by
    cases haction : cell.action with
    | followingButtonPressed =>
        rw [Cell.press, haction] at h
        obtain ⟨next, hnext, rfl⟩ := Option.map_eq_some_iff.mp h
        rw [toggleRow_frame hnext]
        exact ⟨rfl, fun _ hmem => hmem⟩
    | unFollowingButtonPressed =>
        rw [Cell.press, haction] at h
        obtain ⟨_, rfl⟩ := unFollowingButtonPressed_eq_some_iff.mp h
        rw [followingRemoved]
        split
        · refine ⟨rfl, fun a hmem => ?_⟩
          simp only [mem_addSubview, mem_removeFromSuperview, reloadData_contentView,
            reduceCtorEq, or_false] at hmem
          exact hmem.1
        · exact ⟨rfl, fun _ hmem => hmem⟩
  exact keepsFeed_of_removed hviews.1 hviews.2 fun hmem => hhidden (hviews.2 _ hmem)

/-- The current collection view lies over all others. -/
def FeedOnTop (vc : FollowingViewController) : Prop :=
  vc.collectionView ∈ vc.contentView → vc.contentView.getLast? = some vc.collectionView

theorem feed_touch (htop : FeedOnTop vc) (he : e ≠ .viewDidAppear)
    (hreceives : vc.receives e = true) (hstep : touchStep vc e = some vc') :
    (vc.fillsFeed e = true ∧ FillsFeed vc vc') ∨
      (vc.fillsFeed e = false ∧ KeepsFeed vc vc') := by
  cases e with
  | viewDidAppear => exact absurd rfl he
  | didSelectItemAt index =>
      have hselect := setSelectedSegmentioIndex_of_didSelectItemAt hstep
      exact feed_setSelectedSegmentioIndex hselect
  | recommendButtonPressed =>
      have hselect : vc.setSelectedSegmentioIndex 2 = some vc' := hstep
      obtain ⟨hfills, _⟩ | ⟨_, hkeeps⟩ := feed_setSelectedSegmentioIndex hselect
      · simp [fillsFeed, selectionFills, handlerFills] at hfills
      · exact .inr ⟨rfl, hkeeps⟩
  | setRecommend result =>
      obtain rfl : vc.setRecommend result = vc' := Option.some.inj hstep
      exact .inr ⟨rfl, rfl, fun _ hmem => hmem, fun _ => ⟨rfl, rfl⟩⟩
  | press table row =>
      have hontop : vc.contentView.getLast? = some (.table table) := by
        simpa [receives] using hreceives
      have hhidden : vc.collectionView ∉ vc.contentView := by
        intro hmem
        have hboth := hontop.symm.trans (htop hmem)
        cases hboth
      simp only [touchStep] at hstep
      split at hstep
      · obtain ⟨cell, _, hpress⟩ := Option.bind_eq_some_iff.mp hstep
        exact .inr ⟨rfl, keepsFeed_press hhidden hpress⟩
      · cases hstep


/-- What a touch does to the posts. -/
theorem posts_touch (hstep : touchStep vc e = some vc') :
    vc'.postArray = if vc.fillsFeed e then vc.followedPosts else vc.postArray := by
  cases e with
  | didSelectItemAt index =>
      have hstep : controller.step vc (.didSelectItemAt index) = some vc' := hstep
      rw [posts_step hstep]
      by_cases hfills : vc.selectionFills index
      · simp [feedShops, fillsFeed, hfills, followedPosts]
      · simp [feedShops, fillsFeed, hfills]
  | viewDidAppear =>
      obtain rfl : vc.viewDidAppear = vc' := Option.some.inj hstep
      rfl
  | recommendButtonPressed =>
      have hstep : controller.step vc .recommendButtonPressed = some vc' := hstep
      exact posts_step hstep
  | setRecommend result =>
      obtain rfl : vc.setRecommend result = vc' := Option.some.inj hstep
      rfl
  | press table row =>
      obtain ⟨_, hpress⟩ := Option.ite_none_right_eq_some.mp hstep
      obtain ⟨cell, _, hpress⟩ := Option.bind_eq_some_iff.mp hpress
      rw [posts_step hpress, Cell.press]
      split <;> rfl

/-! ## Runs -/

/-- The invariant: what the feed was filled with, what the collection views were told, how many
appearances there were, and that no collection view is newer. -/
structure FeedKept (es : List FeedTouch) (screen : FeedScreen) : Prop where
  appearance : screen.vc.appearance = es.count (.touch .viewDidAppear)
  older : ∀ a, .collectionView a ∈ screen.vc.contentView → a ≤ screen.vc.appearance
  top : FeedOnTop screen.vc
  posts : screen.vc.postArray = filledWith es
  current : screen.vc.collectionView ∈ screen.vc.contentView →
    Presents screen screen.vc.appearance screen.vc.followedPosts ∧
      screen.vc.postArray = screen.vc.followedPosts
  left : ∀ a, .collectionView a ∈ screen.vc.contentView → a ≠ screen.vc.appearance →
    ∃ items, LeftWith es a items ∧ (screen.views a).map FeedView.items = some items

theorem LeftWith.append {a items : Nat} (h : LeftWith es a items) (later : List FeedTouch) :
    LeftWith (es ++ later) a items := by
  obtain ⟨before, after, screen, rfl, hcount, hrun, hitems⟩ := h
  exact ⟨before, after ++ later, screen, by simp, hcount, hrun, hitems⟩

theorem filledWith_concat {e : FeedTouch} (h : feeds.run {} es = some screen) :
    filledWith (es ++ [e]) = (fillsWith screen e).getLast?.getD (filledWith es) := by
  rw [filledWith, Machine.collect_concat fillsWith h, List.getLast?_append]
  cases (fillsWith screen e).getLast? with
  | none => rfl
  | some posts => rfl

theorem count_of_ne {e : FeedTouch} (he : e ≠ .touch .viewDidAppear) :
    (es ++ [e]).count (.touch .viewDidAppear) = es.count (.touch .viewDidAppear) := by
  rw [List.count_append, List.count_singleton, if_neg (by simpa using he), Nat.add_zero]

/-- A collection view that is told to reload presents the posts. -/
theorem presents_reloadData (screen : FeedScreen) :
    Presents screen.reloadData screen.vc.appearance screen.vc.postArray := by
  constructor
  · simp [FeedScreen.reloadData, numberOfItemsInSection]
  · intro row cell hshown
    simp [FeedScreen.reloadData, FeedScreen.shown] at hshown

theorem views_reloadData {a : Nat} (h : a ≠ screen.vc.appearance) :
    screen.reloadData.views a = screen.views a :=
  Function.update_of_ne h _ _

/-- The screen appears again with new collection views, and leaves what it shows behind. -/
theorem FeedKept.viewDidAppear (h : FeedKept es screen) (hrun : feeds.run {} es = some screen) :
    FeedKept (es ++ [.touch .viewDidAppear]) { screen with vc := screen.vc.viewDidAppear } := by
  have hnew : screen.vc.viewDidAppear.collectionView ∉ screen.vc.contentView := by
    intro hmem
    have holder : screen.vc.appearance + 1 ≤ screen.vc.appearance := h.older _ hmem
    omega
  refine ⟨?_, ?_, fun hmem => absurd hmem hnew, ?_, fun hmem => absurd hmem hnew, ?_⟩
  · rw [List.count_append, ← h.appearance]
    rfl
  · intro a hmem
    exact Nat.le_succ_of_le (h.older a hmem)
  · rw [filledWith_concat hrun]
    exact h.posts
  · intro a hmem hne
    by_cases hcurrent : a = screen.vc.appearance
    · subst hcurrent
      exact ⟨_, ⟨es, [], screen, rfl, h.appearance.symm, hrun, rfl⟩, (h.current hmem).1.items⟩
    · obtain ⟨items, hleft, hitems⟩ := h.left a hmem hcurrent
      exact ⟨items, hleft.append _, hitems⟩

/-- The feed is filled. -/
theorem FeedKept.fill (h : FeedKept es screen) (hrun : feeds.run {} es = some screen)
    (he : e ≠ .viewDidAppear) (hfills : screen.vc.fillsFeed e = true)
    (hposts : vc'.postArray = screen.vc.followedPosts) (hfilled : FillsFeed screen.vc vc') :
    FeedKept (es ++ [.touch e]) { screen with vc := vc' }.reloadData := by
  have hcurrent : vc'.collectionView = screen.vc.collectionView :=
    congrArg View.collectionView hfilled.appearance
  have hfollowed : vc'.followedPosts = screen.vc.followedPosts := by
    rw [followedPosts, followedPosts, hfilled.following]
  refine ⟨?_, ?_, ?_, ?_, ?_, ?_⟩
  · rw [count_of_ne (by simpa using he), ← h.appearance]
    exact hfilled.appearance
  · intro a hmem
    show a ≤ vc'.appearance
    rw [hfilled.appearance]
    obtain hold | rfl := hfilled.views a hmem
    · exact h.older a hold
    · exact Nat.le_refl _
  · intro _
    show vc'.contentView.getLast? = some vc'.collectionView
    rw [hcurrent]
    exact hfilled.top
  · rw [filledWith_concat hrun, fillsWith, if_pos hfills]
    exact hposts
  · intro _
    refine ⟨?_, hposts.trans hfollowed.symm⟩
    have hpresents := presents_reloadData { screen with vc := vc' }
    rw [show ({ screen with vc := vc' } : FeedScreen).vc.postArray = vc'.followedPosts from
      hposts.trans hfollowed.symm] at hpresents
    exact hpresents
  · intro a hmem hne
    have hne : a ≠ vc'.appearance := hne
    rw [views_reloadData hne]
    rw [hfilled.appearance] at hne
    obtain ⟨items, hleft, hitems⟩ := h.left a ((hfilled.views a hmem).resolve_right hne) hne
    exact ⟨items, hleft.append _, hitems⟩

/-- The touch does not concern the feed. -/
theorem FeedKept.keep (h : FeedKept es screen) (hrun : feeds.run {} es = some screen)
    (he : e ≠ .viewDidAppear) (hfills : screen.vc.fillsFeed e = false)
    (hposts : vc'.postArray = screen.vc.postArray) (hkeeps : KeepsFeed screen.vc vc') :
    FeedKept (es ++ [.touch e]) { screen with vc := vc' } := by
  have hcurrent : vc'.collectionView = screen.vc.collectionView :=
    congrArg View.collectionView hkeeps.appearance
  refine ⟨?_, ?_, ?_, ?_, ?_, ?_⟩
  · rw [count_of_ne (by simpa using he), ← h.appearance]
    exact hkeeps.appearance
  · intro a hmem
    show a ≤ vc'.appearance
    rw [hkeeps.appearance]
    exact h.older a (hkeeps.views a hmem)
  · intro hmem
    show vc'.contentView.getLast? = some vc'.collectionView
    have hmem : vc'.collectionView ∈ vc'.contentView := hmem
    rw [hcurrent] at hmem ⊢
    rw [(hkeeps.shown hmem).1]
    exact h.top (hkeeps.views _ hmem)
  · rw [filledWith_concat hrun, fillsWith, if_neg (by simp [hfills])]
    exact hposts.trans h.posts
  · intro hmem
    have hmem : vc'.collectionView ∈ vc'.contentView := hmem
    rw [hcurrent] at hmem
    obtain ⟨hpresents, hsame⟩ := h.current (hkeeps.views _ hmem)
    have hfollowed : vc'.followedPosts = screen.vc.followedPosts := by
      rw [followedPosts, followedPosts, (hkeeps.shown hmem).2]
    constructor
    · show Presents _ vc'.appearance vc'.followedPosts
      rw [hkeeps.appearance, hfollowed]
      exact ⟨hpresents.items, hpresents.shown⟩
    · show vc'.postArray = vc'.followedPosts
      rw [hposts, hfollowed, hsame]
  · intro a hmem hne
    have hne : a ≠ vc'.appearance := hne
    rw [hkeeps.appearance] at hne
    obtain ⟨items, hleft, hitems⟩ := h.left a (hkeeps.views a hmem) hne
    exact ⟨items, hleft.append _, hitems⟩

/-- Only what the collection views show changes. -/
theorem FeedKept.frame {e : FeedTouch} (h : FeedKept es screen)
    (hrun : feeds.run {} es = some screen) (he : ∀ f, e ≠ .touch f) (hvc : screen'.vc = screen.vc)
    (hitems : ∀ a, a ≠ screen.vc.appearance →
      (screen'.views a).map FeedView.items = (screen.views a).map FeedView.items)
    (hcurrent : screen.vc.collectionView ∈ screen.vc.contentView →
      Presents screen' screen.vc.appearance screen.vc.followedPosts) :
    FeedKept (es ++ [e]) screen' := by
  have hfills : fillsWith screen e = [] := by
    cases e with
    | touch f => exact absurd rfl (he f)
    | headerButtonPressed => rfl
    | display appearance row => rfl
  refine ⟨?_, ?_, ?_, ?_, ?_, ?_⟩
  · rw [hvc, count_of_ne (he _), h.appearance]
  · rw [hvc]
    exact h.older
  · rw [hvc]
    exact h.top
  · rw [hvc, filledWith_concat hrun, hfills]
    exact h.posts
  · rw [hvc]
    exact fun hmem => ⟨hcurrent hmem, (h.current hmem).2⟩
  · rw [hvc]
    intro a hmem hne
    obtain ⟨items, hleft, htold⟩ := h.left a hmem hne
    exact ⟨items, hleft.append _, (hitems a hne).trans htold⟩

/-- The button of the header has the current collection view told again. -/
theorem FeedKept.headerButtonPressed (h : FeedKept es screen)
    (hrun : feeds.run {} es = some screen) :
    FeedKept (es ++ [.headerButtonPressed]) screen.headerButtonPressed := by
  rw [FeedScreen.headerButtonPressed]
  split
  · refine h.frame hrun (by simp) rfl (fun a hne => ?_) fun hmem => ?_
    · exact congrArg (Option.map FeedView.items) (Function.update_of_ne hne _ _)
    · rw [← (h.current hmem).2]
      exact presents_reloadData _
  · rename_i hnone
    refine h.frame hrun (by simp) rfl (fun _ _ => rfl) fun hmem => ?_
    have hsome : (screen.views screen.vc.appearance).isSome = true := by
      obtain ⟨view, hview, _⟩ := Option.map_eq_some_iff.mp (h.current hmem).1.items
      rw [hview]
      rfl
    exact absurd hsome hnone

/-- What displaying a row does. -/
theorem display_eq_some_iff {a row : Nat} : screen.display a row = some screen' ↔
    ∃ view cell, screen.views a = some view ∧ .collectionView a ∈ screen.vc.contentView ∧
      row < view.items ∧ screen.vc.cellForItemAt row = some cell ∧
        screen' = { screen with
          views := Function.update screen.views a
            (some { view with cells := Function.update view.cells row (some cell) }) } := by
  simp only [FeedScreen.display, Option.bind_eq_some_iff, Option.ite_none_right_eq_some,
    Option.map_eq_some_iff]
  constructor
  · rintro ⟨view, hview, ⟨hmem, hrow⟩, cell, hcell, rfl⟩
    exact ⟨view, cell, hview, hmem, hrow, hcell, rfl⟩
  · rintro ⟨view, cell, hview, hmem, hrow, hcell, rfl⟩
    exact ⟨view, hview, ⟨hmem, hrow⟩, cell, hcell, rfl⟩

/-- In a collection view that is in `contentView`, a row below the number of items gets the cell
of the post at its place. -/
theorem displayed_eq {a row items : Nat} (hmem : .collectionView a ∈ screen.vc.contentView)
    (hitems : (screen.views a).map FeedView.items = some items) (hrow : row < items) :
    displayed screen a row = screen.vc.postArray[row]?.map feedCell := by
  obtain ⟨view, hview, rfl⟩ := Option.map_eq_some_iff.mp hitems
  have hstep : feeds.step screen (.display a row) = screen.display a row := rfl
  rw [displayed, hstep]
  cases hcell : screen.vc.cellForItemAt row with
  | none =>
      have htrapped : screen.display a row = none := by
        rw [FeedScreen.display, hview, Option.bind_some, if_pos ⟨hmem, hrow⟩, hcell]
        rfl
      rw [htrapped]
      exact hcell.symm
  | some cell =>
      rw [display_eq_some_iff.mpr ⟨view, cell, hview, hmem, hrow, hcell, rfl⟩]
      show ((Function.update screen.views a _ a).bind fun view => view.cells row) = _
      rw [Function.update_self, Option.bind_some]
      exact (Function.update_self ..).trans hcell.symm

/-- A row is displayed with the cell of its post. -/
theorem FeedKept.display {a row : Nat} (h : FeedKept es screen)
    (hrun : feeds.run {} es = some screen) (hdisplay : screen.display a row = some screen') :
    FeedKept (es ++ [.display a row]) screen' := by
  obtain ⟨view, cell, hview, _, _, hcell, rfl⟩ := display_eq_some_iff.mp hdisplay
  have hitems : ∀ b, (Function.update screen.views a
      (some { view with cells := Function.update view.cells row (some cell) }) b).map
        FeedView.items = (screen.views b).map FeedView.items := by
    intro b
    by_cases hsame : b = a
    · subst hsame
      simp [hview]
    · rw [Function.update_of_ne hsame]
  refine h.frame hrun (by simp) rfl (fun b _ => hitems b) fun hmem => ?_
  obtain ⟨hpresents, hposts⟩ := h.current hmem
  refine ⟨(hitems _).trans hpresents.items, fun other shown hshown => ?_⟩
  simp only [FeedScreen.shown] at hshown
  by_cases hcurrent : screen.vc.appearance = a
  · subst hcurrent
    rw [Function.update_self, Option.bind_some] at hshown
    have hshown : Function.update view.cells row (some cell) other = some shown := hshown
    by_cases hsame : other = row
    · subst hsame
      rw [Function.update_self] at hshown
      rw [← hposts, ← hshown]
      exact hcell
    · rw [Function.update_of_ne hsame] at hshown
      exact hpresents.shown other shown (by simp [FeedScreen.shown, hview, hshown])
  · rw [Function.update_of_ne hcurrent] at hshown
    exact hpresents.shown other shown hshown

theorem feedKept_step {e : FeedTouch} (hrun : feeds.run {} es = some screen)
    (h : FeedKept es screen) (hstep : feeds.step screen e = some screen') :
    FeedKept (es ++ [e]) screen' := by
  cases e with
  | touch e =>
      have htouch : feedStep screen (.touch e) = some screen' := hstep
      rw [feedStep, Option.ite_none_right_eq_some, Option.map_eq_some_iff] at htouch
      obtain ⟨hreceives, vc', htouch, rfl⟩ := htouch
      by_cases he : e = .viewDidAppear
      · subst he
        obtain rfl : screen.vc.viewDidAppear = vc' := Option.some.inj htouch
        exact h.viewDidAppear hrun
      · rw [FeedScreen.moveTo]
        have hposts := posts_touch htouch
        obtain ⟨hfills, hfilled⟩ | ⟨hfills, hkeeps⟩ := feed_touch h.top he hreceives htouch
        · rw [if_pos hfills] at hposts ⊢
          exact h.fill hrun he hfills hposts hfilled
        · rw [if_neg (by simp [hfills])] at hposts ⊢
          exact h.keep hrun he hfills hposts hkeeps
  | headerButtonPressed =>
      have hpressed : feedStep screen .headerButtonPressed = some screen' := hstep
      rw [feedStep] at hpressed
      split at hpressed
      · obtain ⟨_, hpressed⟩ := Option.ite_none_right_eq_some.mp hpressed
        obtain rfl := Option.some.inj hpressed
        exact h.headerButtonPressed hrun
      · cases hpressed
  | display appearance row => exact h.display hrun hstep

theorem feedKept_run (h : feeds.run {} es = some screen) : FeedKept es screen := by
  refine Machine.run_induction ?_ ?_ es screen h
  · have hnone : ∀ a, View.collectionView a ∉ ({} : FeedScreen).vc.contentView := by simp
    exact ⟨rfl, fun a hmem => absurd hmem (hnone a), fun hmem => absurd hmem (hnone _), rfl,
      fun hmem => absurd hmem (hnone _), fun a hmem => absurd hmem (hnone a)⟩
  · exact fun es screen e screen' hrun ih hstep => feedKept_step hrun ih hstep

/-- In every run, the current collection view presents the posts of the shops followed now, and
each one left behind, told the items of the shops followed when it was left, gets the cells of
the feed filled last. -/
theorem feed_shows_followed (h : feeds.run {} es = some screen) : FeedShows es screen := by
  have hkept := feedKept_run h
  constructor
  · intro hmem
    obtain ⟨hpresents, hposts⟩ := hkept.current hmem
    refine ⟨hpresents, fun row => ?_⟩
    by_cases hrow : row < screen.vc.followedPosts.length
    · rw [displayed_eq hmem hpresents.items hrow, hposts]
    · rw [List.getElem?_eq_none (by omega)]
      obtain ⟨view, hview, hitems⟩ := Option.map_eq_some_iff.mp hpresents.items
      have hnone : screen.display screen.vc.appearance row = none := by
        rw [FeedScreen.display, hview, Option.bind_some, if_neg (by omega)]
      have hstep : feeds.step screen (.display screen.vc.appearance row) =
          screen.display screen.vc.appearance row := rfl
      rw [displayed, hstep, hnone]
      rfl
  · intro a hmem hne
    obtain ⟨items, hleft, hitems⟩ := hkept.left a hmem hne
    refine ⟨items, hleft, hitems, fun row hrow => ?_⟩
    rw [displayed_eq hmem hitems hrow, hkept.posts]

/-- The feed of two shops is left behind, one of them is unfollowed, and the feed is selected
again. -/
def feedLeft : List FeedTouch :=
  followedTwo.map .touch ++ [.touch (.didSelectItemAt 0), .display 1 0, .headerButtonPressed,
    .touch .viewDidAppear, .touch (.didSelectItemAt 2), .touch (.press (.recommend 2) 0),
    .touch (.didSelectItemAt 0), .display 1 2, .display 2 2]

/-- The one left behind still has its six items, and its fourth cannot be displayed any more. -/
theorem feed_shows_followed_left :
    ∃ screen, feeds.run {} feedLeft = some screen ∧ FeedShows feedLeft screen ∧
      (screen.views 1).map FeedView.items = some 6 ∧ (displayed screen 1 3).isNone ∧
        (screen.views 2).map FeedView.items = some 3 :=
  ⟨_, rfl, feed_shows_followed rfl, rfl, rfl, rfl⟩

end BunjangClone.Following
