import BunjangClone.Following.Dispatch
import BunjangClone.Following.Icons

/-!
# Which lists can be displayed

A cell shows the two counts of the first user of its entry and one post for each of its
image views, and unwraps and indexes all of them. The decoder asks for none of them. A
list whose entries all have them can be displayed, and so can everything followed from
it; one entry without them is enough for a trap.
-/

namespace BunjangClone.Following

open Reactive FollowingViewController

variable {vc vc' : FollowingViewController} {f f' : Follows} {data : FollowingData}
variable {e : Callback} {es : List Callback} {row : Nat}

/-- Every row of both tables is filled and every follow button works without a trap. -/
structure Displays (vc : FollowingViewController) : Prop where
  recommend : ∀ row < vc.recommendArray.length, (vc.recommendRow row).isSome
  following : ∀ row < vc.followingArray.length, (vc.followingRow row).isSome
  press : ∀ row < vc.recommendArray.length, (vc.followingButtonPressed row).isSome

/-- The entry has a user with both counts, and a post for each image view. -/
structure Displayable (data : FollowingData) : Prop where
  user : ∃ user, data.userData[0]? = some user ∧ user.follower.isSome ∧ user.product.isSome
  posts : imageViewCount ≤ data.postData.length

theorem displayable_iff : Displayable data ↔
    data.userData[0]?.any (fun user => user.follower.isSome && user.product.isSome) = true ∧
      imageViewCount ≤ data.postData.length := by
  simp only [Option.any_eq_true, Bool.and_eq_true]
  exact ⟨fun h => ⟨h.user, h.posts⟩, fun h => ⟨h.1, h.2⟩⟩

instance : DecidablePred Displayable :=
  fun _ => decidable_of_iff _ displayable_iff.symm

/-- Every entry of a fetched list can be displayed. -/
def ListDisplayable (_ : FollowingViewController) : Callback → Prop
  | .setRecommend result => ∀ data ∈ result, Displayable data
  | _ => True

instance (vc : FollowingViewController) : DecidablePred (ListDisplayable vc)
  | .setRecommend result => inferInstanceAs (Decidable (∀ data ∈ result, Displayable data))
  | .viewDidAppear | .didSelectItemAt _ | .recommendButtonPressed | .followingButtonPressed _
  | .unFollowingButtonPressed _ => inferInstanceAs (Decidable True)

/-! ## One row -/

theorem isSome_mapM_postData (posts : List PostData) :
    ((List.range imageViewCount).mapM fun i => posts[i]?).isSome ↔
      imageViewCount ≤ posts.length := by
  rcases posts with _ | ⟨a, _ | ⟨b, _ | ⟨c, rest⟩⟩⟩ <;> simp [imageViewCount, List.range_succ]

theorem isSome_load (data : FollowingData) (row : Nat) (image : Option String)
    (action : Action) : (Cell.load data row image action).isSome ↔ Displayable data := by
  constructor
  · intro hloaded
    obtain ⟨cell, hcell⟩ := Option.isSome_iff_exists.mp hloaded
    simp only [Cell.load, Option.bind_eq_bind, Option.bind_eq_some_iff] at hcell
    obtain ⟨user, huser, follower, hfollower, product, hproduct, posts, hposts, _⟩ := hcell
    refine ⟨⟨user, huser, ?_, ?_⟩, ?_⟩
    · rw [hfollower]
      rfl
    · rw [hproduct]
      rfl
    · apply (isSome_mapM_postData data.postData).mp
      rw [hposts]
      rfl
  · rintro ⟨⟨user, huser, hfollower, hproduct⟩, hposts⟩
    obtain ⟨follower, hfollower⟩ := Option.isSome_iff_exists.mp hfollower
    obtain ⟨product, hproduct⟩ := Option.isSome_iff_exists.mp hproduct
    obtain ⟨posts, hposts⟩ :=
      Option.isSome_iff_exists.mp ((isSome_mapM_postData data.postData).mpr hposts)
    simp [Cell.load, huser, hfollower, hproduct, hposts]

theorem Displayable.userData_ne_nil (h : Displayable data) : data.userData ≠ [] := by
  obtain ⟨user, huser, _⟩ := h.user
  intro hempty
  rw [hempty] at huser
  cases huser

theorem displayable_flagged {isFollowing : Bool} (h : Displayable data) :
    Displayable (flagged data isFollowing) :=
  ⟨h.user, h.posts⟩

/-- The loop of a press goes through if every entry has a user. -/
theorem isSome_removeShop {entries : List FollowingData} (hdata : data.userData ≠ [])
    (husers : ∀ entry ∈ entries, entry.userData ≠ []) : (removeShop data entries).isSome := by
  obtain ⟨user, huser, _⟩ := shopId_eq_some hdata
  induction entries with
  | nil => rfl
  | cons entry entries ih =>
      obtain ⟨shop, hshop, _⟩ := shopId_eq_some (husers entry List.mem_cons_self)
      obtain ⟨rest, hrest⟩ := Option.isSome_iff_exists.mp
        (ih fun other hmem => husers other (List.mem_cons_of_mem _ hmem))
      by_cases hsame : shop.userId = user.userId <;>
        simp [removeShop, huser, hshop, hsame, hrest]

/-! ## All rows -/

structure AllDisplayable (f : Follows) : Prop where
  following : ∀ entry ∈ f.following, Displayable entry
  recommend : ∀ data ∈ f.recommend, Displayable data

theorem AllDisplayable.withUsers (h : AllDisplayable f) : WithUsers f :=
  ⟨fun entry hmem => (h.following entry hmem).userData_ne_nil,
    fun data hmem => (h.recommend data hmem).userData_ne_nil⟩

/-- Each row of the recommendation table shows an entry that can be displayed. -/
theorem AllDisplayable.recommend_row (h : AllDisplayable vc.follows)
    (hrow : row < vc.recommendArray.length) :
    ∃ data, vc.recommendArray[row]? = some data ∧ Displayable data :=
  ⟨_, List.getElem?_eq_getElem hrow, h.recommend _ (List.getElem_mem hrow)⟩

theorem AllDisplayable.following_row (h : AllDisplayable vc.follows)
    (hrow : row < vc.followingArray.length) :
    ∃ data, vc.followingArray[row]? = some data ∧ Displayable data :=
  ⟨_, List.getElem?_eq_getElem hrow, h.following _ (List.getElem_mem hrow)⟩

theorem AllDisplayable.displays (h : AllDisplayable vc.follows) : Displays vc := by
  refine ⟨?_, ?_, ?_⟩
  · intro row hrow
    obtain ⟨data, hdata, hshown⟩ := h.recommend_row hrow
    have himage := followingImage_eq h.withUsers hshown.userData_ne_nil
    rw [recommendRow, hdata]
    simp only [Option.bind_eq_bind, Option.bind_some, himage]
    exact (isSome_load _ _ _ _).mpr hshown
  · intro row hrow
    obtain ⟨data, hdata, hshown⟩ := h.following_row hrow
    rw [followingRow, hdata]
    simp only [Option.bind_eq_bind, Option.bind_some]
    exact (isSome_load _ _ _ _).mpr hshown
  · intro row hrow
    obtain ⟨data, hdata, hshown⟩ := h.recommend_row hrow
    have hloop : (removeShop data vc.followingArray).isSome :=
      isSome_removeShop hshown.userData_ne_nil h.withUsers.following
    rw [followingButtonPressed, Option.isSome_map, toggleRow, hdata, Option.bind_some]
    split
    · rw [Option.isSome_map]
      exact hloop
    · rfl

theorem Displays.allDisplayable (h : Displays vc) : AllDisplayable vc.follows := by
  constructor
  · intro entry hmem
    obtain ⟨row, hrow, hentry⟩ := List.mem_iff_getElem.mp hmem
    have hshown := h.following row hrow
    have hdata : vc.followingArray[row]? = some entry := by
      rw [← hentry]
      exact List.getElem?_eq_getElem hrow
    rw [followingRow, hdata] at hshown
    exact (isSome_load _ _ _ _).mp hshown
  · intro data hmem
    obtain ⟨row, hrow, hentry⟩ := List.mem_iff_getElem.mp hmem
    have hshown := h.recommend row hrow
    have hdata : vc.recommendArray[row]? = some data := by
      rw [← hentry]
      exact List.getElem?_eq_getElem hrow
    rw [recommendRow, hdata] at hshown
    simp only [Option.bind_eq_bind, Option.bind_some] at hshown
    obtain ⟨cell, hcell⟩ := Option.isSome_iff_exists.mp hshown
    obtain ⟨image, _, hload⟩ := Option.bind_eq_some_iff.mp hcell
    exact (isSome_load _ _ _ _).mp (Option.isSome_iff_exists.mpr ⟨cell, hload⟩)

theorem displays_iff : Displays vc ↔ AllDisplayable vc.follows :=
  ⟨Displays.allDisplayable, AllDisplayable.displays⟩

/-! ## Runs -/

/-- Following and unfollowing only move entries around. -/
theorem allDisplayable_step (h : AllDisplayable vc.follows)
    (hstep : vc.follows.Step e vc'.follows) :
    AllDisplayable vc'.follows ↔ ListDisplayable vc e := by
  generalize vc'.follows = f' at hstep ⊢
  cases hstep with
  | viewDidAppear | recommendButtonPressed | select => exact iff_of_true h trivial
  | selectFeed => exact iff_of_true ⟨h.following, h.recommend⟩ trivial
  | setRecommend result =>
      constructor
      · exact fun hnext => hnext.recommend
      · exact fun hlist => ⟨h.following, hlist⟩
  | unFollow row bound =>
      refine iff_of_true ⟨fun entry hmem => ?_, h.recommend⟩ trivial
      exact h.following entry (List.mem_of_mem_eraseIdx hmem)
  | toggle row data isFollowing rest shown flag removed =>
      refine iff_of_true ⟨fun entry hmem => ?_, fun shownRow hmem => ?_⟩ trivial
      · exact h.following entry ((removeShop_sublist removed).subset hmem)
      · obtain hmem | rfl := List.mem_or_eq_of_mem_set hmem
        · exact h.recommend shownRow hmem
        · exact displayable_flagged (h.recommend data (List.mem_of_getElem? shown))
  | follow row data shown flag =>
      have hflagged : Displayable (flagged data true) :=
        displayable_flagged (h.recommend data (List.mem_of_getElem? shown))
      refine iff_of_true ⟨fun entry hmem => ?_, fun shownRow hmem => ?_⟩ trivial
      · obtain hmem | hmem := List.mem_append.mp hmem
        · exact h.following entry hmem
        · rw [List.mem_singleton.mp hmem]
          exact hflagged
      · obtain hmem | rfl := List.mem_or_eq_of_mem_set hmem
        · exact h.recommend shownRow hmem
        · exact hflagged

/-- Along every run, all rows are displayed and all follow buttons work exactly if every
entry of every fetched list can be displayed. -/
theorem lists_displayed_iff (h : controller.run {} es = some vc) :
    controller.Along Displays {} es ↔ controller.Meets ListDisplayable {} es := by
  have hinitial : AllDisplayable ({} : FollowingViewController).follows :=
    ⟨List.forall_mem_nil _, List.forall_mem_nil _⟩
  refine Machine.along_iff_meets (J := fun _ => True) (A := fun _ _ => True) trivial
    hinitial.displays (fun _ _ _ _ _ _ => trivial) ?_ h (fun _ _ _ _ _ => trivial)
  intro t e u _ hdisplays _ hstep
  rw [displays_iff]
  exact allDisplayable_step hdisplays.allDisplayable (follows_step hstep)

theorem lists_displayed_following :
    controller.Along Displays {} [.viewDidAppear, .didSelectItemAt 2,
      .setRecommend [shop 1, shop 2], .followingButtonPressed 1, .didSelectItemAt 1] := by
  have hrun : ∃ vc, controller.run {} [.viewDidAppear, .didSelectItemAt 2,
      .setRecommend [shop 1, shop 2], .followingButtonPressed 1, .didSelectItemAt 1] =
        some vc := ⟨_, rfl⟩
  obtain ⟨vc, hrun⟩ := hrun
  exact (lists_displayed_iff hrun).mpr (by decide)

/-- A shop with two posts has nothing for the third image view. -/
theorem two_posts_not_displayed :
    ¬ ∀ es vc, controller.run {} es = some vc → Displays vc := by
  intro halways
  have hrun : ∃ vc, controller.run {} [.viewDidAppear, .didSelectItemAt 2,
      .setRecommend [{ shop 1 with postData := List.replicate 2 ⟨1, 0, "", 0⟩ }]] = some vc ∧
        vc.recommendRow 0 = none ∧ vc.recommendArray.length = 1 := ⟨_, rfl, rfl, rfl⟩
  obtain ⟨vc, hrun, hnone, hlength⟩ := hrun
  have hshown := (halways _ vc hrun).recommend 0 (by omega)
  rw [hnone] at hshown
  cases hshown

end BunjangClone.Following
