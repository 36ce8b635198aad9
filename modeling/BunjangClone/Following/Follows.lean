import BunjangClone.Following.Controller
import Mathlib.Data.List.Nodup

/-!
# The follow lists

Following and unfollowing only move entries between lists. `Follows` is the part of the
screen's state that this is about, and `Follows.Step` says once what each callback can
do to it; the controller simulates it. Facts about followed shops are proved for the
lists and hold of the screen whatever its tables show.
-/

namespace BunjangClone.Following

open Reactive

structure Follows where
  following : List FollowingData
  recommend : List FollowingData
  posts : List PostData

/-- The followed shops, in order and with repetitions. -/
def Follows.shops (f : Follows) : List (Option Int) := f.following.map shopId

/-- An entry with its flag set. -/
def flagged (data : FollowingData) (isFollowing : Bool) : FollowingData :=
  { data with isFollowing := some isFollowing }

/-- What one callback can do to the lists. A press on a recommended row with a flag
removes at most one entry and flips the flag; a press on a row without one appends. -/
inductive Follows.Step (f : Follows) : Callback → Follows → Prop where
  | viewDidAppear : Step f .viewDidAppear f
  | recommendButtonPressed : Step f .recommendButtonPressed f
  | select (index : Nat) : Step f (.didSelectItemAt index) f
  | selectFeed (index : Nat) :
      Step f (.didSelectItemAt index) { f with posts := f.following.flatMap FollowingData.postData }
  | setRecommend (result : List FollowingData) :
      Step f (.setRecommend result) { f with recommend := result }
  | unFollow (row : Nat) (bound : row < f.following.length) :
      Step f (.unFollowingButtonPressed row) { f with following := f.following.eraseIdx row }
  | toggle (row : Nat) (data : FollowingData) (isFollowing : Bool) (rest : List FollowingData)
      (shown : f.recommend[row]? = some data) (flag : data.isFollowing = some isFollowing)
      (removed : removeShop data f.following = some rest) :
      Step f (.followingButtonPressed row)
        { f with following := rest, recommend := f.recommend.set row (flagged data !isFollowing) }
  | follow (row : Nat) (data : FollowingData) (shown : f.recommend[row]? = some data)
      (flag : data.isFollowing = none) :
      Step f (.followingButtonPressed row)
        { f with
          following := f.following ++ [flagged data true]
          recommend := f.recommend.set row (flagged data true) }

namespace FollowingViewController

def follows (vc : FollowingViewController) : Follows :=
  ⟨vc.followingArray, vc.recommendArray, vc.postArray⟩

@[simp] theorem follows_addSubview (vc : FollowingViewController) (view : View) :
    (vc.addSubview view).follows = vc.follows := rfl

@[simp] theorem follows_removeFromSuperview (vc : FollowingViewController) (view : View) :
    (vc.removeFromSuperview view).follows = vc.follows := rfl

@[simp] theorem follows_reloadData (vc : FollowingViewController) (table : TableView) :
    (vc.reloadData table).follows = vc.follows := rfl

@[simp] theorem follows_connect (vc : FollowingViewController) (table : TableView)
    (identifier : String) : (vc.connect table identifier).follows = vc.follows := by
  simp only [connect]
  split
  · rfl
  · exact follows_reloadData _ table

@[simp] theorem follows_recommendSelected (vc : FollowingViewController) :
    vc.recommendSelected.follows = vc.follows := by
  simp [recommendSelected]

@[simp] theorem follows_followingSelected (vc : FollowingViewController) :
    vc.followingSelected.follows = vc.follows := by
  simp only [followingSelected]
  split <;> simp

/-- The feed is rebuilt from the followed shops if there are any. -/
theorem follows_feedSelected (vc : FollowingViewController) : vc.feedSelected.follows =
    if 0 < vc.followingArray.length then
      { vc.follows with posts := vc.followingArray.flatMap FollowingData.postData }
    else vc.follows := by
  simp only [feedSelected]
  split
  · rfl
  · simp

@[simp] theorem follows_followingRemoved (vc : FollowingViewController) :
    vc.followingRemoved.follows = vc.follows := by
  simp only [followingRemoved]
  split <;> simp

/-- The handler fills the feed, for an index of "내피드" and at least one followed shop. -/
def handlerFills (vc : FollowingViewController) (segmentIndex : Nat) : Prop :=
  segmentIndex ≠ 2 ∧ segmentIndex ≠ 1 ∧ 0 < vc.followingArray.length

instance (vc : FollowingViewController) (segmentIndex : Nat) :
    Decidable (vc.handlerFills segmentIndex) :=
  inferInstanceAs (Decidable (segmentIndex ≠ 2 ∧ segmentIndex ≠ 1 ∧ 0 < vc.followingArray.length))

/-- Selecting a segment rebuilds the feed or leaves the lists alone. -/
theorem follows_valueDidChange (vc : FollowingViewController) (segmentIndex : Nat) :
    (vc.valueDidChange segmentIndex).follows =
      if vc.handlerFills segmentIndex then
        { vc.follows with posts := vc.followingArray.flatMap FollowingData.postData }
      else vc.follows := by
  simp only [valueDidChange]
  split
  · rename_i htwo
    rw [follows_recommendSelected, if_neg fun hfills => hfills.1 htwo]
  · rename_i htwo
    split
    · rename_i hone
      rw [follows_followingSelected, if_neg fun hfills => hfills.2.1 hone]
    · rename_i hone
      simp only [follows_feedSelected, handlerFills, htwo, hone, not_false_eq_true, ne_eq, true_and]

/-- The selection changes, and the handler fills the feed. -/
def selectionFills (vc : FollowingViewController) (index : Nat) : Prop :=
  (∃ segmentio ∈ vc.segmentioView, index ≠ segmentio.selectedSegmentioIndex) ∧
    vc.handlerFills index

instance (vc : FollowingViewController) (index : Nat) : Decidable (vc.selectionFills index) :=
  inferInstanceAs (Decidable (_ ∧ _))

end FollowingViewController

variable {vc vc' : FollowingViewController} {e : Callback} {es : List Callback}

/-- Only an item the control offers is selected. -/
theorem setSelectedSegmentioIndex_of_didSelectItemAt {index : Nat}
    (h : vc.didSelectItemAt index = some vc') : vc.setSelectedSegmentioIndex index = some vc' := by
  simp only [FollowingViewController.didSelectItemAt, Option.bind_eq_some_iff] at h
  obtain ⟨segmentio, _, h⟩ := h
  exact (Option.ite_none_right_eq_some.mp h).2

/-- Only a row there is can be unfollowed. -/
theorem unFollowingButtonPressed_eq_some_iff {row : Nat} :
    vc.unFollowingButtonPressed row = some vc' ↔ row < vc.followingArray.length ∧
      { vc with followingArray := vc.followingArray.eraseIdx row }.followingRemoved = vc' := by
  rw [FollowingViewController.unFollowingButtonPressed, Option.ite_none_right_eq_some,
    Option.some.injEq]

/-- A selected index is the one already selected, or its handler runs. -/
theorem follows_setSelectedSegmentioIndex {index : Nat}
    (h : vc.setSelectedSegmentioIndex index = some vc') :
    vc'.follows =
      if vc.selectionFills index then
        { vc.follows with posts := vc.followingArray.flatMap FollowingData.postData }
      else vc.follows := by
  obtain ⟨segmentio, hsegmentio, rfl⟩ := Option.map_eq_some_iff.mp h
  have hfills : vc.selectionFills index ↔
      index ≠ segmentio.selectedSegmentioIndex ∧ vc.handlerFills index := by
    simp [FollowingViewController.selectionFills, hsegmentio]
  by_cases hsame : index = segmentio.selectedSegmentioIndex
  · rw [if_pos hsame, if_neg fun h => (hfills.mp h).1 hsame]
  · rw [if_neg hsame, FollowingViewController.follows_valueDidChange]
    simp only [hfills, ne_eq, hsame, not_false_eq_true, true_and]
    rfl

/-- The controller does to its lists what `Follows.Step` says. -/
theorem follows_step (h : controller.step vc e = some vc') : vc.follows.Step e vc'.follows := by
  cases e with
  | viewDidAppear =>
      obtain rfl : vc.viewDidAppear = vc' := Option.some.inj h
      exact .viewDidAppear
  | didSelectItemAt index =>
      rw [follows_setSelectedSegmentioIndex (setSelectedSegmentioIndex_of_didSelectItemAt h)]
      split
      · exact .selectFeed index
      · exact .select index
  | recommendButtonPressed =>
      have hselect : vc.setSelectedSegmentioIndex 2 = some vc' := h
      rw [follows_setSelectedSegmentioIndex hselect, if_neg fun hfills => hfills.2.1 rfl]
      exact .recommendButtonPressed
  | setRecommend result =>
      obtain rfl : vc.setRecommend result = vc' := Option.some.inj h
      rw [FollowingViewController.setRecommend, FollowingViewController.follows_reloadData]
      exact .setRecommend result
  | followingButtonPressed row =>
      have hpress : vc.followingButtonPressed row = some vc' := h
      simp only [FollowingViewController.followingButtonPressed,
        FollowingViewController.toggleRow, Option.map_eq_some_iff,
        Option.bind_eq_some_iff] at hpress
      obtain ⟨next, ⟨data, hdata, hnext⟩, rfl⟩ := hpress
      rw [FollowingViewController.follows_reloadData]
      split at hnext
      · rename_i isFollowing hflag
        obtain ⟨rest, hrest, rfl⟩ := Option.map_eq_some_iff.mp hnext
        exact .toggle row data isFollowing rest hdata hflag hrest
      · rename_i hflag
        obtain rfl := Option.some.inj hnext
        exact .follow row data hdata hflag
  | unFollowingButtonPressed row =>
      obtain ⟨hbound, rfl⟩ := unFollowingButtonPressed_eq_some_iff.mp h
      rw [FollowingViewController.follows_followingRemoved]
      exact .unFollow row hbound

/-! ## Removing a shop -/

theorem removeShop_sublist {data : FollowingData} {entries rest : List FollowingData}
    (h : removeShop data entries = some rest) : rest.Sublist entries := by
  induction entries generalizing rest with
  | nil =>
      obtain rfl := Option.some.inj h
      exact .refl _
  | cons entry entries ih =>
      simp only [removeShop, Option.bind_eq_bind, Option.bind_eq_some_iff] at h
      obtain ⟨shop, _, user, _, h⟩ := h
      split at h
      · obtain rfl := Option.some.inj h
        exact List.sublist_cons_self entry entries
      · obtain ⟨tail, htail, h⟩ := Option.bind_eq_some_iff.mp h
        obtain rfl := Option.some.inj h
        exact (ih htail).cons_cons entry

/-- On the shops alone, the loop removes the first occurrence. -/
theorem shops_removeShop {data : FollowingData} {entries rest : List FollowingData}
    (h : removeShop data entries = some rest) :
    rest.map shopId = (entries.map shopId).erase (shopId data) := by
  induction entries generalizing rest with
  | nil =>
      obtain rfl := Option.some.inj h
      rfl
  | cons entry entries ih =>
      simp only [removeShop, Option.bind_eq_bind, Option.bind_eq_some_iff] at h
      obtain ⟨shop, hshop, user, huser, h⟩ := h
      have hids : shopId entry = some shop.userId ∧ shopId data = some user.userId := by
        simp [shopId, hshop, huser]
      split at h
      · rename_i hsame
        obtain rfl := Option.some.inj h
        rw [List.map_cons, hids.1, hids.2, hsame, List.erase_cons_head]
      · rename_i hother
        obtain ⟨tail, htail, h⟩ := Option.bind_eq_some_iff.mp h
        obtain rfl := Option.some.inj h
        rw [List.map_cons, List.map_cons, ih htail, List.erase_cons_tail]
        simpa [hids.1, hids.2] using hother

/-! ## A shop is followed once -/

/-- The followed shops a callback fills the feed from, if it does. -/
def feedShops (vc : FollowingViewController) : Callback → List (List FollowingData)
  | .didSelectItemAt index => if vc.selectionFills index then [vc.followingArray] else []
  | _ => []

/-- The followed shops the feed was filled from last. -/
def fed (past : List Callback) : List FollowingData :=
  (controller.collect feedShops {} past).getLast?.getD []

/-- No shop is followed twice, and the feed lists the posts of the shops that were followed
when it was filled, none of them twice. -/
structure NoShopTwice (past : List Callback) (vc : FollowingViewController) : Prop where
  followed : vc.follows.shops.Nodup
  feed : ((fed past).map shopId).Nodup
  posts : vc.postArray = (fed past).flatMap FollowingData.postData

/-- A press on a recommended row without a flag is for a shop not yet followed. -/
def FollowsNewShop (f : Follows) : Callback → Prop
  | .followingButtonPressed row =>
      ∀ data ∈ f.recommend[row]?, data.isFollowing = none → shopId data ∉ f.shops
  | _ => True

instance (f : Follows) : DecidablePred (FollowsNewShop f)
  | .followingButtonPressed row => inferInstanceAs (Decidable
      (∀ data ∈ f.recommend[row]?, data.isFollowing = none → shopId data ∉ f.shops))
  | .viewDidAppear | .didSelectItemAt _ | .recommendButtonPressed | .setRecommend _
  | .unFollowingButtonPressed _ => inferInstanceAs (Decidable True)

theorem shops_follow (f : Follows) (data : FollowingData) (recommend : List FollowingData) :
    Follows.shops { f with
      following := f.following ++ [flagged data true], recommend := recommend } =
        f.shops ++ [shopId data] := by
  simp [Follows.shops, flagged, shopId]

theorem shops_step {f f' : Follows} (hstep : f.Step e f') (h : f.shops.Nodup) :
    f'.shops.Nodup ↔ FollowsNewShop f e := by
  cases hstep with
  | viewDidAppear | recommendButtonPressed | select | selectFeed | setRecommend =>
      exact iff_of_true h trivial
  | unFollow row bound =>
      have hsub := (List.eraseIdx_sublist f.following row).map shopId
      exact iff_of_true (h.sublist hsub) trivial
  | toggle row data isFollowing rest shown flag removed =>
      have hsub := (removeShop_sublist removed).map shopId
      refine iff_of_true (h.sublist hsub) ?_
      intro data' hdata hnone
      obtain rfl : data = data' := Option.some.inj (shown.symm.trans hdata)
      rw [flag] at hnone
      cases hnone
  | follow row data shown flag =>
      have hcondition : FollowsNewShop f (.followingButtonPressed row) ↔
          shopId data ∉ f.shops := by
        simp [FollowsNewShop, shown, flag]
      rw [hcondition, shops_follow, List.nodup_append']
      simp [h]

/-- Only a selection that fills the feed changes its posts. -/
theorem posts_step (h : controller.step vc e = some vc') : vc'.postArray =
    (feedShops vc e).getLast?.elim vc.postArray (·.flatMap FollowingData.postData) := by
  have hlists := follows_step h
  have hposts : vc'.postArray = vc'.follows.posts := rfl
  cases e with
  | didSelectItemAt index =>
      have hfollows := follows_setSelectedSegmentioIndex
        (setSelectedSegmentioIndex_of_didSelectItemAt h)
      rw [hposts, hfollows, feedShops]
      split <;> rfl
  | viewDidAppear | recommendButtonPressed | setRecommend result | followingButtonPressed row
  | unFollowingButtonPressed row =>
      rw [hposts]
      generalize vc'.follows = lists at hlists ⊢
      cases hlists <;> rfl

theorem fed_concat (h : controller.run {} es = some vc) :
    fed (es ++ [e]) = (feedShops vc e).getLast?.getD (fed es) := by
  rw [fed, Machine.collect_concat feedShops h, List.getLast?_append]
  cases (feedShops vc e).getLast? with
  | none => rfl
  | some shops => rfl

/-- In every run, the feed lists the posts of the shops that were followed when it was filled. -/
theorem posts_run (h : controller.run {} es = some vc) :
    vc.postArray = (fed es).flatMap FollowingData.postData := by
  refine Machine.run_induction (P := fun es (vc : FollowingViewController) =>
    vc.postArray = (fed es).flatMap FollowingData.postData) rfl ?_ es vc h
  intro es vc e vc' hrun ih hstep
  rw [posts_step hstep, fed_concat hrun, ih]
  cases (feedShops vc e).getLast? with
  | none => rfl
  | some shops => rfl

/-- A feed that is filled anew is filled from the shops followed now. -/
theorem fed_nodup_concat (hrun : controller.run {} es = some vc) (h : NoShopTwice es vc) :
    ((fed (es ++ [e])).map shopId).Nodup := by
  rw [fed_concat hrun]
  cases e with
  | didSelectItemAt index =>
      rw [feedShops]
      split
      · exact h.followed
      · exact h.feed
  | viewDidAppear | recommendButtonPressed | setRecommend result | followingButtonPressed row
  | unFollowingButtonPressed row => exact h.feed

/-- Along every run, no shop is followed twice, and none contributes to the feed twice,
exactly if every press on a row without a flag is for a shop not yet followed. -/
theorem shop_followed_once_iff (h : controller.run {} es = some vc) :
    controller.AlongPast NoShopTwice {} es ↔
      controller.Meets (fun vc => FollowsNewShop vc.follows) {} es := by
  refine Machine.alongPast_iff_meetsPast (J := fun _ _ => True) (P := NoShopTwice)
    (A := fun _ _ _ => True) (C := fun _ vc => FollowsNewShop vc.follows) trivial
    ⟨List.nodup_nil, List.nodup_nil, rfl⟩ (fun _ _ _ _ _ _ _ _ => trivial) ?_ h
    (fun _ _ _ _ _ => trivial)
  intro es t e u hrun _ hp _ hstep
  have hshops := shops_step (follows_step hstep) hp.followed
  constructor
  · intro honce
    exact hshops.mp honce.followed
  · intro hnew
    exact ⟨hshops.mpr hnew, fed_nodup_concat hrun hp,
      posts_run (Machine.run_concat hrun hstep)⟩

/-- A shop with a full set of posts, without a flag. -/
def shop (userId : Int) : FollowingData where
  userData := [⟨userId, "", none, some 0, some 0⟩]
  postData := List.replicate 3 ⟨userId, 0, "", 0⟩

/-- Shops 1 and 2 are recommended and followed and fill the feed, then shop 1 is unfollowed
again. -/
theorem shop_followed_once_iff_toggling :
    controller.AlongPast NoShopTwice {}
      [.viewDidAppear, .setRecommend [shop 1, shop 2], .followingButtonPressed 0,
        .followingButtonPressed 1, .didSelectItemAt 0, .followingButtonPressed 0] := by
  have hrun : ∃ vc, controller.run {}
      [.viewDidAppear, .setRecommend [shop 1, shop 2], .followingButtonPressed 0,
        .followingButtonPressed 1, .didSelectItemAt 0, .followingButtonPressed 0] = some vc :=
    ⟨_, rfl⟩
  obtain ⟨vc, hrun⟩ := hrun
  exact (shop_followed_once_iff hrun).mpr (by decide)

/-- The list is fetched again after shop 1 was followed; the new row has no flag, and a
press on it follows shop 1 a second time. -/
theorem refetched_row_follows_twice :
    ¬ ∀ es vc, (∀ result, .setRecommend result ∈ es →
        (result.map shopId).Nodup ∧ ∀ data ∈ result, data.userData ≠ []) →
      controller.run {} es = some vc → NoShopTwice es vc := by
  intro halways
  have hrun : ∃ vc, controller.run {} [.setRecommend [shop 1], .followingButtonPressed 0,
      .setRecommend [shop 1], .followingButtonPressed 0] = some vc ∧
        vc.follows.shops = [some 1, some 1] := ⟨_, rfl, rfl⟩
  obtain ⟨vc, hrun, hshops⟩ := hrun
  have honce := (halways _ _ (by simp [shop, shopId]) hrun).followed
  rw [hshops] at honce
  exact absurd honce (by decide)

end BunjangClone.Following
