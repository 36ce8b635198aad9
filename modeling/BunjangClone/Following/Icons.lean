import BunjangClone.Following.Follows
import Mathlib.Data.List.Perm.Basic

/-!
# When the follow icons tell the truth

The icon of a recommended row is on if its flag says so or its shop is followed. The
flag is a copy that nobody keeps up to date: unfollowing a shop on the other tab leaves
it set, and a press on a row whose flag is unset sets it without following anything.
The icons stay truthful exactly as long as no such press is made.
-/

namespace BunjangClone.Following

open Reactive

variable {vc vc' : FollowingViewController} {e : Callback} {es : List Callback}
variable {f f' : Follows} {data : FollowingData}

/-! ## What the icon shows -/

theorem shopId_eq_some (h : data.userData ≠ []) :
    ∃ user, data.userData[0]? = some user ∧ shopId data = some user.userId := by
  cases hlist : data.userData with
  | nil => exact absurd hlist h
  | cons user users => exact ⟨user, rfl, by simp [shopId, hlist]⟩

/-- The scan of the followed shops switches the icon on if it meets the shop. -/
theorem foldlM_scanImage (user : UserData) (image : String) {entries : List FollowingData}
    (h : ∀ entry ∈ entries, entry.userData ≠ []) :
    entries.foldlM (scanImage user) image =
      some (if some user.userId ∈ entries.map shopId then "FollowingImage" else image) := by
  induction entries generalizing image with
  | nil => rfl
  | cons entry entries ih =>
      obtain ⟨shop, hshop, hid⟩ := shopId_eq_some (h entry (by simp))
      have hscan : scanImage user image entry =
          some (if user.userId = shop.userId then "FollowingImage" else image) := by
        rw [scanImage, hshop, Option.map_some]
      rw [List.foldlM_cons, hscan, Option.bind_eq_bind, Option.bind_some,
        ih _ fun entry hmem => h entry (List.mem_cons_of_mem _ hmem)]
      by_cases hsame : user.userId = shop.userId <;> simp [hsame, hid]

/-- Every entry of either array has a user, so that its row can be shown at all. -/
structure WithUsers (f : Follows) : Prop where
  following : ∀ entry ∈ f.following, entry.userData ≠ []
  recommend : ∀ data ∈ f.recommend, data.userData ≠ []

/-- The icon of a recommended row is on exactly if its shop is followed. -/
def IconsTruthful (vc : FollowingViewController) : Prop :=
  ∀ data ∈ vc.recommendArray,
    vc.followingImage data = some "FollowingImage" ↔ shopId data ∈ vc.follows.shops

/-- No flag is set for a shop that is not followed. -/
def FlagsTruthful (f : Follows) : Prop :=
  ∀ data ∈ f.recommend, data.isFollowing = some true → shopId data ∈ f.shops

theorem followingImage_eq (husers : WithUsers vc.follows) (hdata : data.userData ≠ []) :
    vc.followingImage data = some (if data.isFollowing = some true ∨
      shopId data ∈ vc.follows.shops then "FollowingImage" else "FollowImage") := by
  obtain ⟨user, huser, hid⟩ := shopId_eq_some hdata
  have hflag : flagImage data.isFollowing =
      if data.isFollowing = some true then "FollowingImage" else "FollowImage" := by
    cases data.isFollowing with
    | none => rfl
    | some isFollowing => cases isFollowing <;> rfl
  have hscan := foldlM_scanImage user (flagImage data.isFollowing) husers.following
  rw [← hid, hflag] at hscan
  rw [FollowingViewController.followingImage, huser, Option.bind_some, hflag]
  refine hscan.trans (congrArg some ?_)
  change (if shopId data ∈ vc.follows.shops then _ else _) = _
  by_cases hmem : shopId data ∈ vc.follows.shops <;> simp [hmem]

theorem iconsTruthful_iff (husers : WithUsers vc.follows) :
    IconsTruthful vc ↔ FlagsTruthful vc.follows := by
  refine forall₂_congr fun data hmem => ?_
  rw [followingImage_eq husers (husers.recommend data hmem)]
  by_cases hshop : shopId data ∈ vc.follows.shops
  · simp [hshop]
  · by_cases hflag : data.isFollowing = some true <;> simp [hshop, hflag]

/-! ## Which steps keep the flags truthful -/

/-- The lists of the recommendation service: every entry has a user, and its flag is
absent or says whether its shop is followed at that moment. -/
def AgreesWhenFetched (f : Follows) : Callback → Prop
  | .setRecommend result => ∀ data ∈ result, data.userData ≠ [] ∧
      ∀ isFollowing ∈ data.isFollowing, isFollowing = true ↔ shopId data ∈ f.shops
  | _ => True

instance (f : Follows) : DecidablePred (AgreesWhenFetched f)
  | .setRecommend result => inferInstanceAs (Decidable (∀ data ∈ result, data.userData ≠ [] ∧
      ∀ isFollowing ∈ data.isFollowing, isFollowing = true ↔ shopId data ∈ f.shops))
  | .viewDidAppear | .didSelectItemAt _ | .recommendButtonPressed | .followingButtonPressed _
  | .unFollowingButtonPressed _ => inferInstanceAs (Decidable True)

/-- No row among `rows` has its flag set for `shop`. -/
def Unflagged (rows : List FollowingData) (shop : Option Int) : Prop :=
  ∀ data ∈ rows, shopId data = shop → data.isFollowing ≠ some true

instance (rows : List FollowingData) (shop : Option Int) : Decidable (Unflagged rows shop) :=
  inferInstanceAs (Decidable (∀ data ∈ rows, shopId data = shop → data.isFollowing ≠ some true))

/-- The condition on a step. Unless the shop is followed twice, it is not unfollowed on
its own tab while a recommended row has the flag set for it, and a recommended row with
a flag is pressed only if the flag is set, and on no other row for the same shop. -/
def KeepsIcons (f : Follows) : Callback → Prop
  | .unFollowingButtonPressed row => ∀ entry ∈ f.following[row]?,
      2 ≤ f.shops.count (shopId entry) ∨ Unflagged f.recommend (shopId entry)
  | .followingButtonPressed row => ∀ data ∈ f.recommend[row]?,
      ∀ isFollowing ∈ data.isFollowing, 2 ≤ f.shops.count (shopId data) ∨
        (isFollowing = true ∧ Unflagged (f.recommend.eraseIdx row) (shopId data))
  | _ => True

instance (f : Follows) : DecidablePred (KeepsIcons f)
  | .unFollowingButtonPressed row => inferInstanceAs (Decidable (∀ entry ∈ f.following[row]?,
      2 ≤ f.shops.count (shopId entry) ∨ Unflagged f.recommend (shopId entry)))
  | .followingButtonPressed row => inferInstanceAs (Decidable (∀ data ∈ f.recommend[row]?,
      ∀ isFollowing ∈ data.isFollowing, 2 ≤ f.shops.count (shopId data) ∨
        (isFollowing = true ∧ Unflagged (f.recommend.eraseIdx row) (shopId data))))
  | .viewDidAppear | .didSelectItemAt _ | .recommendButtonPressed | .setRecommend _ =>
      inferInstanceAs (Decidable True)

theorem mem_erase_self_iff {shops : List (Option Int)} {shop : Option Int} :
    shop ∈ shops.erase shop ↔ 2 ≤ shops.count shop := by
  rw [← List.count_pos_iff, List.count_erase_self]
  omega

/-- Truthful rows stay so without one occurrence of a shop exactly if another occurrence
is left or none of them has the flag set for it. -/
theorem truthful_erase_iff {rows : List FollowingData} {shops : List (Option Int)}
    {shop : Option Int}
    (h : ∀ data ∈ rows, data.isFollowing = some true → shopId data ∈ shops) :
    (∀ data ∈ rows, data.isFollowing = some true → shopId data ∈ shops.erase shop) ↔
      2 ≤ shops.count shop ∨ Unflagged rows shop := by
  constructor
  · intro hrest
    by_cases htwice : 2 ≤ shops.count shop
    · exact Or.inl htwice
    · apply Or.inr
      intro data hmem hshop hflag
      have hleft := hrest data hmem hflag
      rw [hshop, mem_erase_self_iff] at hleft
      exact htwice hleft
  · intro hcondition data hmem hflag
    by_cases hshop : shopId data = shop
    · cases hcondition with
      | inl htwice => rwa [hshop, mem_erase_self_iff]
      | inr hunflagged => exact absurd hflag (hunflagged data hmem hshop)
    · exact (List.mem_erase_of_ne hshop).mpr (h data hmem hflag)

theorem withUsers_step (h : WithUsers f) (hfetched : AgreesWhenFetched f e)
    (hstep : f.Step e f') : WithUsers f' := by
  cases hstep with
  | viewDidAppear | recommendButtonPressed | select | selectFeed =>
      exact ⟨h.following, h.recommend⟩
  | setRecommend result => exact ⟨h.following, fun data hmem => (hfetched data hmem).1⟩
  | unFollow row bound =>
      exact ⟨fun entry hmem => h.following entry (List.mem_of_mem_eraseIdx hmem), h.recommend⟩
  | toggle row data isFollowing rest shown flag removed =>
      refine ⟨fun entry hmem => h.following entry ((removeShop_sublist removed).subset hmem), ?_⟩
      intro entry hmem
      cases List.mem_or_eq_of_mem_set hmem with
      | inl hold => exact h.recommend entry hold
      | inr hnew => exact hnew ▸ h.recommend data (List.mem_of_getElem? shown)
  | follow row data shown flag =>
      have hdata := h.recommend data (List.mem_of_getElem? shown)
      constructor
      · intro entry hmem
        cases List.mem_append.mp hmem with
        | inl hold => exact h.following entry hold
        | inr hnew =>
            obtain rfl := List.mem_singleton.mp hnew
            exact hdata
      · intro entry hmem
        cases List.mem_or_eq_of_mem_set hmem with
        | inl hold => exact h.recommend entry hold
        | inr hnew => exact hnew ▸ hdata

/-- After a toggle, the row pressed and the other rows each have to find their shop among
those that are left. -/
theorem flagsTruthful_toggle_iff {row : Nat} {data : FollowingData} {isFollowing : Bool}
    {rest : List FollowingData} (hrow : row < f.recommend.length)
    (removed : removeShop data f.following = some rest) :
    FlagsTruthful { f with
        following := rest, recommend := f.recommend.set row (flagged data !isFollowing) } ↔
      (isFollowing = false → 2 ≤ f.shops.count (shopId data)) ∧
        ∀ other ∈ f.recommend.eraseIdx row, other.isFollowing = some true →
          shopId other ∈ f.shops.erase (shopId data) := by
  have hshops : rest.map shopId = f.shops.erase (shopId data) := shops_removeShop removed
  have hset := List.set_perm_cons_eraseIdx hrow (flagged data !isFollowing)
  have hsame : shopId (flagged data !isFollowing) = shopId data := rfl
  simp only [FlagsTruthful, hset.mem_iff, List.forall_mem_cons, Follows.shops, hshops]
  refine and_congr ?_ Iff.rfl
  rw [hsame, mem_erase_self_iff]
  simp [flagged]

theorem flagsTruthful_step (hfetched : AgreesWhenFetched f e) (hstep : f.Step e f')
    (h : FlagsTruthful f) : FlagsTruthful f' ↔ KeepsIcons f e := by
  cases hstep with
  | viewDidAppear | recommendButtonPressed | select | selectFeed => exact iff_of_true h trivial
  | setRecommend result =>
      refine iff_of_true ?_ trivial
      intro data hmem hflag
      exact ((hfetched data hmem).2 true hflag).mp rfl
  | unFollow row bound =>
      have hentry : f.following[row]? = some f.following[row] := List.getElem?_eq_getElem bound
      have hperm : ((f.following.eraseIdx row).map shopId).Perm
          (f.shops.erase (shopId f.following[row])) := by
        have hcons := (List.getElem_cons_eraseIdx_perm bound).map shopId
        rw [List.map_cons] at hcons
        simpa [Follows.shops] using hcons.erase (shopId f.following[row])
      have hcondition : KeepsIcons f (.unFollowingButtonPressed row) ↔
          2 ≤ f.shops.count (shopId f.following[row]) ∨
            Unflagged f.recommend (shopId f.following[row]) := by
        simp [KeepsIcons, hentry]
      rw [hcondition, ← truthful_erase_iff h]
      refine forall₃_congr fun data _ _ => ?_
      exact hperm.mem_iff
  | toggle row data isFollowing rest shown flag removed =>
      have hrow : row < f.recommend.length := (List.getElem?_eq_some_iff.mp shown).1
      have hcondition : KeepsIcons f (.followingButtonPressed row) ↔
          2 ≤ f.shops.count (shopId data) ∨
            (isFollowing = true ∧ Unflagged (f.recommend.eraseIdx row) (shopId data)) := by
        simp only [KeepsIcons, shown, flag, Option.mem_some, forall_eq']
      have hothers : ∀ other ∈ f.recommend.eraseIdx row,
          other.isFollowing = some true → shopId other ∈ f.shops :=
        fun other hmem => h other (List.mem_of_mem_eraseIdx hmem)
      rw [hcondition, flagsTruthful_toggle_iff hrow removed, truthful_erase_iff hothers]
      cases isFollowing with
      | false =>
          simp only [forall_const, Bool.false_eq_true, false_and, or_false]
          exact and_iff_left_of_imp Or.inl
      | true => simp
  | follow row data shown flag =>
      have hcondition : KeepsIcons f (.followingButtonPressed row) := by
        simp [KeepsIcons, shown, flag]
      refine iff_of_true ?_ hcondition
      intro other hmem hflag
      rw [shops_follow, List.mem_append]
      cases List.mem_or_eq_of_mem_set hmem with
      | inl hold => exact Or.inl (h other hold hflag)
      | inr hnew => exact Or.inr (by simp [hnew, flagged, shopId])

/-- Let every fetched flag be absent or truthful when fetched. Along every such run the
icons are truthful exactly if all steps meet `KeepsIcons`. -/
theorem icons_truthful_iff (h : controller.run {} es = some vc)
    (hfetched : controller.Meets (fun vc => AgreesWhenFetched vc.follows) {} es) :
    controller.Along IconsTruthful {} es ↔
      controller.Meets (fun vc => KeepsIcons vc.follows) {} es := by
  refine Machine.along_iff_meets (J := fun vc => WithUsers vc.follows) ⟨?_, ?_⟩ ?_ ?_ ?_ h hfetched
  · intro entry hmem
    cases hmem
  · intro data hmem
    cases hmem
  · intro data hmem
    cases hmem
  · exact fun t e u hj hfetched hstep => withUsers_step hj hfetched (follows_step hstep)
  · intro t e u hj hp hfetched hstep
    have husers := withUsers_step hj hfetched (follows_step hstep)
    rw [iconsTruthful_iff husers]
    exact flagsTruthful_step hfetched (follows_step hstep) ((iconsTruthful_iff hj).mp hp)

/-- Shop 1 is followed and unfollowed on its recommended row. -/
theorem icons_truthful_iff_toggling :
    controller.Along IconsTruthful {} [.setRecommend [shop 1], .followingButtonPressed 0,
      .followingButtonPressed 0] := by
  have hrun : ∃ vc, controller.run {} [.setRecommend [shop 1], .followingButtonPressed 0,
      .followingButtonPressed 0] = some vc := ⟨_, rfl⟩
  obtain ⟨vc, hrun⟩ := hrun
  exact (icons_truthful_iff hrun (by decide)).mpr (by decide)

/-- Shop 1 is followed on its recommended row and unfollowed on the other tab. -/
theorem icon_stays_on_after_unfollow :
    ¬ ∀ es vc, controller.Meets (fun vc => AgreesWhenFetched vc.follows) {} es →
      controller.run {} es = some vc → IconsTruthful vc := by
  intro halways
  have hrun : ∃ vc, controller.run {} [.setRecommend [shop 1], .followingButtonPressed 0,
      .unFollowingButtonPressed 0] = some vc ∧ vc.follows.shops = [] ∧
        vc.recommendArray = [flagged (shop 1) true] ∧
          vc.followingImage (flagged (shop 1) true) = some "FollowingImage" :=
    ⟨_, rfl, rfl, rfl, rfl⟩
  obtain ⟨vc, hrun, hshops, hrow, himage⟩ := hrun
  have htruthful := halways _ _ (by decide) hrun (flagged (shop 1) true) (by simp [hrow])
  have hfollowed := htruthful.mp himage
  rw [hshops] at hfollowed
  cases hfollowed

end BunjangClone.Following
