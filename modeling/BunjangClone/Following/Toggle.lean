import BunjangClone.Following.Icons

/-!
# The follow button as a toggle

A press on a recommended row asks the row's flag, not the followed shops, what to do, and
only a row without a flag is ever followed. A row with a flag removes its shop if it
finds it, whatever the flag says. So a pair of presses follows and unfollows the shop of
a fresh row, and no other pair restores what was followed.
-/

namespace BunjangClone.Following

open Reactive FollowingViewController

variable {vc vc' vc'' : FollowingViewController} {data : FollowingData} {row : Nat}
variable {entries rest : List FollowingData} {userId : Int}

/-- Two presses on the row of shop `userId`, from `vc` over `vc'` to `vc''`. -/
structure Toggled (vc vc' vc'' : FollowingViewController) (row : Nat) (userId : Int) : Prop where
  first : vc.followingButtonPressed row = some vc'
  toggles : some userId ∈ vc'.follows.shops ↔ some userId ∉ vc.follows.shops
  others : vc'.followingArray.filter (fun entry => shopId entry ≠ some userId) =
    vc.followingArray.filter fun entry => shopId entry ≠ some userId
  rows : ∀ other, other ≠ row → vc'.recommendArray[other]? = vc.recommendArray[other]?
  second : vc'.followingButtonPressed row = some vc''
  restores : ∀ followed, some followed ∈ vc''.follows.shops ↔ some followed ∈ vc.follows.shops

/-- The follow button of the row is a toggle for its shop. -/
def TogglesShop (vc : FollowingViewController) (row : Nat) (userId : Int) : Prop :=
  ∃ vc' vc'', Toggled vc vc' vc'' row userId

/-- The row has no flag, its shop is not followed, and each followed entry has a user. -/
structure FreshRow (vc : FollowingViewController) (data : FollowingData) : Prop where
  unflagged : data.isFollowing = none
  unfollowed : shopId data ∉ vc.follows.shops
  users : ∀ entry ∈ vc.followingArray, entry.userData ≠ []

/-! ## One press -/

theorem shopId_flagged (data : FollowingData) (isFollowing : Bool) :
    shopId (flagged data isFollowing) = shopId data := rfl

/-- A press removes the shop of a row with a flag and appends that of a row without. -/
theorem followingButtonPressed_cases (hrow : vc.recommendArray[row]? = some data)
    (h : vc.followingButtonPressed row = some vc') :
    (∃ isFollowing, data.isFollowing = some isFollowing ∧
        removeShop data vc.followingArray = some vc'.followingArray ∧
        vc'.recommendArray = vc.recommendArray.set row (flagged data !isFollowing)) ∨
      (data.isFollowing = none ∧
        vc'.followingArray = vc.followingArray ++ [flagged data true] ∧
        vc'.recommendArray = vc.recommendArray.set row (flagged data true)) := by
  obtain ⟨next, hnext, rfl⟩ := Option.map_eq_some_iff.mp h
  simp only [toggleRow, hrow, Option.bind_some] at hnext
  cases hflag : data.isFollowing with
  | some isFollowing =>
      simp only [hflag] at hnext
      obtain ⟨rest, hrest, rfl⟩ := Option.map_eq_some_iff.mp hnext
      exact .inl ⟨isFollowing, rfl, hrest, rfl⟩
  | none =>
      simp only [hflag] at hnext
      obtain rfl := Option.some.inj hnext
      exact .inr ⟨rfl, rfl, rfl⟩

theorem getElem?_set_row (hrow : vc.recommendArray[row]? = some data) {shown : FollowingData}
    (hset : vc'.recommendArray = vc.recommendArray.set row shown) :
    vc'.recommendArray[row]? = some shown := by
  rw [hset]
  exact List.getElem?_set_self (List.getElem?_eq_some_iff.mp hrow).1

/-- The loop only looks at the shop of the row. -/
theorem removeShop_flagged (data : FollowingData) (isFollowing : Bool)
    (entries : List FollowingData) :
    removeShop (flagged data isFollowing) entries = removeShop data entries := by
  induction entries with
  | nil => rfl
  | cons entry entries ih =>
      have huser : (flagged data isFollowing).userData = data.userData := rfl
      simp only [removeShop, ih, huser]

/-- A press of a row with a flag goes through if the loop does. -/
theorem followingButtonPressed_of_flag {isFollowing : Bool}
    (hrow : vc.recommendArray[row]? = some (flagged data isFollowing))
    (hrest : removeShop data vc.followingArray = some rest) :
    ∃ vc', vc.followingButtonPressed row = some vc' ∧ vc'.followingArray = rest := by
  have htoggle : vc.toggleRow row = some { vc with
      followingArray := rest
      recommendArray :=
        vc.recommendArray.set row (flagged (flagged data isFollowing) !isFollowing) } := by
    rw [toggleRow, hrow, Option.bind_some]
    simp only [flagged]
    have hloop := removeShop_flagged data isFollowing vc.followingArray
    rw [hrest] at hloop
    exact congrArg _ hloop
  rw [followingButtonPressed, htoggle, Option.map_some]
  exact ⟨_, rfl, rfl⟩

/-! ## The loop -/

theorem exists_user (h : shopId data = some userId) :
    ∃ user, data.userData[0]? = some user ∧ user.userId = userId := by
  rw [shopId] at h
  exact Option.map_eq_some_iff.mp h

/-- Past the other shops the loop reaches the last entry. -/
theorem removeShop_concat {last : FollowingData} (husers : ∀ entry ∈ entries, entry.userData ≠ [])
    (hother : shopId data ∉ entries.map shopId) (hlast : shopId last = shopId data)
    (hdata : shopId data = some userId) : removeShop data (entries ++ [last]) = some entries := by
  obtain ⟨user, huser, hid⟩ := exists_user hdata
  induction entries with
  | nil =>
      obtain ⟨shop, hshop, hsame⟩ := exists_user (hlast.trans hdata)
      simp [removeShop, huser, hshop, hid, hsame]
  | cons entry entries ih =>
      obtain ⟨shop, hshop, hshopId⟩ := shopId_eq_some (husers entry List.mem_cons_self)
      have hne : shop.userId ≠ user.userId := by
        intro hsame
        apply hother
        rw [List.map_cons, hshopId, hdata, hsame, hid]
        exact List.mem_cons_self
      have hrest := ih (fun other hmem => husers other (List.mem_cons_of_mem _ hmem))
        fun hmem => hother (List.mem_cons_of_mem _ hmem)
      simp [removeShop, huser, hshop, hne, hrest]

/-- To get past the other shops it needs a user in each of them. -/
theorem users_of_removeShop {last : List FollowingData}
    (h : removeShop data (entries ++ last) = some rest)
    (hother : shopId data ∉ entries.map shopId) : ∀ entry ∈ entries, entry.userData ≠ [] := by
  induction entries generalizing rest with
  | nil => simp
  | cons entry entries ih =>
      simp only [List.cons_append, removeShop, Option.bind_eq_bind, Option.bind_eq_some_iff] at h
      obtain ⟨shop, hshop, user, huser, h⟩ := h
      have hids : shopId entry = some shop.userId ∧ shopId data = some user.userId := by
        simp [shopId, hshop, huser]
      have hne : shop.userId ≠ user.userId := by
        intro hsame
        apply hother
        rw [List.map_cons, hids.1, hids.2, hsame]
        exact List.mem_cons_self
      rw [if_neg hne] at h
      obtain ⟨tail, htail, _⟩ := Option.bind_eq_some_iff.mp h
      have hrest := ih htail fun hmem => hother (List.mem_cons_of_mem _ hmem)
      refine List.forall_mem_cons.mpr ⟨fun hempty => ?_, hrest⟩
      rw [hempty] at hshop
      cases hshop

/-! ## Two presses -/

/-- A row with a flag does not restore what its first press removes. -/
theorem unflagged_of_toggled (hrow : vc.recommendArray[row]? = some data)
    (hshop : shopId data = some userId) (h : Toggled vc vc' vc'' row userId) :
    data.isFollowing = none := by
  obtain ⟨isFollowing, _, hremoved, hset⟩ | ⟨hnone, _, _⟩ :=
    followingButtonPressed_cases hrow h.first
  · exfalso
    have hfirst : vc'.follows.shops = vc.follows.shops.erase (some userId) := by
      rw [← hshop]
      exact shops_removeShop hremoved
    have hfollowed : some userId ∈ vc.follows.shops := by
      by_contra hnot
      have hin := h.toggles.mpr hnot
      rw [hfirst] at hin
      exact hnot (List.mem_of_mem_erase hin)
    have hgone : some userId ∉ vc'.follows.shops := fun hin => h.toggles.mp hin hfollowed
    obtain ⟨_, _, hremoved', _⟩ | ⟨hnone, _, _⟩ :=
      followingButtonPressed_cases (getElem?_set_row hrow hset) h.second
    · have hsecond := (removeShop_sublist hremoved').map shopId
      exact hgone (hsecond.subset ((h.restores userId).mpr hfollowed))
    · cases hnone
  · exact hnone

theorem freshRow_of_toggled (hrow : vc.recommendArray[row]? = some data)
    (hshop : shopId data = some userId) (h : Toggled vc vc' vc'' row userId) :
    FreshRow vc data := by
  have hunflagged := unflagged_of_toggled hrow hshop h
  obtain ⟨isFollowing, hflag, _, _⟩ | ⟨_, happended, hset⟩ :=
    followingButtonPressed_cases hrow h.first
  · rw [hunflagged] at hflag
    cases hflag
  · have hshops : vc'.follows.shops = vc.follows.shops ++ [some userId] := by
      simp [Follows.shops, follows, happended, shopId_flagged, hshop]
    have hunfollowed : shopId data ∉ vc.follows.shops := by
      rw [hshop]
      apply h.toggles.mp
      rw [hshops]
      exact List.mem_append_right _ List.mem_cons_self
    refine ⟨hunflagged, hunfollowed, ?_⟩
    obtain ⟨_, _, hremoved, _⟩ | ⟨hnone, _, _⟩ :=
      followingButtonPressed_cases (getElem?_set_row hrow hset) h.second
    · rw [happended, removeShop_flagged] at hremoved
      exact users_of_removeShop hremoved hunfollowed
    · cases hnone

theorem FreshRow.toggled (h : FreshRow vc data) (hrow : vc.recommendArray[row]? = some data)
    (hshop : shopId data = some userId) : TogglesShop vc row userId := by
  have hfirst : ∃ vc', vc.followingButtonPressed row = some vc' := by
    simp only [followingButtonPressed, toggleRow, hrow, Option.bind_some, h.unflagged,
      Option.map_some]
    exact ⟨_, rfl⟩
  obtain ⟨vc', hfirst⟩ := hfirst
  obtain ⟨isFollowing, hflag, _, _⟩ | ⟨_, happended, hset⟩ :=
    followingButtonPressed_cases hrow hfirst
  · rw [h.unflagged] at hflag
    cases hflag
  · have hshops : vc'.follows.shops = vc.follows.shops ++ [some userId] := by
      simp [Follows.shops, follows, happended, shopId_flagged, hshop]
    have hremoved : removeShop data vc'.followingArray = some vc.followingArray := by
      rw [happended]
      exact removeShop_concat h.users h.unfollowed (shopId_flagged data true) hshop
    obtain ⟨vc'', hsecond, hrestored⟩ :=
      followingButtonPressed_of_flag (getElem?_set_row hrow hset) hremoved
    refine ⟨vc', vc'', hfirst, ?_, ?_, ?_, hsecond, ?_⟩
    · refine iff_of_true ?_ ?_
      · rw [hshops]
        exact List.mem_append_right _ List.mem_cons_self
      · rw [← hshop]
        exact h.unfollowed
    · simp [happended, shopId_flagged, hshop]
    · intro other hother
      rw [hset, List.getElem?_set_ne hother.symm]
    · intro followed
      have hsame : vc''.follows.shops = vc.follows.shops := congrArg (List.map shopId) hrestored
      rw [hsame]

/-- In every state the follow button of a row is a toggle for its shop exactly if the row
has no flag, the shop is not followed and each followed entry has a user. -/
theorem toggles_shop_iff (hrow : vc.recommendArray[row]? = some data)
    (hshop : shopId data = some userId) : TogglesShop vc row userId ↔ FreshRow vc data := by
  constructor
  · rintro ⟨vc', vc'', htoggled⟩
    exact freshRow_of_toggled hrow hshop htoggled
  · intro hfresh
    exact hfresh.toggled hrow hshop

/-- The first row of a fetched list, with another shop followed already. -/
theorem toggles_shop_fetched :
    ∃ vc, controller.run {} [.viewDidAppear, .didSelectItemAt 2,
        .setRecommend [shop 1, shop 2], .followingButtonPressed 1] = some vc ∧
      TogglesShop vc 0 1 := by
  have hrun : ∃ vc, controller.run {} [.viewDidAppear, .didSelectItemAt 2,
      .setRecommend [shop 1, shop 2], .followingButtonPressed 1] = some vc ∧
        vc.recommendArray[0]? = some (shop 1) ∧ vc.followingArray = [flagged (shop 2) true] ∧
          vc.follows.shops = [some 2] := ⟨_, rfl, rfl, rfl, rfl⟩
  obtain ⟨vc, hrun, hrow, hfollowing, hshops⟩ := hrun
  refine ⟨vc, hrun, (toggles_shop_iff hrow rfl).mpr ⟨rfl, ?_, ?_⟩⟩
  · rw [hshops]
    decide
  · rw [hfollowing]
    decide

/-- A shop was followed and unfollowed on its row. The next press sets the row's flag and
follows nothing. -/
theorem third_press_follows_nothing :
    ¬ ∀ es vc row data userId, controller.run {} es = some vc →
      vc.recommendArray[row]? = some data → shopId data = some userId →
        TogglesShop vc row userId := by
  intro halways
  have hrun : ∃ vc vc', controller.run {} [.viewDidAppear, .didSelectItemAt 2,
      .setRecommend [shop 1], .followingButtonPressed 0, .followingButtonPressed 0] = some vc ∧
        vc.recommendArray[0]? = some (flagged (shop 1) false) ∧
        vc.followingButtonPressed 0 = some vc' ∧ vc.follows.shops = [] ∧
        vc'.follows.shops = [] := ⟨_, _, rfl, rfl, rfl, rfl, rfl⟩
  obtain ⟨vc, vc', hrun, hrow, hpress, hbefore, hafter⟩ := hrun
  obtain ⟨next, _, htoggled⟩ := halways _ vc 0 _ 1 hrun hrow rfl
  obtain rfl := Option.some.inj (htoggled.first.symm.trans hpress)
  have hfollowed := htoggled.toggles.mpr (by simp [hbefore])
  rw [hafter] at hfollowed
  cases hfollowed

end BunjangClone.Following
