import BunjangClone.Following.Follows

/-!
# Where the followed shops come from

Whatever rows are pressed and however often the recommended shops are fetched again, the lists
hold what the server delivered, changed in nothing but the flag of an entry.
-/

namespace BunjangClone.Following

open Reactive

variable {vc : FollowingViewController}

/-- The list of recommended shops a callback brings. -/
def Callback.delivered : Callback → Option (List FollowingData)
  | .setRecommend result => some result
  | _ => none

/-- An entry as the server sent it, but for the flag that presses set. -/
def unflagged (data : FollowingData) : FollowingData :=
  { data with isFollowing := none }

def Sent (results : List (List FollowingData)) (data : FollowingData) : Prop :=
  ∃ result ∈ results, unflagged data ∈ result.map unflagged

/-- The recommended shops are those delivered last, the followed ones were delivered at some
time and are flagged as followed, and so was every post of the feed. -/
structure Delivered (results : List (List FollowingData)) (f : Follows) : Prop where
  recommend : f.recommend.map unflagged = (results.getLast?.getD []).map unflagged
  following : ∀ data ∈ f.following, data.isFollowing = some true ∧ Sent results data
  posts : ∀ post ∈ f.posts, ∃ data, Sent results data ∧ post ∈ data.postData

theorem Sent.append {results later : List (List FollowingData)} {data : FollowingData}
    (h : Sent results data) : Sent (results ++ later) data := by
  obtain ⟨result, hmem, hdata⟩ := h
  exact ⟨result, List.mem_append_left later hmem, hdata⟩

/-- Flags set on a row are the only change to what was delivered. -/
theorem map_unflagged_set {entries : List FollowingData} {row : Nat} {data : FollowingData}
    (hrow : entries[row]? = some data) (isFollowing : Bool) :
    (entries.set row (flagged data isFollowing)).map unflagged = entries.map unflagged := by
  have hsame : unflagged (flagged data isFollowing) = unflagged data := rfl
  obtain ⟨hbound, rfl⟩ := List.getElem?_eq_some_iff.mp hrow
  rw [List.map_set, hsame]
  apply List.ext_getElem?
  intro i
  by_cases hi : row = i
  · subst hi
    simp [hbound]
  · simp [List.getElem?_set_ne hi]

/-- A recommended row was delivered. -/
theorem Delivered.sent {results : List (List FollowingData)} {f : Follows} {row : Nat}
    {data : FollowingData} (h : Delivered results f) (hrow : f.recommend[row]? = some data) :
    Sent results data := by
  have hmem : unflagged data ∈ (results.getLast?.getD []).map unflagged := by
    rw [← h.recommend]
    exact List.mem_map_of_mem (List.mem_of_getElem? hrow)
  cases hlast : results.getLast? with
  | none => simp [hlast] at hmem
  | some result =>
      rw [hlast] at hmem
      exact ⟨result, List.mem_of_getLast? hlast, hmem⟩

theorem Delivered.step {results : List (List FollowingData)} {f f' : Follows} {c : Callback}
    (h : Delivered results f) (hstep : f.Step c f') :
    Delivered (results ++ c.delivered.toList) f' := by
  cases hstep with
  | viewDidAppear | recommendButtonPressed | select => simpa [Callback.delivered] using h
  | selectFeed index =>
      have hnone : results ++ (Callback.didSelectItemAt index).delivered.toList = results := by
        simp [Callback.delivered]
      rw [hnone]
      refine ⟨h.recommend, h.following, fun post hmem => ?_⟩
      obtain ⟨data, hdata, hpost⟩ := List.mem_flatMap.mp hmem
      exact ⟨data, (h.following data hdata).2, hpost⟩
  | setRecommend result =>
      refine ⟨by simp [Callback.delivered], fun data hmem => ?_, fun post hmem => ?_⟩
      · exact ⟨(h.following data hmem).1, (h.following data hmem).2.append⟩
      · obtain ⟨data, hsent, hpost⟩ := h.posts post hmem
        exact ⟨data, hsent.append, hpost⟩
  | unFollow row bound =>
      refine ⟨by simpa [Callback.delivered] using h.recommend, fun data hmem => ?_,
        by simpa [Callback.delivered] using h.posts⟩
      have hold := h.following data (List.mem_of_mem_eraseIdx hmem)
      exact ⟨hold.1, hold.2.append⟩
  | toggle row data isFollowing rest shown flag removed =>
      refine ⟨?_, fun other hmem => ?_, by simpa [Callback.delivered] using h.posts⟩
      · rw [map_unflagged_set shown]
        simpa [Callback.delivered] using h.recommend
      · have hold := h.following other ((removeShop_sublist removed).subset hmem)
        exact ⟨hold.1, hold.2.append⟩
  | follow row data shown flag =>
      refine ⟨?_, fun other hmem => ?_, by simpa [Callback.delivered] using h.posts⟩
      · rw [map_unflagged_set shown]
        simpa [Callback.delivered] using h.recommend
      · obtain hmem | hmem := List.mem_append.mp hmem
        · have hold := h.following other hmem
          exact ⟨hold.1, hold.2.append⟩
        · obtain rfl := List.mem_singleton.mp hmem
          exact ⟨rfl, (h.sent shown).append⟩

/-- In every run, whatever rows are pressed, the screen shows nothing the server did not send. -/
theorem follows_delivered {cs : List Callback} (h : controller.run {} cs = some vc) :
    Delivered (cs.filterMap Callback.delivered) vc.follows := by
  refine Machine.run_induction (P := fun cs (vc : FollowingViewController) =>
    Delivered (cs.filterMap Callback.delivered) vc.follows) ?_ ?_ cs vc h
  · show Delivered [] ⟨[], [], []⟩
    exact ⟨rfl, by simp, by simp⟩
  · intro cs vc c vc' _ ih hstep
    rw [List.filterMap_append]
    have hone : [c].filterMap Callback.delivered = c.delivered.toList := by
      cases hdelivered : c.delivered <;> simp [hdelivered]
    rw [hone]
    exact ih.step (follows_step hstep)

/-- A followed shop stays when the recommended ones are fetched again. -/
def refetched : List Callback :=
  [.setRecommend [shop 1], .followingButtonPressed 0, .setRecommend [shop 2], .viewDidAppear,
    .didSelectItemAt 0]

theorem follows_delivered_refetched :
    ∃ vc, controller.run {} refetched = some vc ∧
      Delivered (refetched.filterMap Callback.delivered) vc.follows ∧ vc.postArray.length = 3 :=
  ⟨_, rfl, follows_delivered rfl, rfl⟩

end BunjangClone.Following
