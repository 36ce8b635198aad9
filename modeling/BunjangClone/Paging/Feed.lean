import Mathlib.Data.List.Nodup

/-!
# Paged feeds

A feed is a sequence of pages whose entries have pairwise distinct keys. A client that
concatenates pages repeats a key exactly when it takes a nonempty page twice, and if no
page is empty the concatenation determines which pages were taken and in which order.
-/

namespace Paging

variable {α κ : Type*}

/-- The nonempty pages among those taken, in order. -/
def filled (page : Nat → List α) (L : List Nat) : List Nat :=
  L.filter fun k => !(page k).isEmpty

section Filled

variable {page : Nat → List α} {L M : List Nat} {k : Nat}

theorem mem_filled : k ∈ filled page L ↔ k ∈ L ∧ page k ≠ [] := by
  simp [filled]

theorem filled_cons_of_empty (h : page k = []) : filled page (k :: L) = filled page L := by
  simp [filled, h]

theorem filled_cons_of_ne (h : page k ≠ []) :
    filled page (k :: L) = k :: filled page L := by
  simp [filled, h]

theorem filled_perm (page : Nat → List α) (h : L.Perm M) :
    (filled page L).Perm (filled page M) :=
  h.filter _

/-- A page is taken once exactly if it is empty or occurs once. -/
theorem nodup_filled_iff : (filled page L).Nodup ↔ ∀ k, page k ≠ [] → L.count k ≤ 1 := by
  rw [List.nodup_iff_count_le_one]
  refine forall_congr' fun k => ?_
  by_cases hk : page k = []
  · simp [filled, List.count_eq_zero_of_not_mem, hk]
  · rw [filled, List.count_filter (by simpa using hk)]
    simp [hk]

/-- Empty pages leave no trace in the concatenation. -/
theorem flatMap_filled : (filled page L).flatMap page = L.flatMap page := by
  induction L with
  | nil => rfl
  | cons k L ih =>
      by_cases hk : page k = []
      · rw [filled_cons_of_empty hk, ih, List.flatMap_cons, hk, List.nil_append]
      · rw [filled_cons_of_ne hk, List.flatMap_cons, List.flatMap_cons, ih]

end Filled

/-- Pages with their distinctness: no key twice on a page, none on two pages. -/
structure Feed (α κ : Type*) (key : α → κ) where
  page : Nat → List α
  nodup : ∀ k, ((page k).map key).Nodup
  disjoint : ∀ j k, j ≠ k → List.Disjoint ((page j).map key) ((page k).map key)

namespace Feed

variable {key : α → κ} {feed : Feed α κ key} {L M : List Nat} {k : Nat}

/-- An entry has its key on one page only. -/
theorem page_eq_of_key {j : Nat} {a b : α} (ha : a ∈ feed.page j) (hb : b ∈ feed.page k)
    (h : key a = key b) : j = k := by
  by_contra hne
  exact feed.disjoint j k hne (List.mem_map_of_mem ha) (h ▸ List.mem_map_of_mem hb)

/-- The keys of page `k` occur among those of the pages `L` exactly if `L` takes `k`. -/
theorem disjoint_iff (hk : feed.page k ≠ []) :
    List.Disjoint ((feed.page k).map key) ((L.flatMap feed.page).map key) ↔
      k ∉ filled feed.page L := by
  constructor
  · intro hdisj hmem
    obtain ⟨a, ha⟩ := List.exists_mem_of_ne_nil _ hk
    have hL : a ∈ L.flatMap feed.page := List.mem_flatMap.mpr ⟨k, (mem_filled.mp hmem).1, ha⟩
    exact hdisj (List.mem_map_of_mem ha) (List.mem_map_of_mem hL)
  · intro hk' x hx hx'
    obtain ⟨a, ha, rfl⟩ := List.mem_map.mp hx
    obtain ⟨b, hb, hkey⟩ := List.mem_map.mp hx'
    obtain ⟨j, hj, hbj⟩ := List.mem_flatMap.mp hb
    obtain rfl : j = k := page_eq_of_key hbj ha hkey
    exact hk' (mem_filled.mpr ⟨hj, hk⟩)

/-- Concatenated pages repeat a key exactly when a nonempty page was taken twice. -/
theorem nodup_flatMap_iff :
    ((L.flatMap feed.page).map key).Nodup ↔ (filled feed.page L).Nodup := by
  induction L with
  | nil => simp [filled]
  | cons k L ih =>
      rw [List.flatMap_cons, List.map_append, List.nodup_append', ih]
      by_cases hk : feed.page k = []
      · simp [filled_cons_of_empty hk, hk]
      · rw [filled_cons_of_ne hk, List.nodup_cons, disjoint_iff hk]
        have hpage := feed.nodup k
        tauto

/-- Without empty pages, the concatenation determines the pages taken. -/
theorem flatMap_injective (hL : ∀ k ∈ L, feed.page k ≠ []) (hM : ∀ k ∈ M, feed.page k ≠ [])
    (h : L.flatMap feed.page = M.flatMap feed.page) : L = M := by
  induction L generalizing M with
  | nil =>
      cases M with
      | nil => rfl
      | cons k M => simp [hM k (by simp)] at h
  | cons j L ih =>
      cases M with
      | nil => simp [hL j (by simp)] at h
      | cons k M =>
          obtain ⟨a, as, ha⟩ := List.exists_cons_of_ne_nil (hL j (by simp))
          obtain ⟨b, bs, hb⟩ := List.exists_cons_of_ne_nil (hM k (by simp))
          have hhead : a = b := by
            rw [List.flatMap_cons, List.flatMap_cons, ha, hb] at h
            exact (List.cons.inj h).1
          obtain rfl : j = k :=
            page_eq_of_key (show a ∈ feed.page j by simp [ha]) (show b ∈ feed.page k by simp [hb])
              (congrArg key hhead)
          rw [List.flatMap_cons, List.flatMap_cons] at h
          rw [ih (fun i hi => hL i (by simp [hi])) (fun i hi => hM i (by simp [hi]))
            (List.append_cancel_left h)]

/-- The concatenation determines which nonempty pages were taken, and in which order. -/
theorem flatMap_eq_iff :
    L.flatMap feed.page = M.flatMap feed.page ↔ filled feed.page L = filled feed.page M := by
  constructor
  · intro h
    rw [← flatMap_filled, ← flatMap_filled (L := M)] at h
    exact flatMap_injective (fun _ hk => (mem_filled.mp hk).2) (fun _ hk => (mem_filled.mp hk).2) h
  · intro h
    rw [← flatMap_filled, h, flatMap_filled]

end Feed
end Paging
