import Mathlib.Algebra.GroupWithZero.Nat
import BunjangClone.Home.Pager

/-!
# The pages of a stay

Every disappearance resets the counter, so the disappearances cut a run into stays that do not
count on each other. Within a stay each last row displayed asks for the page after the one
before, and the appearance for the page reached so far. That is page 1, unless rows were still
displayed after the disappearance that began the stay.
-/

namespace BunjangClone.Home

open Reactive

/-! ## Stays -/

/-- What the requests depend on. -/
inductive Move where
  | appears
  | leaves
  | lastRow
deriving DecidableEq, Repr

/-- How many last rows were displayed before the screen appeared, and since then. -/
structure Stay where
  before : Nat := 0
  after : Option Nat := none
deriving DecidableEq, Repr

namespace Stay

/-- The last page the stay has asked for, or the one it starts from. -/
def reached (stay : Stay) : Nat := stay.before + 1 + stay.after.getD 0

/-- The appearance asks for the page reached again. -/
def pages (stay : Stay) : List Nat :=
  List.range' 2 stay.before ++
    stay.after.elim [] fun displayed => List.range' (stay.before + 1) (displayed + 1)

/-- How often the stay asks for a page. -/
def asks (stay : Stay) (page : Nat) : Nat :=
  (if 2 ≤ page ∧ page ≤ stay.reached then 1 else 0) +
    if stay.after.isSome ∧ page = stay.before + 1 then 1 else 0

theorem count_range' (start length page : Nat) :
    (List.range' start length).count page =
      if start ≤ page ∧ page < start + length then 1 else 0 := by
  rw [List.Nodup.count List.nodup_range']
  simp only [List.mem_range'_1]

theorem count_pages (stay : Stay) (page : Nat) : stay.pages.count page = stay.asks page := by
  obtain ⟨before, _ | displayed⟩ := stay
  · simp only [pages, asks, reached, Option.elim_none, List.append_nil, count_range',
      Option.getD_none, Option.isSome_none, Bool.false_eq_true, false_and, if_false]
    congr 1
    apply propext
    omega
  · simp only [pages, asks, reached, Option.elim_some, List.count_append, count_range',
      Option.getD_some, Option.isSome_some, true_and]
    grind

end Stay

/-- The stays of a run; the last one goes on. -/
structure Stays where
  earlier : List Stay := []
  current : Stay := {}
deriving DecidableEq, Repr

namespace Stays

def all (stays : Stays) : List Stay := stays.earlier ++ [stays.current]

def note (stays : Stays) : Move → Stays
  | .appears => { stays with current := { stays.current with after := some 0 } }
  | .leaves => ⟨stays.all, {}⟩
  | .lastRow =>
      match stays.current.after with
      | none => { stays with current := { stays.current with before := stays.current.before + 1 } }
      | some displayed =>
          { stays with current := { stays.current with after := some (displayed + 1) } }

def pages (stays : Stays) : List Nat := stays.all.flatMap Stay.pages

theorem pages_eq (stays : Stays) :
    stays.pages = stays.earlier.flatMap Stay.pages ++ stays.current.pages := by
  simp [pages, all]

theorem count_pages (stays : Stays) (page : Nat) :
    stays.pages.count page = (stays.all.map fun stay => stay.asks page).sum := by
  simp only [pages, List.count_flatMap, Function.comp_def, Stay.count_pages]

end Stays

def moves (vc : HomeViewController) : Callback → List Move
  | .viewWillAppear => [.appears]
  | .viewWillDisappear => [.leaves]
  | .willDisplay row => if row + 1 = vc.ItemArray.length then [.lastRow] else []
  | .answer _ _ | .runBlock => []

def stays (es : List Callback) : Stays := (controller.collect moves {} es).foldl Stays.note {}

variable {vc vc' : HomeViewController} {es ds : List Callback} {e : Callback}

/-! ## One callback -/

/-- The stays so far account for the counter and for the pages asked for. -/
structure Stays.Account (stays : Stays) (asked : List Nat) (vc : HomeViewController) : Prop where
  asked : asked = stays.pages
  appeared : ∀ stay ∈ stays.earlier, stay.after.isSome = true
  visible : vc.visible = stays.current.after.isSome
  page : vc.page = stays.current.reached

variable {stays : Stays} {asked : List Nat}

theorem Stays.Account.frame (h : stays.Account asked vc) (hpage : vc'.page = vc.page)
    (hvisible : vc'.visible = vc.visible) : stays.Account asked vc' :=
  ⟨h.asked, h.appeared, hvisible.trans h.visible, hpage.trans h.page⟩

theorem Stays.Account.appears (h : stays.Account asked vc) (hidden : vc.visible = false) :
    (stays.note .appears).Account (asked ++ [vc.page]) vc.viewWillAppear := by
  have hnone : stays.current.after = none := by
    rw [h.visible] at hidden
    simpa using hidden
  have hpage : vc.page = stays.current.before + 1 := by
    rw [h.page, Stay.reached, hnone]
    rfl
  refine ⟨?_, h.appeared, rfl, ?_⟩
  · rw [h.asked, Stays.pages_eq, Stays.pages_eq, hpage, List.append_assoc]
    simp [Stays.note, Stay.pages, hnone]
  · exact hpage

theorem Stays.Account.leaves (h : stays.Account asked vc) (hshown : vc.visible = true) :
    (stays.note .leaves).Account asked vc.viewWillDisappear := by
  refine ⟨?_, fun stay hmem => ?_, rfl, rfl⟩
  · rw [h.asked, Stays.pages_eq]
    simp [Stays.note, Stays.all, Stays.pages, Stay.pages]
  · obtain hearlier | hcurrent := List.mem_append.mp hmem
    · exact h.appeared stay hearlier
    · rw [List.mem_singleton.mp hcurrent, ← h.visible, hshown]

theorem Stays.Account.lastRow (h : stays.Account asked vc) :
    (stays.note .lastRow).Account (asked ++ [vc.page + 1])
      ({ vc with page := vc.page + 1 }.getHomeItem (vc.page + 1)) := by
  obtain ⟨earlier, before, _ | displayed⟩ := stays
  · have hpage : vc.page = before + 1 := h.page
    refine ⟨?_, h.appeared, h.visible, ?_⟩
    · rw [h.asked, Stays.pages_eq, Stays.pages_eq, List.append_assoc]
      simp [Stays.note, Stay.pages, hpage, List.range'_1_concat, Nat.add_comm 2]
    · show vc.page + 1 = before + 1 + 1
      rw [hpage]
  · have hpage : vc.page = before + 1 + displayed := h.page
    refine ⟨?_, h.appeared, h.visible, ?_⟩
    · rw [h.asked, Stays.pages_eq, Stays.pages_eq, List.append_assoc]
      simp [Stays.note, Stay.pages, hpage, List.range'_1_concat, Nat.add_assoc]
    · show vc.page + 1 = before + 1 + (displayed + 1)
      rw [hpage, Nat.add_assoc]

theorem Stays.Account.step (h : stays.Account asked vc) (hstep : controller.step vc e = some vc') :
    ((moves vc e).foldl Stays.note stays).Account (asked ++ sent vc e) vc' := by
  cases e with
  | viewWillAppear =>
      obtain ⟨hidden, rfl⟩ := step_viewWillAppear.mp hstep
      exact h.appears hidden
  | viewWillDisappear =>
      obtain ⟨hshown, rfl⟩ := step_viewWillDisappear.mp hstep
      simp only [sent, List.append_nil]
      exact h.leaves hshown
  | willDisplay row =>
      obtain ⟨_, rfl⟩ := step_willDisplay.mp hstep
      rw [HomeViewController.willDisplay, moves, sent]
      by_cases hlast : row + 1 = vc.ItemArray.length
      · rw [if_pos hlast, if_pos hlast, if_pos hlast]
        exact h.lastRow
      · rw [if_neg hlast, if_neg hlast, if_neg hlast, List.append_nil]
        exact h
  | answer index response =>
      obtain ⟨page, rest, _, mainQueue, rfl⟩ := answer_cases hstep
      simp only [sent, List.append_nil]
      exact h.frame rfl rfl
  | runBlock =>
      obtain ⟨result, rest, _, rfl⟩ := step_runBlock.mp hstep
      simp only [sent, List.append_nil]
      exact h.frame rfl rfl

/-! ## Runs -/

theorem stays_run (h : controller.run {} es = some vc) :
    (Home.stays es).Account (controller.collect sent {} es) vc := by
  refine Machine.run_induction (m := controller)
    (P := fun es vc => (Home.stays es).Account (controller.collect sent {} es) vc) ?_ ?_ es vc h
  · exact ⟨rfl, by simp [Home.stays], rfl, rfl⟩
  · intro es t e u ht ih hstep
    rw [Machine.collect_concat sent ht, Home.stays, Machine.collect_concat moves ht,
      List.foldl_append]
    exact ih.step hstep

/-- The first stay begins with an appearance. -/
def Stays.Entered (stays : Stays) : Prop :=
  ∃ displayed, stays.all.head? = some ⟨0, some displayed⟩

theorem Stays.Entered.note (h : stays.Entered) (move : Move) : (stays.note move).Entered := by
  obtain ⟨displayed, hfirst⟩ := h
  obtain ⟨earlier, current⟩ := stays
  cases earlier with
  | nil =>
      obtain rfl : current = ⟨0, some displayed⟩ := Option.some.inj hfirst
      cases move with
      | appears => exact ⟨0, rfl⟩
      | leaves => exact ⟨displayed, rfl⟩
      | lastRow => exact ⟨displayed + 1, rfl⟩
  | cons first rest =>
      obtain rfl : first = ⟨0, some displayed⟩ := Option.some.inj hfirst
      refine ⟨displayed, ?_⟩
      cases move with
      | appears | leaves => rfl
      | lastRow =>
          rw [Stays.note]
          split <;> rfl

theorem Stays.Entered.foldl (h : stays.Entered) (moves : List Move) :
    (moves.foldl Stays.note stays).Entered := by
  induction moves generalizing stays with
  | nil => exact h
  | cons move moves ih => exact ih (h.note move)

/-- Before the first appearance there is no row to display. -/
theorem entered_run (h : controller.run {} es = some vc) (hes : es ≠ []) :
    (Home.stays es).Entered := by
  refine Machine.run_induction (m := controller)
    (P := fun es _ => es ≠ [] → (Home.stays es).Entered) (fun hnil => absurd rfl hnil) ?_ es vc h
    hes
  intro es t e u ht ih hstep _
  rw [Home.stays, Machine.collect_concat moves ht, List.foldl_append]
  by_cases hnil : es = []
  · subst hnil
    obtain rfl : ({} : HomeViewController) = t := by simpa using ht
    cases e with
    | viewWillAppear => exact ⟨0, rfl⟩
    | willDisplay row => cases (step_willDisplay.mp hstep).1
    | viewWillDisappear | answer | runBlock => cases hstep
  · exact (ih hnil).foldl _

/-- In every run, the pages asked for are those of its stays one after another, and a page is
loaded at most as often as the stays ask for it. Every stay but the last has appeared. -/
theorem pages_of_stays (h : controller.run {} es = some vc) :
    controller.collect sent {} es = (Home.stays es).pages ∧
      (∀ stay ∈ (Home.stays es).earlier, stay.after.isSome = true) ∧
      vc.page = (Home.stays es).current.reached ∧
      ∀ page, (controller.collect served {} es).count page ≤
        ((Home.stays es).all.map fun stay => stay.asks page).sum := by
  have hstays := stays_run h
  refine ⟨hstays.asked, hstays.appeared, hstays.page, fun page => ?_⟩
  have hperm := (requests_run h).count_eq page
  simp only [List.count_append, List.count_nil, Nat.zero_add] at hperm
  rw [← Stays.count_pages, ← hstays.asked]
  omega

/-- Item `k` alone on page `k`. -/
def numberedPage (k : Nat) : List HomeItem := [⟨k, "", 0, none, 0, "", none, ""⟩]

/-- The last row is displayed once more while the screen goes away, so both this and the next
appearance ask for page 2 again. -/
def displayedWhileLeaving : List Callback :=
  [.viewWillAppear, .answer 0 (grant numberedPage 1), .runBlock, .willDisplay 0,
    .viewWillDisappear, .willDisplay 0, .viewWillAppear]

theorem pages_of_stays_displayedWhileLeaving :
    controller.collect sent {} displayedWhileLeaving = [1, 2, 2, 2] ∧
      ∀ page, (controller.collect served {} displayedWhileLeaving).count page ≤
        ([⟨0, some 1⟩, ⟨1, some 0⟩].map fun stay : Stay => stay.asks page).sum := by
  have hrun : controller.run {} displayedWhileLeaving = some _ := rfl
  have hpages := pages_of_stays hrun
  exact ⟨hpages.1, hpages.2.2.2⟩

end BunjangClone.Home
