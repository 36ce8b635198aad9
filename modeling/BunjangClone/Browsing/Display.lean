import BunjangClone.Browsing.Steps
import BunjangClone.Detail.Slots

/-!
# What is displayed, and what a touch on it opens

A touch names a row of a collection view, and the controller reads its array at that row
again. Arrays and cells change together, so what opens is what the cell shows. What can go
wrong lies in the answers alone: a list or a page that is not there although the request was
granted, a category without a count, or a detail page with more than its slots can hold.
-/

namespace BunjangClone.Browsing

open Reactive

variable {insertComma : String → String} {browser browser' : Browser} {e : Event}
variable {jwtToken : Option String} {es : List Event}

/-! ## Touches -/

/-- A controller is opened over the others and asks for what it was opened with, or the login
screen takes over if there is no token to ask with. -/
structure Opens (browser : Browser) (opened : Opened) (browser' : Browser) : Prop where
  top : browser'.top.map ViewController.opened = some opened
  below : browser'.pushed.tail = browser.pushed
  requests : browser'.requests = browser.requests ++
    if browser.loads opened then opened.requests browser.controllers.length else []
  left : browser'.left = !browser.loads opened
  untrapped : browser'.trapped = false

/-- A touch on the row opens a controller. -/
def Taps (insertComma : String → String) (browser : Browser) («section» row : Nat)
    (opened : Opened) : Prop :=
  ∃ browser', (browsing insertComma).step browser (.touched (.didSelectItemAt «section» row)) =
    some browser' ∧ Opens browser opened browser'

/-- Each displayed cell opens the page or the category it shows. -/
structure OpensWhatIsShown (insertComma : String → String) (browser : Browser) : Prop where
  home : browser.pushed = [] → ∀ row cell, browser.home.cells[row]? = some (some cell) →
    ∃ item, browser.home.ItemArray[row]? = some item ∧ homeCell insertComma item = some cell ∧
      Taps insertComma browser 0 row (.detail item.postId)
  firstCategory : ∀ vc, browser.top = some (.FirstCategoryViewController vc) →
    ∀ cells row cell, vc.cells[1]? = some cells → cells[row]? = some (some cell) →
      ∃ category, vc.categoryArray[row]? = some category ∧ cell.categoryLabel = category.name ∧
        Taps insertComma browser 1 row (.subCategory (.SubCategoryViewController category))
  subCategory : ∀ vc category, browser.top = some (.SubCategoryViewController vc) →
    vc.controller = .SubCategoryViewController category →
      ∀ row cell, vc.categoryCells[row]? = some (some cell) →
        ∃ entry, vc.categoryArray[row]? = some entry ∧ cell.nameLabel = entry.name ∧
          Taps insertComma browser 0 row (.subCategory
            (.SecondSubCategoryViewController category.id ⟨entry.id, cell.nameLabel, none⟩))

theorem top_pushViewController (opened : Opened) :
    (browser.pushViewController insertComma opened).top =
      some (opened.instantiate insertComma) := by
  rw [pushViewController_eq]
  simp [Browser.top]

theorem opens_pushViewController (hleft : browser.left = false) (htrapped : browser.trapped = false)
    (opened : Opened) :
    Opens browser opened (browser.pushViewController insertComma opened) := by
  refine ⟨?_, ?_, ?_, ?_, ?_⟩
  · rw [top_pushViewController, Option.map_some, opened_instantiate]
  · rw [pushViewController_eq, List.tail_cons]
  · rw [pushViewController_eq]
  · rw [pushViewController_eq]
    simp [hleft]
  · rw [pushViewController_eq]
    exact htrapped

theorem taps_of_select {«section» row : Nat} {opened : Opened} (hleft : browser.left = false)
    (htrapped : browser.trapped = false)
    (h : browser.didSelectItemAt insertComma «section» row =
      some (browser.pushViewController insertComma opened)) :
    Taps insertComma browser «section» row opened := by
  refine ⟨browser.pushViewController insertComma opened, ?_,
    opens_pushViewController hleft htrapped opened⟩
  simp [browsing, step, htrapped, hleft, Browser.touch, h]

/-- The entry behind a displayed cell. -/
theorem entry_of_cell {α κ : Type} {array : List α} {f : α → Option κ} {row : Nat} {cell : κ}
    (h : (array.map f)[row]? = some (some cell)) :
    ∃ entry, array[row]? = some entry ∧ f entry = some cell := by
  rw [List.getElem?_map] at h
  exact Option.map_eq_some_iff.mp h

theorem nameLabel_subCategoryCell {category : Category} {cell : SubCategoryCell}
    (h : subCategoryCell insertComma category = some cell) : cell.nameLabel = category.name := by
  obtain ⟨count, _, rfl⟩ := Option.map_eq_some_iff.mp h
  dsimp only
  split <;> rfl

theorem Sound.opensWhatIsShown (h : Sound insertComma browser) (hleft : browser.left = false)
    (htrapped : browser.trapped = false) : OpensWhatIsShown insertComma browser := by
  refine ⟨fun hpushed row cell hcell => ?_, fun vc htop cells row cell hcells hcell => ?_,
    fun vc category htop hcontroller row cell hcell => ?_⟩
  · have hmapped := hcell
    rw [h.home] at hmapped
    obtain ⟨item, hitem, hshown⟩ := entry_of_cell hmapped
    refine ⟨item, hitem, hshown, taps_of_select hleft htrapped ?_⟩
    have htop := h.top_eq_none.mpr hpushed
    have hopen := openRow_eq insertComma browser
      (fun item : HomeItem => .detail item.postId) hitem
    simp [Browser.didSelectItemAt, htop, hcell, hopen]
  · obtain ⟨id, _, hvc⟩ := top_of_head htop
    have hsync : vc.cells = vc.reloadData.cells := h.controllers _ (List.mem_of_getElem? hvc)
    have hsection : vc.reloadData.cells[1]? =
        some (vc.categoryArray.map fun category => firstCell category.name) := by
      rw [← loadCells_array]
      rfl
    have hmapped : (vc.categoryArray.map fun category => firstCell category.name)[row]? =
        some (some cell) := by
      rw [hsync, hsection] at hcells
      rw [Option.some.inj hcells]
      exact hcell
    obtain ⟨category, hcategory, hshown⟩ := entry_of_cell hmapped
    refine ⟨category, hcategory, ?_, taps_of_select hleft htrapped ?_⟩
    · obtain rfl := Option.some.inj hshown
      rfl
    · have hopen := openRow_eq insertComma browser
        (fun category => .subCategory (.SubCategoryViewController category)) hcategory
      simp [Browser.didSelectItemAt, htop, hcells, hcell, hopen]
  · obtain ⟨id, _, hvc⟩ := top_of_head htop
    have hsync : ViewController.InSync insertComma (.SubCategoryViewController vc) :=
      h.controllers _ (List.mem_of_getElem? hvc)
    have hmapped := hcell
    rw [hsync.1] at hmapped
    obtain ⟨entry, hentry, hshown⟩ := entry_of_cell hmapped
    have hname := nameLabel_subCategoryCell hshown
    refine ⟨entry, hentry, hname, taps_of_select hleft htrapped ?_⟩
    have hopen := openRow_eq insertComma browser
      (fun entry : Category => .subCategory
        (.SecondSubCategoryViewController category.id ⟨entry.id, entry.name, none⟩)) hentry
    simp [Browser.didSelectItemAt, htop, hcontroller, hcell, hopen, hname]

/-- In every state a run reaches, while touches are taken, a touch on a displayed cell opens
what the cell shows. -/
theorem touch_opens_what_is_shown
    (h : (browsing insertComma).run (opened jwtToken) es = some browser)
    (hleft : browser.left = false) (htrapped : browser.trapped = false) :
    OpensWhatIsShown insertComma browser :=
  (sound_run h).opensWhatIsShown hleft htrapped

theorem touch_opens_dress : ∃ browser,
    (browsing id).run (opened (some "jwt")) (dresses.take 3) = some browser ∧
      OpensWhatIsShown id browser := by
  refine ⟨_, rfl, ?_⟩
  have hrun : (browsing id).run (opened (some "jwt")) (dresses.take 3) = some _ := rfl
  exact touch_opens_what_is_shown hrun rfl rfl

/-! ## Answers that can be shown -/

/-- What a granted answer must carry to be shown. -/
def Answer.Complete : Answer → Prop
  | homeItem (.success body) => body.isSuccess = true → body.result.isSome = true
  | product (.success body) => body.isSuccess = true → body.result.isSome = true
  | subCategory (.success body) =>
      body.isSuccess = true → ∀ category ∈ body.result, category.count.isSome = true
  | detail (.success body) => body.isSuccess = true →
      body.result.detailInfo ≠ some [] ∧ body.result.OtherProducts.length ≤ Detail.slotCount
  | _ => True

def CompleteAnswer (_ : Browser) : Event → Prop
  | .answered _ answer => answer.Complete
  | .touched _ | .runBlock => True

instance : DecidablePred Answer.Complete
  | .homeItem (.success body) =>
      inferInstanceAs (Decidable (body.isSuccess = true → body.result.isSome = true))
  | .product (.success body) =>
      inferInstanceAs (Decidable (body.isSuccess = true → body.result.isSome = true))
  | .subCategory (.success body) => inferInstanceAs (Decidable
      (body.isSuccess = true → ∀ category ∈ body.result, category.count.isSome = true))
  | .detail (.success body) => inferInstanceAs (Decidable (body.isSuccess = true →
      body.result.detailInfo ≠ some [] ∧ body.result.OtherProducts.length ≤ Detail.slotCount))
  | .homeItem .failure | .product .failure | .subCategory .failure | .detail .failure
  | .category _ => inferInstanceAs (Decidable True)

instance (browser : Browser) : DecidablePred (CompleteAnswer browser)
  | .answered _ answer => inferInstanceAs (Decidable answer.Complete)
  | .touched _ | .runBlock => inferInstanceAs (Decidable True)

/-- A list of categories whose cells can all be displayed. -/
def Counted (categories : List Category) : Prop :=
  ∀ category ∈ categories, category.count.isSome = true

/-- The process runs, and every category cell that is loaded can be displayed. -/
structure Displays (browser : Browser) : Prop where
  untrapped : browser.trapped = false
  rows : ∀ vc, .SubCategoryViewController vc ∈ browser.controllers →
    ∀ cell ∈ vc.categoryCells, cell.isSome = true

def QueueCounted (browser : Browser) : Prop :=
  ∀ id result, .setCategory id result ∈ browser.mainQueue → Counted result

/-- So it stays while the queued blocks run. -/
structure KeepsDisplaying (browser : Browser) : Prop where
  untrapped : browser.trapped = false
  rows : ∀ vc, .SubCategoryViewController vc ∈ browser.controllers →
    ∀ cell ∈ vc.categoryCells, cell.isSome = true
  queued : QueueCounted browser

theorem isSome_subCategoryCell (insertComma : String → String) (category : Category) :
    (subCategoryCell insertComma category).isSome = category.count.isSome := by
  rw [subCategoryCell, Option.isSome_map]

theorem cells_of_counted (insertComma : String → String) {categories : List Category}
    (h : Counted categories) :
    ∀ cell ∈ categories.map (subCategoryCell insertComma), cell.isSome = true := by
  intro cell hmem
  obtain ⟨category, hcategory, rfl⟩ := List.mem_map.mp hmem
  rw [isSome_subCategoryCell]
  exact h category hcategory

/-! ## A detail page is set up once -/

/-- The detail page a request is for. -/
def Request.detailPage : Request → Option Nat
  | detail vc _ => some vc
  | homeItem _ | category _ | subCategory _ _ | product _ _ => none

/-- A page that waits for its answer is as its storyboard has it. -/
structure Fresh (browser : Browser) : Prop where
  once : (browser.requests.filterMap Request.detailPage).Nodup
  blank : ∀ id postId, .detail id postId ∈ browser.requests →
    browser.controllers[id]? = some (.DetailViewController postId {})

theorem detailPage_vc {request : Request} {id : Nat} (h : request.detailPage = some id) :
    request.vc = some id := by
  cases request with
  | detail => exact h
  | homeItem | category | subCategory | product => cases h

theorem Fresh.frame (h : Fresh browser) (hcontrollers : browser'.controllers = browser.controllers)
    (hrequests : browser'.requests.Sublist browser.requests) : Fresh browser' := by
  refine ⟨h.once.sublist (hrequests.filterMap _), fun id postId hmem => ?_⟩
  rw [hcontrollers]
  exact h.blank id postId (hrequests.subset hmem)

theorem Fresh.send {request : Request} (h : Fresh browser) (hrequest : request.detailPage = none) :
    Fresh (browser.send request) := by
  refine ⟨?_, fun id postId hmem => ?_⟩
  · simp only [Browser.send, List.filterMap_append, List.filterMap_cons, hrequest,
      List.filterMap_nil, List.append_nil]
    exact h.once
  · obtain hmem | hmem := List.mem_append.mp hmem
    · exact h.blank id postId hmem
    · obtain rfl := List.mem_singleton.mp hmem
      cases hrequest

/-- A controller that is not waiting may change. -/
theorem Fresh.setController {id : Nat} {vc : ViewController} (h : Fresh browser)
    (hwaiting : id ∉ browser.requests.filterMap Request.detailPage) :
    Fresh (browser.setController id vc) := by
  refine ⟨h.once, fun id' postId hmem => ?_⟩
  have hother : id ≠ id' := by
    rintro rfl
    exact hwaiting (List.mem_filterMap.mpr ⟨_, hmem, rfl⟩)
  simp only [Browser.setController, List.getElem?_set_ne hother]
  exact h.blank id' postId hmem

theorem Fresh.not_waiting {id : Nat} {vc : ViewController} (h : Fresh browser)
    (hvc : browser.controllers[id]? = some vc) (hkind : ∀ postId, vc.opened ≠ .detail postId) :
    id ∉ browser.requests.filterMap Request.detailPage := by
  intro hmem
  obtain ⟨request, hrequest, hpage⟩ := List.mem_filterMap.mp hmem
  cases request with
  | detail id' postId =>
      obtain rfl : id' = id := Option.some.inj hpage
      have hblank := h.blank _ postId hrequest
      obtain rfl := Option.some.inj (hvc.symm.trans hblank)
      exact hkind postId rfl
  | homeItem | category | subCategory | product => cases hpage

theorem filterMap_detailPage_requests (opened : Opened) (id : Nat) :
    (opened.requests id).filterMap Request.detailPage =
      match opened with
      | .detail _ => [id]
      | .firstCategory | .subCategory _ => [] := by
  cases opened <;> rfl

theorem Fresh.pushViewController (h : Fresh browser) (hsound : Sound insertComma browser)
    (opened : Opened) : Fresh (browser.pushViewController insertComma opened) := by
  have hold : ∀ id ∈ browser.requests.filterMap Request.detailPage,
      id < browser.controllers.length := by
    intro id hmem
    obtain ⟨request, hrequest, hpage⟩ := List.mem_filterMap.mp hmem
    obtain ⟨other, hother, _⟩ := hsound.asked request hrequest id (detailPage_vc hpage)
    rw [← kinds_length]
    exact (List.getElem?_eq_some_iff.mp hother).1
  rw [pushViewController_eq]
  refine ⟨?_, fun id postId hmem => ?_⟩
  · rw [List.filterMap_append, List.nodup_append']
    refine ⟨h.once, ?_, ?_⟩
    · split
      · rw [filterMap_detailPage_requests]
        cases opened <;> simp
      · simp
    · intro id hid hnew
      have hlt := hold id hid
      split at hnew
      · rw [filterMap_detailPage_requests] at hnew
        cases opened with
        | detail postId =>
            obtain rfl := List.mem_singleton.mp hnew
            exact Nat.lt_irrefl _ hlt
        | firstCategory | subCategory => cases hnew
      · cases hnew
  · obtain hmem | hmem := List.mem_append.mp hmem
    · have hblank := h.blank id postId hmem
      dsimp only
      rw [List.getElem?_append_left (List.getElem?_eq_some_iff.mp hblank).1]
      exact hblank
    · split at hmem
      · cases opened with
        | detail postId' =>
            obtain ⟨rfl, rfl⟩ := Request.detail.inj (List.mem_singleton.mp hmem)
            exact List.getElem?_concat_length
        | firstCategory => cases List.mem_singleton.mp hmem
        | subCategory controller => simp [Opened.requests] at hmem
      · cases hmem

theorem Fresh.popViewController (h : Fresh browser) : Fresh browser.popViewController := by
  have htail : Fresh { browser with pushed := browser.pushed.tail } :=
    h.frame rfl (List.Sublist.refl _)
  simp only [Browser.popViewController]
  split
  · exact htail.send rfl
  · exact htail

theorem Fresh.runBlock (h : Fresh browser) (block : Block) :
    Fresh (browser.runBlock insertComma block) := by
  cases block with
  | setHomeItem result => exact h.frame rfl (List.Sublist.refl _)
  | setCategory id result | setProduct id result =>
      simp only [Browser.runBlock]
      split
      · rename_i vc hvc
        exact h.setController (h.not_waiting hvc (by simp [ViewController.opened]))
      · exact h

theorem Fresh.of_steps (h : Fresh browser) (hsound : Sound insertComma browser)
    (hsteps : Steps insertComma browser e browser') : Fresh browser' := by
  cases hsteps with
  | idle => exact h
  | opens => exact h.pushViewController hsound _
  | pops => exact h.popViewController
  | displays =>
      refine Fresh.send ?_ rfl
      exact h.frame rfl (List.Sublist.refl _)
  | presses top screen token =>
      refine Fresh.send ?_ rfl
      exact h.setController (h.not_waiting screen (by simp [ViewController.opened]))
  | @answers index answer request rest next taken answers =>
      obtain ⟨_, rfl⟩ := takeAt_eq_some_iff.mp taken
      have hrest : Fresh { browser with requests := browser.requests.eraseIdx index } :=
        h.frame rfl (List.eraseIdx_sublist _ _)
      cases answers with
      | refused => exact hrest
      | homeItem | noHomeItem | subCategory | product | noProduct | noDetail =>
          exact hrest.frame rfl (List.Sublist.refl _)
      | category success asker =>
          exact hrest.setController (hrest.not_waiting asker (by simp [ViewController.opened]))
      | detail success asker shown =>
          refine hrest.setController fun hwaiting => ?_
          have honce := ((takeAt_perm taken).filterMap Request.detailPage).nodup_iff.mp h.once
          exact (List.nodup_cons.mp honce).1 hwaiting
  | @runs block rest queue =>
      have hrest : Fresh { browser with mainQueue := rest } := h.frame rfl (List.Sublist.refl _)
      exact hrest.runBlock block

/-! ## Every run -/

theorem KeepsDisplaying.frame (h : KeepsDisplaying browser) (htrapped : browser'.trapped = false)
    (hcontrollers : browser'.controllers = browser.controllers)
    (hqueue : browser'.mainQueue ⊆ browser.mainQueue) : KeepsDisplaying browser' :=
  ⟨htrapped, hcontrollers ▸ h.rows, fun id result hmem => h.queued id result (hqueue hmem)⟩

theorem KeepsDisplaying.setController {id : Nat} {vc : ViewController} (h : KeepsDisplaying browser)
    (hvc : ∀ sub, vc = .SubCategoryViewController sub →
      ∀ cell ∈ sub.categoryCells, cell.isSome = true) :
    KeepsDisplaying (browser.setController id vc) := by
  refine ⟨h.untrapped, fun sub hmem => ?_, h.queued⟩
  obtain hmem | heq := List.mem_or_eq_of_mem_set hmem
  · exact h.rows sub hmem
  · exact hvc sub heq.symm

theorem KeepsDisplaying.pushViewController (h : KeepsDisplaying browser) (opened : Opened) :
    KeepsDisplaying (browser.pushViewController insertComma opened) := by
  rw [pushViewController_eq]
  refine ⟨h.untrapped, fun vc hmem => ?_, h.queued⟩
  obtain hmem | hmem := List.mem_append.mp hmem
  · exact h.rows vc hmem
  · cases opened with
    | subCategory controller =>
        obtain rfl := ViewController.SubCategoryViewController.inj (List.mem_singleton.mp hmem)
        have hwhole : Counted [Category.wholeCategory] := by
          simp [Counted, Category.wholeCategory]
        exact cells_of_counted insertComma hwhole
    | firstCategory | detail => cases List.mem_singleton.mp hmem

theorem KeepsDisplaying.popViewController (h : KeepsDisplaying browser) :
    KeepsDisplaying browser.popViewController := by
  simp only [Browser.popViewController]
  split <;> exact h.frame h.untrapped rfl (List.Subset.refl _)

theorem KeepsDisplaying.runBlock {block : Block} {rest : List Block} (h : KeepsDisplaying browser)
    (hqueue : browser.mainQueue = block :: rest) :
    KeepsDisplaying ({ browser with mainQueue := rest }.runBlock insertComma block) := by
  have hrest : KeepsDisplaying { browser with mainQueue := rest } :=
    h.frame h.untrapped rfl (hqueue ▸ List.subset_cons_self _ _)
  cases block with
  | setHomeItem result => exact hrest.frame hrest.untrapped rfl (List.Subset.refl _)
  | setCategory id result =>
      simp only [Browser.runBlock]
      split
      · rename_i vc hvc
        refine hrest.setController fun sub heq => ?_
        obtain rfl := ViewController.SubCategoryViewController.inj heq
        have hcounted : Counted ([Category.wholeCategory] ++ result) := by
          intro category hmem
          obtain hmem | hmem := List.mem_append.mp hmem
          · obtain rfl := List.mem_singleton.mp hmem
            rfl
          · exact h.queued id result (hqueue ▸ List.mem_cons_self) category hmem
        have hcells : (vc.setCategoryBlock insertComma result).categoryCells =
            ([Category.wholeCategory] ++ result).map (subCategoryCell insertComma) :=
          loadCells_array _ _
        rw [hcells]
        exact cells_of_counted insertComma hcounted
      · exact hrest
  | setProduct id result =>
      simp only [Browser.runBlock]
      split
      · rename_i vc hvc
        refine hrest.setController fun sub heq => ?_
        obtain rfl := ViewController.SubCategoryViewController.inj heq
        exact h.rows vc (List.mem_of_getElem? hvc)
      · exact hrest

/-- A page that has not been set up takes a result exactly if it has an info and fits the
slots. -/
theorem setUp_isSome_iff (insertComma : String → String) (result : Detail.DetailResult) :
    (Detail.DetailViewController.setUp insertComma {} result).isSome ↔
      result.detailInfo ≠ some [] ∧ result.OtherProducts.length ≤ Detail.slotCount := by
  by_cases hinfo : result.detailInfo = some []
  · simp [Detail.setUp_eq_none_of_nil insertComma hinfo, hinfo]
  · by_cases hfit : result.OtherProducts.length ≤ Detail.slotCount
    · obtain ⟨vc, hvc, _⟩ := Detail.setUp_displays insertComma hinfo hfit
      simp [hvc, hinfo, hfit]
    · have hmore : Detail.slotCount < result.OtherProducts.length := Nat.lt_of_not_le hfit
      simp [Detail.setUp_eq_none_of_more insertComma hmore, hfit]

theorem complete_of_refused {answer : Answer} (h : answer.grants = false) : answer.Complete := by
  cases answer with
  | homeItem response | category response | subCategory response | product response
  | detail response =>
      cases response with
      | failure => trivial
      | success body =>
          have hrefused : body.isSuccess = false := h
          simp [Answer.Complete, hrefused]

/-- An answer leaves everything displayable exactly if it carries what it must. -/
theorem keepsDisplaying_answered {request : Request} {answer : Answer} (h : KeepsDisplaying browser)
    (hblank : ∀ id postId, request = .detail id postId →
      browser.controllers[id]? = some (.DetailViewController postId {}))
    (hanswers : Answers insertComma browser request answer browser') :
    KeepsDisplaying browser' ↔ answer.Complete := by
  cases hanswers with
  | refused _ refused => exact iff_of_true h (complete_of_refused refused)
  | homeItem success present =>
      refine iff_of_true ⟨h.untrapped, h.rows, fun id result hmem => ?_⟩
        (by simp [Answer.Complete, present])
      exact h.queued id result (by simpa [Browser.queue] using hmem)
  | noHomeItem success absent =>
      refine iff_of_false (fun hdisplays => ?_) (by simp [Answer.Complete, success, absent])
      cases hdisplays.untrapped
  | category success asker =>
      exact iff_of_true (h.setController (by simp)) trivial
  | @subCategory id endpoint body success =>
      simp only [Answer.Complete, success, true_implies]
      constructor
      · intro hdisplays
        exact hdisplays.queued id body.result (by simp [Browser.queue])
      · intro hcounted
        refine ⟨h.untrapped, h.rows, fun id' result hmem => ?_⟩
        obtain hmem | hmem := List.mem_append.mp hmem
        · exact h.queued id' result hmem
        · obtain ⟨_, rfl⟩ := Block.setCategory.inj (List.mem_singleton.mp hmem)
          exact hcounted
  | product success present =>
      refine iff_of_true ⟨h.untrapped, h.rows, fun id result hmem => ?_⟩
        (by simp [Answer.Complete, present])
      exact h.queued id result (by simpa [Browser.queue] using hmem)
  | noProduct success absent =>
      refine iff_of_false (fun hdisplays => ?_) (by simp [Answer.Complete, success, absent])
      cases hdisplays.untrapped
  | @detail id postId body vc vc' success asker shown =>
      obtain rfl : vc = {} := by
        simpa using asker.symm.trans (hblank id postId rfl)
      have hfits := (setUp_isSome_iff insertComma body.result).mp (by simp [shown])
      exact iff_of_true (h.setController (by simp)) fun _ => hfits
  | @noDetail id postId body vc success asker trap =>
      obtain rfl : vc = {} := by
        simpa using asker.symm.trans (hblank id postId rfl)
      refine iff_of_false (fun hdisplays => ?_) fun hcomplete => ?_
      · cases hdisplays.untrapped
      · have hfits := (setUp_isSome_iff insertComma body.result).mpr
          (hcomplete success)
        simp [trap] at hfits

theorem keepsDisplaying_step (hfresh : Fresh browser) (h : KeepsDisplaying browser)
    (hsteps : Steps insertComma browser e browser') :
    KeepsDisplaying browser' ↔ CompleteAnswer browser e := by
  cases hsteps with
  | idle => exact iff_of_true h trivial
  | opens => exact iff_of_true (h.pushViewController _) trivial
  | pops => exact iff_of_true h.popViewController trivial
  | displays => exact iff_of_true (h.frame h.untrapped rfl (List.Subset.refl _)) trivial
  | @presses id vc top screen token =>
      refine iff_of_true ?_ trivial
      have hpressed :
          KeepsDisplaying (browser.setController id (.SubCategoryViewController vc.press)) := by
        refine h.setController fun sub heq => ?_
        obtain rfl := ViewController.SubCategoryViewController.inj heq
        exact h.rows vc (List.mem_of_getElem? screen)
      exact hpressed.frame h.untrapped rfl (List.Subset.refl _)
  | @answers index answer request rest next taken answers =>
      have hrest : KeepsDisplaying { browser with requests := rest } :=
        h.frame h.untrapped rfl (List.Subset.refl _)
      refine keepsDisplaying_answered hrest (fun id postId heq => ?_) answers
      exact hfresh.blank id postId (heq ▸ mem_of_takeAt taken)
  | runs queue => exact iff_of_true (h.runBlock queue) trivial

theorem sound_fresh_steps {t u : Browser} (h : Sound insertComma t ∧ Fresh t)
    (hstep : (browsing insertComma).step t e = some u) : Sound insertComma u ∧ Fresh u := by
  have hsteps := (h.1.steps hstep).2.2
  exact ⟨h.1.of_steps hsteps, h.2.of_steps h.1 hsteps⟩

theorem fresh_opened (jwtToken : Option String) : Fresh (opened jwtToken) := by
  refine ⟨List.nodup_nil, fun id postId hmem => ?_⟩
  cases List.mem_singleton.mp hmem

theorem keepsDisplaying_opened (jwtToken : Option String) :
    KeepsDisplaying (opened jwtToken) := by
  refine ⟨rfl, ?_, ?_⟩ <;>
    simp [opened, Browser.homeViewWillAppear, Browser.send, QueueCounted]

theorem keepsDisplaying_iff
    (h : (browsing insertComma).run (opened jwtToken) es = some browser) :
    (browsing insertComma).Along KeepsDisplaying (opened jwtToken) es ↔
      (browsing insertComma).Meets CompleteAnswer (opened jwtToken) es := by
  refine Machine.along_iff_meets
    (J := fun browser => Sound insertComma browser ∧ Fresh browser) (A := fun _ _ => True)
    ⟨sound_opened insertComma jwtToken, fresh_opened jwtToken⟩ (keepsDisplaying_opened jwtToken)
    (fun _ _ _ hj _ hstep => sound_fresh_steps hj hstep) ?_ h (fun _ _ _ _ _ => trivial)
  rintro t e u ⟨hsound, hfresh⟩ hp _ hstep
  exact keepsDisplaying_step hfresh hp (hsound.steps hstep).2.2

/-! ## What is queued is displayed -/

theorem runBlock_frame (insertComma : String → String) (browser : Browser) (block : Block) :
    (browser.runBlock insertComma block).mainQueue = browser.mainQueue ∧
      (browser.runBlock insertComma block).trapped = browser.trapped := by
  cases block with
  | setHomeItem result => exact ⟨rfl, rfl⟩
  | setCategory id result | setProduct id result =>
      simp only [Browser.runBlock]
      split <;> exact ⟨rfl, rfl⟩

/-- The queued blocks can all be run. -/
theorem runs_queue (insertComma : String → String) (queue : List Block)
    (hqueue : browser.mainQueue = queue) (htrapped : browser.trapped = false) : ∃ drained,
      (browsing insertComma).run browser (List.replicate queue.length .runBlock) = some drained ∧
        drained.mainQueue = [] := by
  induction queue generalizing browser with
  | nil => exact ⟨browser, rfl, hqueue⟩
  | cons block rest ih =>
      obtain ⟨hmain, htrap⟩ :=
        runBlock_frame insertComma { browser with mainQueue := rest } block
      obtain ⟨drained, hrun, hempty⟩ := ih hmain (htrap.trans htrapped)
      refine ⟨drained, Machine.run_cons_iff.mpr ⟨_, ?_, hrun⟩, hempty⟩
      simp [browsing, step, htrapped, hqueue]

theorem mainQueue_of_answers {request : Request} {answer : Answer}
    (hanswers : Answers insertComma browser request answer browser') :
    browser.mainQueue ⊆ browser'.mainQueue := by
  cases hanswers with
  | homeItem | subCategory | product => exact List.subset_append_left _ _
  | refused | noHomeItem | category | noProduct | detail | noDetail => exact List.Subset.refl _

/-- If all is displayed after a step, and what is queued has its counts, the same was true of what
was queued before it: a block either waits or has been run. -/
theorem queueCounted_of_steps (hsound : Sound insertComma browser)
    (hsteps : Steps insertComma browser e browser') (hdisplays : Displays browser')
    (h : QueueCounted browser') : QueueCounted browser := by
  cases hsteps with
  | idle | displays | presses => exact h
  | opens =>
      rw [pushViewController_eq] at h
      exact h
  | pops =>
      simp only [Browser.popViewController] at h
      split at h <;> exact h
  | answers taken answers =>
      exact fun id result hmem => h id result (mainQueue_of_answers answers hmem)
  | @runs block rest queue =>
      intro id result hmem
      rw [queue] at hmem
      obtain rfl | hmem := List.mem_cons.mp hmem
      · have hown : Block.setCategory id result ∈ browser.mainQueue :=
          queue ▸ List.mem_cons_self
        obtain ⟨controller, hcontroller⟩ := hsound.queued _ hown id rfl
        obtain ⟨vc, hvc, _⟩ := exists_subCategory hcontroller
        have hset : ViewController.SubCategoryViewController
            (vc.setCategoryBlock insertComma result) ∈
              ({ browser with mainQueue := rest }.runBlock insertComma
                (.setCategory id result)).controllers := by
          simp only [Browser.runBlock, hvc, Browser.setController]
          exact List.mem_set (List.getElem?_eq_some_iff.mp hvc).1 _
        have hcells : (vc.setCategoryBlock insertComma result).categoryCells =
            ([Category.wholeCategory] ++ result).map (subCategoryCell insertComma) :=
          loadCells_array _ _
        have hrows := hdisplays.rows _ hset
        rw [hcells] at hrows
        intro category hcategory
        rw [← isSome_subCategoryCell insertComma]
        exact hrows _ (List.mem_map_of_mem (List.mem_append_right _ hcategory))
      · refine h id result ?_
        rw [(runBlock_frame _ _ _).1]
        exact hmem

/-- Along a run that displays everything and leaves nothing queued, all that was queued had its
counts. -/
theorem queueCounted_of_along (hsound : Sound insertComma browser)
    (h : (browsing insertComma).run browser es = some browser')
    (hdisplays : (browsing insertComma).Along Displays browser es)
    (hempty : browser'.mainQueue = []) : QueueCounted browser := by
  induction es generalizing browser with
  | nil =>
      obtain rfl : browser = browser' := by simpa using h
      simp [QueueCounted, hempty]
  | cons e es ih =>
      obtain ⟨next, hstep, hrun⟩ := Machine.run_cons_iff.mp h
      have hsteps := (hsound.steps hstep).2.2
      have hlater : (browsing insertComma).Along Displays next es := by
        intro pre t hpre ht
        exact hdisplays (e :: pre) t (List.cons_prefix_cons.mpr ⟨rfl, hpre⟩)
          (Machine.run_cons_iff.mpr ⟨next, hstep, ht⟩)
      have hnext : Displays next := hlater [] next (by simp) rfl
      exact queueCounted_of_steps hsound hsteps hnext (ih (hsound.of_steps hsteps) hrun hlater)

/-- Along every run and the blocks it leaves queued, the process never traps and every loaded
category cell can be displayed exactly if every granted answer carries what it must. -/
theorem everything_displayed_iff
    (h : (browsing insertComma).run (opened jwtToken) es = some browser) :
    (browsing insertComma).Along Displays (opened jwtToken)
        (es ++ List.replicate browser.mainQueue.length .runBlock) ↔
      (browsing insertComma).Meets CompleteAnswer (opened jwtToken) es := by
  rw [← keepsDisplaying_iff h]
  constructor
  · intro hdisplays pre t hpre ht
    have hnow : Displays t := hdisplays pre t (hpre.trans (List.prefix_append _ _)) ht
    have hend : Displays browser := hdisplays es browser (List.prefix_append _ _) h
    obtain ⟨later, rfl⟩ := hpre
    obtain ⟨t', ht', hrest⟩ := Machine.run_append_iff.mp h
    obtain rfl : t = t' := Option.some.inj (ht.symm.trans ht')
    obtain ⟨drained, hdrained, hempty⟩ :=
      runs_queue insertComma browser.mainQueue rfl hend.untrapped
    refine ⟨hnow.untrapped, hnow.rows, queueCounted_of_along (sound_run ht)
      (Machine.run_append hrest hdrained) (fun pre' u hpre' hu => ?_) hempty⟩
    refine hdisplays (pre ++ pre') u ?_ (Machine.run_append ht hu)
    rw [List.append_assoc]
    exact (List.prefix_append_right_inj _).mpr hpre'
  · intro hkeeps
    have hmeets : (browsing insertComma).Meets CompleteAnswer (opened jwtToken)
        (es ++ List.replicate browser.mainQueue.length .runBlock) := by
      refine Machine.meets_append.mpr ⟨(keepsDisplaying_iff h).mp hkeeps, fun t _ => ?_⟩
      intro pre e u hpre _
      have hmem := hpre.subset (List.mem_append_right pre (List.mem_singleton_self e))
      rw [List.eq_of_mem_replicate hmem]
      trivial
    refine Machine.along_of_meets (J := fun browser =>
      (Sound insertComma browser ∧ Fresh browser) ∧ KeepsDisplaying browser)
      ⟨⟨sound_opened insertComma jwtToken, fresh_opened jwtToken⟩,
        keepsDisplaying_opened jwtToken⟩ ?_ (fun t ht => ⟨ht.2.untrapped, ht.2.rows⟩) hmeets
    rintro t e u ⟨hj, hp⟩ hcomplete hstep
    exact ⟨sound_fresh_steps hj hstep,
      (keepsDisplaying_step hj.2 hp (hj.1.steps hstep).2.2).mpr hcomplete⟩

/-- The list has come, and its block waits. -/
theorem dresses_displayed : (browsing id).Along Displays (opened (some "jwt"))
    (dresses.take 2 ++ [.runBlock]) := by
  have hrun : ∃ browser, (browsing id).run (opened (some "jwt")) (dresses.take 2) = some browser ∧
      browser.mainQueue.length = 1 := ⟨_, rfl, rfl⟩
  obtain ⟨browser, hrun, hqueue⟩ := hrun
  have hdisplayed := (everything_displayed_iff hrun).mpr (by decide)
  rwa [hqueue] at hdisplayed

end BunjangClone.Browsing
