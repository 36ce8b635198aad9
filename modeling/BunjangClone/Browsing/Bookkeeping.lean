import BunjangClone.Browsing.Browser

/-!
# The bookkeeping of browsing

What a controller was opened as never changes, and every request and every queued block
belongs to a controller that was opened for it. `Sound` collects these facts with the cells,
which are always those of the arrays, and each operation keeps it.
-/

namespace BunjangClone.Browsing

open Reactive

/-! ## What controllers are opened as -/

namespace Browser

/-- What each controller was opened as, by its number. It never changes. -/
def kinds (browser : Browser) : List Opened :=
  browser.controllers.map ViewController.opened

/-- What the controllers over the home screen were opened as, topmost first. -/
def screens (browser : Browser) : List (Option Opened) :=
  browser.pushed.map fun id => browser.kinds[id]?

end Browser

/-- The requests `viewDidLoad` sends. -/
def Opened.requests (id : Nat) : Opened → List Request
  | firstCategory => [.category id]
  | subCategory controller =>
      [.subCategory id (controller.getCategory 0), .product id (controller.getProduct 1)]
  | detail postId => [.detail id postId]

/-- The controller a request was sent by, if it is not the home screen. -/
def Request.vc : Request → Option Nat
  | homeItem _ => none
  | category vc => some vc
  | subCategory vc _ => some vc
  | product vc _ => some vc
  | detail vc _ => some vc

def Block.vc : Block → Option Nat
  | setHomeItem _ => none
  | setCategory vc _ => some vc
  | setProduct vc _ => some vc

/-- What a controller asks for at any time. -/
inductive Opened.Asks : Opened → Request → Prop where
  | category (vc : Nat) : Asks .firstCategory (.category vc)
  | subCategory (controller : Category.Controller) (vc : Nat) (clicked : Int)
      (button : clicked = 0 ∨ clicked = 1) :
      Asks (.subCategory controller) (.subCategory vc (controller.getCategory clicked))
  | product (controller : Category.Controller) (vc : Nat) :
      Asks (.subCategory controller) (.product vc (controller.getProduct 1))
  | detail (postId : Int) (vc : Nat) : Asks (.detail postId) (.detail vc postId)

theorem asks_requests {id : Nat} {opened : Opened} {request : Request}
    (h : request ∈ opened.requests id) : request.vc = some id ∧ opened.Asks request := by
  cases opened with
  | firstCategory =>
      obtain rfl := List.mem_singleton.mp h
      exact ⟨rfl, .category id⟩
  | subCategory controller =>
      obtain rfl | h := List.mem_cons.mp h
      · exact ⟨rfl, .subCategory controller id 0 (.inl rfl)⟩
      · obtain rfl := List.mem_singleton.mp h
        exact ⟨rfl, .product controller id⟩
  | detail postId =>
      obtain rfl := List.mem_singleton.mp h
      exact ⟨rfl, .detail postId id⟩

/-! ## Opening a controller -/

variable {insertComma : String → String} {browser : Browser}
variable {id : Nat} {opened : Opened}

/-- `viewDidLoad` gets to send its requests. -/
def Browser.loads (browser : Browser) (opened : Opened) : Bool :=
  opened = .firstCategory || browser.jwtToken.isSome

theorem sendWithToken_of_token (request : Request) (h : browser.jwtToken.isSome = true) :
    browser.sendWithToken request = browser.send request := by
  obtain ⟨jwt, hjwt⟩ := Option.isSome_iff_exists.mp h
  rw [Browser.sendWithToken, hjwt]

theorem viewDidLoad_eq (browser : Browser) (id : Nat) (opened : Opened) :
    browser.viewDidLoad id opened =
      { browser with
        requests := browser.requests ++ if browser.loads opened then opened.requests id else []
        left := browser.left || !browser.loads opened } := by
  cases opened with
  | firstCategory => simp [Browser.viewDidLoad, Browser.loads, Browser.send, Opened.requests]
  | subCategory controller =>
      cases htoken : browser.jwtToken <;>
        simp [Browser.viewDidLoad, Browser.loads, Browser.sendWithToken, Browser.send,
          Opened.requests, htoken]
  | detail postId =>
      cases htoken : browser.jwtToken <;>
        simp [Browser.viewDidLoad, Browser.loads, Browser.sendWithToken, Browser.send,
          Opened.requests, htoken]

/-- Opening adds a controller with the next number and puts it on top. -/
theorem pushViewController_eq (insertComma : String → String) (browser : Browser)
    (opened : Opened) :
    browser.pushViewController insertComma opened =
      { browser with
        home := if browser.pushed = [] then { browser.home with page := 1 } else browser.home
        controllers := browser.controllers ++ [opened.instantiate insertComma]
        pushed := browser.controllers.length :: browser.pushed
        requests := browser.requests ++
          if browser.loads opened then opened.requests browser.controllers.length else []
        left := browser.left || !browser.loads opened } := by
  simp only [Browser.pushViewController, viewDidLoad_eq, Browser.homeViewWillDisappear]
  split <;> rfl

@[simp] theorem kinds_pushViewController :
    (browser.pushViewController insertComma opened).kinds = browser.kinds ++ [opened] := by
  simp [pushViewController_eq, Browser.kinds]

theorem kinds_length (browser : Browser) : browser.kinds.length = browser.controllers.length := by
  simp [Browser.kinds]

theorem kinds_getElem? {vc : ViewController} (h : browser.controllers[id]? = some vc) :
    browser.kinds[id]? = some vc.opened := by
  simp [Browser.kinds, h]

theorem exists_of_kinds (h : browser.kinds[id]? = some opened) :
    ∃ vc, browser.controllers[id]? = some vc ∧ vc.opened = opened := by
  simpa [Browser.kinds] using h

theorem exists_firstCategory (h : browser.kinds[id]? = some .firstCategory) :
    ∃ vc, browser.controllers[id]? = some (.FirstCategoryViewController vc) := by
  obtain ⟨vc, hvc, hopened⟩ := exists_of_kinds h
  cases vc with
  | FirstCategoryViewController vc => exact ⟨vc, hvc⟩
  | SubCategoryViewController | DetailViewController => cases hopened

theorem exists_subCategory {controller : Category.Controller}
    (h : browser.kinds[id]? = some (.subCategory controller)) :
    ∃ vc, browser.controllers[id]? = some (.SubCategoryViewController vc) ∧
      vc.controller = controller := by
  obtain ⟨vc, hvc, hopened⟩ := exists_of_kinds h
  cases vc with
  | SubCategoryViewController vc => exact ⟨vc, hvc, Opened.subCategory.inj hopened⟩
  | FirstCategoryViewController | DetailViewController => cases hopened

theorem exists_detail {postId : Int} (h : browser.kinds[id]? = some (.detail postId)) :
    ∃ vc, browser.controllers[id]? = some (.DetailViewController postId vc) := by
  obtain ⟨vc, hvc, hopened⟩ := exists_of_kinds h
  cases vc with
  | DetailViewController postId' vc =>
      obtain rfl := Opened.detail.inj hopened
      exact ⟨vc, hvc⟩
  | FirstCategoryViewController | SubCategoryViewController => cases hopened

theorem kinds_setController {vc vc' : ViewController} (h : browser.controllers[id]? = some vc)
    (hopened : vc'.opened = vc.opened) : (browser.setController id vc').kinds = browser.kinds := by
  refine List.ext_getElem? fun i => ?_
  simp only [Browser.kinds, Browser.setController, List.map_set]
  rw [List.getElem?_set]
  split
  · rename_i heq
    subst heq
    have hlength : id < browser.controllers.length := (List.getElem?_eq_some_iff.mp h).1
    rw [if_pos (by simpa using hlength), hopened]
    simp [h]
  · rfl

/-! ## Bookkeeping -/

/-- The cells loaded are those of the arrays. -/
def ViewController.InSync (insertComma : String → String) : ViewController → Prop
  | FirstCategoryViewController vc => vc.cells = vc.reloadData.cells
  | SubCategoryViewController vc =>
      vc.categoryCells = vc.categoryArray.map (subCategoryCell insertComma) ∧
        vc.productCells = vc.productArray.map (productCell insertComma)
  | DetailViewController _ _ => True

structure Sound (insertComma : String → String) (browser : Browser) : Prop where
  home : browser.home.cells = browser.home.ItemArray.map (homeCell insertComma)
  controllers : ∀ vc ∈ browser.controllers, vc.InSync insertComma
  pushed : ∀ id ∈ browser.pushed, id < browser.controllers.length
  asked : ∀ request ∈ browser.requests, ∀ id ∈ request.vc,
    ∃ opened, browser.kinds[id]? = some opened ∧ opened.Asks request
  queued : ∀ block ∈ browser.mainQueue, ∀ id ∈ block.vc,
    ∃ controller, browser.kinds[id]? = some (.subCategory controller)
  tokened : browser.jwtToken = none → browser.left = false →
    ∀ opened ∈ browser.kinds, opened = .firstCategory

theorem inSync_instantiate (insertComma : String → String) (opened : Opened) :
    (opened.instantiate insertComma).InSync insertComma := by
  cases opened with
  | firstCategory => rfl
  | subCategory controller => exact ⟨loadCells_array _ _, loadCells_array _ _⟩
  | detail postId => trivial

/-! ## Bookkeeping is kept -/

theorem Sound.trap (h : Sound insertComma browser) :
    Sound insertComma { browser with trapped := true } :=
  ⟨h.home, h.controllers, h.pushed, h.asked, h.queued, h.tokened⟩

theorem Sound.withHome {home : HomeViewController} (h : Sound insertComma browser)
    (hhome : home.cells = home.ItemArray.map (homeCell insertComma)) :
    Sound insertComma { browser with home := home } :=
  ⟨hhome, h.controllers, h.pushed, h.asked, h.queued, h.tokened⟩

theorem Sound.withRequests {rest : List Request} (h : Sound insertComma browser)
    (hrest : rest ⊆ browser.requests) : Sound insertComma { browser with requests := rest } :=
  ⟨h.home, h.controllers, h.pushed, fun request hmem => h.asked request (hrest hmem), h.queued,
    h.tokened⟩

theorem Sound.withQueue {rest : List Block} (h : Sound insertComma browser)
    (hrest : rest ⊆ browser.mainQueue) : Sound insertComma { browser with mainQueue := rest } :=
  ⟨h.home, h.controllers, h.pushed, h.asked, fun block hmem => h.queued block (hrest hmem),
    h.tokened⟩

theorem Sound.send {request : Request} (h : Sound insertComma browser)
    (hrequest : ∀ id ∈ request.vc, ∃ opened, browser.kinds[id]? = some opened ∧
      opened.Asks request) : Sound insertComma (browser.send request) := by
  refine ⟨h.home, h.controllers, h.pushed, fun other hmem => ?_, h.queued, h.tokened⟩
  obtain hmem | hmem := List.mem_append.mp hmem
  · exact h.asked other hmem
  · obtain rfl := List.mem_singleton.mp hmem
    exact hrequest

theorem Sound.queue {block : Block} (h : Sound insertComma browser)
    (hblock : ∀ id ∈ block.vc, ∃ controller, browser.kinds[id]? = some (.subCategory controller)) :
    Sound insertComma (browser.queue block) := by
  refine ⟨h.home, h.controllers, h.pushed, h.asked, fun other hmem => ?_, h.tokened⟩
  obtain hmem | hmem := List.mem_append.mp hmem
  · exact h.queued other hmem
  · obtain rfl := List.mem_singleton.mp hmem
    exact hblock

theorem Sound.setController {vc vc' : ViewController} (h : Sound insertComma browser)
    (hvc : browser.controllers[id]? = some vc) (hopened : vc'.opened = vc.opened)
    (hsync : vc'.InSync insertComma) : Sound insertComma (browser.setController id vc') := by
  have hkinds := kinds_setController hvc hopened
  refine ⟨h.home, fun other hmem => ?_, fun id' hmem => ?_, ?_, ?_, ?_⟩
  · obtain hmem | rfl := List.mem_or_eq_of_mem_set hmem
    · exact h.controllers other hmem
    · exact hsync
  · simpa [Browser.setController] using h.pushed id' hmem
  · rw [hkinds]
    exact h.asked
  · rw [hkinds]
    exact h.queued
  · rw [hkinds]
    exact h.tokened

theorem Sound.pushViewController (h : Sound insertComma browser) (opened : Opened) :
    Sound insertComma (browser.pushViewController insertComma opened) := by
  have hkinds : ∀ {id : Nat} {other : Opened}, browser.kinds[id]? = some other →
      (browser.pushViewController insertComma opened).kinds[id]? = some other := by
    intro id other hother
    rw [kinds_pushViewController, List.getElem?_append_left (List.getElem?_eq_some_iff.mp hother).1]
    exact hother
  refine ⟨?_, fun vc hmem => ?_, fun id hmem => ?_, fun request hmem id hid => ?_,
    fun block hmem id hid => ?_, fun htoken hleft other hmem => ?_⟩
  · rw [pushViewController_eq]
    dsimp only
    split <;> exact h.home
  · rw [pushViewController_eq] at hmem
    obtain hmem | hmem := List.mem_append.mp hmem
    · exact h.controllers vc hmem
    · obtain rfl := List.mem_singleton.mp hmem
      exact inSync_instantiate insertComma opened
  · rw [pushViewController_eq] at hmem ⊢
    obtain rfl | hmem := List.mem_cons.mp hmem
    · simp
    · have := h.pushed id hmem
      simp only [List.length_append, List.length_singleton]
      omega
  · rw [pushViewController_eq] at hmem
    obtain hmem | hmem := List.mem_append.mp hmem
    · obtain ⟨other, hother, hasks⟩ := h.asked request hmem id hid
      exact ⟨other, hkinds hother, hasks⟩
    · split at hmem
      · obtain ⟨hvc, hasks⟩ := asks_requests hmem
        obtain rfl : browser.controllers.length = id := Option.some.inj (hvc.symm.trans hid)
        refine ⟨opened, ?_, hasks⟩
        rw [kinds_pushViewController, ← kinds_length, List.getElem?_concat_length]
      · cases hmem
  · rw [pushViewController_eq] at hmem
    obtain ⟨controller, hcontroller⟩ := h.queued block hmem id hid
    exact ⟨controller, hkinds hcontroller⟩
  · rw [pushViewController_eq] at htoken hleft
    have htoken : browser.jwtToken = none := htoken
    simp only [Browser.loads, htoken, Option.isSome_none, Bool.or_false, Bool.or_eq_false_iff,
      Bool.not_eq_false', decide_eq_true_eq] at hleft
    rw [kinds_pushViewController, List.mem_append, List.mem_singleton] at hmem
    obtain hmem | rfl := hmem
    · exact h.tokened htoken hleft.1 other hmem
    · exact hleft.2

theorem Sound.popViewController (h : Sound insertComma browser) :
    Sound insertComma browser.popViewController := by
  have htail : Sound insertComma { browser with pushed := browser.pushed.tail } :=
    ⟨h.home, h.controllers, fun id hmem => h.pushed id (List.mem_of_mem_tail hmem), h.asked,
      h.queued, h.tokened⟩
  simp only [Browser.popViewController]
  split
  · exact htail.send (by simp [Request.vc])
  · exact htail

theorem inSync_setCategory (vc : FirstCategoryViewController) (result : List Category) :
    (ViewController.FirstCategoryViewController (vc.setCategory result)).InSync insertComma :=
  rfl

theorem inSync_setCategoryBlock {vc : SubCategoryViewController} (result : List Category)
    (h : (ViewController.SubCategoryViewController vc).InSync insertComma) :
    (ViewController.SubCategoryViewController
      (vc.setCategoryBlock insertComma result)).InSync insertComma :=
  ⟨loadCells_array _ _, h.2⟩

theorem inSync_setProductBlock {vc : SubCategoryViewController} (result : List Product)
    (h : (ViewController.SubCategoryViewController vc).InSync insertComma) :
    (ViewController.SubCategoryViewController
      (vc.setProductBlock insertComma result)).InSync insertComma :=
  ⟨h.1, loadCells_array _ _⟩

theorem Sound.runBlock (h : Sound insertComma browser) (block : Block) :
    Sound insertComma (browser.runBlock insertComma block) := by
  cases block with
  | setHomeItem result => exact h.withHome (loadCells_array _ _)
  | setCategory id result =>
      simp only [Browser.runBlock]
      split
      · rename_i vc hvc
        have hsync := h.controllers _ (List.mem_of_getElem? hvc)
        exact h.setController hvc rfl (inSync_setCategoryBlock result hsync)
      · exact h
  | setProduct id result =>
      simp only [Browser.runBlock]
      split
      · rename_i vc hvc
        have hsync := h.controllers _ (List.mem_of_getElem? hvc)
        exact h.setController hvc rfl (inSync_setProductBlock result hsync)
      · exact h

end BunjangClone.Browsing
