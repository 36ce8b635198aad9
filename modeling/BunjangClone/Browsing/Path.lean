import BunjangClone.Browsing.Steps

/-!
# Where the screens come from

A screen is opened with what the screen below it shows, and what a screen shows was delivered
to it for what it asked. Since answers and blocks find their controller by its number,
nothing is mixed up however the answers overtake each other: every category screen, also one
that has been popped, was opened by a button of the home screen, by a row the server had sent,
or by the row "전체보기" that every list starts with, and every other row on it was sent for its
own category.
-/

namespace BunjangClone.Browsing

open Reactive

/-! ## What the server sent -/

/-- The two kinds of category lists. -/
inductive Listing where
  | category
  | subCategory (endpoint : Category.Endpoint)
deriving DecidableEq, Repr

inductive Delivery where
  | homeItem (result : List HomeItem)
  | category (listing : Listing) (result : List Category)
  | product (endpoint : Category.ProductEndpoint) (result : List Product)
deriving DecidableEq, Repr

/-- What an event delivers, with what it was asked for. -/
def Browser.delivered (browser : Browser) : Event → List Delivery
  | .answered index answer =>
      match browser.requests[index]?, answer with
      | some (.homeItem _), .homeItem (.success body) =>
          if body.isSuccess then (body.result.map .homeItem).toList else []
      | some (.category _), .category (.success body) =>
          if body.isSuccess then [.category .category body.result] else []
      | some (.subCategory _ endpoint), .subCategory (.success body) =>
          if body.isSuccess then [.category (.subCategory endpoint) body.result] else []
      | some (.product _ endpoint), .product (.success body) =>
          if body.isSuccess then (body.result.map (.product endpoint)).toList else []
      | _, _ => []
  | .touched _ | .runBlock => []

/-- What is delivered in a run. -/
def delivered (insertComma : String → String) (jwtToken : Option String) (es : List Event) :
    List Delivery :=
  (browsing insertComma).collect Browser.delivered (opened jwtToken) es

def Offered (deliveries : List Delivery) (listing : Listing) (category : Category) : Prop :=
  ∃ result, .category listing result ∈ deliveries ∧ category ∈ result

def Sold (deliveries : List Delivery) (item : HomeItem) : Prop :=
  ∃ result, .homeItem result ∈ deliveries ∧ item ∈ result

/-- The category is in a list sent for a screen, folded or expanded. -/
def Listed (deliveries : List Delivery) (controller : Category.Controller)
    (category : Category) : Prop :=
  ∃ clicked, (clicked = 0 ∨ clicked = 1) ∧
    Offered deliveries (.subCategory (controller.getCategory clicked)) category

/-- The product is in a list sent for a screen. -/
def Supplied (deliveries : List Delivery) (controller : Category.Controller)
    (product : Product) : Prop :=
  ∃ result, .product (controller.getProduct 1) result ∈ deliveries ∧ product ∈ result

/-! ## What screens are opened with -/

/-- A category screen is opened for a button, for a row of the first categories, or for a row
of the screen of its parent, where the first row stands for the parent as a whole. -/
inductive Offers (deliveries : List Delivery) : Category.Controller → Prop where
  | header (tag : Nat) (category : Category) (button : headerCategory tag = some category) :
      Offers deliveries (.SubCategoryViewController category)
  | firstCategory (category : Category) (offered : Offered deliveries .category category) :
      Offers deliveries (.SubCategoryViewController category)
  | subCategory (category entry : Category)
      (parent : Offers deliveries (.SubCategoryViewController category))
      (row : entry = Category.wholeCategory ∨
        Listed deliveries (.SubCategoryViewController category) entry) :
      Offers deliveries
        (.SecondSubCategoryViewController category.id ⟨entry.id, entry.name, none⟩)

/-- The controllers over the home screen, topmost first. -/
inductive Layered : List (Option Opened) → Prop where
  | home : Layered []
  | detail (postId : Int) : Layered [some (.detail postId)]
  | firstCategory : Layered [some .firstCategory]
  | header (category : Category) :
      Layered [some (.subCategory (.SubCategoryViewController category))]
  | subCategory (category : Category) :
      Layered [some (.subCategory (.SubCategoryViewController category)), some .firstCategory]
  | secondSubCategory (category entry : Category) (below : List (Option Opened))
      (under : Layered (some (.subCategory (.SubCategoryViewController category)) :: below)) :
      Layered (some (.subCategory (.SecondSubCategoryViewController category.id entry)) ::
        some (.subCategory (.SubCategoryViewController category)) :: below)

/-- What a controller shows was sent for it. -/
def Rows (deliveries : List Delivery) : ViewController → Prop
  | .FirstCategoryViewController vc =>
      ∀ category ∈ vc.categoryArray, Offered deliveries .category category
  | .SubCategoryViewController vc =>
      (∀ category ∈ vc.categoryArray,
        category = Category.wholeCategory ∨ Listed deliveries vc.controller category) ∧
      ∀ product ∈ vc.productArray, Supplied deliveries vc.controller product
  | .DetailViewController _ _ => True

/-- What a block is about to show was sent for its controller. -/
def Block.Sent (deliveries : List Delivery) (kinds : List Opened) : Block → Prop
  | setHomeItem result => ∀ item ∈ result, Sold deliveries item
  | setCategory id result => ∀ controller, kinds[id]? = some (.subCategory controller) →
      ∀ category ∈ result, Listed deliveries controller category
  | setProduct id result => ∀ controller, kinds[id]? = some (.subCategory controller) →
      ∀ product ∈ result, Supplied deliveries controller product

structure Browsed (deliveries : List Delivery) (browser : Browser) : Prop where
  stack : Layered browser.screens
  offers : ∀ controller, .subCategory controller ∈ browser.kinds → Offers deliveries controller
  details : ∀ postId, .detail postId ∈ browser.kinds →
    ∃ item, Sold deliveries item ∧ item.postId = postId
  home : ∀ item ∈ browser.home.ItemArray, Sold deliveries item
  rows : ∀ vc ∈ browser.controllers, Rows deliveries vc
  queued : ∀ block ∈ browser.mainQueue, block.Sent deliveries browser.kinds

variable {deliveries deliveries' : List Delivery} {controller : Category.Controller}
variable {insertComma : String → String} {browser browser' : Browser} {e : Event}

/-! ## Deliveries are kept -/

theorem Offered.mono {listing : Listing} {category : Category}
    (h : Offered deliveries listing category) (hmore : deliveries ⊆ deliveries') :
    Offered deliveries' listing category := by
  obtain ⟨result, hresult, hmem⟩ := h
  exact ⟨result, hmore hresult, hmem⟩

theorem Sold.mono {item : HomeItem} (h : Sold deliveries item)
    (hmore : deliveries ⊆ deliveries') : Sold deliveries' item := by
  obtain ⟨result, hresult, hmem⟩ := h
  exact ⟨result, hmore hresult, hmem⟩

theorem Listed.mono {category : Category} (h : Listed deliveries controller category)
    (hmore : deliveries ⊆ deliveries') : Listed deliveries' controller category := by
  obtain ⟨clicked, hclicked, hoffered⟩ := h
  exact ⟨clicked, hclicked, hoffered.mono hmore⟩

theorem Supplied.mono {product : Product} (h : Supplied deliveries controller product)
    (hmore : deliveries ⊆ deliveries') : Supplied deliveries' controller product := by
  obtain ⟨result, hresult, hmem⟩ := h
  exact ⟨result, hmore hresult, hmem⟩

theorem Offers.mono (h : Offers deliveries controller) (hmore : deliveries ⊆ deliveries') :
    Offers deliveries' controller := by
  induction h with
  | header tag category button => exact .header tag category button
  | firstCategory category offered => exact .firstCategory category (offered.mono hmore)
  | subCategory category entry _ row ih =>
      refine .subCategory category entry ih ?_
      obtain hwhole | hlisted := row
      · exact .inl hwhole
      · exact .inr (hlisted.mono hmore)

theorem Rows.mono {vc : ViewController} (h : Rows deliveries vc)
    (hmore : deliveries ⊆ deliveries') : Rows deliveries' vc := by
  cases vc with
  | FirstCategoryViewController vc => exact fun category hmem => (h category hmem).mono hmore
  | SubCategoryViewController vc =>
      refine ⟨fun category hmem => ?_, fun product hmem => (h.2 product hmem).mono hmore⟩
      obtain hwhole | hlisted := h.1 category hmem
      · exact .inl hwhole
      · exact .inr (hlisted.mono hmore)
  | DetailViewController postId vc => trivial

theorem Block.Sent.mono {block : Block} {kinds : List Opened} (h : block.Sent deliveries kinds)
    (hmore : deliveries ⊆ deliveries') : block.Sent deliveries' kinds := by
  cases block with
  | setHomeItem result => exact fun item hmem => (h item hmem).mono hmore
  | setCategory id result =>
      exact fun controller hkind category hmem => (h controller hkind category hmem).mono hmore
  | setProduct id result =>
      exact fun controller hkind product hmem => (h controller hkind product hmem).mono hmore

theorem Browsed.mono (h : Browsed deliveries browser) (hmore : deliveries ⊆ deliveries') :
    Browsed deliveries' browser := by
  refine ⟨h.stack, fun controller hmem => (h.offers controller hmem).mono hmore,
    fun postId hmem => ?_, fun item hmem => (h.home item hmem).mono hmore,
    fun vc hmem => (h.rows vc hmem).mono hmore,
    fun block hmem => (h.queued block hmem).mono hmore⟩
  obtain ⟨item, hsold, hid⟩ := h.details postId hmem
  exact ⟨item, hsold.mono hmore, hid⟩

/-! ## What a touch opens -/

/-- What can be opened, by the screen it is opened from. -/
inductive OpensFrom (browser : Browser) : Opened → Prop where
  | header (home : browser.pushed = []) (tag : Nat) (category : Category)
      (button : headerCategory tag = some category) :
      OpensFrom browser (.subCategory (.SubCategoryViewController category))
  | firstCategory (home : browser.pushed = []) : OpensFrom browser .firstCategory
  | detail (home : browser.pushed = []) (item : HomeItem) (row : item ∈ browser.home.ItemArray) :
      OpensFrom browser (.detail item.postId)
  | category {id : Nat} {below : List Nat} {vc : FirstCategoryViewController}
      (category : Category) (pushed : browser.pushed = id :: below)
      (top : browser.controllers[id]? = some (.FirstCategoryViewController vc))
      (row : category ∈ vc.categoryArray) :
      OpensFrom browser (.subCategory (.SubCategoryViewController category))
  | subCategory {id : Nat} {below : List Nat} {vc : SubCategoryViewController}
      (category entry : Category) (pushed : browser.pushed = id :: below)
      (top : browser.controllers[id]? = some (.SubCategoryViewController vc))
      (parent : vc.controller = .SubCategoryViewController category)
      (row : entry ∈ vc.categoryArray) :
      OpensFrom browser (.subCategory
        (.SecondSubCategoryViewController category.id ⟨entry.id, entry.name, none⟩))

theorem pushed_of_top {vc : ViewController} (h : browser.top = some vc) :
    ∃ id below, browser.pushed = id :: below ∧ browser.controllers[id]? = some vc := by
  obtain ⟨id, hhead, hvc⟩ := top_of_head h
  obtain ⟨below, hpushed⟩ := List.head?_eq_some_iff.mp hhead
  exact ⟨id, below, hpushed, hvc⟩

theorem opensFrom_of_opening (hsound : Sound insertComma browser) {touch : Touch}
    {opened : Opened} (h : browser.opening touch = some opened) : OpensFrom browser opened := by
  unfold Browser.opening at h
  split at h
  · obtain ⟨hpushed, htag⟩ := Option.ite_none_right_eq_some.mp h
    rw [headerOpened] at htag
    split at htag
    · rename_i category hbutton
      obtain rfl := Option.some.inj htag
      exact .header hpushed _ category hbutton
    · obtain ⟨_, htag⟩ := Option.ite_none_right_eq_some.mp htag
      obtain rfl := Option.some.inj htag
      exact .firstCategory hpushed
  · split at h
    · rename_i htop
      obtain ⟨item, hitem, rfl⟩ := Option.map_eq_some_iff.mp h
      exact .detail (hsound.top_eq_none.mp htop) item (List.mem_of_getElem? hitem)
    · rename_i vc htop
      obtain ⟨id, below, hpushed, hvc⟩ := pushed_of_top htop
      obtain ⟨_, hrow⟩ := Option.ite_none_right_eq_some.mp h
      obtain ⟨category, hcategory, rfl⟩ := Option.map_eq_some_iff.mp hrow
      exact .category category hpushed hvc (List.mem_of_getElem? hcategory)
    · rename_i vc htop
      obtain ⟨id, below, hpushed, hvc⟩ := pushed_of_top htop
      split at h
      · rename_i category hcontroller
        obtain ⟨entry, hentry, rfl⟩ := Option.map_eq_some_iff.mp h
        exact .subCategory category entry hpushed hvc hcontroller (List.mem_of_getElem? hentry)
      · cases h
    · cases h
  · cases h
  · cases h
  · cases h

/-! ## The stack -/

theorem Layered.tail {screens : List (Option Opened)} (h : Layered screens) :
    Layered screens.tail := by
  cases h with
  | home | detail | firstCategory | header => exact .home
  | subCategory => exact .firstCategory
  | secondSubCategory category entry below under => exact under

theorem Layered.length_le {screens : List (Option Opened)} (h : Layered screens) :
    screens.length ≤ 3 := by
  cases h with
  | home | detail | firstCategory | header | subCategory => simp
  | secondSubCategory category entry below under => cases under <;> simp

theorem screens_of_pushed {id : Nat} {below : List Nat} {vc : ViewController}
    (hpushed : browser.pushed = id :: below) (hvc : browser.controllers[id]? = some vc) :
    browser.screens = some vc.opened :: below.map fun id => browser.kinds[id]? := by
  rw [Browser.screens, hpushed, List.map_cons, kinds_getElem? hvc]

theorem screens_of_home (hpushed : browser.pushed = []) : browser.screens = [] := by
  rw [Browser.screens, hpushed, List.map_nil]

/-- The screens below stay what they are. -/
theorem screens_pushViewController (hsound : Sound insertComma browser) (opened : Opened) :
    (browser.pushViewController insertComma opened).screens = some opened :: browser.screens := by
  have hpushed : (browser.pushViewController insertComma opened).pushed =
      browser.controllers.length :: browser.pushed := by
    rw [pushViewController_eq]
  have hnew : (browser.kinds ++ [opened])[browser.controllers.length]? = some opened := by
    rw [← kinds_length, List.getElem?_concat_length]
  rw [Browser.screens, hpushed, kinds_pushViewController, List.map_cons, hnew, Browser.screens]
  refine congrArg _ (List.map_congr_left fun id hmem => ?_)
  exact List.getElem?_append_left (by rw [kinds_length]; exact hsound.pushed id hmem)

theorem Browsed.opens (h : Browsed deliveries browser) {opened : Opened}
    (hopens : OpensFrom browser opened) :
    Layered (some opened :: browser.screens) ∧
      (∀ controller, opened = .subCategory controller → Offers deliveries controller) ∧
      ∀ postId, opened = .detail postId →
        ∃ item, Sold deliveries item ∧ item.postId = postId := by
  cases hopens with
  | header home tag category button =>
      rw [screens_of_home home]
      refine ⟨.header category, fun controller heq => ?_, fun postId heq => ?_⟩
      · obtain rfl := Opened.subCategory.inj heq
        exact .header tag category button
      · cases heq
  | firstCategory home =>
      rw [screens_of_home home]
      exact ⟨.firstCategory, by simp, by simp⟩
  | detail home item row =>
      rw [screens_of_home home]
      refine ⟨.detail _, by simp, fun postId heq => ?_⟩
      exact ⟨item, h.home item row, Opened.detail.inj heq⟩
  | category category pushed top row =>
      have hstack := h.stack
      have hrows := h.rows _ (List.mem_of_getElem? top)
      rw [screens_of_pushed pushed top] at hstack ⊢
      refine ⟨?_, fun controller heq => ?_, fun postId heq => ?_⟩
      · generalize List.map _ _ = below at hstack ⊢
        cases hstack with
        | firstCategory => exact .subCategory category
      · obtain rfl := Opened.subCategory.inj heq
        exact .firstCategory category (hrows category row)
      · cases heq
  | @subCategory id below vc category entry pushed top parent row =>
      have hstack := h.stack
      have hrows := h.rows _ (List.mem_of_getElem? top)
      have hkind := List.mem_of_getElem? (kinds_getElem? top)
      rw [screens_of_pushed pushed top] at hstack ⊢
      simp only [ViewController.opened, parent] at hstack hkind ⊢
      refine ⟨.secondSubCategory category _ _ hstack, fun controller heq => ?_,
        fun postId heq => ?_⟩
      · obtain rfl := Opened.subCategory.inj heq
        refine .subCategory category entry (h.offers _ hkind) ?_
        rw [← parent]
        exact hrows.1 entry row
      · cases heq

/-! ## Steps -/

theorem rows_instantiate (opened : Opened) : Rows deliveries (opened.instantiate insertComma) := by
  cases opened with
  | firstCategory => exact List.forall_mem_nil _
  | subCategory controller =>
      exact ⟨fun category hmem => .inl (List.mem_singleton.mp hmem), List.forall_mem_nil _⟩
  | detail postId => trivial

theorem Browsed.pushViewController (h : Browsed deliveries browser)
    (hsound : Sound insertComma browser) {opened : Opened} (hopens : OpensFrom browser opened) :
    Browsed deliveries (browser.pushViewController insertComma opened) := by
  obtain ⟨hstack, hoffers, hsold⟩ := h.opens hopens
  refine ⟨?_, fun controller hmem => ?_, fun postId hmem => ?_, fun item hmem => ?_,
    fun vc hmem => ?_, fun block hmem => ?_⟩
  · rw [screens_pushViewController hsound]
    exact hstack
  · rw [kinds_pushViewController, List.mem_append, List.mem_singleton] at hmem
    obtain hmem | heq := hmem
    · exact h.offers controller hmem
    · exact hoffers controller heq.symm
  · rw [kinds_pushViewController, List.mem_append, List.mem_singleton] at hmem
    obtain hmem | heq := hmem
    · exact h.details postId hmem
    · exact hsold postId heq.symm
  · rw [pushViewController_eq] at hmem
    dsimp only at hmem
    split at hmem <;> exact h.home item hmem
  · rw [pushViewController_eq] at hmem
    obtain hmem | hmem := List.mem_append.mp hmem
    · exact h.rows vc hmem
    · obtain rfl := List.mem_singleton.mp hmem
      exact rows_instantiate opened
  · have hqueue : block ∈ browser.mainQueue := by
      rw [pushViewController_eq] at hmem
      exact hmem
    have hsent := h.queued block hqueue
    have hasked := hsound.queued block hqueue
    rw [kinds_pushViewController]
    cases block with
    | setHomeItem result => exact hsent
    | setCategory id result | setProduct id result =>
        intro controller hkind
        obtain ⟨asker, hasker⟩ := hasked id rfl
        have hold := (List.getElem?_eq_some_iff.mp hasker).1
        rw [List.getElem?_append_left hold] at hkind
        exact hsent controller hkind

theorem Browsed.setController {id : Nat} {vc vc' : ViewController} (h : Browsed deliveries browser)
    (hvc : browser.controllers[id]? = some vc) (hopened : vc'.opened = vc.opened)
    (hrows : Rows deliveries vc') : Browsed deliveries (browser.setController id vc') := by
  have hkinds := kinds_setController hvc hopened
  refine ⟨?_, ?_, ?_, h.home, fun other hmem => ?_, ?_⟩
  · rw [Browser.screens, hkinds]
    exact h.stack
  · rw [hkinds]
    exact h.offers
  · rw [hkinds]
    exact h.details
  · obtain hmem | rfl := List.mem_or_eq_of_mem_set hmem
    · exact h.rows other hmem
    · exact hrows
  · rw [hkinds]
    exact h.queued

theorem Browsed.queue {block : Block} (h : Browsed deliveries browser)
    (hblock : block.Sent deliveries browser.kinds) : Browsed deliveries (browser.queue block) := by
  refine ⟨h.stack, h.offers, h.details, h.home, h.rows, fun other hmem => ?_⟩
  obtain hmem | hmem := List.mem_append.mp hmem
  · exact h.queued other hmem
  · obtain rfl := List.mem_singleton.mp hmem
    exact hblock

/-- Requests, the counter of the home screen and the two flags are not looked at. -/
theorem Browsed.frame (h : Browsed deliveries browser)
    (hcontrollers : browser'.controllers = browser.controllers)
    (hpushed : browser'.pushed = browser.pushed)
    (hhome : browser'.home.ItemArray = browser.home.ItemArray)
    (hqueue : browser'.mainQueue ⊆ browser.mainQueue) : Browsed deliveries browser' := by
  have hkinds : browser'.kinds = browser.kinds := by rw [Browser.kinds, hcontrollers, Browser.kinds]
  refine ⟨?_, ?_, ?_, ?_, ?_, fun block hmem => ?_⟩
  · rw [Browser.screens, hpushed, hkinds]
    exact h.stack
  · rw [hkinds]
    exact h.offers
  · rw [hkinds]
    exact h.details
  · rw [hhome]
    exact h.home
  · rw [hcontrollers]
    exact h.rows
  · rw [hkinds]
    exact h.queued block (hqueue hmem)

theorem Browsed.popViewController (h : Browsed deliveries browser) :
    Browsed deliveries browser.popViewController := by
  have htail : Browsed deliveries { browser with pushed := browser.pushed.tail } := by
    refine ⟨?_, h.offers, h.details, h.home, h.rows, h.queued⟩
    rw [Browser.screens, List.map_tail]
    exact h.stack.tail
  simp only [Browser.popViewController]
  split
  · exact htail.frame rfl rfl rfl (List.Subset.refl _)
  · exact htail

theorem Browsed.runBlock {block : Block} (h : Browsed deliveries browser)
    (hblock : block.Sent deliveries browser.kinds) :
    Browsed deliveries (browser.runBlock insertComma block) := by
  cases block with
  | setHomeItem result =>
      refine ⟨h.stack, h.offers, h.details, fun item hmem => ?_, h.rows, h.queued⟩
      obtain hmem | hmem := List.mem_append.mp hmem
      · exact h.home item hmem
      · exact hblock item hmem
  | setCategory id result =>
      simp only [Browser.runBlock]
      split
      · rename_i vc hvc
        have hrows := h.rows _ (List.mem_of_getElem? hvc)
        refine h.setController hvc rfl ⟨fun category hmem => ?_, hrows.2⟩
        obtain hmem | hmem := List.mem_append.mp hmem
        · exact .inl (List.mem_singleton.mp hmem)
        · exact .inr (hblock vc.controller (kinds_getElem? hvc) category hmem)
      · exact h
  | setProduct id result =>
      simp only [Browser.runBlock]
      split
      · rename_i vc hvc
        have hrows := h.rows _ (List.mem_of_getElem? hvc)
        exact h.setController hvc rfl ⟨hrows.1, hblock vc.controller (kinds_getElem? hvc)⟩
      · exact h

/-- A granted answer shows what it delivers, or has it shown by a block. -/
theorem Browsed.answered {index : Nat} {request : Request} {answer : Answer}
    {rest : List Request} (h : Browsed deliveries browser) (hsound : Sound insertComma browser)
    (htaken : takeAt browser.requests index = some (request, rest))
    (hanswers : Answers insertComma { browser with requests := rest } request answer browser') :
    Browsed (deliveries ++ browser.delivered (.answered index answer)) browser' := by
  obtain ⟨hindex, _⟩ := takeAt_eq_some_iff.mp htaken
  have hrest : Browsed (deliveries ++ browser.delivered (.answered index answer))
      { browser with requests := rest } :=
    (h.mono (List.subset_append_left _ _)).frame rfl rfl rfl (List.Subset.refl _)
  have hasked := hsound.asked request (mem_of_takeAt htaken)
  cases hanswers with
  | refused => exact hrest
  | @homeItem page body result success present =>
      have hdelivered : browser.delivered (.answered index (.homeItem (.success body))) =
          [.homeItem result] := by
        simp [Browser.delivered, hindex, success, present]
      rw [hdelivered] at hrest ⊢
      exact hrest.queue fun item hmem => ⟨result, by simp, hmem⟩
  | noHomeItem | noProduct | noDetail =>
      exact hrest.frame rfl rfl rfl (List.Subset.refl _)
  | @category id body vc success asker =>
      have hdelivered : browser.delivered (.answered index (.category (.success body))) =
          [.category .category body.result] := by
        simp [Browser.delivered, hindex, success]
      rw [hdelivered] at hrest ⊢
      exact hrest.setController asker rfl fun category hmem => ⟨body.result, by simp, hmem⟩
  | @subCategory id endpoint body success =>
      have hdelivered : browser.delivered (.answered index (.subCategory (.success body))) =
          [.category (.subCategory endpoint) body.result] := by
        simp [Browser.delivered, hindex, success]
      rw [hdelivered] at hrest ⊢
      refine hrest.queue fun controller hkind category hmem => ?_
      obtain ⟨opened, hopened, hasks⟩ := hasked id rfl
      obtain rfl : opened = .subCategory controller := Option.some.inj (hopened.symm.trans hkind)
      cases hasks with
      | subCategory _ _ clicked button => exact ⟨clicked, button, body.result, by simp, hmem⟩
  | @product id endpoint body result success present =>
      have hdelivered : browser.delivered (.answered index (.product (.success body))) =
          [.product endpoint result] := by
        simp [Browser.delivered, hindex, success, present]
      rw [hdelivered] at hrest ⊢
      refine hrest.queue fun controller hkind product hmem => ?_
      obtain ⟨opened, hopened, hasks⟩ := hasked id rfl
      obtain rfl : opened = .subCategory controller := Option.some.inj (hopened.symm.trans hkind)
      cases hasks with
      | product => exact ⟨result, by simp, hmem⟩
  | detail success asker shown => exact hrest.setController asker rfl trivial

theorem Browsed.of_steps (h : Browsed deliveries browser) (hsound : Sound insertComma browser)
    (hsteps : Steps insertComma browser e browser') :
    Browsed (deliveries ++ browser.delivered e) browser' := by
  cases hsteps with
  | idle =>
      rw [Browser.delivered, List.append_nil]
      exact h
  | opens opens =>
      rw [Browser.delivered, List.append_nil]
      exact h.pushViewController hsound (opensFrom_of_opening hsound opens)
  | pops =>
      rw [Browser.delivered, List.append_nil]
      exact h.popViewController
  | displays =>
      rw [Browser.delivered, List.append_nil]
      exact h.frame rfl rfl rfl (List.Subset.refl _)
  | @presses id vc top screen token =>
      rw [Browser.delivered, List.append_nil]
      have hrows := h.rows _ (List.mem_of_getElem? screen)
      have hpressed : Browsed deliveries
          (browser.setController id (.SubCategoryViewController vc.press)) :=
        h.setController screen rfl hrows
      exact hpressed.frame rfl rfl rfl (List.Subset.refl _)
  | answers taken answers => exact h.answered hsound taken answers
  | @runs block rest queue =>
      rw [Browser.delivered, List.append_nil]
      have hrest : Browsed deliveries { browser with mainQueue := rest } :=
        h.frame rfl rfl rfl (queue ▸ List.subset_cons_self _ _)
      exact hrest.runBlock (h.queued block (queue ▸ List.mem_cons_self))

theorem browsed_opened (jwtToken : Option String) : Browsed [] (opened jwtToken) := by
  refine ⟨.home, ?_, ?_, ?_, ?_, ?_⟩ <;>
    simp [Browser.kinds, opened, Browser.homeViewWillAppear, Browser.send]

variable {jwtToken : Option String} {es : List Event}

theorem browsed_run (h : (browsing insertComma).run (opened jwtToken) es = some browser) :
    Browsed (delivered insertComma jwtToken es) browser := by
  refine Machine.run_induction
    (P := fun es browser => Browsed (delivered insertComma jwtToken es) browser)
    (browsed_opened jwtToken) (fun es t e u hrun ih hstep => ?_) es browser h
  have hsound := sound_run hrun
  rw [delivered, Machine.collect_concat _ hrun]
  exact ih.of_steps hsound (hsound.steps hstep).2.2

/-! ## Every run -/

/-- The stack is as the navigation intends, and every screen was opened with something the
server had sent by then, or with a category of the header. -/
structure PathSound (deliveries : List Delivery) (browser : Browser) : Prop where
  stack : Layered browser.screens
  depth : browser.pushed.length ≤ 3
  offers : ∀ controller, .subCategory controller ∈ browser.kinds → Offers deliveries controller
  details : ∀ postId, .detail postId ∈ browser.kinds →
    ∃ item, Sold deliveries item ∧ item.postId = postId

/-- In every run, also of screens popped since, the screens form a path the server offered. -/
theorem browsing_path (h : (browsing insertComma).run (opened jwtToken) es = some browser) :
    PathSound (delivered insertComma jwtToken es) browser := by
  have hbrowsed := browsed_run h
  refine ⟨hbrowsed.stack, ?_, hbrowsed.offers, hbrowsed.details⟩
  simpa [Browser.screens] using hbrowsed.stack.length_le

theorem browsing_path_dresses : ∃ browser,
    (browsing id).run (opened (some "jwt")) dresses = some browser ∧
      PathSound (delivered id (some "jwt") dresses) browser :=
  ⟨_, rfl, browsing_path rfl⟩

/-- What is shown, and what is asked for, belongs to the controller it is found at. -/
structure RowsSound (deliveries : List Delivery) (browser : Browser) : Prop where
  home : ∀ item ∈ browser.home.ItemArray, Sold deliveries item
  rows : ∀ vc ∈ browser.controllers, Rows deliveries vc
  asked : ∀ request ∈ browser.requests, ∀ id ∈ request.vc,
    ∃ vc, browser.controllers[id]? = some vc ∧ vc.opened.Asks request

/-- In every run, whatever overtakes what, each screen shows only what was sent for it. -/
theorem rows_sent_for_screen
    (h : (browsing insertComma).run (opened jwtToken) es = some browser) :
    RowsSound (delivered insertComma jwtToken es) browser := by
  have hbrowsed := browsed_run h
  refine ⟨hbrowsed.home, hbrowsed.rows, fun request hmem id hid => ?_⟩
  obtain ⟨opened, hkind, hasks⟩ := (sound_run h).asked request hmem id hid
  obtain ⟨vc, hvc, rfl⟩ := exists_of_kinds hkind
  exact ⟨vc, hvc, hasks⟩

theorem rows_sent_for_dresses : ∃ browser,
    (browsing id).run (opened (some "jwt")) dresses = some browser ∧
      RowsSound (delivered id (some "jwt") dresses) browser :=
  ⟨_, rfl, rows_sent_for_screen rfl⟩

end BunjangClone.Browsing
