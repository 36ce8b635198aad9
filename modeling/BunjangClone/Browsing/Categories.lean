import BunjangClone.Browsing.Steps
import BunjangClone.Category.Expand

/-!
# The category screens of a browsing run

Several category screens live at a time, on the stack and popped, and their requests and
blocks are mixed with those of all others. Seen alone, each of them is a `Category.screen`
from the moment it is opened: it takes its own callbacks, in their order, and nothing else.
-/

namespace BunjangClone.Browsing

open Reactive

variable {insertComma : String → String} {browser browser' : Browser} {e : Event}
variable {id : Nat} {vc : SubCategoryViewController}

/-! ## What a category screen sees -/

/-- The list a request of the screen asks for. -/
def Request.list (id : Nat) : Request → Option Category.Endpoint
  | subCategory vc endpoint => if vc = id then some endpoint else none
  | homeItem _ | category _ | product _ _ | detail _ _ => none

/-- The products a request of the screen asks for. -/
def Request.products (id : Nat) : Request → Option Category.ProductEndpoint
  | product vc endpoint => if vc = id then some endpoint else none
  | homeItem _ | category _ | subCategory _ _ | detail _ _ => none

/-- A block of the screen. -/
def Block.forScreen (id : Nat) : Block → Option Category.Block
  | setHomeItem _ => none
  | setCategory vc result => if vc = id then some (.setCategory result) else none
  | setProduct vc result => if vc = id then some (.setProduct result) else none

/-- Without a token the screen has left for the login screen as it was opened. -/
def Browser.screenPart (browser : Browser) (id : Nat) (vc : SubCategoryViewController) :
    Category.Screen where
  isExpand := vc.isExpand
  categoryArray := vc.categoryArray
  productArray := vc.productArray
  jwtToken := browser.jwtToken
  requests := browser.requests.filterMap (Request.list id)
  productRequests := browser.requests.filterMap (Request.products id)
  mainQueue := browser.mainQueue.filterMap (Block.forScreen id)
  left := browser.jwtToken.isNone

/-- The callbacks an event is for the screen with the number `id`. -/
def Browser.screenCallbacks (id : Nat) (browser : Browser) : Event → List Category.Callback
  | .touched touch =>
      if touch = .buttonPressed ∧ browser.pushed.head? = some id then [.buttonPressed] else []
  | .answered index answer =>
      match browser.requests[index]?, answer with
      | some (.subCategory vc _), .subCategory response =>
          if vc = id then
            [.answerCategory (rank (Request.list id) browser.requests index) response]
          else []
      | some (.product vc _), .product response =>
          if vc = id then
            [.answerProduct (rank (Request.products id) browser.requests index) response]
          else []
      | _, _ => []
  | .runBlock =>
      match browser.mainQueue with
      | block :: _ => if block.vc = some id then [.runBlock] else []
      | [] => []

/-! ## Requests and blocks of other screens -/

theorem list_of_other {request : Request} (h : request.vc ≠ some id) : request.list id = none := by
  cases request with
  | subCategory vc endpoint =>
      have hother : vc ≠ id := fun heq => h (heq ▸ rfl)
      exact if_neg hother
  | homeItem | category | product | detail => rfl

theorem products_of_other {request : Request} (h : request.vc ≠ some id) :
    request.products id = none := by
  cases request with
  | product vc endpoint =>
      have hother : vc ≠ id := fun heq => h (heq ▸ rfl)
      exact if_neg hother
  | homeItem | category | subCategory | detail => rfl

theorem forScreen_of_other {block : Block} (h : block.vc ≠ some id) :
    block.forScreen id = none := by
  cases block with
  | setHomeItem => rfl
  | setCategory vc result | setProduct vc result =>
      have hother : vc ≠ id := fun heq => h (heq ▸ rfl)
      exact if_neg hother

theorem filterMap_list_of_others {requests : List Request}
    (h : ∀ request ∈ requests, request.vc ≠ some id) :
    requests.filterMap (Request.list id) = [] :=
  List.filterMap_eq_nil_iff.mpr fun request hmem => list_of_other (h request hmem)

theorem filterMap_products_of_others {requests : List Request}
    (h : ∀ request ∈ requests, request.vc ≠ some id) :
    requests.filterMap (Request.products id) = [] :=
  List.filterMap_eq_nil_iff.mpr fun request hmem => products_of_other (h request hmem)

/-- The part of a screen depends on its own requests and blocks alone. -/
theorem screenPart_eq (hjwt : browser'.jwtToken = browser.jwtToken)
    (hlist : browser'.requests.filterMap (Request.list id) =
      browser.requests.filterMap (Request.list id))
    (hproducts : browser'.requests.filterMap (Request.products id) =
      browser.requests.filterMap (Request.products id))
    (hqueue : browser'.mainQueue.filterMap (Block.forScreen id) =
      browser.mainQueue.filterMap (Block.forScreen id)) :
    browser'.screenPart id vc = browser.screenPart id vc := by
  rw [Browser.screenPart, Browser.screenPart, hjwt, hlist, hproducts, hqueue]

theorem screenPart_send {request : Request} (h : request.vc ≠ some id) :
    (browser.send request).screenPart id vc = browser.screenPart id vc :=
  screenPart_eq rfl (by simp [Browser.send, list_of_other h])
    (by simp [Browser.send, products_of_other h]) rfl

theorem screenPart_queue {block : Block} (h : block.vc ≠ some id) :
    (browser.queue block).screenPart id vc = browser.screenPart id vc :=
  screenPart_eq rfl rfl rfl (by simp [Browser.queue, forScreen_of_other h])

theorem screenPart_pushViewController {opened : Opened} (h : id < browser.controllers.length) :
    (browser.pushViewController insertComma opened).screenPart id vc =
      browser.screenPart id vc := by
  have hothers : ∀ request ∈ (if browser.loads opened then
      opened.requests browser.controllers.length else []), request.vc ≠ some id := by
    intro request hmem hvc
    split at hmem
    · have hown := (asks_requests hmem).1.symm.trans hvc
      have hlength : browser.controllers.length = id := Option.some.inj hown
      omega
    · cases hmem
  rw [pushViewController_eq]
  refine screenPart_eq rfl ?_ ?_ rfl <;> dsimp only
  · rw [List.filterMap_append, filterMap_list_of_others hothers, List.append_nil]
  · rw [List.filterMap_append, filterMap_products_of_others hothers, List.append_nil]

/-! ## Steps -/

/-- What an event does to a screen: it is still there, and took its own callbacks. -/
def Carries (id : Nat) (vc : SubCategoryViewController) (browser : Browser) (e : Event)
    (browser' : Browser) : Prop :=
  ∃ vc', browser'.controllers[id]? = some (.SubCategoryViewController vc') ∧
    vc'.controller = vc.controller ∧
    (Category.screen vc.controller).run (browser.screenPart id vc)
      (browser.screenCallbacks id e) = some (browser'.screenPart id vc')

theorem carries_of_other (hvc : browser'.controllers[id]? = some (.SubCategoryViewController vc))
    (hcallbacks : browser.screenCallbacks id e = [])
    (hpart : browser'.screenPart id vc = browser.screenPart id vc) :
    Carries id vc browser e browser' :=
  ⟨vc, hvc, rfl, by rw [hcallbacks, hpart, Machine.run_nil]⟩

theorem carries_of_own (vc' : SubCategoryViewController) (callback : Category.Callback)
    (hvc : browser'.controllers[id]? = some (.SubCategoryViewController vc'))
    (hcontroller : vc'.controller = vc.controller)
    (hcallbacks : browser.screenCallbacks id e = [callback])
    (hstep : (Category.screen vc.controller).step (browser.screenPart id vc) callback =
      some (browser'.screenPart id vc')) : Carries id vc browser e browser' := by
  refine ⟨vc', hvc, hcontroller, ?_⟩
  rw [hcallbacks]
  exact Machine.run_cons_iff.mpr ⟨_, hstep, rfl⟩

theorem carries_touch {touch : Touch} (hbutton : touch ≠ .buttonPressed)
    (hvc : browser'.controllers[id]? = some (.SubCategoryViewController vc))
    (hpart : browser'.screenPart id vc = browser.screenPart id vc) :
    Carries id vc browser (.touched touch) browser' :=
  carries_of_other hvc (by simp [Browser.screenCallbacks, hbutton]) hpart

theorem carries_press {id' : Nat} {vc' : SubCategoryViewController}
    (hvc : browser.controllers[id]? = some (.SubCategoryViewController vc))
    (htop : browser.pushed.head? = some id')
    (hscreen : browser.controllers[id']? = some (.SubCategoryViewController vc'))
    (htoken : browser.jwtToken.isSome = true) :
    Carries id vc browser (.touched .buttonPressed)
      ((browser.setController id' (.SubCategoryViewController vc'.press)).send
        (.subCategory id' (vc'.controller.getCategory vc'.press.clicked))) := by
  by_cases hown : id' = id
  · subst hown
    obtain rfl := ViewController.SubCategoryViewController.inj
      (Option.some.inj (hvc.symm.trans hscreen))
    have hlength := (List.getElem?_eq_some_iff.mp hvc).1
    obtain ⟨jwt, hjwt⟩ := Option.isSome_iff_exists.mp htoken
    refine carries_of_own vc.press .buttonPressed ?_ rfl ?_ ?_
    · simp [Browser.setController, Browser.send, hlength]
    · simp [Browser.screenCallbacks, htop]
    · refine Category.step_buttonPressed.mpr ⟨?_, ?_⟩
      · simp [Browser.screenPart, hjwt]
      · rw [Category.buttonPressed_eq]
        simp [Browser.screenPart, Category.Screen.getCategory, Browser.send,
          Browser.setController, SubCategoryViewController.press,
          SubCategoryViewController.clicked, Category.clickedFor, Request.list,
          Request.products, hjwt]
  · refine carries_of_other ?_ ?_ ?_
    · simp [Browser.setController, Browser.send, List.getElem?_set_ne hown, hvc]
    · simp [Browser.screenCallbacks, htop, hown]
    · exact screenPart_send (by simpa [Request.vc] using hown)

/-- An answer to something else. -/
theorem carries_unanswered {index : Nat} {request : Request} {answer : Answer}
    {rest : List Request} (hvc : browser'.controllers[id]? = some (.SubCategoryViewController vc))
    (htaken : takeAt browser.requests index = some (request, rest))
    (hlist : request.list id = none) (hproducts : request.products id = none)
    (hpart : browser'.screenPart id vc = { browser with requests := rest }.screenPart id vc) :
    Carries id vc browser (.answered index answer) browser' := by
  obtain ⟨hindex, _⟩ := takeAt_eq_some_iff.mp htaken
  refine carries_of_other hvc ?_ (hpart.trans ?_)
  · cases request with
    | homeItem | category | detail => simp [Browser.screenCallbacks, hindex]
    | subCategory vc endpoint =>
        have hother : vc ≠ id := by simpa [Request.list] using hlist
        cases answer <;> simp [Browser.screenCallbacks, hindex, hother]
    | product vc endpoint =>
        have hother : vc ≠ id := by simpa [Request.products] using hproducts
        cases answer <;> simp [Browser.screenCallbacks, hindex, hother]
  · exact screenPart_eq rfl (filterMap_of_takeAt htaken hlist)
      (filterMap_of_takeAt htaken hproducts) rfl

/-- The answer to a request for the screen's list. -/
theorem carries_list {index : Nat} {endpoint : Category.Endpoint} {response : SubCategoryResponse}
    {rest : List Request}
    (hvc : browser'.controllers[id]? = some (.SubCategoryViewController vc))
    (htaken : takeAt browser.requests index = some (.subCategory id endpoint, rest))
    (hpart : browser'.screenPart id vc = if Category.grants response then
        ({ browser with requests := rest }.screenPart id vc).setCategory
          (Category.received response)
      else { browser with requests := rest }.screenPart id vc) :
    Carries id vc browser (.answered index (.subCategory response)) browser' := by
  obtain ⟨hindex, _⟩ := takeAt_eq_some_iff.mp htaken
  refine carries_of_own vc
    (.answerCategory (rank (Request.list id) browser.requests index) response) hvc rfl ?_ ?_
  · simp [Browser.screenCallbacks, hindex]
  · have hown : Request.list id (.subCategory id endpoint) = some endpoint := if_pos rfl
    have htake := takeAt_filterMap htaken hown
    have hproducts : rest.filterMap (Request.products id) =
        browser.requests.filterMap (Request.products id) := filterMap_of_takeAt htaken rfl
    refine Category.step_answerCategory.mpr ⟨endpoint, _, htake, ?_⟩
    rw [hpart, Browser.screenPart, Browser.screenPart]
    split <;> simp [hproducts]

theorem handleProduct_of_refused {controller : Category.Controller} {screen : Category.Screen}
    {response : ProductResponse} (h : response.isSuccess = false) :
    (controller.handleProduct response).foldlM
      (Category.Screen.perform Category.Screen.setProduct) screen = some screen := by
  have hboth : controller.handleProduct response =
      ProductDataManager.getSubCategory response := by
    cases controller <;> rfl
  rw [hboth]
  cases response with
  | failure => rfl
  | success body =>
      have hrefused : body.isSuccess = false := h
      by_cases hcode : body.code = 3008 <;>
        simp [ProductDataManager.getSubCategory, hrefused, hcode, Category.Screen.perform]

theorem handleProduct_of_granted {controller : Category.Controller} {screen : Category.Screen}
    {body : Response (Option (List Product))} {result : List Product}
    (hsuccess : body.isSuccess = true) (hresult : body.result = some result) :
    (controller.handleProduct (.success body)).foldlM
      (Category.Screen.perform Category.Screen.setProduct) screen =
        some (screen.setProduct result) := by
  have hboth : controller.handleProduct (.success body) =
      ProductDataManager.getSubCategory (.success body) := by
    cases controller <;> rfl
  rw [hboth]
  simp [ProductDataManager.getSubCategory, hsuccess, hresult, deliverUnwrapped,
    Category.Screen.perform]

/-- The answer to a request for the screen's products. -/
theorem carries_products {index : Nat} {endpoint : Category.ProductEndpoint}
    {response : ProductResponse} {rest : List Request}
    (hvc : browser'.controllers[id]? = some (.SubCategoryViewController vc))
    (htaken : takeAt browser.requests index = some (.product id endpoint, rest))
    (hpart : (vc.controller.handleProduct response).foldlM
        (Category.Screen.perform Category.Screen.setProduct)
        ({ browser with requests := rest }.screenPart id vc) =
      some (browser'.screenPart id vc)) :
    Carries id vc browser (.answered index (.product response)) browser' := by
  obtain ⟨hindex, _⟩ := takeAt_eq_some_iff.mp htaken
  refine carries_of_own vc
    (.answerProduct (rank (Request.products id) browser.requests index) response) hvc rfl ?_ ?_
  · simp [Browser.screenCallbacks, hindex]
  · have hown : Request.products id (.product id endpoint) = some endpoint := if_pos rfl
    have htake : takeAt (browser.screenPart id vc).productRequests
        (rank (Request.products id) browser.requests index) =
          some (endpoint, rest.filterMap (Request.products id)) := takeAt_filterMap htaken hown
    have hlist : rest.filterMap (Request.list id) =
        browser.requests.filterMap (Request.list id) := filterMap_of_takeAt htaken rfl
    have hrest : { browser.screenPart id vc with
        productRequests := rest.filterMap (Request.products id) } =
          { browser with requests := rest }.screenPart id vc := by
      rw [Browser.screenPart, Browser.screenPart, hlist]
    rw [← hpart, ← hrest]
    simp [Category.screen, Category.step, htake]

theorem carries_setController {id' : Nat} {other other' : ViewController} {request : Request}
    {index : Nat} {answer : Answer} {rest : List Request}
    (hvc : browser.controllers[id]? = some (.SubCategoryViewController vc))
    (htaken : takeAt browser.requests index = some (request, rest))
    (hlist : request.list id = none) (hproducts : request.products id = none)
    (hasker : browser.controllers[id']? = some other)
    (hkind : other ≠ .SubCategoryViewController vc) :
    Carries id vc browser (.answered index answer)
      ({ browser with requests := rest }.setController id' other') := by
  have hne : id' ≠ id := by
    rintro rfl
    exact hkind (Option.some.inj (hasker.symm.trans hvc))
  refine carries_unanswered ?_ htaken hlist hproducts rfl
  rw [Browser.setController, List.getElem?_set_ne hne]
  exact hvc

theorem carries_answered {index : Nat} {request : Request} {answer : Answer}
    {rest : List Request} (hvc : browser.controllers[id]? = some (.SubCategoryViewController vc))
    (htaken : takeAt browser.requests index = some (request, rest))
    (hanswers : Answers insertComma { browser with requests := rest } request answer browser')
    (htrapped : browser'.trapped = false) :
    Carries id vc browser (.answered index answer) browser' := by
  cases hanswers with
  | refused takes refused =>
      cases request with
      | homeItem | category | detail => exact carries_unanswered hvc htaken rfl rfl rfl
      | subCategory id' endpoint =>
          by_cases hown : id' = id
          · subst hown
            cases answer with
            | subCategory response =>
                have hrefused : Category.grants response = false := by
                  cases response <;> exact refused
                refine carries_list hvc htaken ?_
                rw [hrefused]
                rfl
            | homeItem | category | product | detail => cases takes
          · exact carries_unanswered hvc htaken (if_neg hown) rfl rfl
      | product id' endpoint =>
          by_cases hown : id' = id
          · subst hown
            cases answer with
            | product response =>
                exact carries_products hvc htaken (handleProduct_of_refused refused)
            | homeItem | category | subCategory | detail => cases takes
          · exact carries_unanswered hvc htaken rfl (if_neg hown) rfl
  | homeItem success present =>
      exact carries_unanswered hvc htaken rfl rfl (screenPart_queue (by simp [Block.vc]))
  | noHomeItem | noProduct | noDetail => cases htrapped
  | category success asker => exact carries_setController hvc htaken rfl rfl asker (by simp)
  | @subCategory id' endpoint body success =>
      by_cases hown : id' = id
      · subst hown
        have hgrants : Category.grants (.success body) = true := success
        refine carries_list hvc htaken ?_
        rw [if_pos hgrants]
        simp [Browser.screenPart, Browser.queue, Category.Screen.setCategory, Block.forScreen,
          Category.received]
      · exact carries_unanswered hvc htaken (if_neg hown) rfl
          (screenPart_queue (by simpa [Block.vc] using hown))
  | @product id' endpoint body result success present =>
      by_cases hown : id' = id
      · subst hown
        refine carries_products hvc htaken ((handleProduct_of_granted success present).trans ?_)
        simp [Browser.screenPart, Browser.queue, Category.Screen.setProduct, Block.forScreen]
      · exact carries_unanswered hvc htaken rfl (if_neg hown)
          (screenPart_queue (by simpa [Block.vc] using hown))
  | detail success asker shown => exact carries_setController hvc htaken rfl rfl asker (by simp)

/-- A block of something else. -/
theorem carries_other_block {block : Block} {rest : List Block}
    (hvc : browser.controllers[id]? = some (.SubCategoryViewController vc))
    (hqueue : browser.mainQueue = block :: rest) (hother : block.vc ≠ some id) :
    Carries id vc browser .runBlock
      ({ browser with mainQueue := rest }.runBlock insertComma block) := by
  have hcallbacks : browser.screenCallbacks id .runBlock = [] := by
    simp [Browser.screenCallbacks, hqueue, hother]
  have hrest : rest.filterMap (Block.forScreen id) =
      browser.mainQueue.filterMap (Block.forScreen id) := by
    simp [hqueue, forScreen_of_other hother]
  have hsame : ∀ id' vc', id' ≠ id → Carries id vc browser .runBlock
      ({ browser with mainQueue := rest }.setController id' vc') := by
    intro id' vc' hne
    refine carries_of_other ?_ hcallbacks (screenPart_eq rfl rfl rfl hrest)
    rw [Browser.setController, List.getElem?_set_ne hne]
    exact hvc
  cases block with
  | setHomeItem result =>
      exact carries_of_other hvc hcallbacks (screenPart_eq rfl rfl rfl hrest)
  | setCategory id' result | setProduct id' result =>
      have hne : id' ≠ id := fun heq => hother (heq ▸ rfl)
      simp only [Browser.runBlock]
      split
      · exact hsame id' _ hne
      · exact carries_of_other hvc hcallbacks (screenPart_eq rfl rfl rfl hrest)

/-- A block of the screen. -/
theorem carries_own_block {block : Block} {screenBlock : Category.Block} {rest : List Block}
    (hvc : browser.controllers[id]? = some (.SubCategoryViewController vc))
    (hqueue : browser.mainQueue = block :: rest)
    (hown : block.forScreen id = some screenBlock) (hblock : block.vc = some id) :
    Carries id vc browser .runBlock
      ({ browser with mainQueue := rest }.runBlock insertComma block) := by
  have hlength := (List.getElem?_eq_some_iff.mp hvc).1
  have hcallbacks : browser.screenCallbacks id .runBlock = [.runBlock] := by
    simp [Browser.screenCallbacks, hqueue, hblock]
  have hmain : (browser.screenPart id vc).mainQueue =
      screenBlock :: rest.filterMap (Block.forScreen id) := by
    simp [Browser.screenPart, hqueue, hown]
  have hset : ∀ vc' : SubCategoryViewController, (({ browser with mainQueue := rest } :
      Browser).setController id (.SubCategoryViewController vc')).controllers[id]? =
        some (.SubCategoryViewController vc') := by
    intro vc'
    simp [Browser.setController, hlength]
  cases block with
  | setHomeItem => cases hblock
  | setCategory id' result =>
      obtain rfl : id' = id := Option.some.inj hblock
      obtain rfl : Category.Block.setCategory result = screenBlock := by
        simpa [Block.forScreen] using hown
      simp only [Browser.runBlock, hvc]
      exact carries_of_own (vc.setCategoryBlock insertComma result) .runBlock (hset _) rfl
        hcallbacks (Category.step_runBlock.mpr ⟨_, _, hmain, rfl⟩)
  | setProduct id' result =>
      obtain rfl : id' = id := Option.some.inj hblock
      obtain rfl : Category.Block.setProduct result = screenBlock := by
        simpa [Block.forScreen] using hown
      simp only [Browser.runBlock, hvc]
      exact carries_of_own (vc.setProductBlock insertComma result) .runBlock (hset _) rfl
        hcallbacks (Category.step_runBlock.mpr ⟨_, _, hmain, rfl⟩)

theorem carries_runs {block : Block} {rest : List Block}
    (hvc : browser.controllers[id]? = some (.SubCategoryViewController vc))
    (hqueue : browser.mainQueue = block :: rest) :
    Carries id vc browser .runBlock
      ({ browser with mainQueue := rest }.runBlock insertComma block) := by
  by_cases hblock : block.vc = some id
  · cases hown : block.forScreen id with
    | some screenBlock => exact carries_own_block hvc hqueue hown hblock
    | none =>
        cases block with
        | setHomeItem => cases hblock
        | setCategory id' result | setProduct id' result =>
            obtain rfl : id' = id := Option.some.inj hblock
            simp [Block.forScreen] at hown
  · exact carries_other_block hvc hqueue hblock

/-- Each event is for a screen what `screenCallbacks` says. -/
theorem carries_of_steps (hvc : browser.controllers[id]? = some (.SubCategoryViewController vc))
    (hsteps : Steps insertComma browser e browser')
    (htrapped : browser'.trapped = false) : Carries id vc browser e browser' := by
  cases hsteps with
  | idle opens button back last => exact carries_touch button hvc rfl
  | @opens touch opened opens =>
      have hlength := (List.getElem?_eq_some_iff.mp hvc).1
      refine carries_touch ?_ ?_ (screenPart_pushViewController hlength)
      · rintro rfl
        cases opens
      · rw [pushViewController_eq]
        exact (List.getElem?_append_left hlength).trans hvc
  | pops covered =>
      simp only [Browser.popViewController]
      split
      · exact carries_touch (by simp) hvc (screenPart_send (by simp [Request.vc]))
      · exact carries_touch (by simp) hvc rfl
  | displays => exact carries_touch (by simp) hvc (screenPart_send (by simp [Request.vc]))
  | presses top screen token => exact carries_press hvc top screen token
  | answers taken answers => exact carries_answered hvc taken answers htrapped
  | runs queue => exact carries_runs hvc queue

/-! ## Screens that are opened -/

/-- Nothing is there yet for a controller that has not been opened. -/
theorem nothing_for_unopened (hsound : Sound insertComma browser)
    (hunopened : browser.controllers.length ≤ id) :
    (∀ request ∈ browser.requests, request.vc ≠ some id) ∧
      ∀ block ∈ browser.mainQueue, block.vc ≠ some id := by
  have hkind : browser.kinds[id]? = none :=
    List.getElem?_eq_none (by rw [kinds_length]; exact hunopened)
  refine ⟨fun request hmem hvc => ?_, fun block hmem hvc => ?_⟩
  · obtain ⟨opened, hopened, _⟩ := hsound.asked request hmem id hvc
    cases hkind.symm.trans hopened
  · obtain ⟨controller, hcontroller⟩ := hsound.queued block hmem id hvc
    cases hkind.symm.trans hcontroller

theorem screenCallbacks_of_unopened (hsound : Sound insertComma browser)
    (hunopened : browser.controllers.length ≤ id) : browser.screenCallbacks id e = [] := by
  obtain ⟨hrequests, hblocks⟩ := nothing_for_unopened hsound hunopened
  cases e with
  | touched touch =>
      refine if_neg fun ⟨_, hhead⟩ => ?_
      have hlt := hsound.pushed id (List.mem_of_head? hhead)
      omega
  | answered index answer =>
      cases hindex : browser.requests[index]? with
      | none => simp [Browser.screenCallbacks, hindex]
      | some request =>
          have hother := hrequests request (List.mem_of_getElem? hindex)
          cases request with
          | homeItem | category | detail => simp [Browser.screenCallbacks, hindex]
          | subCategory vc endpoint | product vc endpoint =>
              have hne : vc ≠ id := fun heq => hother (heq ▸ rfl)
              cases answer <;> simp [Browser.screenCallbacks, hindex, hne]
  | runBlock =>
      cases hqueue : browser.mainQueue with
      | nil => simp [Browser.screenCallbacks, hqueue]
      | cons block rest =>
          have hother := hblocks block (hqueue ▸ List.mem_cons_self)
          simp [Browser.screenCallbacks, hqueue, hother]

/-- A screen that is opened starts as it is loaded. -/
theorem screenPart_loaded {opened : Opened} (hsound : Sound insertComma browser)
    (hvc : opened.instantiate insertComma = .SubCategoryViewController vc) :
    (browser.pushViewController insertComma opened).screenPart browser.controllers.length vc =
      Category.loaded vc.controller browser.jwtToken := by
  obtain ⟨hrequests, hblocks⟩ := nothing_for_unopened hsound (Nat.le_refl _)
  have hqueue : browser.mainQueue.filterMap (Block.forScreen browser.controllers.length) = [] :=
    List.filterMap_eq_nil_iff.mpr fun block hmem => forScreen_of_other (hblocks block hmem)
  cases opened with
  | firstCategory | detail => cases hvc
  | subCategory controller =>
      obtain rfl := ViewController.SubCategoryViewController.inj hvc
      rw [pushViewController_eq]
      cases htoken : browser.jwtToken <;>
        simp [Browser.screenPart, Browser.loads, Opened.requests, Request.list, Request.products,
          Category.loaded, Category.Screen.viewDidLoad, Category.Screen.getCategory,
          Category.Screen.getProduct, SubCategoryViewController.reloadCategory,
          SubCategoryViewController.reloadProduct, htoken, hqueue,
          filterMap_list_of_others hrequests, filterMap_products_of_others hrequests,
          List.filterMap_cons]

/-- Controllers are what they were, or one more has been opened. -/
theorem kinds_of_steps (hsteps : Steps insertComma browser e browser') :
    browser'.kinds = browser.kinds ∨
      ∃ opened, browser' = browser.pushViewController insertComma opened := by
  cases hsteps with
  | idle | displays => exact .inl rfl
  | opens => exact .inr ⟨_, rfl⟩
  | pops =>
      refine .inl ?_
      simp only [Browser.popViewController]
      split <;> rfl
  | presses top screen token => exact .inl (kinds_setController screen rfl)
  | answers taken answers =>
      refine .inl ?_
      cases answers with
      | category success asker => exact kinds_setController asker rfl
      | detail success asker shown => exact kinds_setController asker rfl
      | _ => rfl
  | @runs block rest queue =>
      refine .inl ?_
      cases block with
      | setHomeItem => rfl
      | setCategory id result | setProduct id result =>
          simp only [Browser.runBlock]
          split
          · rename_i vc hvc
            exact kinds_setController hvc rfl
          · rfl

/-- A category screen was there before the step or has just been opened. -/
theorem screen_of_steps (hsound : Sound insertComma browser)
    (hsteps : Steps insertComma browser e browser')
    (hvc : browser'.controllers[id]? = some (.SubCategoryViewController vc)) :
    (∃ vc, browser.controllers[id]? = some (.SubCategoryViewController vc)) ∨
      (id = browser.controllers.length ∧
        browser'.screenPart id vc = Category.loaded vc.controller browser.jwtToken) := by
  obtain hkinds | ⟨opened, rfl⟩ := kinds_of_steps hsteps
  · have hkind := kinds_getElem? hvc
    rw [hkinds] at hkind
    obtain ⟨vc', hvc', _⟩ := exists_subCategory hkind
    exact .inl ⟨vc', hvc'⟩
  · have hcontrollers : (browser.pushViewController insertComma opened).controllers =
        browser.controllers ++ [opened.instantiate insertComma] := by
      rw [pushViewController_eq]
    rw [hcontrollers] at hvc
    obtain hlt | hge := Nat.lt_or_ge id browser.controllers.length
    · rw [List.getElem?_append_left hlt] at hvc
      exact .inl ⟨vc, hvc⟩
    · have hlength := (List.getElem?_eq_some_iff.mp hvc).1
      rw [List.length_append, List.length_singleton] at hlength
      obtain rfl : id = browser.controllers.length := by omega
      rw [List.getElem?_concat_length] at hvc
      exact .inr ⟨rfl, screenPart_loaded hsound (Option.some.inj hvc)⟩

/-! ## Every run -/

variable {jwtToken : Option String} {es : List Event}

/-- The screens of a run so far, as far as it has not ended in a trap. -/
structure Screens (jwtToken : Option String) (callbacks : Nat → List Category.Callback)
    (browser : Browser) : Prop where
  jwt : browser.jwtToken = jwtToken
  unopened : ∀ id, browser.controllers.length ≤ id → callbacks id = []
  opened : browser.trapped = false → ∀ id vc,
    browser.controllers[id]? = some (.SubCategoryViewController vc) →
      (Category.screen vc.controller).run (Category.loaded vc.controller jwtToken)
        (callbacks id) = some (browser.screenPart id vc)

theorem jwtToken_of_steps (hsteps : Steps insertComma browser e browser') :
    browser'.jwtToken = browser.jwtToken := by
  cases hsteps with
  | idle | displays | presses => rfl
  | opens => rw [pushViewController_eq]
  | pops =>
      simp only [Browser.popViewController]
      split <;> rfl
  | answers taken answers => cases answers <;> rfl
  | @runs block rest queue =>
      cases block with
      | setHomeItem => rfl
      | setCategory id result | setProduct id result =>
          simp only [Browser.runBlock]
          split <;> rfl

theorem controllers_length_of_steps (hsteps : Steps insertComma browser e browser') :
    browser.controllers.length ≤ browser'.controllers.length := by
  rw [← kinds_length, ← kinds_length]
  obtain hkinds | ⟨opened, rfl⟩ := kinds_of_steps hsteps
  · rw [hkinds]
  · rw [kinds_pushViewController]
    simp

theorem Screens.of_steps {callbacks : Nat → List Category.Callback}
    (h : Screens jwtToken callbacks browser) (hsound : Sound insertComma browser)
    (huntrapped : browser.trapped = false) (hsteps : Steps insertComma browser e browser') :
    Screens jwtToken (fun id => callbacks id ++ browser.screenCallbacks id e) browser' := by
  refine ⟨(jwtToken_of_steps hsteps).trans h.jwt, fun id hid => ?_, fun htrapped id vc' hvc' => ?_⟩
  · have hunopened := Nat.le_trans (controllers_length_of_steps hsteps) hid
    rw [h.unopened id hunopened, screenCallbacks_of_unopened hsound hunopened, List.append_nil]
  · obtain ⟨vc, hvc⟩ | ⟨rfl, hloaded⟩ := screen_of_steps hsound hsteps hvc'
    · obtain ⟨vc'', hvc'', hcontroller, hrun⟩ := carries_of_steps hvc hsteps htrapped
      obtain rfl := ViewController.SubCategoryViewController.inj
        (Option.some.inj (hvc''.symm.trans hvc'))
      rw [hcontroller]
      exact Machine.run_append (h.opened huntrapped id vc hvc) hrun
    · rw [h.unopened _ (Nat.le_refl _), screenCallbacks_of_unopened hsound (Nat.le_refl _),
        hloaded, h.jwt]
      rfl

theorem screens_run (h : (browsing insertComma).run (opened jwtToken) es = some browser) :
    Screens jwtToken (fun id => (browsing insertComma).collect
      (Browser.screenCallbacks id) (opened jwtToken) es) browser := by
  refine Machine.run_induction (m := browsing insertComma)
    (P := fun es browser => Screens jwtToken (fun id => (browsing insertComma).collect
      (Browser.screenCallbacks id) (opened jwtToken) es) browser)
    ⟨rfl, fun _ _ => rfl, fun _ id vc hvc => by cases hvc⟩ ?_ es browser h
  intro es t e u hrun ih hstep
  have hsound := sound_run hrun
  obtain ⟨huntrapped, _, hsteps⟩ := hsound.steps hstep
  have hcollect : ∀ id, (browsing insertComma).collect (Browser.screenCallbacks id)
      (opened jwtToken) (es ++ [e]) = (browsing insertComma).collect
        (Browser.screenCallbacks id) (opened jwtToken) es ++ t.screenCallbacks id e :=
    fun id => Machine.collect_concat _ hrun
  simpa only [hcollect] using ih.of_steps hsound huntrapped hsteps

/-- In every run without a trap, each category screen ever opened, popped or not, is what
it is alone after the callbacks meant for it. -/
theorem category_screens_run
    (h : (browsing insertComma).run (opened jwtToken) es = some browser)
    (htrapped : browser.trapped = false) :
    ∀ id vc, browser.controllers[id]? = some (.SubCategoryViewController vc) →
      (Category.screen vc.controller).run (Category.loaded vc.controller jwtToken)
        ((browsing insertComma).collect (Browser.screenCallbacks id) (opened jwtToken) es) =
          some (browser.screenPart id vc) :=
  (screens_run h).opened htrapped

theorem category_screens_run_dresses : ∃ browser,
    (browsing fun text => text).run (opened (some "jwt")) dresses = some browser ∧
      ∀ id vc, browser.controllers[id]? = some (.SubCategoryViewController vc) →
        (Category.screen vc.controller).run (Category.loaded vc.controller (some "jwt"))
          ((browsing fun text => text).collect (Browser.screenCallbacks id) (opened (some "jwt"))
            dresses) = some (browser.screenPart id vc) :=
  ⟨_, rfl, category_screens_run rfl rfl⟩

end BunjangClone.Browsing
