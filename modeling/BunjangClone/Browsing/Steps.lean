import BunjangClone.Browsing.Bookkeeping

/-!
# What a step of browsing can do

`Steps` says once what each event does, one constructor for each way. Every step from a sound
browser is one of them, and leads to a sound browser; later invariants and the simulations
are proved from the constructors.
-/

namespace BunjangClone.Browsing

open Reactive

variable {insertComma : String → String} {browser browser' : Browser} {e : Event}

/-! ## The step relation -/

/-- What the buttons of the home screen's header open. -/
def headerOpened (tag : Nat) : Option Opened :=
  match headerCategory tag with
  | some category => some (.subCategory (.SubCategoryViewController category))
  | none => if tag = 5 then some .firstCategory else none

/-- What a touch opens, if it opens anything. -/
def Browser.opening (browser : Browser) : Touch → Option Opened
  | .headerButtonPressed tag => if browser.pushed = [] then headerOpened tag else none
  | .didSelectItemAt «section» row =>
      match browser.top with
      | none => browser.home.ItemArray[row]?.map fun item => .detail item.postId
      | some (.FirstCategoryViewController vc) =>
          if «section» = 1 then
            vc.categoryArray[row]?.map fun category =>
              .subCategory (.SubCategoryViewController category)
          else none
      | some (.SubCategoryViewController vc) =>
          match vc.controller with
          | .SubCategoryViewController category =>
              vc.categoryArray[row]?.map fun entry => .subCategory
                (.SecondSubCategoryViewController category.id ⟨entry.id, entry.name, none⟩)
          | .SecondSubCategoryViewController _ _ => none
      | some (.DetailViewController _ _) => none
  | .willDisplay _ | .buttonPressed | .popViewController => none

/-- The screen after a press of its button. -/
def SubCategoryViewController.press (vc : SubCategoryViewController) : SubCategoryViewController :=
  { vc with isExpand := !vc.isExpand }

/-- The `clicked` argument the button then stands for. -/
def SubCategoryViewController.clicked (vc : SubCategoryViewController) : Int :=
  if vc.isExpand then 1 else 0

/-- The answer grants its request. -/
def Answer.grants : Answer → Bool
  | homeItem response => response.isSuccess
  | category response => response.isSuccess
  | subCategory response => response.isSuccess
  | product response => response.isSuccess
  | detail response => response.isSuccess

/-- The answer comes from the endpoint that was asked. -/
def Request.takes : Request → Answer → Bool
  | homeItem _, .homeItem _ => true
  | category _, .category _ => true
  | subCategory _ _, .subCategory _ => true
  | product _ _, .product _ => true
  | detail _ _, .detail _ => true
  | _, _ => false

/-- What a completion handler does once its request is taken out. -/
inductive Answers (insertComma : String → String) (browser : Browser) :
    Request → Answer → Browser → Prop where
  | refused {request : Request} {answer : Answer} (takes : request.takes answer = true)
      (refused : answer.grants = false) :
      Answers insertComma browser request answer browser
  | homeItem {page : Nat} {body : Response (Option (List HomeItem))} {result : List HomeItem}
      (success : body.isSuccess = true) (present : body.result = some result) :
      Answers insertComma browser (.homeItem page) (.homeItem (.success body))
        (browser.queue (.setHomeItem result))
  | noHomeItem {page : Nat} {body : Response (Option (List HomeItem))}
      (success : body.isSuccess = true) (absent : body.result = none) :
      Answers insertComma browser (.homeItem page) (.homeItem (.success body))
        { browser with trapped := true }
  | category {id : Nat} {body : Response (List Category)} {vc : FirstCategoryViewController}
      (success : body.isSuccess = true)
      (asker : browser.controllers[id]? = some (.FirstCategoryViewController vc)) :
      Answers insertComma browser (.category id) (.category (.success body))
        (browser.setController id (.FirstCategoryViewController (vc.setCategory body.result)))
  | subCategory {id : Nat} {endpoint : Category.Endpoint} {body : Response (List Category)}
      (success : body.isSuccess = true) :
      Answers insertComma browser (.subCategory id endpoint) (.subCategory (.success body))
        (browser.queue (.setCategory id body.result))
  | product {id : Nat} {endpoint : Category.ProductEndpoint}
      {body : Response (Option (List Product))} {result : List Product}
      (success : body.isSuccess = true) (present : body.result = some result) :
      Answers insertComma browser (.product id endpoint) (.product (.success body))
        (browser.queue (.setProduct id result))
  | noProduct {id : Nat} {endpoint : Category.ProductEndpoint}
      {body : Response (Option (List Product))}
      (success : body.isSuccess = true) (absent : body.result = none) :
      Answers insertComma browser (.product id endpoint) (.product (.success body))
        { browser with trapped := true }
  | detail {id : Nat} {postId : Int} {body : Response Detail.DetailResult}
      {vc vc' : Detail.DetailViewController} (success : body.isSuccess = true)
      (asker : browser.controllers[id]? = some (.DetailViewController postId vc))
      (shown : vc.setUp insertComma body.result = some vc') :
      Answers insertComma browser (.detail id postId) (.detail (.success body))
        (browser.setController id (.DetailViewController postId vc'))
  | noDetail {id : Nat} {postId : Int} {body : Response Detail.DetailResult}
      {vc : Detail.DetailViewController} (success : body.isSuccess = true)
      (asker : browser.controllers[id]? = some (.DetailViewController postId vc))
      (trap : vc.setUp insertComma body.result = none) :
      Answers insertComma browser (.detail id postId) (.detail (.success body))
        { browser with trapped := true }

/-- What an event does. -/
inductive Steps (insertComma : String → String) (browser : Browser) : Event → Browser → Prop where
  | idle {touch : Touch} (opens : browser.opening touch = none) (button : touch ≠ .buttonPressed)
      (back : touch ≠ .popViewController)
      (last : ∀ row, touch = .willDisplay row → row + 1 ≠ browser.home.ItemArray.length) :
      Steps insertComma browser (.touched touch) browser
  | opens {touch : Touch} {opened : Opened} (opens : browser.opening touch = some opened) :
      Steps insertComma browser (.touched touch) (browser.pushViewController insertComma opened)
  | pops (covered : browser.pushed ≠ []) :
      Steps insertComma browser (.touched .popViewController) browser.popViewController
  | displays {row : Nat} (last : row + 1 = browser.home.ItemArray.length) :
      Steps insertComma browser (.touched (.willDisplay row))
        ({ browser with home := { browser.home with page := browser.home.page + 1 } }.send
          (.homeItem (browser.home.page + 1)))
  | presses {id : Nat} {vc : SubCategoryViewController} (top : browser.pushed.head? = some id)
      (screen : browser.controllers[id]? = some (.SubCategoryViewController vc))
      (token : browser.jwtToken.isSome = true) :
      Steps insertComma browser (.touched .buttonPressed)
        ((browser.setController id (.SubCategoryViewController vc.press)).send
          (.subCategory id (vc.controller.getCategory vc.press.clicked)))
  | answers {index : Nat} {answer : Answer} {request : Request} {rest : List Request}
      {next : Browser} (taken : takeAt browser.requests index = some (request, rest))
      (answers : Answers insertComma { browser with requests := rest } request answer next) :
      Steps insertComma browser (.answered index answer) next
  | runs {block : Block} {rest : List Block} (queue : browser.mainQueue = block :: rest) :
      Steps insertComma browser .runBlock
        ({ browser with mainQueue := rest }.runBlock insertComma block)

/-! ## Touches -/

theorem joined_map {α κ : Type} {array : List α} {cell : α → Option κ} {row : Nat}
    (h : (array.map cell)[row]?.join.isSome) : ∃ entry, array[row]? = some entry := by
  rw [List.getElem?_map] at h
  cases hentry : array[row]? with
  | none => simp [hentry] at h
  | some entry => exact ⟨entry, rfl⟩

theorem openRow_eq (insertComma : String → String) (browser : Browser) {α : Type}
    {array : List α} {row : Nat} {entry : α} (f : α → Opened) (h : array[row]? = some entry) :
    browser.openRow insertComma array row f =
      browser.pushViewController insertComma (f entry) := by
  simp [Browser.openRow, h]

/-- A row of the middle section is displayed only where the array has an entry. -/
theorem Sound.firstCategory_row (h : Sound insertComma browser) {vc : FirstCategoryViewController}
    {row : Nat} (hvc : .FirstCategoryViewController vc ∈ browser.controllers)
    (hcell : (vc.cells[1]?.bind fun cells => cells[row]?.join).isSome) :
    ∃ category, vc.categoryArray[row]? = some category := by
  have hsync : vc.cells = vc.reloadData.cells := h.controllers _ hvc
  have hsection : vc.reloadData.cells[1]? =
      some (vc.categoryArray.map fun category => firstCell category.name) := by
    rw [← loadCells_array]
    rfl
  rw [hsync, hsection] at hcell
  exact joined_map hcell

theorem top_of_head {vc : ViewController} (h : browser.top = some vc) :
    ∃ id, browser.pushed.head? = some id ∧ browser.controllers[id]? = some vc :=
  Option.bind_eq_some_iff.mp h

/-- The home screen is on top exactly if nothing is opened over it. -/
theorem Sound.top_eq_none (h : Sound insertComma browser) :
    browser.top = none ↔ browser.pushed = [] := by
  constructor
  · intro htop
    cases hpushed : browser.pushed with
    | nil => rfl
    | cons id below =>
        have hid := h.pushed id (by simp [hpushed])
        simp [Browser.top, hpushed, List.getElem?_eq_getElem hid] at htop
  · intro hpushed
    simp [Browser.top, hpushed]

theorem Sound.didSelectItemAt (h : Sound insertComma browser) {«section» row : Nat}
    (hselect : browser.didSelectItemAt insertComma «section» row = some browser') :
    Steps insertComma browser (.touched (.didSelectItemAt «section» row)) browser' := by
  have hidle : browser.opening (.didSelectItemAt «section» row) = none →
      Steps insertComma browser (.touched (.didSelectItemAt «section» row)) browser :=
    fun hnone => .idle hnone (by simp) (by simp) (by simp)
  unfold Browser.didSelectItemAt at hselect
  split at hselect
  · rename_i htop
    obtain ⟨⟨_, hcell⟩, hopen⟩ := Option.ite_none_right_eq_some.mp hselect
    rw [h.home] at hcell
    obtain ⟨item, hitem⟩ := joined_map hcell
    rw [openRow_eq _ _ _ hitem] at hopen
    obtain rfl := Option.some.inj hopen
    exact .opens (by simp [Browser.opening, htop, hitem])
  · rename_i vc htop
    obtain ⟨id, _, hvc⟩ := top_of_head htop
    obtain ⟨hcell, hopen⟩ := Option.ite_none_right_eq_some.mp hselect
    by_cases hsection : «section» = 1
    · subst hsection
      obtain ⟨category, hcategory⟩ := h.firstCategory_row (List.mem_of_getElem? hvc) hcell
      rw [if_pos rfl, openRow_eq _ _ _ hcategory] at hopen
      obtain rfl := Option.some.inj hopen
      exact .opens (by simp [Browser.opening, htop, hcategory])
    · rw [if_neg hsection] at hopen
      obtain rfl := Option.some.inj hopen
      exact hidle (by simp [Browser.opening, htop, hsection])
  · rename_i vc htop
    obtain ⟨id, _, hvc⟩ := top_of_head htop
    obtain ⟨⟨_, hcell⟩, hopen⟩ := Option.ite_none_right_eq_some.mp hselect
    have hsync : ViewController.InSync insertComma (.SubCategoryViewController vc) :=
      h.controllers _ (List.mem_of_getElem? hvc)
    rw [hsync.1] at hcell
    obtain ⟨entry, hentry⟩ := joined_map hcell
    split at hopen
    · rename_i category hcontroller
      rw [openRow_eq _ _ _ hentry] at hopen
      obtain rfl := Option.some.inj hopen
      exact .opens (by simp [Browser.opening, htop, hcontroller, hentry])
    · rename_i hcontroller
      obtain rfl := Option.some.inj hopen
      exact hidle (by simp [Browser.opening, htop, hcontroller])
  · cases hselect

theorem headerButtonPressed_eq (browser : Browser) (tag : Nat) :
    browser.headerButtonPressed insertComma tag =
      match headerOpened tag with
      | some opened => browser.pushViewController insertComma opened
      | none => browser := by
  simp only [Browser.headerButtonPressed, headerOpened]
  cases headerCategory tag with
  | some category => rfl
  | none => by_cases htag : tag = 5 <;> simp [htag]

theorem Sound.buttonPressed (h : Sound insertComma browser) (hleft : browser.left = false)
    (hpress : browser.buttonPressed = some browser') :
    Steps insertComma browser (.touched .buttonPressed) browser' := by
  unfold Browser.buttonPressed at hpress
  split at hpress
  · rename_i id vc hhead htop
    obtain ⟨id', hhead', hvc⟩ := top_of_head htop
    obtain rfl : id = id' := Option.some.inj (hhead.symm.trans hhead')
    have htoken : browser.jwtToken.isSome = true := by
      cases htoken : browser.jwtToken with
      | some jwt => rfl
      | none =>
          have hkind := h.tokened htoken hleft _ (List.mem_of_getElem? (kinds_getElem? hvc))
          cases hkind
    have hnext : browser' = (browser.setController id (.SubCategoryViewController vc.press)).send
        (.subCategory id (vc.controller.getCategory vc.press.clicked)) := by
      have hsend : ∀ request,
          (browser.setController id (.SubCategoryViewController vc.press)).sendWithToken request =
            (browser.setController id (.SubCategoryViewController vc.press)).send request :=
        fun request => sendWithToken_of_token request htoken
      rw [← hsend, SubCategoryViewController.clicked]
      cases hexpand : vc.press.isExpand with
      | true =>
          rw [if_pos rfl]
          exact (Option.some.inj ((if_pos hexpand).symm.trans hpress)).symm
      | false =>
          have hfold : ¬ vc.press.isExpand = true := by simp [hexpand]
          rw [if_neg Bool.false_ne_true]
          exact (Option.some.inj ((if_neg hfold).symm.trans hpress)).symm
    rw [hnext]
    exact .presses hhead hvc htoken
  · cases hpress

theorem Sound.touch (h : Sound insertComma browser) {touch : Touch}
    (hleft : browser.left = false) (htouch : browser.touch insertComma touch = some browser') :
    Steps insertComma browser (.touched touch) browser' := by
  cases touch with
  | headerButtonPressed tag =>
      obtain ⟨hpushed, hpress⟩ := Option.ite_none_right_eq_some.mp htouch
      obtain rfl := Option.some.inj hpress
      rw [headerButtonPressed_eq]
      cases hopened : headerOpened tag with
      | some opened => exact .opens (by simp [Browser.opening, hpushed, hopened])
      | none =>
          exact .idle (by simp [Browser.opening, hpushed, hopened]) (by simp) (by simp) (by simp)
  | didSelectItemAt «section» row => exact h.didSelectItemAt htouch
  | willDisplay row =>
      obtain ⟨_, hdisplay⟩ := Option.ite_none_right_eq_some.mp htouch
      obtain rfl := Option.some.inj hdisplay
      rw [Browser.willDisplay]
      split
      · rename_i hlast
        exact .displays hlast
      · rename_i hlast
        refine .idle rfl (by simp) (by simp) fun row' hrow => ?_
        obtain rfl := Touch.willDisplay.inj hrow
        exact hlast
  | buttonPressed => exact h.buttonPressed hleft htouch
  | popViewController =>
      obtain ⟨hpushed, hpop⟩ := Option.ite_none_left_eq_some.mp htouch
      obtain rfl := Option.some.inj hpop
      exact .pops hpushed

/-! ## Answers -/

/-- A list endpoint's handler does nothing to the browser or delivers a granted list. -/
theorem foldl_deliverOrAlert {ρ : Type} (title : String) (response : DataResponse ρ)
    (deliver : Browser → ρ → Browser) (browser : Browser) :
    (response.isSuccess = false ∧
        (deliverOrAlert title response).foldl (Browser.perform deliver) browser = browser) ∨
      ∃ body, response = .success body ∧ body.isSuccess = true ∧
        (deliverOrAlert title response).foldl (Browser.perform deliver) browser =
          deliver browser body.result := by
  cases response with
  | failure => exact .inl ⟨rfl, rfl⟩
  | success body =>
      cases hsuccess : body.isSuccess with
      | false => exact .inl ⟨hsuccess, by simp [deliverOrAlert, hsuccess]⟩
      | true =>
          exact .inr ⟨body, rfl, hsuccess, by simp [deliverOrAlert, hsuccess, Browser.perform]⟩

theorem foldl_deliverUnwrapped {ρ : Type} {result : Option ρ}
    (deliver : Browser → ρ → Browser) (browser : Browser) :
    (deliverUnwrapped result).foldl (Browser.perform deliver) browser =
      match result with
      | some result => deliver browser result
      | none => { browser with trapped := true } := by
  cases result <;> rfl

theorem answers_homeItem (page : Nat) (response : HomeItemResponse) :
    Answers insertComma browser (.homeItem page) (.homeItem response)
      ((HomeItemDataManager.getHomeItem response).foldl
        (Browser.perform Browser.setHomeItem) browser) := by
  cases response with
  | failure => exact .refused rfl rfl
  | success body =>
      rw [HomeItemDataManager.getHomeItem]
      split
      · rename_i hsuccess
        rw [foldl_deliverUnwrapped]
        cases hresult : body.result with
        | some result => exact .homeItem hsuccess hresult
        | none => exact .noHomeItem hsuccess hresult
      · rename_i hrefused
        have hgrants : Answer.grants (.homeItem (.success body)) = false := by
          simpa [Answer.grants, DataResponse.isSuccess] using hrefused
        split <;> exact .refused rfl hgrants

theorem answers_product {endpoint : Category.ProductEndpoint} (id : Nat)
    (response : ProductResponse) :
    Answers insertComma browser (.product id endpoint) (.product response)
      ((handleProduct endpoint response).foldl (Browser.perform (Browser.setProduct id))
        browser) := by
  have hboth : handleProduct endpoint response = ProductDataManager.getSubCategory response := by
    cases endpoint <;> rfl
  rw [hboth]
  cases response with
  | failure => exact .refused rfl rfl
  | success body =>
      rw [ProductDataManager.getSubCategory]
      split
      · rename_i hsuccess
        rw [foldl_deliverUnwrapped]
        cases hresult : body.result with
        | some result => exact .product hsuccess hresult
        | none => exact .noProduct hsuccess hresult
      · rename_i hrefused
        have hgrants : Answer.grants (.product (.success body)) = false := by
          simpa [Answer.grants, DataResponse.isSuccess] using hrefused
        split <;> exact .refused rfl hgrants

/-- The controller that asked is still of the kind that asks. -/
theorem answers_of_complete {request : Request} {answer : Answer}
    (hasked : ∀ id ∈ request.vc, ∃ opened, browser.kinds[id]? = some opened ∧
      opened.Asks request)
    (h : browser.complete insertComma request answer = some browser') :
    Answers insertComma browser request answer browser' := by
  unfold Browser.complete at h
  split at h
  · obtain rfl := Option.some.inj h
    exact answers_homeItem _ _
  · rename_i id response
    obtain rfl := Option.some.inj h
    obtain ⟨opened, hkind, hasks⟩ := hasked id rfl
    cases hasks with
    | category =>
        obtain ⟨vc, hvc⟩ := exists_firstCategory hkind
        rw [CategoryDataManager.getCategory]
        obtain ⟨hrefused, hfold⟩ | ⟨body, rfl, hsuccess, hfold⟩ := foldl_deliverOrAlert
          connectionAlert' response (Browser.setCategory id) browser
        · rw [hfold]
          exact .refused rfl hrefused
        · rw [hfold, Browser.setCategory, hvc]
          exact .category hsuccess hvc
  · rename_i id endpoint response
    obtain rfl := Option.some.inj h
    obtain ⟨opened, hkind, hasks⟩ := hasked id rfl
    cases hasks with
    | subCategory controller _ clicked button =>
        obtain ⟨vc, hvc, _⟩ := exists_subCategory hkind
        have hboth : handleCategory (controller.getCategory clicked) response =
            deliverOrAlert connectionAlert response := by
          cases controller <;> rfl
        rw [hboth]
        obtain ⟨hrefused, hfold⟩ | ⟨body, rfl, hsuccess, hfold⟩ := foldl_deliverOrAlert
          connectionAlert response (Browser.setCategory id) browser
        · rw [hfold]
          exact .refused rfl hrefused
        · rw [hfold, Browser.setCategory, hvc]
          exact .subCategory hsuccess
  · obtain rfl := Option.some.inj h
    exact answers_product _ _
  · rename_i id postId response
    obtain rfl := Option.some.inj h
    obtain ⟨opened, hkind, hasks⟩ := hasked id rfl
    cases hasks with
    | detail =>
        obtain ⟨vc, hvc⟩ := exists_detail hkind
        rw [DetailDataManager.getDetail]
        obtain ⟨hrefused, hfold⟩ | ⟨body, rfl, hsuccess, hfold⟩ := foldl_deliverOrAlert
          connectionAlert response (Browser.setUp insertComma id) browser
        · rw [hfold]
          exact .refused rfl hrefused
        · rw [hfold, Browser.setUp, hvc]
          cases hshown : vc.setUp insertComma body.result with
          | some vc' => simpa [hshown] using Answers.detail hsuccess hvc hshown
          | none => simpa [hshown] using Answers.noDetail hsuccess hvc hshown
  · cases h

/-- Every step of a sound browser is one of `Steps`. -/
theorem Sound.steps (h : Sound insertComma browser)
    (hstep : (browsing insertComma).step browser e = some browser') :
    browser.trapped = false ∧ (∀ touch, e = .touched touch → browser.left = false) ∧
      Steps insertComma browser e browser' := by
  have hnext : step insertComma browser e = some browser' := hstep
  unfold step at hnext
  obtain ⟨htrapped, hnext⟩ := Option.ite_none_left_eq_some.mp hnext
  refine ⟨by simpa using htrapped, ?_⟩
  cases e with
  | touched touch =>
      obtain ⟨hleft, htouch⟩ := Option.ite_none_left_eq_some.mp hnext
      have hstay : browser.left = false := by simpa using hleft
      exact ⟨fun _ _ => hstay, h.touch hstay htouch⟩
  | answered index answer =>
      refine ⟨by simp, ?_⟩
      obtain ⟨⟨request, rest⟩, htake, hcomplete⟩ := Option.bind_eq_some_iff.mp hnext
      exact .answers htake (answers_of_complete (h.asked request (mem_of_takeAt htake)) hcomplete)
  | runBlock =>
      refine ⟨by simp, ?_⟩
      cases hqueue : browser.mainQueue with
      | nil => simp [hqueue] at hnext
      | cons block rest =>
          simp only [hqueue, Option.some.injEq] at hnext
          obtain rfl := hnext
          exact .runs hqueue

/-! ## Runs -/

theorem Sound.answered {request : Request} {answer : Answer} (h : Sound insertComma browser)
    (hasked : ∀ id ∈ request.vc, ∃ opened, browser.kinds[id]? = some opened ∧
      opened.Asks request)
    (hanswers : Answers insertComma browser request answer browser') :
    Sound insertComma browser' := by
  cases hanswers with
  | refused => exact h
  | homeItem => exact h.queue (by simp [Block.vc])
  | noHomeItem | noProduct | noDetail => exact h.trap
  | category success asker =>
      exact h.setController asker rfl (inSync_setCategory _ _)
  | subCategory success =>
      obtain ⟨opened, hkind, hasks⟩ := hasked _ rfl
      cases hasks with
      | subCategory controller _ clicked button =>
          exact h.queue (by simpa [Block.vc] using ⟨controller, hkind⟩)
  | product success present =>
      obtain ⟨opened, hkind, hasks⟩ := hasked _ rfl
      cases hasks with
      | product controller => exact h.queue (by simpa [Block.vc] using ⟨controller, hkind⟩)
  | detail success asker shown => exact h.setController asker rfl trivial

theorem Sound.of_steps (h : Sound insertComma browser)
    (hsteps : Steps insertComma browser e browser') : Sound insertComma browser' := by
  cases hsteps with
  | idle => exact h
  | opens => exact h.pushViewController _
  | pops => exact h.popViewController
  | displays last =>
      have hpage : Sound insertComma
          { browser with home := { browser.home with page := browser.home.page + 1 } } :=
        h.withHome h.home
      refine hpage.send fun id hid => ?_
      cases hid
  | @presses id vc top screen token =>
      have hsync := h.controllers _ (List.mem_of_getElem? screen)
      have hpressed : Sound insertComma
          (browser.setController id (.SubCategoryViewController vc.press)) :=
        h.setController screen rfl hsync
      refine hpressed.send fun id' hid => ?_
      obtain rfl := Option.some.inj hid
      have hkinds : (browser.setController id (.SubCategoryViewController vc.press)).kinds =
          browser.kinds := kinds_setController screen rfl
      refine ⟨.subCategory vc.controller, hkinds ▸ kinds_getElem? screen, ?_⟩
      refine .subCategory _ _ _ ?_
      rw [SubCategoryViewController.clicked]
      split
      · exact .inr rfl
      · exact .inl rfl
  | answers taken answers =>
      have hrest := h.withRequests (rest_subset_of_takeAt taken)
      exact hrest.answered (h.asked _ (mem_of_takeAt taken)) answers
  | @runs block rest queue =>
      have hrest : Sound insertComma { browser with mainQueue := rest } :=
        h.withQueue (queue ▸ List.subset_cons_self _ _)
      exact hrest.runBlock block

theorem sound_opened (insertComma : String → String) (jwtToken : Option String) :
    Sound insertComma (Browsing.opened jwtToken) := by
  have hfresh : Sound insertComma { jwtToken := jwtToken : Browser } := by
    refine ⟨rfl, ?_, ?_, ?_, ?_, ?_⟩ <;> simp [Browser.kinds]
  exact hfresh.send (by simp [Request.vc])

theorem sound_run {jwtToken : Option String} {es : List Event}
    (h : (browsing insertComma).run (Browsing.opened jwtToken) es = some browser) :
    Sound insertComma browser := by
  refine Machine.invariant_of_step (sound_opened insertComma jwtToken) ?_ h
  intro t e u hsound hstep
  exact hsound.of_steps (hsound.steps hstep).2.2

end BunjangClone.Browsing
