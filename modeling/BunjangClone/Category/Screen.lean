import BunjangClone.DataManager
import BunjangClone.Reactive.Machine
import BunjangClone.Reactive.Pending

/-!
# The category screens

`SubCategoryViewController` and `SecondSubCategoryViewController` are one screen over
two endpoints: the first lists the children of a category, the second those of a pair.
Loading the screen requests the folded list and the products, the button flips
`isExpand` and requests the other list, and every delivered list replaces the one shown
by a block queued on the main queue. A request names its endpoint and nothing else; no
answer says for which press it was sent.

A screen opened without a token goes to the login screen instead of sending, and with
it the controller is gone. A forced unwrap of `nil` ends the process; neither is
followed by a callback.
-/

namespace BunjangClone.Category

open Reactive

/-- What `SubCategoryDataManager` and `ProductDataManager` can be asked for. -/
inductive Endpoint where
  | subCategory (id clicked : Int)
  | secondSubCategory (id subId clicked : Int)
deriving DecidableEq, Repr

inductive ProductEndpoint where
  | subCategory (id page : Int)
  | secondSubCategory (id subId page : Int)
deriving DecidableEq, Repr

/-- The two controllers with the fields their requests are built from. -/
inductive Controller where
  | SubCategoryViewController (category : Category)
  | SecondSubCategoryViewController (currentId : Int) (category : Category)
deriving DecidableEq, Repr

/-- The category request of each controller, with its `clicked` argument. -/
def Controller.getCategory : Controller → Int → Endpoint
  | SubCategoryViewController category => .subCategory category.id
  | SecondSubCategoryViewController currentId category =>
      .secondSubCategory currentId category.id

/-- The product request of each controller, with its `page` argument. -/
def Controller.getProduct : Controller → Int → ProductEndpoint
  | SubCategoryViewController category => .subCategory category.id
  | SecondSubCategoryViewController currentId category =>
      .secondSubCategory currentId category.id

/-- The handler of a product answer on each controller. -/
def Controller.handleProduct : Controller → ProductResponse → List (Command (List Product))
  | SubCategoryViewController _ => ProductDataManager.getSubCategory
  | SecondSubCategoryViewController _ _ => ProductDataManager.getSecondSubCategory

/-- The handler of a category answer on each controller. -/
def Controller.handleCategory :
    Controller → SubCategoryResponse → List (Command (List Category))
  | SubCategoryViewController _ => SubCategoryDataManager.getSubCategory
  | SecondSubCategoryViewController _ _ => SubCategoryDataManager.getSecondSubCategory

/-- The blocks queued by `setCategory` and `setProduct`. -/
inductive Block where
  | setCategory (result : List Category)
  | setProduct (result : List Product)
deriving DecidableEq, Repr

/-- The "전체보기" entry every list starts with. -/
def wholeCategory : Category := ⟨0, "전체보기", some 0⟩

/-- The fields of the controller, the stored token, and what the network and the main
queue hold for the screen. -/
structure Screen where
  isExpand : Bool := false
  categoryArray : List Category := [wholeCategory]
  productArray : List Product := []
  jwtToken : Option String
  requests : List Endpoint := []
  productRequests : List ProductEndpoint := []
  mainQueue : List Block := []
  left : Bool := false
deriving DecidableEq, Repr

namespace Screen

/-- The sending half of a category request. -/
def getCategory (vc : Screen) (controller : Controller) (clicked : Int) : Screen :=
  match vc.jwtToken with
  | some _ => { vc with requests := vc.requests ++ [controller.getCategory clicked] }
  | none => { vc with left := true }

/-- The sending half of a product request. -/
def getProduct (vc : Screen) (controller : Controller) (page : Int) : Screen :=
  match vc.jwtToken with
  | some _ =>
      { vc with productRequests := vc.productRequests ++ [controller.getProduct page] }
  | none => { vc with left := true }

def viewDidLoad (vc : Screen) (controller : Controller) : Screen :=
  (vc.getCategory controller 0).getProduct controller 1

def buttonPressed (vc : Screen) (controller : Controller) : Screen :=
  let vc := { vc with isExpand := !vc.isExpand }
  if vc.isExpand then vc.getCategory controller 1 else vc.getCategory controller 0

def setCategory (vc : Screen) (result : List Category) : Screen :=
  { vc with mainQueue := vc.mainQueue ++ [.setCategory result] }

def setProduct (vc : Screen) (result : List Product) : Screen :=
  { vc with mainQueue := vc.mainQueue ++ [.setProduct result] }

/-- The bodies of the queued blocks. -/
def runBlock (vc : Screen) : Block → Screen
  | .setCategory result => { vc with categoryArray := [wholeCategory] ++ result }
  | .setProduct result => { vc with productArray := result }

/-- Alerts leave the screen's fields alone; a trap ends the process. -/
def perform {ρ : Type} (set : Screen → ρ → Screen) (vc : Screen) : Command ρ → Option Screen
  | .deliver result => some (set vc result)
  | .trap => none
  | _ => some vc

end Screen

/-- The answer grants the request, rather than refusing or failing it. -/
def grants : SubCategoryResponse → Bool
  | .success response => response.isSuccess
  | .failure => false

inductive Callback where
  | buttonPressed
  | answerCategory (index : Nat) (response : SubCategoryResponse)
  | answerProduct (index : Nat) (response : ProductResponse)
  | runBlock
deriving DecidableEq, Repr

def step (controller : Controller) (vc : Screen) : Callback → Option Screen
  | .buttonPressed => if vc.left then none else some (vc.buttonPressed controller)
  | .answerCategory index response =>
      (takeAt vc.requests index).bind fun (_, rest) =>
        (controller.handleCategory response).foldlM (Screen.perform Screen.setCategory)
          { vc with requests := rest }
  | .answerProduct index response =>
      (takeAt vc.productRequests index).bind fun (_, rest) =>
        (controller.handleProduct response).foldlM (Screen.perform Screen.setProduct)
          { vc with productRequests := rest }
  | .runBlock =>
      match vc.mainQueue with
      | [] => none
      | block :: rest => some ({ vc with mainQueue := rest }.runBlock block)

def screen (controller : Controller) : Machine Screen Callback := ⟨step controller⟩

/-- A refused or failed request is unconstrained; a granted one for `endpoint` carries
the list the server holds for it. -/
def Serves (server : Endpoint → List Category) (endpoint : Endpoint) :
    SubCategoryResponse → Prop
  | .success response => response.isSuccess = true → response.result = server endpoint
  | .failure => True

instance (server : Endpoint → List Category) (endpoint : Endpoint) :
    DecidablePred (Serves server endpoint)
  | .success response =>
      inferInstanceAs (Decidable (response.isSuccess = true → response.result = server endpoint))
  | .failure => inferInstanceAs (Decidable True)

def Promised (server : Endpoint → List Category) (vc : Screen) : Callback → Prop
  | .answerCategory index response =>
      ∀ endpoint ∈ vc.requests[index]?, Serves server endpoint response
  | _ => True

instance (server : Endpoint → List Category) (vc : Screen) (e : Callback) :
    Decidable (Promised server vc e) :=
  match e with
  | .answerCategory index response =>
      inferInstanceAs
        (Decidable (∀ endpoint ∈ vc.requests[index]?, Serves server endpoint response))
  | .buttonPressed | .answerProduct _ _ | .runBlock => inferInstanceAs (Decidable True)

/-- The screen on a server whose lists are fixed. -/
def screenOn (controller : Controller) (server : Endpoint → List Category) :
    Machine Screen Callback :=
  (screen controller).restrict (Promised server)

/-- The screen as `viewDidLoad` leaves it. -/
def loaded (controller : Controller) (jwtToken : Option String) : Screen :=
  { jwtToken := jwtToken : Screen }.viewDidLoad controller

variable {controller : Controller} {server : Endpoint → List Category} {vc vc' : Screen}
variable {index : Nat}

/-! ## What one callback does -/

/-- The list that comes with an answer. -/
def received : SubCategoryResponse → List Category
  | .success response => response.result
  | .failure => []

/-- Both controllers deliver a granted list and do nothing to the screen otherwise. -/
theorem foldlM_perform_handleCategory (response : SubCategoryResponse) (vc : Screen) :
    (controller.handleCategory response).foldlM (Screen.perform Screen.setCategory) vc =
      some (if grants response then vc.setCategory (received response) else vc) := by
  have hboth : controller.handleCategory response = deliverOrAlert connectionAlert response := by
    cases controller <;> rfl
  rw [hboth]
  cases response with
  | failure => rfl
  | success response =>
      by_cases hs : response.isSuccess = true
      · simp [deliverOrAlert, grants, received, hs, Screen.perform]
      · simp [deliverOrAlert, grants, hs]

/-- Whatever comes back for the products, it can only queue a product block. -/
theorem foldlM_perform_handleProduct {response : ProductResponse}
    (h : (controller.handleProduct response).foldlM (Screen.perform Screen.setProduct) vc =
      some vc') : vc' = vc ∨ ∃ result, vc' = vc.setProduct result := by
  have hboth : controller.handleProduct response = ProductDataManager.getSubCategory response := by
    cases controller <;> rfl
  rw [hboth] at h
  cases response with
  | failure =>
      exact Or.inl (by simpa [ProductDataManager.getSubCategory, Screen.perform] using h.symm)
  | success response =>
      simp only [ProductDataManager.getSubCategory] at h
      split at h
      · cases hr : response.result with
        | none => simp [hr, deliverUnwrapped, Screen.perform] at h
        | some result =>
            exact Or.inr ⟨result, by simpa [hr, deliverUnwrapped, Screen.perform] using h.symm⟩
      · split at h
        · exact Or.inl (by simpa [Screen.perform] using h.symm)
        · exact Or.inl (by simpa using h.symm)

theorem step_buttonPressed :
    (screen controller).step vc .buttonPressed = some vc' ↔
      vc.left = false ∧ vc.buttonPressed controller = vc' := by
  simp [screen, step]

theorem step_answerCategory {response : SubCategoryResponse} :
    (screen controller).step vc (.answerCategory index response) = some vc' ↔
      ∃ endpoint rest, takeAt vc.requests index = some (endpoint, rest) ∧
        vc' = if grants response then { vc with requests := rest }.setCategory (received response)
          else { vc with requests := rest } := by
  simp only [screen, step, Option.bind_eq_some_iff, Prod.exists, foldlM_perform_handleCategory,
    Option.some.injEq, eq_comm (a := vc')]

theorem step_answerProduct {response : ProductResponse}
    (h : (screen controller).step vc (.answerProduct index response) = some vc') :
    ∃ rest, vc' = { vc with productRequests := rest } ∨
      ∃ result, vc' = { vc with productRequests := rest }.setProduct result := by
  simp only [screen, step, Option.bind_eq_some_iff, Prod.exists] at h
  obtain ⟨_, rest, _, h⟩ := h
  exact ⟨rest, foldlM_perform_handleProduct h⟩

theorem step_runBlock :
    (screen controller).step vc .runBlock = some vc' ↔
      ∃ block rest, vc.mainQueue = block :: rest ∧
        { vc with mainQueue := rest }.runBlock block = vc' := by
  cases hq : vc.mainQueue <;> simp [screen, step, hq]

/-- On a server whose lists are fixed, the list asked for is delivered. -/
theorem screenOn_step_answerCategory {response : SubCategoryResponse}
    (h : (screenOn controller server).step vc (.answerCategory index response) = some vc') :
    ∃ endpoint rest, takeAt vc.requests index = some (endpoint, rest) ∧
      vc' = if grants response then { vc with requests := rest }.setCategory (server endpoint)
        else { vc with requests := rest } := by
  obtain ⟨hpromised, hstep⟩ := Machine.restrict_step_iff.mp h
  obtain ⟨endpoint, rest, htake, rfl⟩ := step_answerCategory.mp hstep
  refine ⟨endpoint, rest, htake, ?_⟩
  split
  · rename_i hgrants
    have hserves : Serves server endpoint response :=
      hpromised endpoint (takeAt_eq_some_iff.mp htake).1
    cases response with
    | failure => cases hgrants
    | success response => rw [received, hserves hgrants]
  · rfl

end BunjangClone.Category
