import BunjangClone.DataManager
import BunjangClone.Reactive.Machine
import BunjangClone.Reactive.Pending

/-!
# Choosing a category

The form opens the screen of the first categories, and each row opens the screen below
it with the categories chosen so far copied into its fields. A row of the third screen
writes all three into the form, which it finds by its distance in the navigation stack,
and returns there.

Controllers are told apart by a number given when they are created: an answer goes to
the controller that asked, even when it has been popped since. Touches go to the
topmost controller only. A screen opened without a token goes to the login screen
instead of sending, and no touch follows.
-/

namespace BunjangClone.Register

open Reactive

/-- What the three screens ask for. -/
inductive Endpoint where
  | category
  | subCategory (id clicked : Int)
  | secondSubCategory (id subId clicked : Int)
deriving DecidableEq, Repr

def Endpoint.handle : Endpoint → CategoryResponse → List (Command (List Category))
  | category => CategoryDataManager.getCategory
  | subCategory _ _ => SubCategoryDataManager.getSubCategory
  | secondSubCategory _ _ _ => SubCategoryDataManager.getSecondSubCategory

def Endpoint.needsToken : Endpoint → Bool
  | category => false
  | subCategory _ _ => true
  | secondSubCategory _ _ _ => true

/-- The controllers of the registration with the fields the navigation uses. -/
inductive ViewController where
  | RegisterViewController (categoryId : List Category) (categoryTextField : String)
  | RegisterCategoryViewController (categoryArray : List Category)
  | RegisterSubCategoryViewController (categoryArray : List Category)
      (currentCategory : Category)
  | RegisterThirdCategoryViewController (categoryArray : List Category)
      (currentCategory parentCategory : Category)
deriving DecidableEq, Repr

namespace ViewController

/-- What `viewDidLoad` requests. -/
def endpoint : ViewController → Option Endpoint
  | RegisterViewController _ _ => none
  | RegisterCategoryViewController _ => some .category
  | RegisterSubCategoryViewController _ currentCategory =>
      some (.subCategory currentCategory.id 1)
  | RegisterThirdCategoryViewController _ currentCategory parentCategory =>
      some (.secondSubCategory parentCategory.id currentCategory.id 1)

def setCategory (result : List Category) : ViewController → ViewController
  | RegisterViewController categoryId categoryTextField =>
      RegisterViewController categoryId categoryTextField
  | RegisterCategoryViewController _ => RegisterCategoryViewController result
  | RegisterSubCategoryViewController _ currentCategory =>
      RegisterSubCategoryViewController result currentCategory
  | RegisterThirdCategoryViewController _ currentCategory parentCategory =>
      RegisterThirdCategoryViewController result currentCategory parentCategory

def setCategoryId (categoryId : List Category) : ViewController → ViewController
  | RegisterViewController _ categoryTextField =>
      RegisterViewController categoryId categoryTextField
  | vc => vc

/-- The form shows the first and the third category, and traps if there is no third. -/
def viewWillAppear : ViewController → Option ViewController
  | RegisterViewController categoryId categoryTextField =>
      if categoryId.length > 1 then do
        let category ← categoryId[0]?
        let thirdCategory ← categoryId[2]?
        return RegisterViewController categoryId
          (category.name ++ ">" ++ thirdCategory.name ++ ")")
      else some (RegisterViewController categoryId categoryTextField)
  | vc => some vc

end ViewController

/-- A controller with its number. -/
structure Instance where
  id : Nat
  vc : ViewController
deriving DecidableEq, Repr

/-- The navigation controller, topmost controller first, and the requests in flight. -/
structure Navigation where
  stack : List Instance := [⟨0, .RegisterViewController [] ""⟩]
  created : Nat := 1
  jwtToken : Option String
  requests : List (Nat × Endpoint) := []
  left : Bool := false
  trapped : Bool := false
deriving DecidableEq, Repr

inductive Touch where
  | goToCategory
  | didSelectRowAt (row : Nat)
  | popViewController
  | answered (index : Nat) (response : CategoryResponse)
deriving DecidableEq, Repr

namespace Navigation

/-- The controllers in UIKit's order, the root first. -/
def viewControllers (nav : Navigation) : List Instance :=
  nav.stack.reverse

/-- Change the controllers with the number `id`. -/
def modify (nav : Navigation) (id : Nat) (f : ViewController → ViewController) : Navigation :=
  { nav with stack := nav.stack.map fun inst =>
      if inst.id = id then ⟨inst.id, f inst.vc⟩ else inst }

def send (nav : Navigation) (id : Nat) (endpoint : Endpoint) : Navigation :=
  if endpoint.needsToken ∧ nav.jwtToken.isNone then { nav with left := true }
  else { nav with requests := nav.requests ++ [(id, endpoint)] }

def pushViewController (nav : Navigation) (vc : ViewController) : Navigation :=
  let pushed := { nav with
    stack := ⟨nav.created, vc⟩ :: nav.stack
    created := nav.created + 1 }
  match vc.endpoint with
  | some endpoint => pushed.send nav.created endpoint
  | none => pushed

/-- `viewWillAppear` of the topmost controller. -/
def viewWillAppear (nav : Navigation) : Navigation :=
  match nav.stack with
  | [] => nav
  | top :: below =>
      match top.vc.viewWillAppear with
      | some vc => { nav with stack := ⟨top.id, vc⟩ :: below }
      | none => { nav with trapped := true }

def popViewController (nav : Navigation) : Navigation :=
  { nav with stack := nav.stack.tail }.viewWillAppear

def popToViewController (nav : Navigation) (id : Nat) : Navigation :=
  { nav with stack := nav.stack.dropWhile fun inst => inst.id ≠ id }.viewWillAppear

/-- The end of `didSelectRowAt` on the third screen. The index is negative on a stack of
fewer than four controllers, and `vc!` is `nil` if it is not the form's. -/
def returnCategory (nav : Navigation) (categoryId : List Category) : Navigation :=
  let vcs := nav.viewControllers
  if vcs.length > 1 then
    if vcs.length < 4 then { nav with trapped := true }
    else
      match vcs[vcs.length - 4]? with
      | some ⟨id, .RegisterViewController _ _⟩ =>
          (nav.modify id (.setCategoryId categoryId)).popToViewController id
      | _ => { nav with trapped := true }
  else nav

/-- The rows are those of `categoryArray`. -/
def didSelectRowAt (nav : Navigation) (row : Nat) : Option Navigation :=
  match nav.stack with
  | ⟨_, .RegisterCategoryViewController categoryArray⟩ :: _ =>
      categoryArray[row]?.map fun category =>
        nav.pushViewController (.RegisterSubCategoryViewController [] category)
  | ⟨_, .RegisterSubCategoryViewController categoryArray currentCategory⟩ :: _ =>
      categoryArray[row]?.map fun category =>
        nav.pushViewController
          (.RegisterThirdCategoryViewController [] category currentCategory)
  | ⟨_, .RegisterThirdCategoryViewController categoryArray currentCategory parentCategory⟩ :: _ =>
      categoryArray[row]?.map fun category =>
        nav.returnCategory [parentCategory, currentCategory, category]
  | _ => none

def goToCategory (nav : Navigation) : Option Navigation :=
  match nav.stack with
  | ⟨_, .RegisterViewController _ _⟩ :: _ =>
      some (nav.pushViewController (.RegisterCategoryViewController []))
  | _ => none

/-- Only a delivered list reaches the controller's fields. -/
def perform (id : Nat) (nav : Navigation) : Command (List Category) → Navigation
  | .deliver result => nav.modify id (.setCategory result)
  | _ => nav

def touched (nav : Navigation) : Touch → Option Navigation
  | .goToCategory => nav.goToCategory
  | .didSelectRowAt row => nav.didSelectRowAt row
  | .popViewController => if nav.stack.length > 1 then some nav.popViewController else none
  | .answered _ _ => none

def step (nav : Navigation) (e : Touch) : Option Navigation :=
  if nav.trapped then none
  else
    match e with
    | .answered index response =>
        (takeAt nav.requests index).map fun ((id, endpoint), rest) =>
          (endpoint.handle response).foldl (perform id) { nav with requests := rest }
    | e => if nav.left then none else nav.touched e

end Navigation

def navigation : Machine Navigation Touch := ⟨Navigation.step⟩

/-- The form just opened, with the token the keychain holds. -/
def Navigation.opened (jwtToken : Option String) : Navigation :=
  { jwtToken := jwtToken }

/-! ## What the server offered -/

/-- The lists of the granted answers, each with what it answers. -/
def Navigation.delivered (nav : Navigation) : Touch → List (Endpoint × List Category)
  | .answered index (.success response) =>
      if response.isSuccess then
        (nav.requests[index]?.map fun request => (request.2, response.result)).toList
      else []
  | _ => []

/-- The lists delivered in a run. -/
def delivered (jwtToken : Option String) (es : List Touch) : List (Endpoint × List Category) :=
  navigation.collect Navigation.delivered (Navigation.opened jwtToken) es

/-- The category is in a list delivered for the endpoint. -/
def Offered (lists : List (Endpoint × List Category)) (endpoint : Endpoint)
    (category : Category) : Prop :=
  ∃ list, (endpoint, list) ∈ lists ∧ category ∈ list

/-- Three levels, each offered below the one before. -/
structure IsPath (lists : List (Endpoint × List Category)) (a b c : Category) : Prop where
  category : Offered lists .category a
  subCategory : Offered lists (.subCategory a.id 1) b
  thirdCategory : Offered lists (.secondSubCategory a.id b.id 1) c

/-- The form's `categoryId`: nothing yet, or a path. -/
def Chosen (lists : List (Endpoint × List Category)) (categoryId : List Category) : Prop :=
  categoryId = [] ∨ ∃ a b c, categoryId = [a, b, c] ∧ IsPath lists a b c

end BunjangClone.Register
