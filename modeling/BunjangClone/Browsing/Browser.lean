import BunjangClone.Browsing.Screens
import BunjangClone.Reactive.Pending

/-!
# Browsing

The home screen and whatever is opened over it share one navigation stack, one list of
requests in flight and one main queue. A controller is known by its number; the completion
handlers and the queued blocks hold on to it, so an answer or a block still reaches it after
it has been popped. Touches go to the topmost controller only.

A request that needs a token goes to the login screen without one, and no touch follows.
A trap ends the process. What the other tabs do, and the overlay, is not part of this
machine.
-/

namespace BunjangClone.Browsing

open Reactive

/-- The requests in flight. `vc` is the number of the controller that asked. -/
inductive Request where
  | homeItem (page : Nat)
  | category (vc : Nat)
  | subCategory (vc : Nat) (endpoint : Category.Endpoint)
  | product (vc : Nat) (endpoint : Category.ProductEndpoint)
  | detail (vc : Nat) (postId : Int)
deriving DecidableEq, Repr

inductive Answer where
  | homeItem (response : HomeItemResponse)
  | category (response : CategoryResponse)
  | subCategory (response : SubCategoryResponse)
  | product (response : ProductResponse)
  | detail (response : DataResponse Detail.DetailResult)
deriving DecidableEq, Repr

/-- The blocks queued by `setProduct` and `setCategory`. -/
inductive Block where
  | setHomeItem (result : List HomeItem)
  | setCategory (vc : Nat) (result : List Category)
  | setProduct (vc : Nat) (result : List Product)
deriving DecidableEq, Repr

/-- The handlers of the two kinds of endpoint. -/
def handleCategory : Category.Endpoint → SubCategoryResponse → List (Command (List Category))
  | .subCategory _ _ => SubCategoryDataManager.getSubCategory
  | .secondSubCategory _ _ _ => SubCategoryDataManager.getSecondSubCategory

def handleProduct : Category.ProductEndpoint → ProductResponse → List (Command (List Product))
  | .subCategory _ _ => ProductDataManager.getSubCategory
  | .secondSubCategory _ _ _ => ProductDataManager.getSecondSubCategory

/-- The categories behind the buttons of the home screen's header. -/
def headerCategory (tag : Nat) : Option Category :=
  if tag = 1 then some ⟨1, "여성의류", none⟩
  else if tag = 2 then some ⟨3, "패션잡화", none⟩
  else if tag = 3 then some ⟨7, "디지털/가전", none⟩
  else none

/-- `controllers` are all controllers opened so far, and `pushed` the numbers of those that
stand over the home screen, topmost first. -/
structure Browser where
  home : HomeViewController := {}
  controllers : List ViewController := []
  pushed : List Nat := []
  jwtToken : Option String
  requests : List Request := []
  mainQueue : List Block := []
  left : Bool := false
  trapped : Bool := false
deriving DecidableEq, Repr

namespace Browser

def send (browser : Browser) (request : Request) : Browser :=
  { browser with requests := browser.requests ++ [request] }

def sendWithToken (browser : Browser) (request : Request) : Browser :=
  match browser.jwtToken with
  | some _ => browser.send request
  | none => { browser with left := true }

def queue (browser : Browser) (block : Block) : Browser :=
  { browser with mainQueue := browser.mainQueue ++ [block] }

/-- The topmost controller, which is the home screen if there is none. -/
def top (browser : Browser) : Option ViewController :=
  browser.pushed.head?.bind fun id => browser.controllers[id]?

def setController (browser : Browser) (id : Nat) (vc : ViewController) : Browser :=
  { browser with controllers := browser.controllers.set id vc }

/-! ## Appearing and disappearing -/

/-- `HomeViewController.viewWillAppear`. -/
def homeViewWillAppear (browser : Browser) : Browser :=
  browser.send (.homeItem browser.home.page)

/-- `HomeViewController.viewWillDisappear`. -/
def homeViewWillDisappear (browser : Browser) : Browser :=
  { browser with home := { browser.home with page := 1 } }

/-- The requests of `viewDidLoad`. -/
def viewDidLoad (browser : Browser) (id : Nat) : Opened → Browser
  | .firstCategory => browser.send (.category id)
  | .subCategory controller =>
      (browser.sendWithToken (.subCategory id (controller.getCategory 0))).sendWithToken
        (.product id (controller.getProduct 1))
  | .detail postId => browser.sendWithToken (.detail id postId)

def pushViewController (insertComma : String → String) (browser : Browser) (opened : Opened) :
    Browser :=
  let id := browser.controllers.length
  let pushed := { browser with
    controllers := browser.controllers ++ [opened.instantiate insertComma]
    pushed := id :: browser.pushed }
  let pushed := if browser.pushed = [] then pushed.homeViewWillDisappear else pushed
  pushed.viewDidLoad id opened

def popViewController (browser : Browser) : Browser :=
  let popped := { browser with pushed := browser.pushed.tail }
  if popped.pushed = [] then popped.homeViewWillAppear else popped

/-! ## Touches -/

def headerButtonPressed (insertComma : String → String) (browser : Browser) (tag : Nat) :
    Browser :=
  match headerCategory tag with
  | some category =>
      browser.pushViewController insertComma
        (.subCategory (.SubCategoryViewController category))
  | none =>
      if tag = 5 then browser.pushViewController insertComma .firstCategory else browser

/-- Open what an array holds for the row, which traps past its end. -/
def openRow {α : Type} (insertComma : String → String) (browser : Browser) (array : List α)
    (row : Nat) (opened : α → Opened) : Browser :=
  match array[row]? with
  | some entry => browser.pushViewController insertComma (opened entry)
  | none => { browser with trapped := true }

/-- `collectionView(_:didSelectItemAt:)` of the topmost controller, on a cell it displays. A
second sub-category screen has none, and of the two collection views of a sub-category
screen only that of the categories does anything. -/
def didSelectItemAt (insertComma : String → String) (browser : Browser)
    («section» row : Nat) : Option Browser :=
  match browser.top with
  | none =>
      if «section» = 0 ∧ browser.home.cells[row]?.join.isSome then
        some (browser.openRow insertComma browser.home.ItemArray row fun item =>
          .detail item.postId)
      else none
  | some (.FirstCategoryViewController vc) =>
      if (vc.cells[«section»]?.bind fun cells => cells[row]?.join).isSome then
        if «section» = 1 then
          some (browser.openRow insertComma vc.categoryArray row fun category =>
            .subCategory (.SubCategoryViewController category))
        else some browser
      else none
  | some (.SubCategoryViewController vc) =>
      if «section» = 0 ∧ vc.categoryCells[row]?.join.isSome then
        match vc.controller with
        | .SubCategoryViewController category =>
            some (browser.openRow insertComma vc.categoryArray row fun entry =>
              .subCategory
                (.SecondSubCategoryViewController category.id ⟨entry.id, entry.name, none⟩))
        | .SecondSubCategoryViewController _ _ => some browser
      else none
  | some (.DetailViewController _ _) => none

/-- `collectionView(_:willDisplay:forItemAt:)` of the home screen. -/
def willDisplay (browser : Browser) (row : Nat) : Browser :=
  if row + 1 = browser.home.ItemArray.length then
    { browser with home := { browser.home with page := browser.home.page + 1 } }.send
      (.homeItem (browser.home.page + 1))
  else browser

/-- `buttonPressed` of the two sub-category screens. -/
def buttonPressed (browser : Browser) : Option Browser :=
  match browser.pushed.head?, browser.top with
  | some id, some (.SubCategoryViewController vc) =>
      let vc := { vc with isExpand := !vc.isExpand }
      let browser := browser.setController id (.SubCategoryViewController vc)
      if vc.isExpand then
        some (browser.sendWithToken (.subCategory id (vc.controller.getCategory 1)))
      else some (browser.sendWithToken (.subCategory id (vc.controller.getCategory 0)))
  | _, _ => none

/-! ## Answers and blocks -/

/-- `setCategory` of the controller with the number `id`. -/
def setCategory (id : Nat) (browser : Browser) (result : List Category) : Browser :=
  match browser.controllers[id]? with
  | some (.FirstCategoryViewController vc) =>
      browser.setController id (.FirstCategoryViewController (vc.setCategory result))
  | some (.SubCategoryViewController _) => browser.queue (.setCategory id result)
  | _ => browser

def setProduct (id : Nat) (browser : Browser) (result : List Product) : Browser :=
  browser.queue (.setProduct id result)

def setHomeItem (browser : Browser) (result : List HomeItem) : Browser :=
  browser.queue (.setHomeItem result)

/-- `setUp` of the detail page with the number `id`. -/
def setUp (insertComma : String → String) (id : Nat) (browser : Browser)
    (result : Detail.DetailResult) : Browser :=
  match browser.controllers[id]? with
  | some (.DetailViewController postId vc) =>
      match vc.setUp insertComma result with
      | some vc => browser.setController id (.DetailViewController postId vc)
      | none => { browser with trapped := true }
  | _ => browser

/-- Alerts leave the fields of the controllers alone. -/
def perform {ρ : Type} (deliver : Browser → ρ → Browser) (browser : Browser) :
    Command ρ → Browser
  | .deliver result => deliver browser result
  | .trap => { browser with trapped := true }
  | _ => browser

/-- The completion handler of each request. -/
def complete (insertComma : String → String) (browser : Browser) :
    Request → Answer → Option Browser
  | .homeItem _, .homeItem response =>
      some ((HomeItemDataManager.getHomeItem response).foldl (perform setHomeItem) browser)
  | .category id, .category response =>
      some ((CategoryDataManager.getCategory response).foldl (perform (setCategory id)) browser)
  | .subCategory id endpoint, .subCategory response =>
      some ((handleCategory endpoint response).foldl (perform (setCategory id)) browser)
  | .product id endpoint, .product response =>
      some ((handleProduct endpoint response).foldl (perform (setProduct id)) browser)
  | .detail id _, .detail response =>
      some ((DetailDataManager.getDetail response).foldl (perform (setUp insertComma id)) browser)
  | _, _ => none

def runBlock (insertComma : String → String) (browser : Browser) : Block → Browser
  | .setHomeItem result =>
      { browser with home := browser.home.setProductBlock insertComma result }
  | .setCategory id result =>
      match browser.controllers[id]? with
      | some (.SubCategoryViewController vc) =>
          browser.setController id
            (.SubCategoryViewController (vc.setCategoryBlock insertComma result))
      | _ => browser
  | .setProduct id result =>
      match browser.controllers[id]? with
      | some (.SubCategoryViewController vc) =>
          browser.setController id
            (.SubCategoryViewController (vc.setProductBlock insertComma result))
      | _ => browser

end Browser

inductive Touch where
  | headerButtonPressed (tag : Nat)
  | didSelectItemAt («section» row : Nat)
  | willDisplay (row : Nat)
  | buttonPressed
  | popViewController
deriving DecidableEq, Repr

inductive Event where
  | touched (touch : Touch)
  | answered (index : Nat) (answer : Answer)
  | runBlock
deriving DecidableEq, Repr

/-- The header of the home screen is there while nothing is opened over it. Its rows are also
displayed while a screen is being opened, and when that ends is not told apart. -/
def Browser.touch (insertComma : String → String) (browser : Browser) : Touch → Option Browser
  | .headerButtonPressed tag =>
      if browser.pushed = [] then some (browser.headerButtonPressed insertComma tag) else none
  | .didSelectItemAt «section» row => browser.didSelectItemAt insertComma «section» row
  | .willDisplay row =>
      if browser.home.cells[row]?.join.isSome then some (browser.willDisplay row) else none
  | .buttonPressed => browser.buttonPressed
  | .popViewController => if browser.pushed = [] then none else some browser.popViewController

/-- Requests are answered in any order, and queued blocks run first in, first out. Nothing
follows a trap. -/
def step (insertComma : String → String) (browser : Browser) (e : Event) : Option Browser :=
  if browser.trapped then none
  else
    match e with
    | .touched touch => if browser.left then none else browser.touch insertComma touch
    | .answered index answer =>
        (takeAt browser.requests index).bind fun (request, rest) =>
          { browser with requests := rest }.complete insertComma request answer
    | .runBlock =>
        match browser.mainQueue with
        | [] => none
        | block :: rest => some ({ browser with mainQueue := rest }.runBlock insertComma block)

def browsing (insertComma : String → String) : Machine Browser Event := ⟨step insertComma⟩

/-- The home screen as it first appears, with the token the keychain holds. -/
def opened (jwtToken : Option String) : Browser :=
  { jwtToken := jwtToken : Browser }.homeViewWillAppear

/-- A category of the header, and the first row the server has sent for it. -/
def dresses : List Event :=
  [.touched (.headerButtonPressed 1),
    .answered 1 (.subCategory (.success ⟨true, 1000, "", [⟨10, "원피스", some 12⟩]⟩)), .runBlock,
    .touched (.didSelectItemAt 0 1)]

end BunjangClone.Browsing
