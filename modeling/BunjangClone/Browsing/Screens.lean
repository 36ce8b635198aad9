import BunjangClone.Category.Screen
import BunjangClone.Detail.Screen

/-!
# The screens of the home tab

`HomeViewController` and the controllers opened over it, each with the arrays its collection
views are filled from and the cells they load. A collection view asks for a cell when it is
displayed, at once or when it is scrolled. Here all are loaded at the reload, which makes no
difference: each array is reloaded in the call or the block that changes it. A cell is `none` if
it cannot be displayed without a trap; `setImage(with:)`, whose file is missing from the
repository, is taken to return.

The sub-category screens share their code and differ by the `Controller` they are opened as.
The geometry of the cells is left out, and `insertComma`, which asks the system to format a
number, is a parameter. Texts are compared code point by code point, where the source also takes
canonically equivalent ones for equal.
-/

namespace BunjangClone.Browsing

open Category (Controller wholeCategory)

/-- The cells a collection view loads for a section. -/
def loadCells {κ : Type} (numberOfItems : Nat) (cellForItemAt : Nat → Option κ) :
    List (Option κ) :=
  (List.range numberOfItems).map cellForItemAt

/-- A section that shows one cell for each entry of an array. -/
theorem loadCells_array {α κ : Type} (array : List α) (cell : α → Option κ) :
    loadCells array.length (fun row => array[row]?.bind cell) = array.map cell := by
  refine List.ext_getElem? fun row => ?_
  rw [loadCells, List.getElem?_map, List.getElem?_map]
  by_cases hrow : row < array.length
  · simp [hrow]
  · have hnone : array.length ≤ row := by omega
    simp [hnone]

inductive Image where
  | url (string : String)
  | named (name : String)
  | systemName (name : String)
deriving DecidableEq, Repr

/-! ## `HomeViewController` -/

structure HomeCollectionViewCell where
  imageView : Image
  productNameLabel : String
  priceLabel : String
  userNameLabel : String
  timeLabel : String
deriving DecidableEq, Repr

structure HomeViewController where
  ItemArray : List HomeItem := []
  page : Nat := 1
  cells : List (Option HomeCollectionViewCell) := []
deriving DecidableEq, Repr

def homeCell (insertComma : String → String) (item : HomeItem) : Option HomeCollectionViewCell :=
  some {
    imageView := match item.postImgURL with
      | some url => .url url
      | none => .named "noImage"
    productNameLabel := item.productName
    priceLabel := insertComma (toString item.price) ++ "원"
    userNameLabel := item.userName
    timeLabel := item.time }

namespace HomeViewController

variable (insertComma : String → String) (vc : HomeViewController)

def numberOfItemsInSection : Nat := vc.ItemArray.length

def cellForItemAt (row : Nat) : Option HomeCollectionViewCell :=
  vc.ItemArray[row]?.bind (homeCell insertComma)

def reloadData : HomeViewController :=
  { vc with cells := loadCells vc.numberOfItemsInSection (vc.cellForItemAt insertComma) }

/-- The block of `setProduct`. -/
def setProductBlock (result : List HomeItem) : HomeViewController :=
  { vc with ItemArray := vc.ItemArray ++ result }.reloadData insertComma

end HomeViewController

/-! ## `FirstCategoryViewController` -/

structure CategoryCell where
  imageView : Image
  categoryLabel : String
deriving DecidableEq, Repr

structure FirstCategoryViewController where
  categoryArray : List Category := []
  cells : List (List (Option CategoryCell)) := []
deriving DecidableEq, Repr

def sectionArray : List String := ["추천서비스", "중고거래", "생활거래"]

def serviceArray : List String :=
  ["우리동네", "팔로잉", "번개유심", "혜택/이벤트", "친구초대", "내폰시세"]

def lifeArray : List String := ["지역 서비스", "원룸/함께살아요", "구인구직", "재능"]

/-- The image of a category has its name without the slashes. -/
def firstCell (name : String) : Option CategoryCell :=
  some {
    imageView := .named (String.ofList (name.toList.filter (· ≠ '/')))
    categoryLabel := name }

namespace FirstCategoryViewController

variable (vc : FirstCategoryViewController)

def numberOfItemsInSection («section» : Nat) : Nat :=
  if «section» = 0 then serviceArray.length
  else if «section» = 1 then vc.categoryArray.length
  else lifeArray.length

def cellForItemAt («section» row : Nat) : Option CategoryCell :=
  if «section» = 0 then serviceArray[row]?.bind firstCell
  else if «section» = 1 then vc.categoryArray[row]?.bind fun category => firstCell category.name
  else lifeArray[row]?.bind firstCell

def reloadData : FirstCategoryViewController :=
  { vc with
    cells := (List.range sectionArray.length).map fun «section» =>
      loadCells (vc.numberOfItemsInSection «section») (vc.cellForItemAt «section») }

def setCategory (result : List Category) : FirstCategoryViewController :=
  { vc with categoryArray := result }.reloadData

end FirstCategoryViewController

/-! ## `SubCategoryViewController` and `SecondSubCategoryViewController` -/

structure SubCategoryCell where
  nameLabel : String
  countLabel : String
  accesoryImage : Option Image
deriving DecidableEq, Repr

structure ProductCell where
  imageView : Image
  priceLabel : String
  nameLabel : String
deriving DecidableEq, Repr

structure SubCategoryViewController where
  controller : Controller
  isExpand : Bool := false
  categoryArray : List Category := [wholeCategory]
  productArray : List Product := []
  categoryCells : List (Option SubCategoryCell) := []
  productCells : List (Option ProductCell) := []
deriving DecidableEq, Repr

/-- `count!` is unwrapped first, also where the count is not shown. -/
def subCategoryCell (insertComma : String → String) (category : Category) :
    Option SubCategoryCell :=
  category.count.map fun count =>
    let countLabel := insertComma (toString count)
    if category.name = "전체보기" then ⟨category.name, "", some (.systemName "chevron.right")⟩
    else ⟨category.name, countLabel, none⟩

def productCell (insertComma : String → String) (product : Product) : Option ProductCell :=
  some {
    imageView := .url product.postImgURL
    priceLabel := insertComma (toString product.price) ++ " 원"
    nameLabel := product.productName }

namespace SubCategoryViewController

variable (insertComma : String → String) (vc : SubCategoryViewController)

def reloadCategory : SubCategoryViewController :=
  { vc with
    categoryCells := loadCells vc.categoryArray.length fun row =>
      vc.categoryArray[row]?.bind (subCategoryCell insertComma) }

def reloadProduct : SubCategoryViewController :=
  { vc with
    productCells := loadCells vc.productArray.length fun row =>
      vc.productArray[row]?.bind (productCell insertComma) }

/-- The block of `setCategory`. -/
def setCategoryBlock (result : List Category) : SubCategoryViewController :=
  { vc with categoryArray := [wholeCategory] ++ result }.reloadCategory insertComma

/-- The block of `setProduct`. -/
def setProductBlock (result : List Product) : SubCategoryViewController :=
  { vc with productArray := result }.reloadProduct insertComma

end SubCategoryViewController

/-! ## The controllers opened over the home screen -/

inductive ViewController where
  | FirstCategoryViewController (vc : FirstCategoryViewController)
  | SubCategoryViewController (vc : SubCategoryViewController)
  | DetailViewController (postId : Int) (vc : Detail.DetailViewController)
deriving DecidableEq, Repr

/-- What a controller is opened as: its class and the fields set before it is pushed. -/
inductive Opened where
  | firstCategory
  | subCategory (controller : Controller)
  | detail (postId : Int)
deriving DecidableEq, Repr

namespace ViewController

def opened : ViewController → Opened
  | FirstCategoryViewController _ => .firstCategory
  | SubCategoryViewController vc => .subCategory vc.controller
  | DetailViewController postId _ => .detail postId

end ViewController

/-- A fresh controller, with the cells of its initial arrays. -/
def Opened.instantiate (insertComma : String → String) : Opened → ViewController
  | firstCategory => .FirstCategoryViewController ({} : FirstCategoryViewController).reloadData
  | subCategory controller =>
      .SubCategoryViewController <|
        ({ controller := controller : SubCategoryViewController }.reloadCategory
          insertComma).reloadProduct insertComma
  | detail postId => .DetailViewController postId {}

@[simp] theorem opened_instantiate (insertComma : String → String) (opened : Opened) :
    (opened.instantiate insertComma).opened = opened := by
  cases opened <;> rfl

end BunjangClone.Browsing
