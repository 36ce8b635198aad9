import BunjangClone.Entity

/-!
# The detail page

`setUp` fills the page from one answer: the texts of the product, a slot with a picture
and a price for each of the seller's other products, and a row for each review. The
slots are the three of the storyboard, whatever the number of products, and the product
is the first element of a list that may be there and empty.

Only the fields the page reads are kept of the entities. The texts a page starts with
are those of its storyboard. An image view is what it was last asked to show:
`setImage(with:)`, whose file is missing from the repository, is taken to return. The
geometry of the page is left out, and `insertComma`, which asks the system to format a
number, is a parameter.
-/

namespace BunjangClone.Detail

structure DetailInfo where
  postImages : String
  productName : String
  price : Int
  time : String
  watched : Option Int := none
  content : Option String := none
  place : Option String := none
  category : Option String := none
  postQuestion : Int
  tags : Option String := none
  userName : String
  userOpenDate : Option String := none
  follower : Option Int := none
deriving DecidableEq, Repr

structure OtherProducts where
  postImg : Option String := none
  price : Int
deriving DecidableEq, Repr

structure StoreReview where
  reviewer : String
  content : String
  createAt : String
deriving DecidableEq, Repr

structure DetailResult where
  detailInfo : Option (List DetailInfo) := none
  OtherProducts : List OtherProducts
  StoreReview : List StoreReview
deriving DecidableEq, Repr

/-- A row of the review table. -/
structure Review where
  reviewer : String
  content : String
  date : String
deriving DecidableEq, Repr

inductive Color where
  | translucent
  | white
deriving DecidableEq, Repr

structure ItemLabel where
  text : String := ""
  backgroundColor : Color := .translucent
deriving DecidableEq, Repr

/-- The slots of the storyboard. -/
def slotCount : Nat := 3

structure DetailViewController where
  imageView : Option String := none
  priceLabel : String := "800,000원"
  productNameLabel : String := "아이패드 4세대 에어 그린 256 미개봉 새제품"
  timeLabel : String := "3시간 전"
  watchedLabel : String := "161"
  contentTextView : String := ""
  placeLabel : String := "Label"
  categoryLabel : String := "Label"
  tagLabel : String := "#"
  postQuestionLabel : String := "0"
  userNameLabel : String := "긍정777"
  openDateLabel : String := "+154"
  followerLabel : String := "0"
  otherItemCount : String := "26"
  itemImages : List String := List.replicate slotCount "noImage"
  itemLabels : List ItemLabel := List.replicate slotCount {}
  reviewCount : String := "2"
  reviewArray : List Review := []
  rows : List Review := []
deriving DecidableEq, Repr

/-! ## Texts -/

/-- The characters of `CharacterSet.whitespacesAndNewlines`. -/
def isWhitespaceOrNewline (c : Char) : Bool :=
  (0x9 ≤ c.toNat ∧ c.toNat ≤ 0xD) ∨ c.toNat ∈ [0x20, 0x85, 0xA0, 0x1680] ∨
    (0x2000 ≤ c.toNat ∧ c.toNat ≤ 0x200A) ∨ c.toNat ∈ [0x2028, 0x2029, 0x202F, 0x205F, 0x3000]

/-- `String.trim`, which is never `nil`. -/
def trim (text : List Char) : Option (List Char) :=
  some ((text.dropWhile isWhitespaceOrNewline).reverse.dropWhile isWhitespaceOrNewline).reverse

/-- `components(separatedBy: ",")`. -/
def components (text : String) : List (List Char) :=
  text.toList.splitOn ','

/-- The text of `tagLabel`, one hashed tag after the other. -/
def tagText (tags : String) : Option String :=
  (components tags).foldlM (fun tagLabel tag => do
    let tag ← trim tag
    return tagLabel ++ "#" ++ String.ofList tag ++ " ") ""

/-- The price on a slot, in units of ten thousand from there on. -/
def priceText (price : Int) : String :=
  if price ≥ 10000 then toString (price / 10000) ++ "만원" else toString price ++ "원"

namespace DetailViewController

/-! ## `setUp` -/

/-- The texts of the product. -/
def setUpInfo (insertComma : String → String) (vc : DetailViewController) (info : DetailInfo) :
    Option DetailViewController := do
  let firstImage ← (components info.postImages)[0]?
  let tagLabel ← match info.tags with
    | some tags => tagText tags
    | none => some "# 태그 없음"
  return { vc with
    imageView := some (String.ofList firstImage)
    productNameLabel := info.productName
    priceLabel := insertComma (toString info.price) ++ "원"
    timeLabel := info.time
    watchedLabel := toString (info.watched.getD 0)
    contentTextView := match info.content with
      | some content => content
      | none => vc.contentTextView
    placeLabel := info.place.getD "위치정보 없음"
    categoryLabel := info.category.getD "카테고리 없음"
    tagLabel := tagLabel
    postQuestionLabel := toString info.postQuestion
    userNameLabel := info.userName
    openDateLabel := info.userOpenDate.getD "+0"
    followerLabel := (info.follower.map toString).getD "0" }

def setUpDetailInfo (insertComma : String → String) (vc : DetailViewController) :
    Option (List DetailInfo) → Option DetailViewController
  | some detailInfo => detailInfo[0]?.bind (vc.setUpInfo insertComma)
  | none => some vc

/-- `itemImages[i].setImage(with: image)`. -/
def setItemImage (vc : DetailViewController) (i : Nat) (image : String) :
    Option DetailViewController :=
  if i < vc.itemImages.length then some { vc with itemImages := vc.itemImages.set i image }
  else none

/-- Change `itemLabels[i]`. -/
def modifyItemLabel (vc : DetailViewController) (i : Nat) (f : ItemLabel → ItemLabel) :
    Option DetailViewController :=
  if i < vc.itemLabels.length then some { vc with itemLabels := vc.itemLabels.modify i f }
  else none

def setItemText (vc : DetailViewController) (i : Nat) (text : String) :
    Option DetailViewController :=
  vc.modifyItemLabel i fun label => { label with text := text }

def blankItem (vc : DetailViewController) (i : Nat) : Option DetailViewController :=
  vc.modifyItemLabel i fun label => { label with backgroundColor := .white }

/-- One round of the loop over the other products. -/
def showProduct (vc : DetailViewController) (i : Nat) (product : OtherProducts) :
    Option DetailViewController :=
  match product.postImg with
  | some image => (vc.setItemImage i image).bind fun vc =>
      vc.setItemText i (priceText product.price)
  | none => vc.setItemText i (priceText product.price)

/-- The loop from index `i` on. -/
def showProducts (vc : DetailViewController) (i : Nat) :
    List OtherProducts → Option DetailViewController
  | [] => some vc
  | product :: products => (vc.showProduct i product).bind fun vc =>
      vc.showProducts (i + 1) products

def blankLast (vc : DetailViewController) : DetailViewController :=
  { vc with
    itemLabels := vc.itemLabels.modify (vc.itemLabels.length - 1) fun label =>
      { label with backgroundColor := .white } }

def setUpOtherProducts (vc : DetailViewController) (otherProducts : List OtherProducts) :
    Option DetailViewController :=
  if otherProducts.length > 0 then
    (vc.showProducts 0 otherProducts).bind fun vc =>
      if otherProducts.length = 1 then (vc.blankItem 1).bind fun vc => vc.blankItem 2
      else if otherProducts.length = 2 then some vc.blankLast
      else some vc
  else
    some { vc with
      itemLabels := vc.itemLabels.map fun label => { label with backgroundColor := .white } }

/-- The rows are those of `reviewArray`, which is reloaded at the end. -/
def setUpStoreReview (vc : DetailViewController) (storeReview : List StoreReview) :
    DetailViewController :=
  let reviewArray := vc.reviewArray ++
    storeReview.map fun review => ⟨review.reviewer, review.content, review.createAt⟩
  { vc with
    reviewCount := toString storeReview.length
    reviewArray := reviewArray
    rows := reviewArray }

/-- `setUp(result:)`, which is `none` where an index is out of range. -/
def setUp (insertComma : String → String) (vc : DetailViewController) (result : DetailResult) :
    Option DetailViewController := do
  let vc ← vc.setUpDetailInfo insertComma result.detailInfo
  let vc := { vc with otherItemCount := toString result.OtherProducts.length }
  let vc ← vc.setUpOtherProducts result.OtherProducts
  return vc.setUpStoreReview result.StoreReview

end DetailViewController

end BunjangClone.Detail
