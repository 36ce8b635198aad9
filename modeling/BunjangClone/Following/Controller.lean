import BunjangClone.DataManager
import BunjangClone.Reactive.Machine
import Mathlib.Logic.Function.Basic

/-!
# The following screen

`FollowingViewController` keeps the followed shops and the recommended ones, the posts
of its feed, and one table view for each of the two lists. Every appearance of the
screen creates a new segmented control and new tables and stores them in the same
properties; tables created earlier stay where they are in `contentView`, with the rows
they have loaded. A cell keeps the row number it was loaded with as the tag of its
button.

Handlers return `none` where the source traps. Rows are loaded when their table reloads, and
`setImage(with:)`, whose file is missing from the repository, is taken to return. The overlay and
the request behind the recommendation list are not part of this screen's state, and alerts do
not touch it.
-/

namespace BunjangClone.Following

open Reactive

/-- The two kinds of table view the screen creates, told apart by the appearance that
created them. Appearance 0 stands for the initial values of the properties. -/
inductive TableView where
  | recommend (appearance : Nat)
  | following (appearance : Nat)
deriving DecidableEq, Repr

/-- What can be a subview of `contentView`. -/
inductive View where
  | emptyView
  | table (table : TableView)
  | collectionView (appearance : Nat)
deriving DecidableEq, Repr

/-- The action `addTarget` wires to the button of a cell. -/
inductive Action where
  | followingButtonPressed
  | unFollowingButtonPressed
deriving DecidableEq, Repr

/-- A loaded cell: the entry it was filled from and what it shows of it. The image is
`none` where the cell keeps the one of its nib. -/
structure Cell where
  data : FollowingData
  followerLabel : String
  itemCountLabel : String
  userNameLabel : String
  imageViews : List String
  priceLabels : List String
  followingImage : Option String
  tag : Nat
  action : Action
deriving DecidableEq, Repr

/-- A table view. A cell is `none` if it cannot be displayed without a trap. -/
structure Table where
  dataSource : Bool := false
  registered : List String := []
  cells : List (Option Cell) := []
deriving DecidableEq, Repr

structure Segmentio where
  segmentioItems : List String
  selectedSegmentioIndex : Nat
deriving DecidableEq, Repr

structure FollowingViewController where
  followingArray : List FollowingData := []
  recommendArray : List FollowingData := []
  postArray : List PostData := []
  content : List String := []
  segmentioView : Option Segmentio := none
  appearance : Nat := 0
  tables : TableView → Table := fun _ => {}
  contentView : List View := [.emptyView]

/-- The shop of an entry, `userData[0].userId`. -/
def shopId (data : FollowingData) : Option Int := data.userData[0]?.map UserData.userId

/-- The number of image views, and of price labels, in either cell. -/
def imageViewCount : Nat := 3

def recommendCell : String := "RecommendCell"
def followingCell : String := "FollowingCell"

/-- The part of `cellForRowAt` both branches share. -/
def Cell.load (data : FollowingData) (row : Nat) (followingImage : Option String)
    (action : Action) : Option Cell := do
  let user ← data.userData[0]?
  let follower ← user.follower
  let product ← user.product
  let posts ← (List.range imageViewCount).mapM fun i => data.postData[i]?
  return {
    data := data
    followerLabel := toString follower
    itemCountLabel := toString product
    userNameLabel := user.userName
    imageViews := posts.map PostData.postImgURL
    priceLabels := posts.map fun post => toString post.price ++ "원"
    followingImage := followingImage
    tag := row
    action := action }

/-- The image the flag of a recommended row asks for. -/
def flagImage : Option Bool → String
  | some true => "FollowingImage"
  | some false => "FollowImage"
  | none => "FollowImage"

/-- One round of the loop over `followingArray` in `cellForRowAt`. -/
def scanImage (user : UserData) (image : String) (entry : FollowingData) : Option String :=
  entry.userData[0]?.map fun shop =>
    if user.userId = shop.userId then "FollowingImage" else image

namespace FollowingViewController

/-! ## The data source -/

def recommendTableView (vc : FollowingViewController) : TableView := .recommend vc.appearance
def followingTableView (vc : FollowingViewController) : TableView := .following vc.appearance

/-- `nil` before the first appearance, when no handler is installed that could use it. -/
def collectionView (vc : FollowingViewController) : View := .collectionView vc.appearance

/-- The image of a recommended row: its own flag decides first, then a scan of the
followed shops can switch it on. -/
def followingImage (vc : FollowingViewController) (data : FollowingData) : Option String :=
  data.userData[0]?.bind fun user =>
    vc.followingArray.foldlM (scanImage user) (flagImage data.isFollowing)

def numberOfRowsInSection (vc : FollowingViewController) (table : TableView) : Nat :=
  if table = vc.recommendTableView then vc.recommendArray.length else vc.followingArray.length

/-- `cellForRowAt` on the recommendation table, once the cell is dequeued. -/
def recommendRow (vc : FollowingViewController) (row : Nat) : Option Cell := do
  let data ← vc.recommendArray[row]?
  let image ← vc.followingImage data
  Cell.load data row (some image) .followingButtonPressed

/-- `cellForRowAt` on the following table, once the cell is dequeued. -/
def followingRow (vc : FollowingViewController) (row : Nat) : Option Cell := do
  let data ← vc.followingArray[row]?
  Cell.load data row none .unFollowingButtonPressed

def cellForRowAt (vc : FollowingViewController) (table : TableView) (row : Nat) :
    Option Cell :=
  if table = vc.recommendTableView then
    if recommendCell ∈ (vc.tables table).registered then vc.recommendRow row else none
  else
    if followingCell ∈ (vc.tables table).registered then vc.followingRow row else none

/-- A table without a data source has no rows. -/
def reloadData (vc : FollowingViewController) (table : TableView) : FollowingViewController :=
  { vc with
    tables := Function.update vc.tables table
      { vc.tables table with
        cells :=
          if (vc.tables table).dataSource then
            (List.range (vc.numberOfRowsInSection table)).map (vc.cellForRowAt table)
          else [] } }

/-! ## The subviews -/

/-- Adding a subview that is already there brings it to the top. -/
def addSubview (vc : FollowingViewController) (view : View) : FollowingViewController :=
  { vc with contentView := vc.contentView.filter (· ≠ view) ++ [view] }

def removeFromSuperview (vc : FollowingViewController) (view : View) :
    FollowingViewController :=
  { vc with contentView := vc.contentView.filter (· ≠ view) }

/-- `delegate = self`, `dataSource = self` and `register`. A table loads its rows when
it gets its data source, not when it is given the same one again. -/
def connect (vc : FollowingViewController) (table : TableView) (identifier : String) :
    FollowingViewController :=
  let connected := { vc with
    tables := Function.update vc.tables table
      { vc.tables table with
        dataSource := true
        registered := identifier :: (vc.tables table).registered } }
  if (vc.tables table).dataSource then connected else connected.reloadData table

/-! ## The handlers -/

/-- `setUp`, which runs before the handler of the new control is installed. -/
def setUp (vc : FollowingViewController) : FollowingViewController :=
  let content := vc.content ++ ["내피드", "팔로잉", "추천"]
  { vc with content := content, segmentioView := some ⟨content, 1⟩ }

def viewDidAppear (vc : FollowingViewController) : FollowingViewController :=
  let vc := vc.setUp
  let appearance := vc.appearance + 1
  { vc with
    appearance := appearance
    tables := Function.update (Function.update vc.tables (.recommend appearance) {})
      (.following appearance) {} }

/-- `valueDidChange` for "추천". -/
def recommendSelected (vc : FollowingViewController) : FollowingViewController :=
  vc |>.removeFromSuperview (.table vc.followingTableView)
    |>.removeFromSuperview vc.collectionView
    |>.addSubview (.table vc.recommendTableView)
    |>.connect vc.recommendTableView recommendCell

/-- `valueDidChange` for "팔로잉". -/
def followingSelected (vc : FollowingViewController) : FollowingViewController :=
  let cleared := vc
    |>.removeFromSuperview (.table vc.recommendTableView)
    |>.removeFromSuperview vc.collectionView
  if vc.followingArray.length < 1 then
    cleared.removeFromSuperview (.table vc.followingTableView)
  else
    cleared |>.removeFromSuperview .emptyView
      |>.addSubview (.table vc.followingTableView)
      |>.connect vc.followingTableView followingCell
      |>.reloadData vc.followingTableView

/-- `valueDidChange` for "내피드". -/
def feedSelected (vc : FollowingViewController) : FollowingViewController :=
  let cleared := vc
    |>.removeFromSuperview (.table vc.followingTableView)
    |>.removeFromSuperview (.table vc.recommendTableView)
  if 0 < vc.followingArray.length then
    { cleared.removeFromSuperview .emptyView |>.addSubview vc.collectionView with
      postArray := vc.followingArray.flatMap FollowingData.postData }
  else
    cleared |>.removeFromSuperview vc.collectionView
      |>.addSubview .emptyView

/-- `segmentioView.valueDidChange`. Every index but 1 and 2 is the feed. -/
def valueDidChange (vc : FollowingViewController) (segmentIndex : Nat) :
    FollowingViewController :=
  if segmentIndex = 2 then vc.recommendSelected
  else if segmentIndex = 1 then vc.followingSelected
  else vc.feedSelected

/-- The control calls its handler only if the index changes. -/
def setSelectedSegmentioIndex (vc : FollowingViewController) (index : Nat) :
    Option FollowingViewController :=
  vc.segmentioView.map fun segmentio =>
    if index = segmentio.selectedSegmentioIndex then vc
    else { vc with
      segmentioView := some { segmentio with selectedSegmentioIndex := index }
      }.valueDidChange index

/-- The control offers one item per element of the content it was set up with. -/
def didSelectItemAt (vc : FollowingViewController) (index : Nat) :
    Option FollowingViewController :=
  vc.segmentioView.bind fun segmentio =>
    if index < segmentio.segmentioItems.length then vc.setSelectedSegmentioIndex index else none

def recommendButtonPressed (vc : FollowingViewController) : Option FollowingViewController :=
  vc.setSelectedSegmentioIndex 2

def setRecommend (vc : FollowingViewController) (result : List FollowingData) :
    FollowingViewController :=
  { vc with recommendArray := result }.reloadData vc.recommendTableView

/-- What `unFollowingButtonPressed` does after the removal. -/
def followingRemoved (vc : FollowingViewController) : FollowingViewController :=
  let reloaded := vc.reloadData vc.followingTableView
  if vc.followingArray.length = 0 then
    reloaded |>.removeFromSuperview (.table vc.followingTableView)
      |>.addSubview .emptyView
  else reloaded

def unFollowingButtonPressed (vc : FollowingViewController) (row : Nat) :
    Option FollowingViewController :=
  if row < vc.followingArray.length then
    some { vc with followingArray := vc.followingArray.eraseIdx row }.followingRemoved
  else none

end FollowingViewController

/-- The loop of `followingButtonPressed`: remove the first entry of the same shop. -/
def removeShop (data : FollowingData) : List FollowingData → Option (List FollowingData)
  | [] => some []
  | entry :: entries => do
      let shop ← entry.userData[0]?
      let user ← data.userData[0]?
      if shop.userId = user.userId then some entries
      else return entry :: (← removeShop data entries)

namespace FollowingViewController

/-- What `followingButtonPressed` does to the arrays. -/
def toggleRow (vc : FollowingViewController) (row : Nat) : Option FollowingViewController :=
  vc.recommendArray[row]?.bind fun data =>
    match data.isFollowing with
    | some isFollowing =>
        (removeShop data vc.followingArray).map fun followingArray =>
          { vc with
            followingArray := followingArray
            recommendArray :=
              vc.recommendArray.set row { data with isFollowing := some !isFollowing } }
    | none =>
        let data := { data with isFollowing := some true }
        some { vc with
          recommendArray := vc.recommendArray.set row data
          followingArray := vc.followingArray ++ [data] }

def followingButtonPressed (vc : FollowingViewController) (row : Nat) :
    Option FollowingViewController :=
  (vc.toggleRow row).map fun vc => vc.reloadData vc.recommendTableView

end FollowingViewController

inductive Callback where
  | viewDidAppear
  | didSelectItemAt (index : Nat)
  | recommendButtonPressed
  | setRecommend (result : List FollowingData)
  | followingButtonPressed (row : Nat)
  | unFollowingButtonPressed (row : Nat)
deriving DecidableEq, Repr

def step (vc : FollowingViewController) : Callback → Option FollowingViewController
  | .viewDidAppear => some vc.viewDidAppear
  | .didSelectItemAt index => vc.didSelectItemAt index
  | .recommendButtonPressed => vc.recommendButtonPressed
  | .setRecommend result => some (vc.setRecommend result)
  | .followingButtonPressed row => vc.followingButtonPressed row
  | .unFollowingButtonPressed row => vc.unFollowingButtonPressed row

/-- The controller with buttons pressed on any row of either array. -/
def controller : Machine FollowingViewController Callback := ⟨step⟩

end BunjangClone.Following
