import BunjangClone.Entity

/-!
# Data managers

A data manager sends one request and handles its answer in a completion handler that
runs on the main queue. The handlers touch only three things: the calling view
controller, the keychain and the window's root, so each is translated once, as the
list of commands it issues for an answer, in the order of the source. What a command
does is left to the machine that interprets it; console output is left out.
-/

namespace BunjangClone

/-- A command of a completion handler. `deliver` is the call of the controller's
`setProduct`, `setCategory` or `setRecommend`, and `trap` a forced unwrap of `nil`. -/
inductive Command (ρ : Type) where
  | deliver (result : ρ)
  | presentAlert (title : String)
  | presentBottomAlert (message : String)
  | dismissIndicator
  | goToMain
  | goToLogin
  | setToken (jwt : String)
  | deleteToken
  | trap
deriving DecidableEq, Repr

/-- The two spellings of the connection alert in the source. -/
def connectionAlert : String := "서버와의 연결이 원활하지 않습니다."
def connectionAlert' : String := "서버와의 연결이 원할하지 않습니다."

/-- The handler shape shared by the list endpoints: a refused request is only printed,
3007 and every other code alike, and a failed one raises an alert. -/
def deliverOrAlert {ρ : Type} (title : String) : DataResponse ρ → List (Command ρ)
  | .success response =>
      if response.isSuccess then [.deliver response.result]
      else []
  | .failure => [.presentAlert title]

/-- `deliver(response.result!)`. -/
def deliverUnwrapped {ρ : Type} : Option ρ → List (Command ρ)
  | some result => [.deliver result]
  | none => [.trap]

namespace HomeItemDataManager

def getHomeItem : HomeItemResponse → List (Command (List HomeItem))
  | .success response =>
      if response.isSuccess then deliverUnwrapped response.result
      else if response.code = 3008 then
        [.presentBottomAlert "마지막 상품입니다.", .dismissIndicator]
      else []
  | .failure => [.presentAlert connectionAlert]

end HomeItemDataManager

namespace ProductDataManager

def getSubCategory : ProductResponse → List (Command (List Product))
  | .success response =>
      if response.isSuccess then deliverUnwrapped response.result
      else if response.code = 3008 then [.presentAlert response.message]
      else []
  | .failure => [.presentAlert connectionAlert]

def getSecondSubCategory : ProductResponse → List (Command (List Product)) :=
  getSubCategory

end ProductDataManager

namespace CategoryDataManager

def getCategory : CategoryResponse → List (Command (List Category)) :=
  deliverOrAlert connectionAlert'

end CategoryDataManager

namespace SubCategoryDataManager

def getSubCategory : SubCategoryResponse → List (Command (List Category)) :=
  deliverOrAlert connectionAlert

def getSecondSubCategory : SubCategoryResponse → List (Command (List Category)) :=
  deliverOrAlert connectionAlert

end SubCategoryDataManager

namespace RecommendDataManager

def getRecommend : RecommendResponse → List (Command (List FollowingData)) :=
  deliverOrAlert connectionAlert

end RecommendDataManager

namespace DetailDataManager

/-- The detail page's payload is left open: the model never looks into it. -/
def getDetail {ρ : Type} : DataResponse ρ → List (Command ρ) :=
  deliverOrAlert connectionAlert

end DetailDataManager

namespace AutoLoginDataManager

def autoLogin : AutoLoginResponse → List (Command Unit)
  | .success response =>
      if response.isSuccess then [.goToMain]
      else if response.code = 2000 then [.goToLogin]
      else if response.code = 3000 then [.goToLogin]
      else []
  | .failure => [.goToLogin, .deleteToken]

end AutoLoginDataManager

namespace LoginDataManager

/-- Nothing is done about a refused login: 3006, 3000 and other codes are printed. -/
def login : LoginResponse → List (Command Unit)
  | .success response =>
      if response.isSuccess then [.setToken response.result.jwt, .goToMain]
      else []
  | .failure => [.presentAlert connectionAlert']

end LoginDataManager

namespace LogoutDataManager

/-- Nothing is done about a refused logout: 2000, 3000 and other codes are printed. -/
def logout : LogoutResponse → List (Command Unit)
  | .success response =>
      if response.isSuccess then [.deleteToken, .goToMain]
      else []
  | .failure => [.presentAlert connectionAlert']

end LogoutDataManager

namespace RegisterDataManager

def registerItem : RegisterResponse → List (Command Unit)
  | .success response =>
      if response.isSuccess then [.presentBottomAlert "상품 등록 성공", .goToMain]
      else []
  | .failure => [.presentAlert connectionAlert]

end RegisterDataManager

end BunjangClone
