import Mathlib.Init

/-!
# Decoded entities

The `Decodable` and `Encodable` structures of the app, field for field. An optional
field is one the decoder may leave out; every other field is required, so a body
without it does not decode and the request fails instead.
-/

namespace BunjangClone

/-- The envelope shared by all response structures. `result` is the payload type of
the endpoint, itself optional where the source declares it so. -/
structure Response (ρ : Type) where
  isSuccess : Bool
  code : Int
  message : String
  result : ρ
deriving DecidableEq, Repr

/-- The two cases of `response.result` in a completion handler. A transport error, a
refused status code and a body that does not decode all arrive as `failure`; handlers
only print the error they carry. -/
inductive DataResponse (ρ : Type) where
  | success (response : Response ρ)
  | failure
deriving DecidableEq, Repr

namespace DataResponse

variable {ρ : Type}

def isSuccess : DataResponse ρ → Bool
  | .success response => response.isSuccess
  | .failure => false

/-- A decoded response with `isSuccess = false` and a code of the given kind. -/
def isRefused (codes : Int → Bool) : DataResponse ρ → Bool
  | .success response => !response.isSuccess && codes response.code
  | .failure => false

theorem isRefused_iff {codes : Int → Bool} {response : DataResponse ρ} :
    response.isRefused codes = true ↔
      ∃ body, response = .success body ∧ body.isSuccess = false ∧ codes body.code = true := by
  cases response <;> simp [isRefused]

end DataResponse

structure HomeItem where
  postId : Int
  productName : String
  price : Int
  postImgURL : Option String
  userId : Int
  userName : String
  profileImg : Option String
  time : String
deriving DecidableEq, Repr

structure Category where
  id : Int
  name : String
  count : Option Int := none
deriving DecidableEq, Repr

structure Product where
  postId : Int
  productName : String
  price : Int
  postImgURL : String
deriving DecidableEq, Repr

structure UserData where
  userId : Int
  userName : String
  profileImg : Option String := none
  product : Option Int := none
  follower : Option Int := none
deriving DecidableEq, Repr

structure PostData where
  userId : Int
  postId : Int
  postImgURL : String
  price : Int
deriving DecidableEq, Repr

structure FollowingData where
  userData : List UserData
  postData : List PostData
  isFollowing : Option Bool := none
deriving DecidableEq, Repr

structure LoginResult where
  id : Int
  jwt : String
deriving DecidableEq, Repr

structure RegisterResult where
  postId : Int
deriving DecidableEq, Repr

abbrev HomeItemResponse := DataResponse (Option (List HomeItem))
abbrev CategoryResponse := DataResponse (List Category)
abbrev SubCategoryResponse := DataResponse (List Category)
abbrev ProductResponse := DataResponse (Option (List Product))
abbrev RecommendResponse := DataResponse (List FollowingData)
abbrev LoginResponse := DataResponse LoginResult
abbrev RegisterResponse := DataResponse (Option RegisterResult)

/-- `AutoLoginResponse` and `LogoutResponse` have no payload. -/
abbrev AutoLoginResponse := DataResponse Unit
abbrev LogoutResponse := DataResponse Unit

end BunjangClone
