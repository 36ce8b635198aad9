import BunjangClone.DataManager
import BunjangClone.Reactive.Machine
import BunjangClone.Reactive.Pending
import Mathlib.Logic.Function.Basic

/-!
# The app

All screens share one window, one keychain cell and one overlay. The window has no root
until the answer to the launch request sets one; after that the root is the login screen
or the main tab bar, and replacing it drops the old controllers, but not the closures
that hold them: a request or a block of a screen that is gone still runs its handler.
The overlay is a subview of the window itself, so it stays when the root is replaced and
goes when anyone calls `dismissIndicator`.

Of a controller the model keeps what decides the root, the token and the overlay. Rows,
lists and pages belong to the screens' own modules, and so does the registration form: of
an accepted press the app knows that it is under way, until its item is posted. UIKit is
taken to load a tab when it is first selected and a screen when it is opened, to let the
user leave any screen at any time, and to go on displaying the rows of a screen that is
being left or is covered. The keychain is one cell.
-/

namespace BunjangClone.Session

open Reactive

inductive Tab where
  | home | following | register | talk | myShop
deriving DecidableEq, Repr

/-- The controllers shown over a tab's own. -/
inductive Screen where
  | firstCategory | subCategory | secondSubCategory | detail
  | registerCategory | registerSubCategory | registerThirdCategory
  | setting | logoutDialog
deriving DecidableEq, Repr

/-- Whether the screen is opened from the screen `below` on `tab`, where `none` is the
tab's own controller. -/
def Screen.opensFrom : Screen → Tab → (below : Option Screen) → Bool
  | .firstCategory, .home, none => true
  | .subCategory, .home, none => true
  | .subCategory, .home, some .firstCategory => true
  | .secondSubCategory, .home, some .subCategory => true
  | .detail, .home, none => true
  | .registerCategory, .register, none => true
  | .registerSubCategory, .register, some .registerCategory => true
  | .registerThirdCategory, .register, some .registerSubCategory => true
  | .setting, .myShop, none => true
  | .logoutDialog, .myShop, some .setting => true
  | _, _, _ => false

/-- The main tab bar controller: the selected tab, the tabs loaded so far, and what has
been opened over each, topmost first. -/
structure TabBar where
  selected : Tab := .home
  loaded : List Tab := [.home]
  opened : Tab → List Screen := fun _ => []

/-- What is opened over the selected tab. -/
def TabBar.stack (bar : TabBar) : List Screen :=
  bar.opened bar.selected

def TabBar.setStack (bar : TabBar) (screens : List Screen) : TabBar :=
  { bar with opened := Function.update bar.opened bar.selected screens }

inductive Root where
  | login
  | main (bar : TabBar)

/-- The requests in flight. `vc` is the controller the answer is delivered to. -/
inductive Request where
  | autoLogin (accessToken : String)
  | login (accessToken : String)
  | logout (accessToken jwt : String)
  | homeItem
  | category (vc : Screen)
  | subCategory (vc : Screen)
  | product (vc : Screen)
  | recommend
  | detail
  | registerItem
deriving DecidableEq, Repr

/-- The blocks queued by `setProduct` and by the category screens' `setCategory`. -/
inductive Block where
  | setProduct
  | setCategory
deriving DecidableEq, Repr

/-- The two calls into the Kakao SDK, and what their completion handlers are called with. -/
inductive KakaoLogin where
  | loginWithKakaoTalk
  | loginWithKakaoAccount
deriving DecidableEq, Repr

inductive KakaoResult where
  | error
  | success (oauthToken : Option String)
deriving DecidableEq, Repr

/-- What comes of an accepted press of the submit button: its upload or the lookup of its
URL fails, its item is built, or the price cannot be unwrapped. -/
inductive Submission where
  | failed
  | built
  | trapped
deriving DecidableEq, Repr

structure App where
  jwtToken : Option String
  root : Option Root := none
  overlay : Bool := false
  requests : List Request := []
  mainQueue : List Block := []
  kakaoLogins : List KakaoLogin := []
  submissions : Nat := 0
  trapped : Bool := false

namespace App

def isLogin (app : App) : Bool :=
  app.jwtToken.isSome

def showIndicator (app : App) : App :=
  { app with overlay := true }

def dismissIndicator (app : App) : App :=
  { app with overlay := false }

def send (app : App) (request : Request) : App :=
  { app with requests := app.requests ++ [request] }

def queue (app : App) (block : Block) : App :=
  { app with mainQueue := app.mainQueue ++ [block] }

/-- `HomeViewController.viewWillAppear`. -/
def homeViewWillAppear (app : App) : App :=
  app.showIndicator.send .homeItem

/-- A fresh tab bar displays the home tab at once. -/
def goToMain (app : App) : App :=
  { app with root := some (.main {}) }.homeViewWillAppear

def goToLogin (app : App) : App :=
  { app with root := some .login }

/-- The requests that need a token raise a bottom alert and go to the login screen
without one. -/
def sendWithToken (app : App) (request : Request) : App :=
  match app.jwtToken with
  | some _ => app.send request
  | none => app.goToLogin

/-- `viewDidLoad` of the controllers opened over a tab. -/
def viewDidLoad (app : App) : Screen → App
  | .firstCategory => app.showIndicator.send (.category .firstCategory)
  | .subCategory =>
      (app.showIndicator.sendWithToken (.subCategory .subCategory)).sendWithToken
        (.product .subCategory)
  | .secondSubCategory =>
      (app.showIndicator.sendWithToken (.subCategory .secondSubCategory)).sendWithToken
        (.product .secondSubCategory)
  | .detail => app.sendWithToken .detail
  | .registerCategory => app.showIndicator.send (.category .registerCategory)
  | .registerSubCategory =>
      app.showIndicator.sendWithToken (.subCategory .registerSubCategory)
  | .registerThirdCategory =>
      app.showIndicator.sendWithToken (.subCategory .registerThirdCategory)
  | .setting => app
  | .logoutDialog => app

/-- `viewDidLoad` of the tabs' own controllers. -/
def tabViewDidLoad (app : App) : Tab → App
  | .home => app
  | .following | .register | .talk | .myShop => if app.isLogin then app else app.goToLogin

def setBar (app : App) (bar : TabBar) : App :=
  { app with root := some (.main bar) }

/-- Home appears again whenever it becomes the selected tab with nothing opened over it. -/
def homeAppears (app : App) (bar : TabBar) : App :=
  if bar.selected = .home ∧ bar.stack = [] then app.homeViewWillAppear else app

def selectTab (app : App) (bar : TabBar) (tab : Tab) : App :=
  if tab ∈ bar.loaded then
    (app.setBar { bar with selected := tab }).homeAppears { bar with selected := tab }
  else
    (app.setBar { bar with selected := tab, loaded := tab :: bar.loaded }).tabViewDidLoad tab

def openScreen (app : App) (bar : TabBar) (screen : Screen) : App :=
  (app.setBar (bar.setStack (screen :: bar.stack))).viewDidLoad screen

def popViewController (app : App) (bar : TabBar) : App :=
  (app.setBar (bar.setStack bar.stack.tail)).homeAppears (bar.setStack bar.stack.tail)

/-- The completion handler passed to the Kakao SDK. -/
def kakaoLoggedIn (app : App) : KakaoLogin → KakaoResult → App
  | .loginWithKakaoTalk, .error =>
      { app with kakaoLogins := app.kakaoLogins ++ [.loginWithKakaoAccount] }
  | .loginWithKakaoAccount, .error => app
  | _, .success (some accessToken) => app.showIndicator.send (.login accessToken)
  | _, .success none => app.showIndicator

/-- `LogoutDataManager().logout`, the sending half. -/
def logout (app : App) (accessToken : String) : App :=
  match app.jwtToken with
  | some jwt => app.send (.logout accessToken jwt)
  | none => { app with trapped := true }

/-- `oauthToken` is what the Kakao SDK's token manager returns. -/
def logoutButtonPressed (app : App) : (oauthToken : Option String) → App
  | some accessToken => app.showIndicator.logout accessToken
  | none => app.showIndicator

/-- A refused press raises an alert, an accepted one uploads its image. -/
def submitButtonPressed (app : App) (accepted : Bool) : App :=
  if accepted then { app with submissions := app.submissions + 1 } else app.dismissIndicator

/-- `RegisterDataManager().registerItem`, the sending half. -/
def registerItem (app : App) : App :=
  match app.jwtToken with
  | some _ => app.send .registerItem
  | none => app

def submitted (app : App) : Submission → App
  | .failed => app
  | .built => app.registerItem
  | .trapped => { app with trapped := true }

/-- The controllers' overrides of `setCategory`, which is empty in `BaseViewController`. -/
def setCategory (app : App) : Screen → App
  | .firstCategory | .registerCategory | .registerSubCategory | .registerThirdCategory =>
      app.dismissIndicator
  | .subCategory | .secondSubCategory => app.queue .setCategory
  | .detail | .setting | .logoutDialog => app

def runBlock (app : App) : Block → App
  | .setProduct => app.dismissIndicator
  | .setCategory => app

/-- Perform a command of a completion handler, given what the controller does with the
result delivered to it. -/
def perform {ρ : Type} (deliver : App → App) (app : App) : Command ρ → App
  | .deliver _ => deliver app
  | .presentAlert _ => app.dismissIndicator
  | .presentBottomAlert _ => app
  | .dismissIndicator => app.dismissIndicator
  | .goToMain => app.goToMain
  | .goToLogin => app.goToLogin
  | .setToken jwt => { app with jwtToken := some jwt }
  | .deleteToken => { app with jwtToken := none }
  | .trap => { app with trapped := true }

@[simp] theorem showIndicator_jwtToken (app : App) :
    app.showIndicator.jwtToken = app.jwtToken := rfl

@[simp] theorem dismissIndicator_jwtToken (app : App) :
    app.dismissIndicator.jwtToken = app.jwtToken := rfl

@[simp] theorem send_jwtToken (app : App) (request : Request) :
    (app.send request).jwtToken = app.jwtToken := rfl

@[simp] theorem queue_jwtToken (app : App) (block : Block) :
    (app.queue block).jwtToken = app.jwtToken := rfl

@[simp] theorem goToMain_jwtToken (app : App) : app.goToMain.jwtToken = app.jwtToken := rfl

@[simp] theorem setBar_jwtToken (app : App) (bar : TabBar) :
    (app.setBar bar).jwtToken = app.jwtToken := rfl

@[simp] theorem sendWithToken_jwtToken (app : App) (request : Request) :
    (app.sendWithToken request).jwtToken = app.jwtToken := by
  rw [sendWithToken]
  split <;> rfl

@[simp] theorem viewDidLoad_jwtToken (app : App) (screen : Screen) :
    (app.viewDidLoad screen).jwtToken = app.jwtToken := by
  cases screen <;> simp [viewDidLoad]

@[simp] theorem tabViewDidLoad_jwtToken (app : App) (tab : Tab) :
    (app.tabViewDidLoad tab).jwtToken = app.jwtToken := by
  cases tab with
  | home => rfl
  | _ =>
      rw [tabViewDidLoad]
      split <;> rfl

@[simp] theorem homeAppears_jwtToken (app : App) (bar : TabBar) :
    (app.homeAppears bar).jwtToken = app.jwtToken := by
  rw [homeAppears]
  split <;> rfl

@[simp] theorem selectTab_jwtToken (app : App) (bar : TabBar) (tab : Tab) :
    (app.selectTab bar tab).jwtToken = app.jwtToken := by
  rw [selectTab]
  split <;> simp

@[simp] theorem kakaoLoggedIn_jwtToken (app : App) (login : KakaoLogin) (result : KakaoResult) :
    (app.kakaoLoggedIn login result).jwtToken = app.jwtToken := by
  rcases result with _ | _ | _ <;> cases login <;> rfl

@[simp] theorem logout_jwtToken (app : App) (accessToken : String) :
    (app.logout accessToken).jwtToken = app.jwtToken := by
  rw [logout]
  split <;> rfl

@[simp] theorem logoutButtonPressed_jwtToken (app : App) (oauthToken : Option String) :
    (app.logoutButtonPressed oauthToken).jwtToken = app.jwtToken := by
  cases oauthToken <;> simp [logoutButtonPressed]

@[simp] theorem submitButtonPressed_jwtToken (app : App) (accepted : Bool) :
    (app.submitButtonPressed accepted).jwtToken = app.jwtToken := by
  cases accepted <;> rfl

@[simp] theorem registerItem_jwtToken (app : App) : app.registerItem.jwtToken = app.jwtToken := by
  rw [registerItem]
  split <;> rfl

@[simp] theorem submitted_jwtToken (app : App) (submission : Submission) :
    (app.submitted submission).jwtToken = app.jwtToken := by
  cases submission <;> simp [submitted]

@[simp] theorem setCategory_jwtToken (app : App) (vc : Screen) :
    (app.setCategory vc).jwtToken = app.jwtToken := by
  cases vc <;> rfl

@[simp] theorem runBlock_jwtToken (app : App) (block : Block) :
    (app.runBlock block).jwtToken = app.jwtToken := by
  cases block <;> rfl

end App

/-- The answers to the requests, by endpoint. The detail page's payload is not used. -/
inductive Answer where
  | autoLogin (response : AutoLoginResponse)
  | login (response : LoginResponse)
  | logout (response : LogoutResponse)
  | homeItem (response : HomeItemResponse)
  | category (response : CategoryResponse)
  | subCategory (response : SubCategoryResponse)
  | product (response : ProductResponse)
  | recommend (response : RecommendResponse)
  | detail (response : DataResponse Unit)
  | registerItem (response : RegisterResponse)
deriving DecidableEq, Repr

/-- The handlers of the two screens over a pair of categories are those of the second
sub-category. -/
def Screen.handleSubCategory : Screen → SubCategoryResponse → List (Command (List Category))
  | .secondSubCategory | .registerThirdCategory => SubCategoryDataManager.getSecondSubCategory
  | _ => SubCategoryDataManager.getSubCategory

def Screen.handleProduct : Screen → ProductResponse → List (Command (List Product))
  | .secondSubCategory => ProductDataManager.getSecondSubCategory
  | _ => ProductDataManager.getSubCategory

/-- The completion handler of each request. -/
def App.complete (app : App) : Request → Answer → Option App
  | .autoLogin _, .autoLogin response =>
      some ((AutoLoginDataManager.autoLogin response).foldl (perform id) app)
  | .login _, .login response =>
      some ((LoginDataManager.login response).foldl (perform id) app)
  | .logout _ _, .logout response =>
      some ((LogoutDataManager.logout response).foldl (perform id) app)
  | .homeItem, .homeItem response =>
      some ((HomeItemDataManager.getHomeItem response).foldl
        (perform fun app => app.queue .setProduct) app)
  | .category vc, .category response =>
      some ((CategoryDataManager.getCategory response).foldl
        (perform fun app => app.setCategory vc) app)
  | .subCategory vc, .subCategory response =>
      some ((vc.handleSubCategory response).foldl (perform fun app => app.setCategory vc) app)
  | .product vc, .product response =>
      some ((vc.handleProduct response).foldl (perform fun app => app.queue .setProduct) app)
  | .recommend, .recommend response =>
      some ((RecommendDataManager.getRecommend response).foldl
        (perform App.dismissIndicator) app)
  | .detail, .detail response =>
      some ((DetailDataManager.getDetail response).foldl (perform id) app)
  | .registerItem, .registerItem response =>
      some ((RegisterDataManager.registerItem response).foldl (perform id) app)
  | _, _ => none

inductive Event where
  | selectTab (tab : Tab)
  | openScreen (screen : Screen)
  | popViewController
  | willDisplayLastRow
  | expandButtonPressed
  | selectRecommend
  | backButtonPressed
  | cameraButtonPressed
  | submitButtonPressed (accepted : Bool)
  | kakaoLoginButtonPressed
  | kakaoLoggedIn (index : Nat) (result : KakaoResult)
  | goOutButtonPressed
  | logoutButtonPressed (oauthToken : Option String)
  | answered (index : Nat) (answer : Answer)
  | submitted (submission : Submission)
  | runBlock
deriving DecidableEq, Repr

/-- The rest are called back. -/
def Event.ofUser : Event → Bool
  | .kakaoLoggedIn _ _ | .answered _ _ | .submitted _ | .runBlock => false
  | _ => true

/-- What the user does on the login screen. -/
def stepLogin (app : App) : Event → Option App
  | .kakaoLoginButtonPressed =>
      some { app with kakaoLogins := app.kakaoLogins ++ [.loginWithKakaoTalk] }
  | .goOutButtonPressed => some app.goToMain
  | _ => none

/-- What the user does on the main tab bar and the screens opened over it. The last row of
the home tab can be displayed whatever covers it by then. -/
def stepMain (app : App) (bar : TabBar) : Event → Option App
  | .selectTab tab => if tab = bar.selected then none else some (app.selectTab bar tab)
  | .openScreen screen =>
      if screen.opensFrom bar.selected bar.stack.head? then some (app.openScreen bar screen)
      else none
  | .popViewController => if bar.stack = [] then none else some (app.popViewController bar)
  | .willDisplayLastRow => some (app.showIndicator.send .homeItem)
  | .expandButtonPressed =>
      match bar.stack.head? with
      | some .subCategory => some (app.sendWithToken (.subCategory .subCategory))
      | some .secondSubCategory => some (app.sendWithToken (.subCategory .secondSubCategory))
      | _ => none
  | .selectRecommend =>
      if bar.selected = .following then some (app.showIndicator.sendWithToken .recommend)
      else none
  | .backButtonPressed =>
      if bar.selected = .register ∧ bar.stack = [] then some app.goToMain else none
  | .cameraButtonPressed =>
      if bar.selected = .register ∧ bar.stack = [] then some app.dismissIndicator else none
  | .submitButtonPressed accepted =>
      if bar.selected = .register ∧ bar.stack = [] then some (app.submitButtonPressed accepted)
      else none
  | .logoutButtonPressed oauthToken =>
      if bar.stack.head? = some .logoutDialog then some (app.logoutButtonPressed oauthToken)
      else none
  | _ => none

/-- The user acts on the window's root. -/
def stepUser (app : App) (e : Event) : Option App :=
  match app.root with
  | none => none
  | some .login => stepLogin app e
  | some (.main bar) => stepMain app bar e

/-- Requests, Kakao logins and submissions are answered in any order, and queued blocks run
first in, first out. Nothing follows a trap. -/
def step (app : App) (e : Event) : Option App :=
  if app.trapped then none
  else
    match e with
    | .answered index answer =>
        (takeAt app.requests index).bind fun (request, rest) =>
          { app with requests := rest }.complete request answer
    | .kakaoLoggedIn index result =>
        (takeAt app.kakaoLogins index).map fun (login, rest) =>
          { app with kakaoLogins := rest }.kakaoLoggedIn login result
    | .submitted submission =>
        match app.submissions with
        | 0 => none
        | rest + 1 => some ({ app with submissions := rest }.submitted submission)
    | .runBlock =>
        match app.mainQueue with
        | [] => none
        | block :: rest => some ({ app with mainQueue := rest }.runBlock block)
    | e => stepUser app e

def bunjangClone : Machine App Event := ⟨step⟩

/-- `scene(_:willConnectTo:options:)` with what the keychain holds at launch. -/
def launched (jwtToken : Option String) : App :=
  { jwtToken := jwtToken, requests := [.autoLogin (jwtToken.getD "")] }

/-! ## What a step can do -/

variable {app app' : App} {bar : TabBar} {e : Event}

/-- What the controllers do with a delivered result. -/
inductive Delivers : (App → App) → Prop where
  | nothing : Delivers id
  | product : Delivers fun app => app.queue .setProduct
  | category (vc : Screen) : Delivers fun app => app.setCategory vc
  | recommend : Delivers App.dismissIndicator

/-- The commands leave the keychain alone. -/
def KeepsToken {ρ : Type} (commands : List (Command ρ)) : Prop :=
  (∀ jwt, .setToken jwt ∉ commands) ∧ .deleteToken ∉ commands

theorem keepsToken_deliverOrAlert {ρ : Type} {title : String} {response : DataResponse ρ} :
    KeepsToken (deliverOrAlert title response) := by
  cases response with
  | failure => simp [KeepsToken, deliverOrAlert]
  | success response => cases h : response.isSuccess <;> simp [KeepsToken, deliverOrAlert, h]

theorem keepsToken_deliverUnwrapped {ρ : Type} {result : Option ρ} :
    KeepsToken (deliverUnwrapped result) := by
  cases result <;> simp [KeepsToken, deliverUnwrapped]

theorem keepsToken_getHomeItem {response : HomeItemResponse} :
    KeepsToken (HomeItemDataManager.getHomeItem response) := by
  unfold HomeItemDataManager.getHomeItem
  split
  · split
    · exact keepsToken_deliverUnwrapped
    · split <;> simp [KeepsToken]
  · simp [KeepsToken]

theorem keepsToken_handleProduct {response : ProductResponse} (vc : Screen) :
    KeepsToken (vc.handleProduct response) := by
  have hhandler : vc.handleProduct response = ProductDataManager.getSubCategory response := by
    cases vc <;> rfl
  rw [hhandler]
  unfold ProductDataManager.getSubCategory
  split
  · split
    · exact keepsToken_deliverUnwrapped
    · split <;> simp [KeepsToken]
  · simp [KeepsToken]

theorem keepsToken_handleSubCategory {response : SubCategoryResponse} (vc : Screen) :
    KeepsToken (vc.handleSubCategory response) := by
  have hhandler : vc.handleSubCategory response = deliverOrAlert connectionAlert response := by
    cases vc <;> rfl
  rw [hhandler]
  exact keepsToken_deliverOrAlert

theorem keepsToken_registerItem {response : RegisterResponse} :
    KeepsToken (RegisterDataManager.registerItem response) := by
  cases response with
  | failure => simp [KeepsToken, RegisterDataManager.registerItem]
  | success response =>
      cases h : response.isSuccess <;> simp [KeepsToken, RegisterDataManager.registerItem, h]

theorem setToken_notMem_autoLogin {jwt : String} {response : AutoLoginResponse} :
    .setToken jwt ∉ AutoLoginDataManager.autoLogin response := by
  unfold AutoLoginDataManager.autoLogin
  split
  · split
    · simp
    · split
      · simp
      · split <;> simp
  · simp

theorem setToken_notMem_logout {jwt : String} {response : LogoutResponse} :
    .setToken jwt ∉ LogoutDataManager.logout response := by
  unfold LogoutDataManager.logout
  split
  · split <;> simp
  · simp

/-- A token is stored by a successful login and by nothing else. -/
theorem isSuccess_of_setToken_mem {jwt : String} {response : LoginResponse}
    (h : .setToken jwt ∈ LoginDataManager.login response) : response.isSuccess = true := by
  cases response with
  | failure => simp [LoginDataManager.login] at h
  | success response =>
      cases hsuccess : response.isSuccess with
      | true => exact hsuccess
      | false => simp [LoginDataManager.login, hsuccess] at h

/-- The graph of `complete`, one constructor for each endpoint. -/
inductive Completes (app : App) : Request → Answer → App → Prop where
  | autoLogin (accessToken : String) (response : AutoLoginResponse) :
      Completes app (.autoLogin accessToken) (.autoLogin response)
        ((AutoLoginDataManager.autoLogin response).foldl (App.perform id) app)
  | login (accessToken : String) (response : LoginResponse) :
      Completes app (.login accessToken) (.login response)
        ((LoginDataManager.login response).foldl (App.perform id) app)
  | logout (accessToken jwt : String) (response : LogoutResponse) :
      Completes app (.logout accessToken jwt) (.logout response)
        ((LogoutDataManager.logout response).foldl (App.perform id) app)
  | homeItem (response : HomeItemResponse) :
      Completes app .homeItem (.homeItem response)
        ((HomeItemDataManager.getHomeItem response).foldl
          (App.perform fun app => app.queue .setProduct) app)
  | category (vc : Screen) (response : CategoryResponse) :
      Completes app (.category vc) (.category response)
        ((CategoryDataManager.getCategory response).foldl
          (App.perform fun app => app.setCategory vc) app)
  | subCategory (vc : Screen) (response : SubCategoryResponse) :
      Completes app (.subCategory vc) (.subCategory response)
        ((vc.handleSubCategory response).foldl
          (App.perform fun app => app.setCategory vc) app)
  | product (vc : Screen) (response : ProductResponse) :
      Completes app (.product vc) (.product response)
        ((vc.handleProduct response).foldl
          (App.perform fun app => app.queue .setProduct) app)
  | recommend (response : RecommendResponse) :
      Completes app .recommend (.recommend response)
        ((RecommendDataManager.getRecommend response).foldl
          (App.perform App.dismissIndicator) app)
  | detail (response : DataResponse Unit) :
      Completes app .detail (.detail response)
        ((DetailDataManager.getDetail response).foldl (App.perform id) app)
  | registerItem (response : RegisterResponse) :
      Completes app .registerItem (.registerItem response)
        ((RegisterDataManager.registerItem response).foldl (App.perform id) app)

theorem completes_of_complete {request : Request} {answer : Answer}
    (h : app.complete request answer = some app') : Completes app request answer app' := by
  unfold App.complete at h
  split at h <;> cases h <;> constructor

/-- Every completion handler performs a list of commands, and only a successful login
stores a token. -/
theorem complete_cases {request : Request} {answer : Answer}
    (h : app.complete request answer = some app') :
    ∃ (ρ : Type) (commands : List (Command ρ)) (deliver : App → App), Delivers deliver ∧
      commands.foldl (App.perform deliver) app = app' ∧
        ∀ jwt, .setToken jwt ∈ commands →
          ∃ response, answer = .login response ∧ response.isSuccess = true := by
  cases completes_of_complete h with
  | autoLogin accessToken response =>
      exact ⟨_, _, _, .nothing, rfl, fun _ hmem => absurd hmem setToken_notMem_autoLogin⟩
  | login accessToken response =>
      exact ⟨_, _, _, .nothing, rfl, fun _ hmem => ⟨response, rfl, isSuccess_of_setToken_mem hmem⟩⟩
  | logout accessToken jwt response =>
      exact ⟨_, _, _, .nothing, rfl, fun _ hmem => absurd hmem setToken_notMem_logout⟩
  | homeItem response =>
      exact ⟨_, _, _, .product, rfl, fun jwt hmem => absurd hmem (keepsToken_getHomeItem.1 jwt)⟩
  | category vc response =>
      exact ⟨_, _, _, .category vc, rfl,
        fun jwt hmem => absurd hmem (keepsToken_deliverOrAlert.1 jwt)⟩
  | subCategory vc response =>
      exact ⟨_, _, _, .category vc, rfl,
        fun jwt hmem => absurd hmem ((keepsToken_handleSubCategory vc).1 jwt)⟩
  | product vc response =>
      exact ⟨_, _, _, .product, rfl,
        fun jwt hmem => absurd hmem ((keepsToken_handleProduct vc).1 jwt)⟩
  | recommend response =>
      exact ⟨_, _, _, .recommend, rfl,
        fun jwt hmem => absurd hmem (keepsToken_deliverOrAlert.1 jwt)⟩
  | detail response =>
      exact ⟨_, _, _, .nothing, rfl,
        fun jwt hmem => absurd hmem (keepsToken_deliverOrAlert.1 jwt)⟩
  | registerItem response =>
      exact ⟨_, _, _, .nothing, rfl, fun jwt hmem => absurd hmem (keepsToken_registerItem.1 jwt)⟩

theorem stepUser_cases (h : stepUser app e = some app') :
    (app.root = some .login ∧ stepLogin app e = some app') ∨
      ∃ bar, app.root = some (.main bar) ∧ stepMain app bar e = some app' := by
  rw [stepUser] at h
  cases hroot : app.root with
  | none =>
      rw [hroot] at h
      cases h
  | some root =>
      rw [hroot] at h
      cases root with
      | login => exact .inl ⟨rfl, h⟩
      | main bar => exact .inr ⟨bar, rfl, h⟩

/-- Every step runs a handler, a block or one action of the user. -/
theorem step_cases (h : step app e = some app') :
    app.trapped = false ∧
      ((∃ index answer request rest, e = .answered index answer ∧
          takeAt app.requests index = some (request, rest) ∧
          { app with requests := rest }.complete request answer = some app') ∨
        (∃ index result login rest, e = .kakaoLoggedIn index result ∧
          takeAt app.kakaoLogins index = some (login, rest) ∧
          { app with kakaoLogins := rest }.kakaoLoggedIn login result = app') ∨
        (∃ submission rest, e = .submitted submission ∧ app.submissions = rest + 1 ∧
          { app with submissions := rest }.submitted submission = app') ∨
        (∃ block rest, e = .runBlock ∧ app.mainQueue = block :: rest ∧
          { app with mainQueue := rest }.runBlock block = app') ∨
        (app.root = some .login ∧ stepLogin app e = some app') ∨
        ∃ bar, app.root = some (.main bar) ∧ stepMain app bar e = some app') := by
  have htrapped : app.trapped = false := by
    cases htrapped : app.trapped with
    | false => rfl
    | true => simp [step, htrapped] at h
  refine ⟨htrapped, ?_⟩
  unfold step at h
  rw [if_neg (by simp [htrapped])] at h
  cases e with
  | answered index answer =>
      obtain ⟨⟨request, rest⟩, htake, hcomplete⟩ := Option.bind_eq_some_iff.mp h
      exact .inl ⟨index, answer, request, rest, rfl, htake, hcomplete⟩
  | kakaoLoggedIn index result =>
      obtain ⟨⟨login, rest⟩, htake, hlogin⟩ := Option.map_eq_some_iff.mp h
      exact .inr (.inl ⟨index, result, login, rest, rfl, htake, hlogin⟩)
  | submitted submission =>
      cases hcount : app.submissions with
      | zero => simp [hcount] at h
      | succ rest =>
          simp only [hcount, Option.some.injEq] at h
          exact .inr (.inr (.inl ⟨submission, rest, rfl, rfl, h⟩))
  | runBlock =>
      cases hqueue : app.mainQueue with
      | nil => simp [hqueue] at h
      | cons block rest =>
          simp only [hqueue, Option.some.injEq] at h
          exact .inr (.inr (.inr (.inl ⟨block, rest, rfl, rfl, h⟩)))
  | _ => exact .inr (.inr (.inr (.inr (stepUser_cases h))))

theorem step_answered {index : Nat} {answer : Answer} {request : Request} {rest : List Request}
    (htrapped : app.trapped = false) (htake : takeAt app.requests index = some (request, rest)) :
    step app (.answered index answer) = { app with requests := rest }.complete request answer := by
  rw [step]
  rw [if_neg (by simp [htrapped])]
  simp only [htake, Option.bind_some]

theorem step_submitted {submission : Submission} {rest : Nat} (htrapped : app.trapped = false)
    (hcount : app.submissions = rest + 1) :
    step app (.submitted submission) =
      some ({ app with submissions := rest }.submitted submission) := by
  rw [step]
  rw [if_neg (by simp [htrapped])]
  simp only [hcount]

theorem step_runBlock {block : Block} {rest : List Block} (htrapped : app.trapped = false)
    (hqueue : app.mainQueue = block :: rest) :
    step app .runBlock = some ({ app with mainQueue := rest }.runBlock block) := by
  rw [step]
  rw [if_neg (by simp [htrapped])]
  simp only [hqueue]

theorem stepLogin_cases (h : stepLogin app e = some app') :
    (e = .kakaoLoginButtonPressed ∧
        app' = { app with kakaoLogins := app.kakaoLogins ++ [.loginWithKakaoTalk] }) ∨
      (e = .goOutButtonPressed ∧ app' = app.goToMain) := by
  cases e with
  | kakaoLoginButtonPressed => exact .inl ⟨rfl, (Option.some.inj h).symm⟩
  | goOutButtonPressed => exact .inr ⟨rfl, (Option.some.inj h).symm⟩
  | _ => cases h

theorem stepMain_cases (h : stepMain app bar e = some app') :
    (∃ tab, e = .selectTab tab ∧ tab ≠ bar.selected ∧ app' = app.selectTab bar tab) ∨
      (∃ screen, e = .openScreen screen ∧
        screen.opensFrom bar.selected bar.stack.head? = true ∧ app' = app.openScreen bar screen) ∨
      (e = .popViewController ∧ bar.stack ≠ [] ∧ app' = app.popViewController bar) ∨
      (e = .willDisplayLastRow ∧ app' = app.showIndicator.send .homeItem) ∨
      (∃ vc, e = .expandButtonPressed ∧ bar.stack.head? = some vc ∧
        (vc = .subCategory ∨ vc = .secondSubCategory) ∧
        app' = app.sendWithToken (.subCategory vc)) ∨
      (e = .selectRecommend ∧ bar.selected = .following ∧
        app' = app.showIndicator.sendWithToken .recommend) ∨
      (e = .backButtonPressed ∧ app' = app.goToMain) ∨
      (e = .cameraButtonPressed ∧ app' = app.dismissIndicator) ∨
      (∃ accepted, e = .submitButtonPressed accepted ∧ app' = app.submitButtonPressed accepted) ∨
      (∃ oauthToken, e = .logoutButtonPressed oauthToken ∧
        bar.stack.head? = some .logoutDialog ∧ app' = app.logoutButtonPressed oauthToken) := by
  cases e with
  | selectTab tab =>
      simp only [stepMain, Option.ite_none_left_eq_some, Option.some.injEq] at h
      exact .inl ⟨tab, rfl, h.1, h.2.symm⟩
  | openScreen screen =>
      simp only [stepMain, Option.ite_none_right_eq_some, Option.some.injEq] at h
      exact .inr (.inl ⟨screen, rfl, h.1, h.2.symm⟩)
  | popViewController =>
      simp only [stepMain, Option.ite_none_left_eq_some, Option.some.injEq] at h
      exact .inr (.inr (.inl ⟨rfl, h.1, h.2.symm⟩))
  | willDisplayLastRow =>
      exact .inr (.inr (.inr (.inl ⟨rfl, (Option.some.inj h).symm⟩)))
  | expandButtonPressed =>
      refine .inr (.inr (.inr (.inr (.inl ?_))))
      simp only [stepMain] at h
      split at h
      · rename_i htop
        exact ⟨.subCategory, rfl, htop, .inl rfl, (Option.some.inj h).symm⟩
      · rename_i htop
        exact ⟨.secondSubCategory, rfl, htop, .inr rfl, (Option.some.inj h).symm⟩
      · cases h
  | selectRecommend =>
      simp only [stepMain, Option.ite_none_right_eq_some, Option.some.injEq] at h
      exact .inr (.inr (.inr (.inr (.inr (.inl ⟨rfl, h.1, h.2.symm⟩)))))
  | backButtonPressed =>
      simp only [stepMain, Option.ite_none_right_eq_some, Option.some.injEq] at h
      exact .inr (.inr (.inr (.inr (.inr (.inr (.inl ⟨rfl, h.2.symm⟩))))))
  | cameraButtonPressed =>
      simp only [stepMain, Option.ite_none_right_eq_some, Option.some.injEq] at h
      exact .inr (.inr (.inr (.inr (.inr (.inr (.inr (.inl ⟨rfl, h.2.symm⟩)))))))
  | submitButtonPressed accepted =>
      simp only [stepMain, Option.ite_none_right_eq_some, Option.some.injEq] at h
      exact .inr (.inr (.inr (.inr (.inr (.inr (.inr (.inr (.inl ⟨accepted, rfl, h.2.symm⟩))))))))
  | logoutButtonPressed oauthToken =>
      simp only [stepMain, Option.ite_none_right_eq_some, Option.some.injEq] at h
      exact .inr (.inr (.inr (.inr (.inr (.inr (.inr (.inr (.inr
        ⟨oauthToken, rfl, h.1, h.2.symm⟩))))))))
  | _ => cases h

/-- What the user does on the main tab bar is a step of the app. -/
theorem step_of_stepMain (htrapped : app.trapped = false) (hroot : app.root = some (.main bar))
    (huser : e.ofUser = true) (h : stepMain app bar e = some app') :
    bunjangClone.step app e = some app' := by
  have hstep : bunjangClone.step app e = stepUser app e := by
    show step app e = _
    unfold step
    rw [if_neg (by simp [htrapped])]
    cases e with
    | answered index answer => cases huser
    | kakaoLoggedIn index result => cases huser
    | submitted submission => cases huser
    | runBlock => cases huser
    | _ => rfl
  rw [hstep, stepUser, hroot]
  exact h

theorem TabBar.stack_setStack (bar : TabBar) (screens : List Screen) :
    (bar.setStack screens).stack = screens := by
  simp [TabBar.setStack, TabBar.stack]

/-! ## Alerts -/

/-- The command raises an alert or ends the overlay, and that is all. -/
def IsAlert {ρ : Type} (command : Command ρ) : Prop :=
  command = .dismissIndicator ∨ (∃ title, command = .presentAlert title) ∨
    ∃ message, command = .presentBottomAlert message

/-- A handler that only raises alerts changes at most the overlay. -/
theorem foldl_alerts {ρ : Type} {commands : List (Command ρ)} (deliver : App → App)
    (halerts : ∀ command ∈ commands, IsAlert command) (app : App) : ∃ overlay,
      commands.foldl (App.perform deliver) app = { app with overlay := overlay } := by
  induction commands generalizing app with
  | nil => exact ⟨app.overlay, rfl⟩
  | cons command rest ih =>
      have hrest := ih fun other hmem => halerts other (List.mem_cons_of_mem _ hmem)
      rw [List.foldl_cons]
      obtain rfl | ⟨title, rfl⟩ | ⟨message, rfl⟩ := halerts command List.mem_cons_self
      · exact hrest app.dismissIndicator
      · exact hrest app.dismissIndicator
      · exact hrest app

theorem alerts_deliverOrAlert {ρ : Type} {title : String} {response : DataResponse ρ}
    (h : response.isSuccess = false) :
    ∀ command ∈ deliverOrAlert title response, IsAlert command := by
  cases response with
  | failure => simp [deliverOrAlert, IsAlert]
  | success body =>
      have hrefused : body.isSuccess = false := h
      simp [deliverOrAlert, hrefused]

end BunjangClone.Session
