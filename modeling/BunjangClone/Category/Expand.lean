import BunjangClone.Category.Screen
import BunjangClone.Reactive.Numbering

/-!
# When the shown list agrees with the button

Every granted list replaces the one shown, so at rest the screen shows the list of the
request that was granted last, whichever press it was sent for. Request 0 is that of
`viewDidLoad` and request `n` that of the `n`-th press; those with even numbers ask for the
folded list, those with odd numbers for the expanded one. So the list shown is the one the
button stands for exactly if the number granted last and the number of presses are both even
or both odd, or if the server's two lists are equal anyway.
-/

namespace BunjangClone.Category

open Reactive

/-- The endpoint of the request a callback grants, if it grants one. -/
def granted (vc : Screen) : Callback → List Endpoint
  | .answerCategory index response =>
      if grants response then (takeAt vc.requests index).elim [] fun (endpoint, _) => [endpoint]
      else []
  | _ => []

/-- The callback does not refuse or fail a category request. -/
def Callback.Granted : Callback → Prop
  | .answerCategory _ response => grants response = true
  | _ => True

instance : DecidablePred Callback.Granted
  | .answerCategory _ response => inferInstanceAs (Decidable (grants response = true))
  | .buttonPressed | .answerProduct _ _ | .runBlock => inferInstanceAs (Decidable True)

/-- The list shown once a queued block has run. -/
def shownAfter (shown : List Category) : Block → List Category
  | .setCategory result => [wholeCategory] ++ result
  | .setProduct _ => shown

/-- The list shown once all queued blocks have run. -/
def settledList (vc : Screen) : List Category := vc.mainQueue.foldl shownAfter vc.categoryArray

/-- A granted request replaces the list whatever was shown before. -/
def shownOnGrant (server : Endpoint → List Category) (_ : List Category)
    (endpoint : Endpoint) : List Category :=
  [wholeCategory] ++ server endpoint

/-- No request is outstanding and every queued block has run. -/
def Idle (vc : Screen) : Prop :=
  vc.requests = [] ∧ vc.productRequests = [] ∧ vc.mainQueue = []

instance : DecidablePred Idle := fun vc =>
  inferInstanceAs (Decidable (vc.requests = [] ∧ vc.productRequests = [] ∧ vc.mainQueue = []))

/-- The `clicked` argument the state of the button stands for. -/
def clickedFor (isExpand : Bool) : Int := if isExpand then 1 else 0

/-- The screen shows the list the button stands for. -/
def Agrees (controller : Controller) (server : Endpoint → List Category) (vc : Screen) : Prop :=
  vc.categoryArray = [wholeCategory] ++ server (controller.getCategory (clickedFor vc.isExpand))

variable {controller : Controller} {server : Endpoint → List Category} {vc vc' : Screen}
variable {e : Callback} {es : List Callback} {endpoint : Endpoint} {jwt : String}

/-! ## Frame facts of the sending half -/

@[simp] theorem getCategory_categoryArray (vc : Screen) (controller : Controller) (clicked : Int) :
    (vc.getCategory controller clicked).categoryArray = vc.categoryArray := by
  simp only [Screen.getCategory]
  split <;> rfl

@[simp] theorem getCategory_mainQueue (vc : Screen) (controller : Controller) (clicked : Int) :
    (vc.getCategory controller clicked).mainQueue = vc.mainQueue := by
  simp only [Screen.getCategory]
  split <;> rfl

@[simp] theorem getCategory_isExpand (vc : Screen) (controller : Controller) (clicked : Int) :
    (vc.getCategory controller clicked).isExpand = vc.isExpand := by
  simp only [Screen.getCategory]
  split <;> rfl

/-- A press flips the button and asks for the list it now stands for. -/
theorem buttonPressed_eq (vc : Screen) (controller : Controller) :
    vc.buttonPressed controller =
      { vc with isExpand := !vc.isExpand }.getCategory controller (clickedFor !vc.isExpand) := by
  cases h : vc.isExpand <;> simp [Screen.buttonPressed, clickedFor, h]

/-! ## The last granted request wins -/

theorem settledList_step (h : (screenOn controller server).step vc e = some vc') :
    settledList vc' = (granted vc e).foldl (shownOnGrant server) (settledList vc) := by
  have hstep := (Machine.restrict_step_iff.mp h).2
  cases e with
  | buttonPressed =>
      obtain ⟨_, rfl⟩ := step_buttonPressed.mp hstep
      simp [buttonPressed_eq, settledList, granted]
  | answerCategory index response =>
      obtain ⟨endpoint, rest, htake, rfl⟩ := screenOn_step_answerCategory h
      by_cases hg : grants response = true <;>
        simp [granted, settledList, hg, htake, Screen.setCategory, shownAfter, shownOnGrant]
  | answerProduct index response =>
      obtain ⟨rest, rfl | ⟨result, rfl⟩⟩ := step_answerProduct hstep <;>
        simp [granted, settledList, Screen.setProduct, shownAfter]
  | runBlock =>
      obtain ⟨block, rest, hq, rfl⟩ := step_runBlock.mp hstep
      cases block <;> simp [granted, settledList, Screen.runBlock, shownAfter, hq]

theorem settledList_run (h : (screenOn controller server).run vc es = some vc') :
    settledList vc' = ((screen controller).collect granted vc es).foldl
      (shownOnGrant server) (settledList vc) := by
  refine Machine.run_induction (m := screenOn controller server)
    (P := fun es t => settledList t = ((screen controller).collect granted vc es).foldl
      (shownOnGrant server) (settledList vc)) rfl ?_ es vc' h
  intro es t e u ht ih hstep
  rw [settledList_step hstep, ih, Machine.collect_concat _ (Machine.run_of_restrict ht),
    List.foldl_append]

theorem settledList_of_last (h : (screenOn controller server).run vc es = some vc')
    (hlast : ((screen controller).collect granted vc es).getLast? = some endpoint) :
    settledList vc' = [wholeCategory] ++ server endpoint := by
  obtain ⟨before, hbefore⟩ := List.getLast?_eq_some_iff.mp hlast
  rw [settledList_run h, hbefore, List.foldl_append]
  rfl

/-! ## What the presses ask for -/

def traffic (_ : Screen) : Callback → List Traffic
  | .buttonPressed => [.asked]
  | .answerCategory index response => [.answered index (grants response)]
  | .answerProduct _ _ | .runBlock => []

/-- The category requests by number: 0 is that of `viewDidLoad`, and `n` that of the `n`-th
press. -/
def ledger (controller : Controller) (jwt : String) (es : List Callback) : Ledger :=
  .ofTraffic (.asked :: (screen controller).collect traffic (loaded controller (some jwt)) es)

/-- What request number `n` asks for. -/
def content (controller : Controller) (number : Nat) : Endpoint :=
  controller.getCategory (number % 2 : Nat)

/-- The presses so far decide the state of the button and number the requests. -/
structure Pressed (controller : Controller) (jwt : String) (es : List Callback) (vc : Screen) :
    Prop where
  token : vc.jwtToken = some jwt
  isExpand : vc.isExpand = decide (es.count .buttonPressed % 2 = 1)
  next : (ledger controller jwt es).next = es.count .buttonPressed + 1
  accounts : (ledger controller jwt es).Accounts (content controller) vc.requests
    ((screen controller).collect granted (loaded controller (some jwt)) es)

theorem pressed_loaded (controller : Controller) (jwt : String) :
    Pressed controller jwt [] (loaded controller (some jwt)) := by
  refine ⟨rfl, rfl, rfl, ?_⟩
  have hempty := Ledger.accounts_empty (content controller)
  exact hempty.asked (a := controller.getCategory 0) rfl

theorem clickedFor_eq (presses : Nat) :
    clickedFor (decide (presses % 2 = 1)) = (presses % 2 : Nat) := by
  rcases Nat.mod_two_eq_zero_or_one presses with h | h <;> rw [h] <;> rfl

theorem ledger_concat (h : (screen controller).run (loaded controller (some jwt)) es = some vc)
    (e : Callback) : ledger controller jwt (es ++ [e]) =
      (traffic vc e).foldl Ledger.note (ledger controller jwt es) := by
  rw [ledger, Machine.collect_concat traffic h, ← List.cons_append, Ledger.ofTraffic_append]
  rfl

/-- What passes neither a press nor a list. -/
theorem Pressed.quiet (h : (screen controller).run (loaded controller (some jwt)) es = some vc)
    (hpressed : Pressed controller jwt es vc) (hquiet : traffic vc e = [])
    (hgranted : granted vc e = []) (hpress : e ≠ .buttonPressed)
    (hisExpand : vc'.isExpand = vc.isExpand) (htoken : vc'.jwtToken = vc.jwtToken)
    (hrequests : vc'.requests = vc.requests) : Pressed controller jwt (es ++ [e]) vc' := by
  have hledger := ledger_concat h e
  rw [hquiet, List.foldl_nil] at hledger
  have hcount : (es ++ [e]).count .buttonPressed = es.count .buttonPressed := by
    simp [hpress]
  refine ⟨htoken.trans hpressed.token, ?_, ?_, ?_⟩
  · rw [hisExpand, hcount]
    exact hpressed.isExpand
  · rw [hledger, hcount]
    exact hpressed.next
  · rw [hledger, Machine.collect_concat granted h, hgranted, List.append_nil, hrequests]
    exact hpressed.accounts

theorem Pressed.press (h : (screen controller).run (loaded controller (some jwt)) es = some vc)
    (hpressed : Pressed controller jwt es vc) :
    Pressed controller jwt (es ++ [.buttonPressed]) (vc.buttonPressed controller) := by
  have hcount : (es ++ [Callback.buttonPressed]).count .buttonPressed =
      es.count .buttonPressed + 1 := by simp
  have hflip : (!vc.isExpand) = decide ((es.count .buttonPressed + 1) % 2 = 1) := by
    rw [hpressed.isExpand, Bool.eq_iff_iff]
    simp only [Bool.not_eq_true', decide_eq_false_iff_not, decide_eq_true_eq]
    omega
  have hpress : vc.buttonPressed controller =
      { vc with
        isExpand := !vc.isExpand
        requests := vc.requests ++ [content controller (es.count .buttonPressed + 1)] } := by
    rw [buttonPressed_eq, Screen.getCategory]
    simp only [hpressed.token]
    rw [content, ← clickedFor_eq, ← hflip]
  rw [hpress]
  refine ⟨hpressed.token, ?_, ?_, ?_⟩
  · rw [hcount]
    exact hflip
  · rw [ledger_concat h, hcount, ← hpressed.next]
    rfl
  · rw [ledger_concat h, Machine.collect_concat granted h,
      show granted vc .buttonPressed = [] from rfl, List.append_nil]
    exact hpressed.accounts.asked (by rw [hpressed.next])

theorem Pressed.answer {index : Nat} {response : SubCategoryResponse} {rest : List Endpoint}
    (h : (screen controller).run (loaded controller (some jwt)) es = some vc)
    (hpressed : Pressed controller jwt es vc)
    (htake : takeAt vc.requests index = some (endpoint, rest))
    (hisExpand : vc'.isExpand = vc.isExpand) (htoken : vc'.jwtToken = vc.jwtToken)
    (hrequests : vc'.requests = rest) :
    Pressed controller jwt (es ++ [.answerCategory index response]) vc' := by
  have hcount : (es ++ [Callback.answerCategory index response]).count .buttonPressed =
      es.count .buttonPressed := by simp
  have hgranted : granted vc (.answerCategory index response) =
      if grants response then [endpoint] else [] := by
    simp [granted, htake]
  have hnext : ((ledger controller jwt es).note (.answered index (grants response))).next =
      (ledger controller jwt es).next := by
    rw [Ledger.note]
    split <;> rfl
  refine ⟨htoken.trans hpressed.token, ?_, ?_, ?_⟩
  · rw [hisExpand, hcount]
    exact hpressed.isExpand
  · rw [ledger_concat h, hcount, ← hpressed.next]
    exact hnext
  · rw [ledger_concat h, Machine.collect_concat granted h, hgranted, hrequests]
    exact hpressed.accounts.answered (grants response) htake

theorem Pressed.step (h : (screen controller).run (loaded controller (some jwt)) es = some vc)
    (hpressed : Pressed controller jwt es vc) (hstep : (screen controller).step vc e = some vc') :
    Pressed controller jwt (es ++ [e]) vc' := by
  cases e with
  | buttonPressed =>
      obtain ⟨_, rfl⟩ := step_buttonPressed.mp hstep
      exact hpressed.press h
  | answerCategory index response =>
      obtain ⟨endpoint, rest, htake, rfl⟩ := step_answerCategory.mp hstep
      apply hpressed.answer h htake <;> split <;> rfl
  | answerProduct index response =>
      obtain ⟨rest, rfl | ⟨result, rfl⟩⟩ := step_answerProduct hstep <;>
        exact hpressed.quiet h rfl rfl nofun rfl rfl rfl
  | runBlock =>
      obtain ⟨block, rest, _, rfl⟩ := step_runBlock.mp hstep
      cases block <;> exact hpressed.quiet h rfl rfl nofun rfl rfl rfl

theorem pressed_run (h : (screen controller).run (loaded controller (some jwt)) es = some vc) :
    Pressed controller jwt es vc :=
  Machine.run_induction (P := fun es vc => Pressed controller jwt es vc)
    (pressed_loaded controller jwt) (fun _ _ _ _ ht ih hstep => ih.step ht hstep) es vc h

/-! ## The exact condition -/

/-- At rest, with at least one list granted, the list shown is the one the button stands for
exactly if the number of the request granted last and the number of presses are both even or
both odd, or the server holds equal lists. -/
theorem list_agrees_iff_last_granted {number : Nat}
    (h : (screenOn controller server).run (loaded controller (some jwt)) es = some vc)
    (hidle : Idle vc) (hlast : (ledger controller jwt es).granted.getLast? = some number) :
    Agrees controller server vc ↔
      number % 2 = es.count .buttonPressed % 2 ∨
        server (controller.getCategory 0) = server (controller.getCategory 1) := by
  have hpressed := pressed_run (Machine.run_of_restrict h)
  have hendpoint : ((screen controller).collect granted (loaded controller (some jwt))
      es).getLast? = some (content controller number) := by
    rw [hpressed.accounts.granted, List.getLast?_map, hlast]
    rfl
  have hshown : vc.categoryArray = [wholeCategory] ++ server (content controller number) := by
    have hsettled := settledList_of_last h hendpoint
    rwa [settledList, hidle.2.2] at hsettled
  rw [Agrees, hshown, List.append_cancel_left_eq, hpressed.isExpand, clickedFor_eq, content]
  rcases Nat.mod_two_eq_zero_or_one number with hnumber | hnumber <;>
    rcases Nat.mod_two_eq_zero_or_one (es.count .buttonPressed) with hpresses | hpresses <;>
      simp [hnumber, hpresses, eq_comm]

/-- A server whose folded list is empty and whose expanded list is not. -/
def twoLists : Endpoint → List Category
  | .subCategory _ clicked => if clicked = 1 then [⟨2, "", none⟩] else []
  | .secondSubCategory _ _ _ => []

/-- The granting answer of the server for an endpoint. -/
def grant (server : Endpoint → List Category) (endpoint : Endpoint) : SubCategoryResponse :=
  .success ⟨true, 1000, "", server endpoint⟩

def firstScreen : Controller := .SubCategoryViewController ⟨1, "", none⟩

/-- The screen is loaded, the button pressed once, and both lists are granted. -/
def onePress : List Callback :=
  [.answerCategory 0 (grant twoLists (firstScreen.getCategory 0)), .answerProduct 0 .failure,
    .runBlock, .buttonPressed,
    .answerCategory 0 (grant twoLists (firstScreen.getCategory 1)), .runBlock]

/-- One press whose request is granted shows the expanded list. -/
theorem list_agrees_after_one_press :
    Agrees firstScreen twoLists
      { isExpand := true, categoryArray := [wholeCategory, ⟨2, "", none⟩],
        jwtToken := some "" } := by
  have hrun : (screenOn firstScreen twoLists).run (loaded firstScreen (some "")) onePress =
      some { isExpand := true, categoryArray := [wholeCategory, ⟨2, "", none⟩],
             jwtToken := some "" } := rfl
  have hlast : (ledger firstScreen "" onePress).granted.getLast? = some 1 := rfl
  exact (list_agrees_iff_last_granted hrun (by decide) hlast).mpr (Or.inl rfl)

/-- Expand and fold in quick succession, with the two answers the other way round: all
requests are granted, and the folded screen shows the expanded list. -/
theorem overtaking_answers_disagree :
    ¬ ∀ es vc, (∀ e ∈ es, Callback.Granted e) →
      (screenOn firstScreen twoLists).run (loaded firstScreen (some "")) es = some vc →
        Idle vc → Agrees firstScreen twoLists vc := by
  intro halways
  have hrun : (screenOn firstScreen twoLists).run (loaded firstScreen (some ""))
      [.answerCategory 0 (grant twoLists (firstScreen.getCategory 0)), .answerProduct 0 .failure,
        .runBlock, .buttonPressed, .buttonPressed,
        .answerCategory 1 (grant twoLists (firstScreen.getCategory 0)),
        .answerCategory 0 (grant twoLists (firstScreen.getCategory 1)), .runBlock, .runBlock] =
      some { categoryArray := [wholeCategory, ⟨2, "", none⟩], jwtToken := some "" } := rfl
  have hagrees := halways _ _ (by decide) hrun (by decide)
  cases hagrees

end BunjangClone.Category
