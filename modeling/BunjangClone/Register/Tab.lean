import BunjangClone.Reactive.Simulation
import BunjangClone.Register.Acceptance
import BunjangClone.Register.CategoryPath
import BunjangClone.Register.Submission

/-!
# The registration tab

The form is one controller: `Navigation` moves it about and writes its `categoryId`, and the
submissions read that field long after. Here the two are one machine. Each of them runs in it
as it runs alone, the form's `categoryId` being the one thing they share, so an item that is
registered carries a path the server offered, and the price is all that can trap.

The form takes input while no screen is opened over it; what the storage and the server
answer reaches it at any time.
-/

namespace BunjangClone.Register

open Reactive Numeral

/-! ## The machine -/

/-- `vc` is the form with its submissions, which `nav` has at the bottom of its stack. -/
structure RegisterTab (π : Type) where
  vc : RegisterViewController π
  nav : Navigation
deriving DecidableEq, Repr

inductive TabEvent (π : Type) where
  | form (callback : Callback π)
  | touched (touch : Touch)
deriving DecidableEq, Repr

/-- The field of the form. The screens over it have none. -/
def ViewController.categoryId : ViewController → List Category
  | RegisterViewController categoryId _ => categoryId
  | _ => []

def Navigation.categoryId (nav : Navigation) : List Category :=
  (nav.stack.getLast?.map fun inst => inst.vc.categoryId).getD []

/-- No screen is opened over the form, and the login screen has not taken over. -/
def Navigation.showsForm (nav : Navigation) : Bool :=
  nav.stack.length = 1 && !nav.left

variable {π : Type}

/-- The user does this on the form. Categories are chosen on the screens over it. -/
def Callback.onForm : Callback π → Bool
  | .input _ | .submitButtonPressed => true
  | .uploaded _ _ | .located _ _ | .answered _ _ => false

def Callback.chooses : Callback π → Bool
  | .input (.chooseCategory _ _ _) => true
  | _ => false

namespace RegisterTab

/-- The form with the field as the navigation left it. -/
def withNav (tab : RegisterTab π) (nav : Navigation) : RegisterTab π where
  vc := { tab.vc with form := { tab.vc.form with categoryId := nav.categoryId } }
  nav := nav

def step (tab : RegisterTab π) : TabEvent π → Option (RegisterTab π)
  | .form callback =>
      if callback.chooses ∨ (callback.onForm ∧ ¬ tab.nav.showsForm) ∨ tab.nav.trapped then none
      else ((controller π).step tab.vc callback).map fun vc => { tab with vc := vc }
  | .touched touch =>
      if tab.vc.trapped.isSome then none
      else (navigation.step tab.nav touch).map tab.withNav

/-- The form just opened, with the token the keychain holds. -/
def opened (π : Type) (jwtToken : Option String) : RegisterTab π where
  vc := Register.opened π jwtToken
  nav := Navigation.opened jwtToken

end RegisterTab

def registerTab (π : Type) : Machine (RegisterTab π) (TabEvent π) := ⟨RegisterTab.step⟩

/-! ## What each part sees -/

/-- The categories a row of the third screen stands for. -/
def Navigation.choice (nav : Navigation) : Touch → Option (Category × Category × Category)
  | .didSelectRowAt row =>
      match nav.stack with
      | ⟨_, .RegisterThirdCategoryViewController categoryArray currentCategory parentCategory⟩ ::
          _ => categoryArray[row]?.map fun category => (parentCategory, currentCategory, category)
      | _ => none
  | .goToCategory | .popViewController | .answered _ _ => none

namespace RegisterTab

def formCallbacks (tab : RegisterTab π) : TabEvent π → List (Callback π)
  | .form callback => [callback]
  | .touched touch =>
      ((tab.nav.choice touch).map fun (parentCategory, currentCategory, category) =>
        .input (.chooseCategory parentCategory currentCategory category)).toList

def touches (_ : RegisterTab π) : TabEvent π → List Touch
  | .form _ => []
  | .touched touch => [touch]

end RegisterTab

variable {tab tab' : RegisterTab π} {nav nav' : Navigation} {touch : Touch}
variable {lists : List (Endpoint × List Category)}

/-! ## The shared field -/

theorem categoryId_cons (inst : Instance) (hstack : nav.stack ≠ []) :
    ({ nav with stack := inst :: nav.stack } : Navigation).categoryId = nav.categoryId := by
  obtain ⟨top, below, hcons⟩ := List.exists_cons_of_ne_nil hstack
  rw [Navigation.categoryId, Navigation.categoryId, hcons, List.getLast?_cons_cons]

theorem categoryId_send (id : Nat) (endpoint : Endpoint) :
    (nav.send id endpoint).categoryId = nav.categoryId := by
  rw [Navigation.send]
  split <;> rfl

theorem categoryId_pushViewController (vc : ViewController) (hstack : nav.stack ≠ []) :
    (nav.pushViewController vc).categoryId = nav.categoryId := by
  have hpushed := categoryId_cons ⟨nav.created, vc⟩ hstack
  rw [Navigation.pushViewController]
  split
  · rw [categoryId_send]
    exact hpushed
  · exact hpushed

theorem ViewController.categoryId_viewWillAppear {vc vc' : ViewController}
    (h : vc.viewWillAppear = some vc') : vc'.categoryId = vc.categoryId := by
  cases vc with
  | RegisterViewController categoryId text =>
      simp only [ViewController.viewWillAppear] at h
      split at h
      · simp only [Option.bind_eq_bind, Option.bind_eq_some_iff, Option.pure_def,
          Option.some.injEq] at h
        obtain ⟨_, _, _, _, rfl⟩ := h
        rfl
      · obtain rfl := Option.some.inj h
        rfl
  | _ =>
      obtain rfl := Option.some.inj h
      rfl

/-- Appearing writes the text field only. -/
theorem categoryId_viewWillAppear (nav : Navigation) :
    nav.viewWillAppear.categoryId = nav.categoryId := by
  rw [Navigation.viewWillAppear]
  split
  · rfl
  · rename_i top below hstack
    split
    · rename_i vc hvc
      have hkept := ViewController.categoryId_viewWillAppear hvc
      rw [Navigation.categoryId, Navigation.categoryId, hstack]
      cases below with
      | nil => simp [hkept]
      | cons next rest => simp [List.getLast?_cons_cons]
    · rfl

theorem categoryId_receive (inst : Instance) (id : Nat) (result : List Category) :
    (inst.receive id result).vc.categoryId = inst.vc.categoryId := by
  obtain ⟨id', vc⟩ := inst
  rw [Instance.receive]
  split
  · cases vc <;> rfl
  · rfl

theorem categoryId_modify (nav : Navigation) (id : Nat) (result : List Category) :
    (nav.modify id (.setCategory result)).categoryId = nav.categoryId := by
  have hstack : (nav.modify id (.setCategory result)).stack =
      nav.stack.map (Instance.receive id result) := rfl
  rw [Navigation.categoryId, Navigation.categoryId, hstack, List.getLast?_map, Option.map_map]
  simp only [Function.comp_def, categoryId_receive]

theorem categoryId_tail (hlong : nav.stack.length > 1) :
    ({ nav with stack := nav.stack.tail } : Navigation).categoryId = nav.categoryId := by
  cases hstack : nav.stack with
  | nil => simp [hstack] at hlong
  | cons top below =>
      cases below with
      | nil => simp [hstack] at hlong
      | cons next rest =>
          rw [Navigation.categoryId, Navigation.categoryId, hstack, List.getLast?_cons_cons]
          rfl

/-- Only a row of the third screen writes the field. -/
theorem categoryId_step (h : Stacked lists nav) (hstep : navigation.step nav touch = some nav') :
    nav'.categoryId = match nav.choice touch with
      | some (parentCategory, currentCategory, category) =>
          [parentCategory, currentCategory, category]
      | none => nav.categoryId := by
  have hnonempty := h.layered.ne_nil
  have hnav : Navigation.step nav touch = some nav' := hstep
  unfold Navigation.step at hnav
  rw [if_neg (by simp [h.untrapped])] at hnav
  cases touch with
  | answered index response =>
      obtain ⟨⟨⟨id, endpoint⟩, rest⟩, _, rfl⟩ := Option.map_eq_some_iff.mp hnav
      show ((endpoint.handle response).foldl (Navigation.perform id)
        { nav with requests := rest }).categoryId = nav.categoryId
      rw [foldl_perform_handle]
      split
      · split
        · exact categoryId_modify _ _ _
        · rfl
      · rfl
  | goToCategory =>
      have hgo : nav.goToCategory = some nav' := (Option.ite_none_left_eq_some.mp hnav).2
      unfold Navigation.goToCategory at hgo
      split at hgo
      · obtain rfl := Option.some.inj hgo
        exact categoryId_pushViewController _ hnonempty
      · cases hgo
  | popViewController =>
      have htouched := (Option.ite_none_left_eq_some.mp hnav).2
      obtain ⟨hlong, hpop⟩ := Option.ite_none_right_eq_some.mp htouched
      obtain rfl := Option.some.inj hpop
      show _ = nav.categoryId
      rw [Navigation.popViewController, categoryId_viewWillAppear, categoryId_tail hlong]
  | didSelectRowAt row =>
      have hrow : nav.didSelectRowAt row = some nav' := (Option.ite_none_left_eq_some.mp hnav).2
      unfold Navigation.didSelectRowAt at hrow
      split at hrow
      · rename_i id array below hstack
        obtain ⟨category, _, rfl⟩ := Option.map_eq_some_iff.mp hrow
        have hchoice : nav.choice (.didSelectRowAt row) = none := by
          simp [Navigation.choice, hstack]
        rw [hchoice]
        exact categoryId_pushViewController _ hnonempty
      · rename_i id array current below hstack
        obtain ⟨category, _, rfl⟩ := Option.map_eq_some_iff.mp hrow
        have hchoice : nav.choice (.didSelectRowAt row) = none := by
          simp [Navigation.choice, hstack]
        rw [hchoice]
        exact categoryId_pushViewController _ hnonempty
      · rename_i id array current parent below hstack
        obtain ⟨category, hcategory, rfl⟩ := Option.map_eq_some_iff.mp hrow
        have hchoice : nav.choice (.didSelectRowAt row) = some (parent, current, category) := by
          simp [Navigation.choice, hstack, hcategory]
        obtain ⟨register, _, _, _, _, _, _, hreturn⟩ := h.returnCategory category hstack
        rw [hchoice, hreturn]
        rfl
      · cases hrow

/-! ## What one event does -/

theorem step_form {callback : Callback π} (h : (registerTab π).step tab (.form callback) =
    some tab') :
    callback.chooses = false ∧ (callback.onForm = true → tab.nav.showsForm = true) ∧
      ∃ vc, (controller π).step tab.vc callback = some vc ∧ { tab with vc := vc } = tab' := by
  obtain ⟨hallowed, hstep⟩ := Option.ite_none_left_eq_some.mp h
  simp only [not_or, not_and, Bool.not_eq_true, Bool.not_eq_false] at hallowed
  obtain ⟨hchooses, hform, _⟩ := hallowed
  exact ⟨hchooses, hform, Option.map_eq_some_iff.mp hstep⟩

theorem step_touched (h : (registerTab π).step tab (.touched touch) = some tab') :
    tab.vc.trapped = none ∧
      ∃ nav, navigation.step tab.nav touch = some nav ∧ tab.withNav nav = tab' := by
  obtain ⟨huntrapped, hstep⟩ := Option.ite_none_left_eq_some.mp h
  exact ⟨by simpa using huntrapped, Option.map_eq_some_iff.mp hstep⟩

/-- What holds of both parts together. -/
structure Joined (lists : List (Endpoint × List Category)) (tab : RegisterTab π) : Prop where
  stacked : Stacked lists tab.nav
  categoryId : tab.vc.form.categoryId = tab.nav.categoryId

/-- A callback that chooses nothing leaves the field alone. -/
theorem categoryId_enter {form : Form π} {input : Input π}
    (h : ∀ a b c, input ≠ .chooseCategory a b c) :
    (form.enter input).categoryId = form.categoryId := by
  cases input with
  | editProductName | editTag | didFinishPickingMedia => rfl
  | editPrice text =>
      simp only [Form.enter]
      split <;> rfl
  | checkNego =>
      simp only [Form.enter, Form.checkNego, Form.priceTextFieldEnable]
      split <;> split <;> (try split) <;> rfl
  | checkIncludeShippingFee =>
      simp only [Form.enter, Form.checkIncludeShippingFee, Form.priceTextFieldEnable]
      split <;> (try split) <;> (try split) <;> rfl
  | chooseCategory a b c => exact absurd rfl (h a b c)

theorem categoryId_callback {vc vc' : RegisterViewController π} {callback : Callback π}
    (hchooses : callback.chooses = false) (hstep : (controller π).step vc callback = some vc') :
    vc'.form.categoryId = vc.form.categoryId := by
  rw [form_step hstep]
  split
  · rename_i input hinput
    apply categoryId_enter
    rintro a b c rfl
    cases callback with
    | input input =>
        obtain rfl := Option.some.inj hinput
        cases hchooses
    | _ => cases hinput
  · rfl

/-- The lists delivered by an event. -/
def RegisterTab.delivered (tab : RegisterTab π) : TabEvent π → List (Endpoint × List Category)
  | .form _ => []
  | .touched touch => tab.nav.delivered touch

theorem Joined.step {e : TabEvent π} (h : Joined lists tab)
    (hstep : (registerTab π).step tab e = some tab') :
    Joined (lists ++ tab.delivered e) tab' := by
  cases e with
  | form callback =>
      obtain ⟨hchooses, _, vc, hvc, rfl⟩ := step_form hstep
      rw [RegisterTab.delivered, List.append_nil]
      exact ⟨h.stacked, (categoryId_callback hchooses hvc).trans h.categoryId⟩
  | touched touch =>
      obtain ⟨_, nav, hnav, rfl⟩ := step_touched hstep
      exact ⟨h.stacked.step hnav, rfl⟩

theorem joined_opened (π : Type) (jwtToken : Option String) :
    Joined [] (RegisterTab.opened π jwtToken) :=
  ⟨stacked_opened jwtToken, rfl⟩

/-! ## The two parts -/

/-- The form runs as alone, and takes a path as an input when the third screen returns one. -/
theorem form_simulates (π : Type) :
    (registerTab π).Simulates (controller π) (fun _ _ => True) RegisterTab.formCallbacks
      fun tab vc => (∃ lists, Joined lists tab) ∧ tab.vc = vc := by
  rintro tab e tab' vc ⟨⟨lists, hjoined⟩, rfl⟩ _ hstep
  refine ⟨tab'.vc, ?_, ⟨_, hjoined.step hstep⟩, rfl⟩
  cases e with
  | form callback =>
      obtain ⟨_, _, vc, hvc, rfl⟩ := step_form hstep
      exact Machine.run_cons_iff.mpr ⟨vc, hvc, rfl⟩
  | touched touch =>
      obtain ⟨huntrapped, nav, hnav, rfl⟩ := step_touched hstep
      have hfield := categoryId_step hjoined.stacked hnav
      cases hchoice : tab.nav.choice touch with
      | none =>
          rw [hchoice, ← hjoined.categoryId] at hfield
          have hsame : tab.vc = (tab.withNav nav).vc := by
            rw [RegisterTab.withNav, hfield]
          have hcallbacks : tab.formCallbacks (.touched touch) = [] := by
            simp [RegisterTab.formCallbacks, hchoice]
          rw [hcallbacks, ← hsame, Machine.run_nil]
      | some path =>
          obtain ⟨a, b, c⟩ := path
          rw [hchoice] at hfield
          have hcallbacks : tab.formCallbacks (.touched touch) =
              [.input (.chooseCategory a b c)] := by
            simp [RegisterTab.formCallbacks, hchoice]
          have henter : (controller π).step tab.vc (.input (.chooseCategory a b c)) =
              some (tab.withNav nav).vc := by
            rw [RegisterTab.withNav, hfield]
            simp [controller, Register.step, huntrapped, Form.enter]
          rw [hcallbacks]
          exact Machine.run_cons_iff.mpr ⟨_, henter, rfl⟩

theorem navigation_simulates (π : Type) :
    (registerTab π).Simulates navigation (fun _ _ => True) RegisterTab.touches
      fun tab nav => tab.nav = nav := by
  rintro tab e tab' nav rfl _ hstep
  refine ⟨tab'.nav, ?_, rfl⟩
  cases e with
  | form callback =>
      obtain ⟨_, _, vc, _, rfl⟩ := step_form hstep
      rfl
  | touched touch =>
      obtain ⟨_, nav, hnav, rfl⟩ := step_touched hstep
      exact Machine.run_cons_iff.mpr ⟨nav, hnav, rfl⟩

variable {jwtToken : Option String} {es : List (TabEvent π)}

/-- The lists delivered in a run. -/
def tabDelivered (π : Type) (jwtToken : Option String) (es : List (TabEvent π)) :
    List (Endpoint × List Category) :=
  (registerTab π).collect RegisterTab.delivered (RegisterTab.opened π jwtToken) es

theorem joined_run (h : (registerTab π).run (RegisterTab.opened π jwtToken) es = some tab) :
    Joined (tabDelivered π jwtToken es) tab := by
  refine Machine.run_induction (P := fun es tab => Joined (tabDelivered π jwtToken es) tab)
    (joined_opened π jwtToken) (fun es t e u hrun ih hstep => ?_) es tab h
  rw [tabDelivered, Machine.collect_concat _ hrun]
  exact ih.step hstep

/-- The parts of a tab after a run. -/
structure TabParts (jwtToken : Option String) (es : List (TabEvent π)) (tab : RegisterTab π) :
    Prop where
  form : (controller π).run (Register.opened π jwtToken)
    ((registerTab π).collect RegisterTab.formCallbacks (RegisterTab.opened π jwtToken) es) =
      some tab.vc
  navigation : navigation.run (Navigation.opened jwtToken)
    ((registerTab π).collect RegisterTab.touches (RegisterTab.opened π jwtToken) es) =
      some tab.nav
  categoryId : tab.vc.form.categoryId = tab.nav.categoryId

/-- In every run, the form with its submissions and the screens over it are each what they
are alone, and agree about the form's categories. -/
theorem tab_parts (h : (registerTab π).run (RegisterTab.opened π jwtToken) es = some tab) :
    TabParts jwtToken es tab := by
  obtain ⟨vc, hform, _, rfl⟩ := (form_simulates π).run
    ⟨⟨[], joined_opened π jwtToken⟩, rfl⟩ (fun _ _ _ _ _ => trivial) h
  obtain ⟨nav, hnavigation, rfl⟩ := (navigation_simulates π).run rfl
    (fun _ _ _ _ _ => trivial) h
  exact ⟨hform, hnavigation, (joined_run h).categoryId⟩

/-- Open the three screens, answer each with a single row, and select it. A picture is taken
before, and the item is submitted with the given price. -/
def soldAt (price : String) : List (TabEvent Nat) :=
  [.form (.input (.didFinishPickingMedia 1)), .touched .goToCategory,
    .touched (.answered 0 (.success ⟨true, 1000, "", [⟨1, "의류", none⟩]⟩)),
    .touched (.didSelectRowAt 0),
    .touched (.answered 0 (.success ⟨true, 1000, "", [⟨2, "신발", none⟩]⟩)),
    .touched (.didSelectRowAt 0),
    .touched (.answered 0 (.success ⟨true, 1000, "", [⟨3, "운동화", none⟩]⟩)),
    .touched (.didSelectRowAt 0), .form (.input (.editPrice price)), .form .submitButtonPressed,
    .form (.uploaded 0 true), .form (.located 0 true)]

theorem tab_parts_sold : ∃ tab,
    (registerTab Nat).run (RegisterTab.opened Nat (some "jwt")) (soldAt "5000") = some tab ∧
      TabParts (some "jwt") (soldAt "5000") tab :=
  ⟨_, rfl, tab_parts rfl⟩

/-! ## What is registered -/

theorem IsPath.mono {lists' : List (Endpoint × List Category)} {a b c : Category}
    (h : IsPath lists a b c) (hmore : lists ⊆ lists') : IsPath lists' a b c :=
  ⟨h.category.mono hmore, h.subCategory.mono hmore, h.thirdCategory.mono hmore⟩

theorem Layered.chosen_last {stack : List Instance} (h : Layered lists stack) :
    Chosen lists ((stack.getLast?.map fun inst => inst.vc.categoryId).getD []) := by
  induction h with
  | register chosen => exact chosen
  | category _ _ ih | subCategory _ _ _ ih | thirdCategory _ _ _ ih =>
      rw [List.getLast?_cons_cons]
      exact ih

theorem Joined.chosen (h : Joined lists tab) : Chosen lists tab.vc.form.categoryId := by
  rw [h.categoryId]
  exact h.stacked.layered.chosen_last

/-- The item is in a path the server offered, and its price is not negotiable. -/
structure ItemSound (lists : List (Endpoint × List Category)) (item : RegisterdItem) : Prop where
  path : ∃ a b c, IsPath lists a b c ∧ item.categoryId = a.id ∧ item.subCategoryId = b.id ∧
    item.thirdCategoryId = c.id
  changePrice : item.changePrice = some false

theorem itemSound_of_registeredItem {form : Form π} {url : URL} {item : RegisterdItem}
    (hchosen : Chosen lists form.categoryId) (hkept : Kept form)
    (hitem : form.registeredItem url = some item) : ItemSound lists item := by
  simp only [Form.registeredItem, Option.bind_eq_bind, Option.bind_eq_some_iff, Option.pure_def,
    Option.some.injEq] at hitem
  obtain ⟨category, hcategory, subCategory, hsubCategory, thirdCategory, hthird, price, hprice,
    rfl⟩ := hitem
  refine ⟨?_, ?_⟩
  · obtain hnone | ⟨a, b, c, hcategoryId, hpath⟩ := hchosen
    · simp [hnone] at hcategory
    · rw [hcategoryId] at hcategory hsubCategory hthird
      obtain rfl := Option.some.inj hcategory
      obtain rfl := Option.some.inj hsubCategory
      obtain rfl := Option.some.inj hthird
      exact ⟨a, b, c, hpath, rfl, rfl, rfl⟩
  · cases hnego : form.nego with
    | false => rfl
    | true =>
        rw [(hkept.nego hnego).1] at hprice
        cases hprice

theorem kept_run (h : (registerTab π).run (RegisterTab.opened π jwtToken) es = some tab) :
    Kept tab.vc.form := by
  rw [form_run (tab_parts h).form]
  exact kept_filledIn _

/-- An item is registered by an answered lookup and from the form as it then is. -/
theorem registered_step {vc vc' : RegisterViewController π} {callback : Callback π}
    (hstep : (controller π).step vc callback = some vc') :
    vc'.registered = vc.registered ∨ ∃ press url item,
      vc'.registered = vc.registered ++ [⟨press, item⟩] ∧
        vc.form.registeredItem url = some item := by
  cases callback with
  | input input =>
      obtain rfl := step_input hstep
      exact .inl rfl
  | submitButtonPressed =>
      obtain ⟨_, rfl⟩ | ⟨_, _, _, rfl⟩ := step_submitButtonPressed hstep <;> exact .inl rfl
  | uploaded index success =>
      obtain ⟨upload, rest, _, rfl⟩ := step_uploaded hstep
      cases success <;> exact .inl rfl
  | located index success =>
      obtain ⟨lookup, rest, _, ⟨_, rfl⟩ | ⟨_, ⟨item, hitem, rfl⟩ | ⟨_, rfl⟩⟩⟩ := step_located hstep
      · exact .inl rfl
      · exact .inr ⟨_, _, item, rfl, hitem⟩
      · exact .inl rfl
  | answered index response =>
      obtain ⟨registration, rest, _, rfl⟩ := step_answered hstep
      exact .inl rfl

/-- In every run, also while the seller edits on and chooses again, each item registered
carries a path the server offered and a price that is not negotiable. -/
theorem registered_items_sound
    (h : (registerTab π).run (RegisterTab.opened π jwtToken) es = some tab) :
    ∀ registration ∈ tab.vc.registered,
      ItemSound (tabDelivered π jwtToken es) registration.item := by
  refine Machine.run_induction (P := fun es tab => ∀ registration ∈ tab.vc.registered,
      ItemSound (tabDelivered π jwtToken es) registration.item) (fun registration hmem => by
    cases hmem) (fun es t e u hrun ih hstep => ?_) es tab h
  have hmore : tabDelivered π jwtToken es ⊆ tabDelivered π jwtToken (es ++ [e]) := by
    rw [tabDelivered, tabDelivered, Machine.collect_concat _ hrun]
    exact List.subset_append_left _ _
  have hkeep : ∀ registration ∈ t.vc.registered,
      ItemSound (tabDelivered π jwtToken (es ++ [e])) registration.item := by
    intro registration hmem
    obtain ⟨⟨a, b, c, hpath, hids⟩, hprice⟩ := ih registration hmem
    exact ⟨⟨a, b, c, hpath.mono hmore, hids⟩, hprice⟩
  cases e with
  | touched touch =>
      obtain ⟨_, nav, _, rfl⟩ := step_touched hstep
      exact hkeep
  | form callback =>
      obtain ⟨_, _, vc, hvc, rfl⟩ := step_form hstep
      obtain hsame | ⟨press, url, item, hnew, hitem⟩ := registered_step hvc
      · show ∀ registration ∈ vc.registered, _
        rw [hsame]
        exact hkeep
      · intro registration hmem
        have hmem : registration ∈ vc.registered := hmem
        rw [hnew] at hmem
        obtain hmem | hmem := List.mem_append.mp hmem
        · exact hkeep registration hmem
        · obtain rfl := List.mem_singleton.mp hmem
          exact itemSound_of_registeredItem ((joined_run hrun).chosen.mono hmore)
            (kept_run hrun) hitem

theorem registered_items_sound_sold : ∃ tab,
    (registerTab Nat).run (RegisterTab.opened Nat (some "jwt")) (soldAt "5000") = some tab ∧
      ∀ registration ∈ tab.vc.registered,
        ItemSound (tabDelivered Nat (some "jwt") (soldAt "5000")) registration.item :=
  ⟨_, rfl, registered_items_sound rfl⟩

/-! ## What traps -/

def Untrapped (tab : RegisterTab π) : Prop :=
  tab.vc.trapped = none ∧ tab.nav.trapped = false

/-- A press of the submit button, if it came now, would raise an alert or upload an image: the
image it unwraps is there. -/
def Pressable (tab : RegisterTab π) : Prop :=
  tab.vc.submitButtonPressed ≠ none

/-- A URL that arrives finds a price that fits into 64 bits. -/
def PriceReadable (tab : RegisterTab π) : TabEvent π → Prop
  | .form (.located _ true) => (intOfText tab.vc.form.priceTextField).isSome = true
  | _ => True

instance (tab : RegisterTab π) : DecidablePred (PriceReadable tab)
  | .form (.located _ true) =>
      inferInstanceAs (Decidable ((intOfText tab.vc.form.priceTextField).isSome = true))
  | .form (.located _ false) | .form (.input _) | .form .submitButtonPressed
  | .form (.uploaded _ _) | .form (.answered _ _) | .touched _ => inferInstanceAs (Decidable True)

/-- Once a press has been accepted, the form has its categories. -/
structure Submitting (tab : RegisterTab π) : Prop where
  joined : ∃ lists, Joined lists tab
  traced : Traced tab.vc
  category : tab.vc.pressed ≠ [] → tab.vc.form.categoryId ≠ []

theorem pressed_step {vc vc' : RegisterViewController π} {callback : Callback π}
    (hstep : (controller π).step vc callback = some vc') :
    vc'.pressed = vc.pressed ∨ vc.form.categoryId ≠ [] := by
  obtain ⟨hpressed, _⟩ | ⟨⟨img, name, hsubmit⟩, _⟩ := presses_step hstep
  · exact .inl hpressed
  · exact .inr (Form.submitButtonPressed_eq_uploadImage_iff.mp hsubmit).1.2.2.1

theorem Submitting.step {e : TabEvent π} (h : Submitting tab)
    (hstep : (registerTab π).step tab e = some tab') : Submitting tab' := by
  obtain ⟨lists, hjoined⟩ := h.joined
  have hjoined' := hjoined.step hstep
  cases e with
  | form callback =>
      obtain ⟨hchooses, _, vc, hvc, rfl⟩ := step_form hstep
      refine ⟨⟨_, hjoined'⟩, h.traced.step hvc, fun hpressed => ?_⟩
      show vc.form.categoryId ≠ []
      rw [categoryId_callback hchooses hvc]
      obtain hsame | hcategory := pressed_step hvc
      · exact h.category (hsame ▸ hpressed)
      · exact hcategory
  | touched touch =>
      obtain ⟨_, nav, hnav, rfl⟩ := step_touched hstep
      refine ⟨⟨_, hjoined'⟩, ⟨h.traced.once, h.traced.earlier, h.traced.accepted⟩,
        fun hpressed => ?_⟩
      show nav.categoryId ≠ []
      rw [categoryId_step hjoined.stacked hnav]
      split
      · exact List.cons_ne_nil _ _
      · rw [← hjoined.categoryId]
        exact h.category hpressed

/-- An answered lookup builds an item exactly if the price is read. -/
theorem Submitting.registeredItem_isSome_iff (h : Submitting tab) {index : Nat} {lookup : Lookup}
    {rest : List Lookup} (htake : takeAt tab.vc.lookups index = some (lookup, rest)) (url : URL) :
    (tab.vc.form.registeredItem url).isSome = true ↔
      (intOfText tab.vc.form.priceTextField).isSome = true := by
  obtain ⟨form, hform, _⟩ := h.traced.form_of_lookup htake
  have hpressed : tab.vc.pressed ≠ [] := List.ne_nil_of_mem (List.mem_of_getElem? hform)
  obtain ⟨lists, hjoined⟩ := h.joined
  obtain hnone | ⟨a, b, c, hcategory, _⟩ := hjoined.chosen
  · exact absurd hnone (h.category hpressed)
  · cases hprice : intOfText tab.vc.form.priceTextField <;>
      simp [Form.registeredItem, hcategory, hprice]

theorem untrapped_step {e : TabEvent π} (h : Submitting tab) (huntrapped : Untrapped tab)
    (hstep : (registerTab π).step tab e = some tab') :
    Untrapped tab' ↔ PriceReadable tab e := by
  have hnav' := (h.step hstep).joined
  obtain ⟨lists', hjoined'⟩ := hnav'
  cases e with
  | touched touch =>
      obtain ⟨_, nav, _, rfl⟩ := step_touched hstep
      exact iff_of_true ⟨huntrapped.1, hjoined'.stacked.untrapped⟩ trivial
  | form callback =>
      obtain ⟨_, _, vc, hvc, rfl⟩ := step_form hstep
      have hkept : vc.trapped = tab.vc.trapped → Untrapped { tab with vc := vc } :=
        fun hsame => ⟨hsame.trans huntrapped.1, huntrapped.2⟩
      cases callback with
      | input input =>
          obtain rfl := step_input hvc
          exact iff_of_true (hkept rfl) trivial
      | submitButtonPressed =>
          refine iff_of_true (hkept ?_) trivial
          obtain ⟨_, rfl⟩ | ⟨_, _, _, rfl⟩ := step_submitButtonPressed hvc <;> rfl
      | uploaded index success =>
          obtain ⟨upload, rest, _, rfl⟩ := step_uploaded hvc
          refine iff_of_true (hkept ?_) trivial
          cases success <;> rfl
      | answered index response =>
          obtain ⟨registration, rest, _, rfl⟩ := step_answered hvc
          exact iff_of_true (hkept rfl) trivial
      | located index success =>
          obtain ⟨lookup, rest, htake, ⟨rfl, rfl⟩ | ⟨rfl, ⟨item, hitem, rfl⟩ | ⟨hitem, rfl⟩⟩⟩ :=
            step_located hvc
          · exact iff_of_true (hkept rfl) trivial
          · have hread := (h.registeredItem_isSome_iff htake _).mp (by rw [hitem]; rfl)
            exact iff_of_true (hkept rfl) hread
          · refine iff_of_false (fun huntrapped' => ?_) fun hread => ?_
            · cases huntrapped'.1
            · have hbuilt := (h.registeredItem_isSome_iff htake
                ⟨standardizedPathForString lookup.name⟩).mpr hread
              rw [hitem] at hbuilt
              cases hbuilt

theorem pressable_along (jwtToken : Option String) (es : List (TabEvent π)) :
    (registerTab π).Along Pressable (RegisterTab.opened π jwtToken) es := by
  intro before tab hbefore hrun
  exact submitButtonPressed_ne_none (tab_parts hrun).form

/-- Along every run, the process never traps exactly if each URL that arrives finds a price
that can be read: neither the categories nor the navigation ever trap, and a press never does. -/
theorem only_price_traps
    (h : (registerTab π).run (RegisterTab.opened π jwtToken) es = some tab) :
    ((registerTab π).Along Untrapped (RegisterTab.opened π jwtToken) es ↔
      (registerTab π).Meets PriceReadable (RegisterTab.opened π jwtToken) es) ∧
        (registerTab π).Along Pressable (RegisterTab.opened π jwtToken) es := by
  refine ⟨?_, pressable_along jwtToken es⟩
  refine Machine.along_iff_meets (J := Submitting) (A := fun _ _ => True)
    ⟨⟨[], joined_opened π jwtToken⟩, traced_opened jwtToken, fun hpressed => absurd rfl hpressed⟩
    ⟨rfl, rfl⟩ (fun t e u hj _ hstep => hj.step hstep)
    (fun t e u hj huntrapped _ hstep => untrapped_step hj huntrapped hstep) h
    (fun _ _ _ _ _ => trivial)

theorem priced_item_never_traps :
    (registerTab Nat).Along Untrapped (RegisterTab.opened Nat (some "jwt")) (soldAt "5000") ∧
      (registerTab Nat).Along Pressable (RegisterTab.opened Nat (some "jwt")) (soldAt "5000") :=
  ⟨(only_price_traps rfl).1.mpr (by decide), (only_price_traps rfl).2⟩

end BunjangClone.Register
