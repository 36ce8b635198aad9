import BunjangClone.Register.Navigation

/-!
# The category path

The third screen trusts that the form lies three places below it and that its fields
`parentCategory` and `currentCategory` were chosen on the two screens between. Both hold
because every screen is pushed by the one it belongs above, over a stack that is never
changed but at its top. So a stack is described from the bottom up, and each layer says
what the screen was opened with.
-/

namespace BunjangClone.Register

open Reactive

variable {lists lists' : List (Endpoint × List Category)} {endpoint : Endpoint}
variable {nav nav' : Navigation} {stack : List Instance} {categoryId : List Category}

theorem Offered.mono {category : Category} (h : Offered lists endpoint category)
    (hmore : lists ⊆ lists') : Offered lists' endpoint category := by
  obtain ⟨list, hlist, hmem⟩ := h
  exact ⟨list, hmore hlist, hmem⟩

theorem Chosen.mono (h : Chosen lists categoryId) (hmore : lists ⊆ lists') :
    Chosen lists' categoryId := by
  obtain hnone | ⟨a, b, c, hpath, hoffered⟩ := h
  · exact .inl hnone
  · exact .inr ⟨a, b, c, hpath, hoffered.category.mono hmore, hoffered.subCategory.mono hmore,
      hoffered.thirdCategory.mono hmore⟩

/-! ## The stack -/

/-- Every row shown is offered for the endpoint. -/
def Shown (lists : List (Endpoint × List Category)) (endpoint : Endpoint)
    (categoryArray : List Category) : Prop :=
  ∀ category ∈ categoryArray, Offered lists endpoint category

/-- The form at the bottom and each screen over the one it was opened from, with the
category chosen there. -/
inductive Layered (lists : List (Endpoint × List Category)) : List Instance → Prop where
  | register {id : Nat} {categoryId : List Category} {text : String}
      (chosen : Chosen lists categoryId) :
      Layered lists [⟨id, .RegisterViewController categoryId text⟩]
  | category {id id' : Nat} {categoryArray categoryId : List Category} {text : String}
      (below : Layered lists [⟨id', .RegisterViewController categoryId text⟩])
      (shown : Shown lists .category categoryArray) :
      Layered lists [⟨id, .RegisterCategoryViewController categoryArray⟩,
        ⟨id', .RegisterViewController categoryId text⟩]
  | subCategory {id id' : Nat} {categoryArray array : List Category} {current : Category}
      {below : List Instance}
      (under : Layered lists (⟨id', .RegisterCategoryViewController array⟩ :: below))
      (offered : Offered lists .category current)
      (shown : Shown lists (.subCategory current.id 1) categoryArray) :
      Layered lists (⟨id, .RegisterSubCategoryViewController categoryArray current⟩ ::
        ⟨id', .RegisterCategoryViewController array⟩ :: below)
  | thirdCategory {id id' : Nat} {categoryArray array : List Category}
      {current parent : Category} {below : List Instance}
      (under : Layered lists (⟨id', .RegisterSubCategoryViewController array parent⟩ :: below))
      (offered : Offered lists (.subCategory parent.id 1) current)
      (shown : Shown lists (.secondSubCategory parent.id current.id 1) categoryArray) :
      Layered lists (⟨id, .RegisterThirdCategoryViewController categoryArray current parent⟩ ::
        ⟨id', .RegisterSubCategoryViewController array parent⟩ :: below)

theorem Shown.mono {categoryArray : List Category} (h : Shown lists endpoint categoryArray)
    (hmore : lists ⊆ lists') : Shown lists' endpoint categoryArray :=
  fun category hmem => (h category hmem).mono hmore

theorem shown_nil : Shown lists endpoint [] := by
  intro category hmem
  cases hmem

theorem Layered.mono (h : Layered lists stack) (hmore : lists ⊆ lists') :
    Layered lists' stack := by
  induction h with
  | register chosen => exact .register (chosen.mono hmore)
  | category _ shown ih => exact .category ih (shown.mono hmore)
  | subCategory _ offered shown ih =>
      exact .subCategory ih (offered.mono hmore) (shown.mono hmore)
  | thirdCategory _ offered shown ih =>
      exact .thirdCategory ih (offered.mono hmore) (shown.mono hmore)

theorem Layered.ne_nil (h : Layered lists stack) : stack ≠ [] := by
  cases h <;> simp

/-- Popping a screen uncovers the one it was opened from. -/
theorem Layered.tail (h : Layered lists stack) (hlong : stack.length > 1) :
    Layered lists stack.tail := by
  cases h with
  | register => simp at hlong
  | category below => exact below
  | subCategory under => exact under
  | thirdCategory under => exact under

/-- The whole stack under the third screen. -/
theorem Layered.of_thirdCategory {id : Nat} {categoryArray : List Category}
    {current parent : Category} {below : List Instance}
    (h : Layered lists
      (⟨id, .RegisterThirdCategoryViewController categoryArray current parent⟩ :: below)) :
    ∃ sub category register array array' categoryId text,
      below = [⟨sub, .RegisterSubCategoryViewController array parent⟩,
        ⟨category, .RegisterCategoryViewController array'⟩,
        ⟨register, .RegisterViewController categoryId text⟩] ∧
      ∀ third ∈ categoryArray, IsPath lists parent current third := by
  cases h with
  | thirdCategory under offered shown =>
      cases under with
      | subCategory under offered' shown' =>
          cases under with
          | category =>
              exact ⟨_, _, _, _, _, _, _, rfl,
                fun third hmem => ⟨offered', offered, shown third hmem⟩⟩

/-- What a delivered list does to the controllers with the number `i`. -/
def Instance.receive (i : Nat) (result : List Category) (inst : Instance) : Instance :=
  if inst.id = i then ⟨inst.id, inst.vc.setCategory result⟩ else inst

@[simp] theorem Instance.receive_id (i : Nat) (result : List Category) (inst : Instance) :
    (inst.receive i result).id = inst.id := by
  simp only [Instance.receive]
  split <;> rfl

@[simp] theorem Instance.receive_endpoint (i : Nat) (result : List Category) (inst : Instance) :
    (inst.receive i result).vc.endpoint = inst.vc.endpoint := by
  simp only [Instance.receive]
  split
  · cases inst.vc <;> rfl
  · rfl

section

variable {i id : Nat} {result array : List Category} {current parent : Category}

theorem receive_register {text : String} :
    Instance.receive i result ⟨id, .RegisterViewController categoryId text⟩ =
      ⟨id, .RegisterViewController categoryId text⟩ := by
  simp only [Instance.receive]
  split <;> rfl

theorem receive_category :
    Instance.receive i result ⟨id, .RegisterCategoryViewController array⟩ =
      ⟨id, .RegisterCategoryViewController (if id = i then result else array)⟩ := by
  simp only [Instance.receive]
  split <;> rfl

theorem receive_subCategory :
    Instance.receive i result ⟨id, .RegisterSubCategoryViewController array current⟩ =
      ⟨id, .RegisterSubCategoryViewController (if id = i then result else array) current⟩ := by
  simp only [Instance.receive]
  split <;> rfl

theorem receive_thirdCategory :
    Instance.receive i result ⟨id, .RegisterThirdCategoryViewController array current parent⟩ =
      ⟨id, .RegisterThirdCategoryViewController (if id = i then result else array) current
        parent⟩ := by
  simp only [Instance.receive]
  split <;> rfl

/-- A list is shown only by the controllers that asked for it. -/
theorem shown_receive {asked : Endpoint} (hshown : Shown lists asked array)
    (hdelivered : (endpoint, result) ∈ lists) (hasked : id = i → asked = endpoint) :
    Shown lists asked (if id = i then result else array) := by
  split
  · rename_i hid
    rw [hasked hid]
    exact fun category hmem => ⟨result, hdelivered, hmem⟩
  · exact hshown

/-- A delivered list keeps the stack in shape. -/
theorem Layered.receive (h : Layered lists stack) (hdelivered : (endpoint, result) ∈ lists)
    (hasked : ∀ inst ∈ stack, inst.id = i → inst.vc.endpoint = some endpoint) :
    Layered lists (stack.map (Instance.receive i result)) := by
  induction h with
  | register chosen =>
      rw [List.map_cons, List.map_nil, receive_register]
      exact .register chosen
  | category below shown ih =>
      have hbelow := ih fun inst hmem => hasked inst (List.mem_cons_of_mem _ hmem)
      rw [List.map_cons, List.map_nil, receive_register] at hbelow
      rw [List.map_cons, List.map_cons, List.map_nil, receive_register, receive_category]
      refine .category hbelow (shown_receive shown hdelivered fun hid => ?_)
      exact Option.some.inj (hasked _ List.mem_cons_self hid)
  | subCategory under offered shown ih =>
      have hunder := ih fun inst hmem => hasked inst (List.mem_cons_of_mem _ hmem)
      rw [List.map_cons, receive_category] at hunder
      rw [List.map_cons, List.map_cons, receive_category, receive_subCategory]
      refine .subCategory hunder offered (shown_receive shown hdelivered fun hid => ?_)
      exact Option.some.inj (hasked _ List.mem_cons_self hid)
  | thirdCategory under offered shown ih =>
      have hunder := ih fun inst hmem => hasked inst (List.mem_cons_of_mem _ hmem)
      rw [List.map_cons, receive_subCategory] at hunder
      rw [List.map_cons, List.map_cons, receive_subCategory, receive_thirdCategory]
      refine .thirdCategory hunder offered (shown_receive shown hdelivered fun hid => ?_)
      exact Option.some.inj (hasked _ List.mem_cons_self hid)

end

/-! ## What a touch does -/

/-- The stack is in shape, and each request in flight is the one its controller sends. -/
structure Stacked (lists : List (Endpoint × List Category)) (nav : Navigation) : Prop where
  untrapped : nav.trapped = false
  layered : Layered lists nav.stack
  distinct : (nav.stack.map Instance.id).Nodup
  created : ∀ inst ∈ nav.stack, inst.id < nav.created
  sent : ∀ request ∈ nav.requests, request.1 < nav.created
  asked : ∀ request ∈ nav.requests, ∀ inst ∈ nav.stack, inst.id = request.1 →
    inst.vc.endpoint = some request.2

theorem stacked_opened (jwtToken : Option String) :
    Stacked [] (Navigation.opened jwtToken) where
  untrapped := rfl
  layered := .register (.inl rfl)
  distinct := by simp [Navigation.opened]
  created := by simp [Navigation.opened]
  sent := by simp [Navigation.opened]
  asked := by simp [Navigation.opened]

theorem Stacked.mono (h : Stacked lists nav) (hmore : lists ⊆ lists') :
    Stacked lists' nav :=
  ⟨h.untrapped, h.layered.mono hmore, h.distinct, h.created, h.sent, h.asked⟩

/-- A new controller has a number of its own, which no earlier request carries. -/
theorem Stacked.pushViewController {vc : ViewController} (h : Stacked lists nav)
    (hlayered : Layered lists (⟨nav.created, vc⟩ :: nav.stack)) :
    Stacked lists (nav.pushViewController vc) := by
  have hfresh : ∀ inst ∈ nav.stack, inst.id ≠ nav.created :=
    fun inst hmem => Nat.ne_of_lt (h.created inst hmem)
  have hpushed : Stacked lists { nav with
      stack := ⟨nav.created, vc⟩ :: nav.stack
      created := nav.created + 1 } := by
    refine ⟨h.untrapped, hlayered, ?_, ?_, ?_, ?_⟩
    · rw [List.map_cons, List.nodup_cons]
      refine ⟨fun hmem => ?_, h.distinct⟩
      obtain ⟨inst, hinst, hid⟩ := List.mem_map.mp hmem
      exact hfresh inst hinst hid
    · intro inst hmem
      obtain rfl | hmem := List.mem_cons.mp hmem
      · exact Nat.lt_succ_self _
      · exact Nat.lt_succ_of_lt (h.created inst hmem)
    · exact fun request hmem => Nat.lt_succ_of_lt (h.sent request hmem)
    · intro request hrequest inst hmem hid
      obtain rfl | hmem := List.mem_cons.mp hmem
      · have hsent := h.sent request hrequest
        have hid : nav.created = request.1 := hid
        omega
      · exact h.asked request hrequest inst hmem hid
  unfold Navigation.pushViewController
  cases hendpoint : vc.endpoint with
  | none => exact hpushed
  | some endpoint =>
      simp only [Navigation.send]
      split
      · exact ⟨hpushed.untrapped, hpushed.layered, hpushed.distinct, hpushed.created,
          hpushed.sent, hpushed.asked⟩
      · refine ⟨hpushed.untrapped, hpushed.layered, hpushed.distinct, hpushed.created, ?_, ?_⟩
        · intro request hmem
          obtain hmem | rfl := List.mem_append.mp hmem |>.imp_right List.mem_singleton.mp
          · exact hpushed.sent request hmem
          · exact Nat.lt_succ_self _
        · intro request hrequest inst hmem hid
          obtain hrequest | rfl :=
            List.mem_append.mp hrequest |>.imp_right List.mem_singleton.mp
          · exact hpushed.asked request hrequest inst hmem hid
          · obtain rfl | hmem := List.mem_cons.mp hmem
            · exact hendpoint
            · exact absurd hid (hfresh inst hmem)

/-- The form reads what is there and shows it; nothing else happens. -/
theorem Layered.viewWillAppear {top : Instance} {below : List Instance}
    (h : Layered lists (top :: below)) :
    ∃ vc, top.vc.viewWillAppear = some vc ∧ vc.endpoint = top.vc.endpoint ∧
      Layered lists (⟨top.id, vc⟩ :: below) := by
  cases h with
  | register chosen =>
      obtain rfl | ⟨a, b, c, rfl, hpath⟩ := chosen
      · exact ⟨_, rfl, rfl, .register (.inl rfl)⟩
      · exact ⟨_, rfl, rfl, .register (.inr ⟨a, b, c, rfl, hpath⟩)⟩
  | category below shown => exact ⟨_, rfl, rfl, .category below shown⟩
  | subCategory under offered shown => exact ⟨_, rfl, rfl, .subCategory under offered shown⟩
  | thirdCategory under offered shown =>
      exact ⟨_, rfl, rfl, .thirdCategory under offered shown⟩

theorem Stacked.viewWillAppear (h : Stacked lists nav) :
    Stacked lists nav.viewWillAppear := by
  obtain ⟨top, below, hstack⟩ := List.exists_cons_of_ne_nil h.layered.ne_nil
  have hlayered := h.layered
  rw [hstack] at hlayered
  obtain ⟨vc, hshown, hendpoint, hlayered⟩ := hlayered.viewWillAppear
  have happeared : nav.viewWillAppear = { nav with stack := ⟨top.id, vc⟩ :: below } := by
    simp only [Navigation.viewWillAppear, hstack, hshown]
  rw [happeared]
  refine ⟨h.untrapped, hlayered, ?_, ?_, h.sent, ?_⟩
  · simpa [hstack] using h.distinct
  · have hcreated := h.created
    rw [hstack, List.forall_mem_cons] at hcreated
    exact List.forall_mem_cons.mpr hcreated
  · intro request hrequest
    have hasked := h.asked request hrequest
    rw [hstack, List.forall_mem_cons] at hasked
    refine List.forall_mem_cons.mpr ⟨fun hid => ?_, hasked.2⟩
    show vc.endpoint = _
    rw [hendpoint]
    exact hasked.1 hid

theorem Stacked.popViewController (h : Stacked lists nav) (hlong : nav.stack.length > 1) :
    Stacked lists nav.popViewController := by
  have hpopped : Stacked lists { nav with stack := nav.stack.tail } := by
    refine ⟨h.untrapped, h.layered.tail hlong, ?_, ?_, h.sent, ?_⟩
    · rw [List.map_tail]
      exact h.distinct.tail
    · exact fun inst hmem => h.created inst (List.mem_of_mem_tail hmem)
    · exact fun request hrequest inst hmem =>
        h.asked request hrequest inst (List.mem_of_mem_tail hmem)
  exact hpopped.viewWillAppear

/-- A row of the third screen writes the three categories into the form at the bottom of
a stack of four and uncovers it. -/
theorem Stacked.returnCategory {id : Nat} {array : List Category} {current parent : Category}
    {below : List Instance} (h : Stacked lists nav) (category : Category)
    (hstack : nav.stack =
      ⟨id, .RegisterThirdCategoryViewController array current parent⟩ :: below) :
    ∃ register categoryId text text', nav.viewControllers.length = 4 ∧
      nav.viewControllers[0]? = some ⟨register, .RegisterViewController categoryId text⟩ ∧
      register < nav.created ∧
      nav.returnCategory [parent, current, category] =
        { nav with stack :=
            [⟨register, .RegisterViewController [parent, current, category] text'⟩] } := by
  have hlayered := h.layered
  rw [hstack] at hlayered
  obtain ⟨sub, first, register, _, _, categoryId, text, rfl, _⟩ := hlayered.of_thirdCategory
  have hcreated : register < nav.created := by
    refine h.created ⟨register, .RegisterViewController categoryId text⟩ ?_
    simp [hstack]
  have hdistinct := h.distinct
  simp only [hstack, List.map_cons, List.map_nil, List.nodup_cons, List.mem_cons,
    List.not_mem_nil, or_false, not_or] at hdistinct
  refine ⟨register, categoryId, text,
    parent.name ++ ">" ++ category.name ++ ")", ?_, ?_, hcreated, ?_⟩
  · simp [Navigation.viewControllers, hstack]
  · simp [Navigation.viewControllers, hstack]
  · obtain ⟨⟨_, _, hthird⟩, ⟨_, hsub⟩, hfirst, _⟩ := hdistinct
    simp [Navigation.returnCategory, Navigation.viewControllers, hstack, Navigation.modify,
      Navigation.popToViewController, Navigation.viewWillAppear, ViewController.setCategoryId,
      ViewController.viewWillAppear, hthird, hsub, hfirst]

/-- The form is back on top with the path just chosen. -/
theorem Stacked.of_register {register : Nat} {text : String} (h : Stacked lists nav)
    (hcreated : register < nav.created) (hchosen : Chosen lists categoryId)
    (hunasked : ∀ request ∈ nav.requests, register ≠ request.1) :
    Stacked lists
      { nav with stack := [⟨register, .RegisterViewController categoryId text⟩] } := by
  refine ⟨h.untrapped, .register hchosen, by simp, ?_, h.sent, ?_⟩
  · intro inst hmem
    obtain rfl := List.mem_singleton.mp hmem
    exact hcreated
  · intro request hrequest inst hmem hid
    obtain rfl := List.mem_singleton.mp hmem
    exact absurd hid (hunasked request hrequest)

theorem Stacked.didSelectRowAt {row : Nat} (h : Stacked lists nav)
    (hrow : nav.didSelectRowAt row = some nav') : Stacked lists nav' := by
  have hlayered := h.layered
  unfold Navigation.didSelectRowAt at hrow
  split at hrow
  · rename_i id array below hstack
    obtain ⟨category, hcategory, rfl⟩ := Option.map_eq_some_iff.mp hrow
    apply h.pushViewController
    rw [hstack] at hlayered ⊢
    cases hlayered with
    | category under shown =>
        have hoffered := shown category (List.mem_of_getElem? hcategory)
        exact .subCategory (.category under shown) hoffered shown_nil
  · rename_i id array current below hstack
    obtain ⟨category, hcategory, rfl⟩ := Option.map_eq_some_iff.mp hrow
    apply h.pushViewController
    rw [hstack] at hlayered ⊢
    cases hlayered with
    | subCategory under offered shown =>
        have hoffered := shown category (List.mem_of_getElem? hcategory)
        exact .thirdCategory (.subCategory under offered shown) hoffered shown_nil
  · rename_i id array current parent below hstack
    obtain ⟨category, hcategory, rfl⟩ := Option.map_eq_some_iff.mp hrow
    obtain ⟨register, categoryId, text, text', hlength, hregister, hcreated, hreturn⟩ :=
      h.returnCategory category hstack
    rw [hreturn]
    rw [hstack] at hlayered
    obtain ⟨_, _, _, _, _, _, _, _, hpath⟩ := hlayered.of_thirdCategory
    refine h.of_register hcreated (.inr ⟨parent, current, category, rfl, ?_⟩) ?_
    · exact hpath category (List.mem_of_getElem? hcategory)
    · intro request hrequest hid
      have hmem : ⟨register, .RegisterViewController categoryId text⟩ ∈ nav.stack := by
        have hmem := List.mem_of_getElem? hregister
        rwa [Navigation.viewControllers, List.mem_reverse] at hmem
      cases h.asked request hrequest _ hmem hid
  · cases hrow

theorem Stacked.goToCategory (h : Stacked lists nav) (hgo : nav.goToCategory = some nav') :
    Stacked lists nav' := by
  have hlayered := h.layered
  unfold Navigation.goToCategory at hgo
  split at hgo
  · rename_i id categoryId text below hstack
    obtain rfl := Option.some.inj hgo
    apply h.pushViewController
    rw [hstack] at hlayered ⊢
    cases hlayered with
    | register chosen => exact .category (.register chosen) shown_nil
  · cases hgo

/-- A granted list reaches the controller that asked for it, if it still stands. -/
theorem Stacked.receive {id : Nat} {result : List Category} (h : Stacked lists nav)
    (hdelivered : (endpoint, result) ∈ lists)
    (hasked : ∀ inst ∈ nav.stack, inst.id = id → inst.vc.endpoint = some endpoint) :
    Stacked lists (nav.modify id (.setCategory result)) := by
  have hstack : (nav.modify id (.setCategory result)).stack =
      nav.stack.map (Instance.receive id result) := rfl
  refine ⟨h.untrapped, ?_, ?_, ?_, h.sent, ?_⟩
  · rw [hstack]
    exact h.layered.receive hdelivered hasked
  · have hids : Instance.id ∘ Instance.receive id result = Instance.id := by
      funext inst
      exact inst.receive_id id result
    rw [hstack, List.map_map, hids]
    exact h.distinct
  · intro inst hmem
    rw [hstack] at hmem
    obtain ⟨asking, hasking, rfl⟩ := List.mem_map.mp hmem
    rw [Instance.receive_id]
    exact h.created asking hasking
  · intro request hrequest inst hmem hid
    rw [hstack] at hmem
    obtain ⟨asking, hasking, rfl⟩ := List.mem_map.mp hmem
    rw [Instance.receive_endpoint]
    rw [Instance.receive_id] at hid
    exact h.asked request hrequest asking hasking hid

/-- All three endpoints deliver a granted list and do nothing otherwise. -/
theorem foldl_perform_handle {id : Nat} {response : CategoryResponse} :
    (endpoint.handle response).foldl (Navigation.perform id) nav =
      match response with
      | .success body => if body.isSuccess then nav.modify id (.setCategory body.result) else nav
      | .failure => nav := by
  have hhandle : ∃ title, endpoint.handle response = deliverOrAlert title response := by
    cases endpoint with
    | category => exact ⟨_, rfl⟩
    | subCategory => exact ⟨_, rfl⟩
    | secondSubCategory => exact ⟨_, rfl⟩
  obtain ⟨title, hhandle⟩ := hhandle
  rw [hhandle]
  cases response with
  | failure => rfl
  | success body =>
      cases hsuccess : body.isSuccess <;> simp [deliverOrAlert, hsuccess, Navigation.perform]

theorem Stacked.answered {index id : Nat} {response : CategoryResponse}
    {rest : List (Nat × Endpoint)} (h : Stacked lists nav)
    (htake : takeAt nav.requests index = some ((id, endpoint), rest)) :
    Stacked (lists ++ nav.delivered (.answered index response))
      ((endpoint.handle response).foldl (Navigation.perform id)
        { nav with requests := rest }) := by
  have hmem : (id, endpoint) ∈ nav.requests := mem_of_takeAt htake
  have hsubset : rest ⊆ nav.requests := rest_subset_of_takeAt htake
  have htaken : Stacked lists { nav with requests := rest } :=
    ⟨h.untrapped, h.layered, h.distinct, h.created,
      fun request hrequest => h.sent request (hsubset hrequest),
      fun request hrequest => h.asked request (hsubset hrequest)⟩
  rw [foldl_perform_handle]
  cases response with
  | failure => exact htaken.mono (List.subset_append_left _ _)
  | success body =>
      cases hsuccess : body.isSuccess with
      | false => simpa [hsuccess] using htaken.mono (List.subset_append_left _ _)
      | true =>
          obtain ⟨hindex, _⟩ := takeAt_eq_some_iff.mp htake
          have hdelivered : nav.delivered (.answered index (.success body)) =
              [(endpoint, body.result)] := by
            simp [Navigation.delivered, hsuccess, hindex]
          rw [hdelivered]
          have hmore : Stacked (lists ++ [(endpoint, body.result)])
              { nav with requests := rest } := htaken.mono (List.subset_append_left _ _)
          simp only [hsuccess, if_true]
          exact hmore.receive (by simp) (h.asked _ hmem)

theorem delivered_of_touch {e : Touch} (h : nav.touched e = some nav') : nav.delivered e = [] := by
  cases e with
  | answered => cases h
  | _ => rfl

theorem Stacked.step {e : Touch} (h : Stacked lists nav)
    (hstep : navigation.step nav e = some nav') :
    Stacked (lists ++ nav.delivered e) nav' := by
  have hnav : Navigation.step nav e = some nav' := hstep
  unfold Navigation.step at hnav
  rw [if_neg (by simp [h.untrapped])] at hnav
  have htouched : nav.touched e = some nav' → Stacked (lists ++ nav.delivered e) nav' := by
    intro htouch
    rw [delivered_of_touch htouch, List.append_nil]
    cases e with
    | goToCategory => exact h.goToCategory htouch
    | didSelectRowAt row => exact h.didSelectRowAt htouch
    | popViewController =>
        obtain ⟨hlong, hpop⟩ := Option.ite_none_right_eq_some.mp htouch
        obtain rfl := Option.some.inj hpop
        exact h.popViewController hlong
    | answered index response => cases htouch
  cases e with
  | answered index response =>
      obtain ⟨⟨⟨id, endpoint⟩, rest⟩, htake, rfl⟩ := Option.map_eq_some_iff.mp hnav
      exact h.answered htake
  | _ => exact htouched (Option.ite_none_left_eq_some.mp hnav).2

/-! ## Runs -/

/-- The reads of `getUrlOfImage`, which come after the check of `submitButtonPressed`. -/
def Readable (categoryId : List Category) : Prop :=
  ¬ categoryId.length < 1 →
    categoryId[0]?.isSome ∧ categoryId[1]?.isSome ∧ categoryId[2]?.isSome

/-- The form holds no category or a path, and reads what is there. -/
structure FormSound (lists : List (Endpoint × List Category)) (categoryId : List Category)
    (categoryTextField : String) : Prop where
  length : categoryId.length = 0 ∨ categoryId.length = 3
  chosen : Chosen lists categoryId
  viewWillAppear :
    (ViewController.RegisterViewController categoryId categoryTextField).viewWillAppear.isSome
  readable : Readable categoryId

/-- A row of the third screen finds the form four controllers from the top and returns to
it with the path it ends. -/
def ReturnsPath (lists : List (Endpoint × List Category)) (nav : Navigation) : Prop :=
  ∀ id array current parent below row nav',
    nav.stack = ⟨id, .RegisterThirdCategoryViewController array current parent⟩ :: below →
      navigation.step nav (.didSelectRowAt row) = some nav' →
        4 ≤ nav.viewControllers.length ∧
          ∃ register categoryId text text', ∃ category ∈ array,
            nav.viewControllers[nav.viewControllers.length - 4]? =
              some ⟨register, .RegisterViewController categoryId text⟩ ∧
            nav'.stack =
              [⟨register, .RegisterViewController [parent, current, category] text'⟩] ∧
            IsPath lists parent current category

structure CategorySound (lists : List (Endpoint × List Category)) (nav : Navigation) :
    Prop where
  untrapped : nav.trapped = false
  form : ∀ id categoryId text, ⟨id, .RegisterViewController categoryId text⟩ ∈ nav.stack →
    FormSound lists categoryId text
  returns : ReturnsPath lists nav

theorem Layered.chosen {id : Nat} {text : String} (h : Layered lists stack)
    (hmem : ⟨id, .RegisterViewController categoryId text⟩ ∈ stack) :
    Chosen lists categoryId := by
  induction h with
  | register chosen =>
      cases List.mem_singleton.mp hmem
      exact chosen
  | category _ _ ih | subCategory _ _ _ ih | thirdCategory _ _ _ ih =>
      apply ih
      obtain heq | hmem := List.mem_cons.mp hmem
      · cases heq
      · exact hmem

theorem Chosen.formSound (h : Chosen lists categoryId) (text : String) :
    FormSound lists categoryId text := by
  refine ⟨?_, h, ?_, ?_⟩
  · obtain rfl | ⟨a, b, c, rfl, _⟩ := h
    · exact .inl rfl
    · exact .inr rfl
  · obtain rfl | ⟨a, b, c, rfl, _⟩ := h <;> rfl
  · intro hlong
    obtain rfl | ⟨a, b, c, rfl, _⟩ := h
    · simp at hlong
    · exact ⟨rfl, rfl, rfl⟩

theorem Stacked.returnsPath (h : Stacked lists nav) : ReturnsPath lists nav := by
  intro id array current parent below row nav' hstack hstep
  have hnav : Navigation.step nav (.didSelectRowAt row) = some nav' := hstep
  unfold Navigation.step at hnav
  rw [if_neg (by simp [h.untrapped])] at hnav
  have hrow : nav.didSelectRowAt row = some nav' := (Option.ite_none_left_eq_some.mp hnav).2
  simp only [Navigation.didSelectRowAt, hstack] at hrow
  obtain ⟨category, hcategory, rfl⟩ := Option.map_eq_some_iff.mp hrow
  have hmem : category ∈ array := List.mem_of_getElem? hcategory
  obtain ⟨register, categoryId, text, text', hlength, hregister, _, hreturn⟩ :=
    h.returnCategory category hstack
  have hlayered := h.layered
  rw [hstack] at hlayered
  obtain ⟨_, _, _, _, _, _, _, _, hpath⟩ := hlayered.of_thirdCategory
  rw [hreturn]
  refine ⟨?_, register, categoryId, text, text', category, hmem, ?_, rfl, hpath category hmem⟩
  · omega
  · rw [hlength]
    exact hregister

variable {jwtToken : Option String} {es : List Touch}

theorem stacked_run (h : navigation.run (Navigation.opened jwtToken) es = some nav) :
    Stacked (delivered jwtToken es) nav := by
  refine Machine.run_induction (P := fun es nav => Stacked (delivered jwtToken es) nav)
    (stacked_opened jwtToken) (fun es nav e nav' hrun ih hstep => ?_) es nav h
  rw [delivered, Machine.collect_concat _ hrun]
  exact ih.step hstep

/-- In every run, the third screen returns to the form with a path the server offered, and
the form never reads a category that is not there. -/
theorem category_path_returned (h : navigation.run (Navigation.opened jwtToken) es = some nav) :
    CategorySound (delivered jwtToken es) nav := by
  have hstacked := stacked_run h
  refine ⟨hstacked.untrapped, fun id categoryId text hmem => ?_, hstacked.returnsPath⟩
  exact (hstacked.layered.chosen hmem).formSound text

/-- Open the three screens, answer each with a single row, and select it. -/
def oneRowEach (a b c : Category) : List Touch :=
  [.goToCategory, .answered 0 (.success ⟨true, 1000, "", [a]⟩), .didSelectRowAt 0,
    .answered 0 (.success ⟨true, 1000, "", [b]⟩), .didSelectRowAt 0,
    .answered 0 (.success ⟨true, 1000, "", [c]⟩), .didSelectRowAt 0]

theorem category_path_returned_oneRowEach :
    ∃ nav, navigation.run (Navigation.opened (some ""))
        (oneRowEach ⟨1, "의류", none⟩ ⟨2, "신발", none⟩ ⟨3, "운동화", none⟩) = some nav ∧
      nav.stack = [⟨0, .RegisterViewController
        [⟨1, "의류", none⟩, ⟨2, "신발", none⟩, ⟨3, "운동화", none⟩] "의류>운동화)"⟩] ∧
      CategorySound (delivered (some "")
        (oneRowEach ⟨1, "의류", none⟩ ⟨2, "신발", none⟩ ⟨3, "운동화", none⟩)) nav := by
  have hrun : ∃ nav, navigation.run (Navigation.opened (some ""))
      (oneRowEach ⟨1, "의류", none⟩ ⟨2, "신발", none⟩ ⟨3, "운동화", none⟩) = some nav ∧
    nav.stack = [⟨0, .RegisterViewController
      [⟨1, "의류", none⟩, ⟨2, "신발", none⟩, ⟨3, "운동화", none⟩] "의류>운동화)"⟩] := by
    refine ⟨_, rfl, ?_⟩
    decide
  obtain ⟨nav, hrun, hstack⟩ := hrun
  exact ⟨nav, hrun, hstack, category_path_returned hrun⟩

end BunjangClone.Register
