import BunjangClone.Register.Controller

/-!
# When an item is what was validated

The callback of the URL lookup builds the item from the form as it is then. Each item
can be traced to one accepted press, and no press is registered twice; but what the item
says is what the form says when the lookup is answered. It is what was validated exactly
if, at each answered lookup, the form is as it was at the press, or spells the same
values in another way.
-/

namespace BunjangClone.Register

open Reactive

variable {π : Type} {vc vc' : RegisterViewController π} {e : Callback π}
variable {es : List (Callback π)}

/-! ## Every submission belongs to one press -/

/-- The presses of the submissions under way, registered or trapped. -/
def RegisterViewController.presses (vc : RegisterViewController π) : List Nat :=
  vc.uploads.map Upload.press ++ vc.lookups.map Lookup.press ++
    vc.registered.map Registration.press ++ vc.trapped.toList

/-- The press was accepted. -/
def Accepted (form : Form π) : Prop :=
  ∃ img name, form.submitButtonPressed = .uploadImage img name

structure Traced (vc : RegisterViewController π) : Prop where
  once : ∀ press, vc.presses.count press ≤ 1
  earlier : ∀ press ∈ vc.presses, press < vc.pressed.length
  accepted : ∀ form ∈ vc.pressed, Accepted form

theorem count_map_takeAt {α : Type} {l rest : List α} {i : Nat} {a : α} (f : α → Nat)
    (h : takeAt l i = some (a, rest)) (press : Nat) :
    (l.map f).count press = (rest.map f).count press + [f a].count press := by
  rw [((takeAt_perm h).map f).count_eq, List.map_cons, List.count_cons, List.count_singleton]

/-- A submission moves on, ends, or starts with the number of its press. -/
theorem presses_step (h : (controller π).step vc e = some vc') :
    (vc'.pressed = vc.pressed ∧ ∀ press, vc'.presses.count press ≤ vc.presses.count press) ∨
      ((∃ img name, vc.form.submitButtonPressed = .uploadImage img name) ∧
        vc'.pressed = vc.pressed ++ [vc.form] ∧
        ∀ press, vc'.presses.count press =
          vc.presses.count press + [vc.pressed.length].count press) := by
  have huntrapped := untrapped_of_step h
  cases e with
  | input input =>
      obtain rfl := step_input h
      exact Or.inl ⟨rfl, fun press => Nat.le_refl _⟩
  | submitButtonPressed =>
      cases step_submitButtonPressed h with
      | inl hrefused =>
          obtain ⟨_, rfl⟩ := hrefused
          exact Or.inl ⟨rfl, fun press => Nat.le_refl _⟩
      | inr haccepted =>
          obtain ⟨data, _, hsubmit, rfl⟩ := haccepted
          refine Or.inr ⟨⟨_, _, hsubmit⟩, rfl, fun press => ?_⟩
          simp only [RegisterViewController.presses, List.map_append, List.map_cons, List.map_nil,
            List.count_append]
          omega
  | uploaded index success =>
      obtain ⟨upload, rest, htake, rfl⟩ := step_uploaded h
      have hcount := count_map_takeAt Upload.press htake
      refine Or.inl ⟨by simp only [RegisterViewController.uploaded]; split <;> rfl, fun press => ?_⟩
      simp only [RegisterViewController.presses, List.count_append, hcount press]
      cases success <;>
        simp only [RegisterViewController.uploaded, Bool.false_eq_true, if_false, if_true,
          List.map_append, List.map_cons, List.map_nil, List.count_append] <;> omega
  | located index success =>
      obtain ⟨lookup, rest, htake, hcases⟩ := step_located h
      have hcount := count_map_takeAt Lookup.press htake
      obtain ⟨_, rfl⟩ | ⟨_, ⟨item, _, rfl⟩ | ⟨_, rfl⟩⟩ := hcases
      · refine Or.inl ⟨rfl, fun press => ?_⟩
        simp only [RegisterViewController.presses, List.count_append, hcount press]
        omega
      · refine Or.inl ⟨rfl, fun press => ?_⟩
        simp only [RegisterViewController.presses, List.map_append, List.map_cons, List.map_nil,
          List.count_append, hcount press]
        omega
      · refine Or.inl ⟨rfl, fun press => ?_⟩
        simp only [RegisterViewController.presses, List.count_append, hcount press, huntrapped,
          Option.toList_none, Option.toList_some, List.count_nil]
        omega
  | answered index response =>
      obtain ⟨registration, rest, _, rfl⟩ := step_answered h
      exact Or.inl ⟨rfl, fun press => Nat.le_refl _⟩

theorem Traced.step (h : Traced vc) (hstep : (controller π).step vc e = some vc') :
    Traced vc' := by
  obtain ⟨hpressed, hcount⟩ | ⟨haccepted, hpressed, hcount⟩ := presses_step hstep
  · refine ⟨fun press => (hcount press).trans (h.once press), fun press hmem => ?_, ?_⟩
    · rw [hpressed]
      apply h.earlier
      rw [← List.count_pos_iff] at hmem ⊢
      exact hmem.trans_le (hcount press)
    · rw [hpressed]
      exact h.accepted
  · refine ⟨fun press => ?_, fun press hmem => ?_, fun form hmem => ?_⟩
    · have hold := h.once press
      have hnew : press = vc.pressed.length → vc.presses.count press = 0 := by
        rintro rfl
        exact List.count_eq_zero.mpr fun hmem => (h.earlier _ hmem).ne rfl
      rw [hcount press, List.count_singleton]
      split
      · rename_i hsame
        have := hnew (beq_iff_eq.mp hsame).symm
        omega
      · omega
    · rw [← List.count_pos_iff, hcount press, List.count_singleton] at hmem
      rw [hpressed, List.length_append, List.length_singleton]
      by_cases hsame : press = vc.pressed.length
      · omega
      · have hpos : 0 < vc.presses.count press := by
          rw [if_neg (by simpa using fun heq => hsame heq.symm)] at hmem
          exact hmem
        have hbound := h.earlier press (List.count_pos_iff.mp hpos)
        omega
    · rw [hpressed, List.mem_append] at hmem
      cases hmem with
      | inl hold => exact h.accepted form hold
      | inr hnew => exact List.mem_singleton.mp hnew ▸ haccepted

theorem traced_opened (jwtToken : Option String) : Traced (opened π jwtToken) := by
  refine ⟨fun press => ?_, fun press hmem => ?_, fun form hmem => ?_⟩
  · simp [RegisterViewController.presses, opened]
  · simp [RegisterViewController.presses, opened] at hmem
  · cases hmem

/-- The forms of earlier presses are kept. -/
theorem pressed_grows (h : (controller π).step vc e = some vc') : vc.pressed <+: vc'.pressed := by
  obtain ⟨hpressed, _⟩ | ⟨_, hpressed, _⟩ := presses_step h
  · exact hpressed ▸ List.prefix_rfl
  · exact hpressed ▸ List.prefix_append _ _

/-! ## What the items say -/

/-- Every registered item belongs to one accepted press and says what the form said at
that press. If a callback has trapped, the form is as it was at its press. -/
structure PostsWhatWasValidated (vc : RegisterViewController π) : Prop where
  once : (vc.registered.map Registration.press).Nodup
  validated : ∀ registration ∈ vc.registered, ∃ form ∈ vc.pressed[registration.press]?,
    Accepted form ∧ form.values = some registration.item.values
  untouched : ∀ press ∈ vc.trapped, ∃ form ∈ vc.pressed[press]?, vc.form.answers = form.answers

/-- The form still says what it said: it has the same contents, or spells the same
values in another way. -/
def StillSays (form before : Form π) : Prop :=
  form.answers = before.answers ∨ (form.values ≠ none ∧ form.values = before.values)

instance (form before : Form π) : Decidable (StillSays form before) :=
  inferInstanceAs (Decidable (_ ∨ _))

/-- If an item can be built, the form still says what it said exactly if the item does. -/
theorem stillSays_iff_of_item {form before : Form π} {url : URL} {item : RegisterdItem}
    (h : form.registeredItem url = some item) :
    StillSays form before ↔ before.values = some item.values := by
  have hvalues := form.registeredItem_values url
  rw [h, Option.map_some] at hvalues
  constructor
  · intro hstill
    cases hstill with
    | inl hanswers => rw [← Form.values_congr hanswers, hvalues]
    | inr hequal => rw [← hequal.2, hvalues]
  · intro hsays
    refine Or.inr ⟨?_, ?_⟩
    · rw [← hvalues]
      exact Option.some_ne_none _
    · rw [← hvalues, hsays]

/-- If building the item traps, only an untouched form says what it said. -/
theorem stillSays_iff_of_trap {form before : Form π} {url : URL}
    (h : form.registeredItem url = none) :
    StillSays form before ↔ form.answers = before.answers := by
  have hvalues := form.registeredItem_values url
  rw [h, Option.map_none] at hvalues
  constructor
  · exact fun hstill => hstill.resolve_right fun hequal => hequal.1 hvalues.symm
  · exact Or.inl

/-- A lookup answered with a URL finds the form saying what it said at the press. -/
def FormUnchanged (vc : RegisterViewController π) : Callback π → Prop
  | .located index true => ∀ lookup ∈ vc.lookups[index]?, ∀ form ∈ vc.pressed[lookup.press]?,
      StillSays vc.form form
  | _ => True

instance (vc : RegisterViewController π) : DecidablePred (FormUnchanged vc)
  | .located index true => inferInstanceAs (Decidable (∀ lookup ∈ vc.lookups[index]?,
      ∀ form ∈ vc.pressed[lookup.press]?, StillSays vc.form form))
  | .located _ false | .input _ | .submitButtonPressed | .uploaded _ _ | .answered _ _ =>
      inferInstanceAs (Decidable True)

theorem Traced.nodup_registered (h : Traced vc) :
    (vc.registered.map Registration.press).Nodup := by
  refine List.nodup_iff_count_le_one.mpr fun press => ?_
  have honce := h.once press
  simp only [RegisterViewController.presses, List.count_append] at honce
  omega

theorem getElem?_of_prefix {α : Type} {l l' : List α} {a : α} {i : Nat} (h : l <+: l')
    (ha : l[i]? = some a) : l'[i]? = some a := by
  obtain ⟨rest, rfl⟩ := h
  rw [List.getElem?_append_left (List.getElem?_eq_some_iff.mp ha).1, ha]

/-- A step that registers nothing and does not trap. -/
theorem PostsWhatWasValidated.frame (h : PostsWhatWasValidated vc)
    (hregistered : vc'.registered = vc.registered) (htrapped : vc'.trapped = none)
    (hpressed : vc.pressed <+: vc'.pressed) : PostsWhatWasValidated vc' := by
  refine ⟨hregistered ▸ h.once, ?_, ?_⟩
  · rw [hregistered]
    intro registration hmem
    obtain ⟨form, hform, hsays⟩ := h.validated registration hmem
    exact ⟨form, getElem?_of_prefix hpressed hform, hsays⟩
  · rw [htrapped]
    intro press hmem
    cases hmem

/-- The form of the press a lookup belongs to. -/
theorem Traced.form_of_lookup (h : Traced vc) {index : Nat} {lookup : Lookup}
    {rest : List Lookup} (htake : takeAt vc.lookups index = some (lookup, rest)) :
    ∃ form, vc.pressed[lookup.press]? = some form ∧ Accepted form := by
  have hmem : lookup.press ∈ vc.presses := by
    simp only [RegisterViewController.presses, List.mem_append, List.mem_map]
    exact Or.inl (Or.inl (Or.inr ⟨lookup, mem_of_takeAt htake, rfl⟩))
  have hbound := h.earlier lookup.press hmem
  exact ⟨vc.pressed[lookup.press], List.getElem?_eq_getElem hbound,
    h.accepted _ (List.getElem_mem hbound)⟩

/-- A step registers what was validated, and does not trap on an edited form, exactly
if it meets the condition. -/
theorem postsWhatWasValidated_step (hj : Traced vc) (h : PostsWhatWasValidated vc)
    (hstep : (controller π).step vc e = some vc') :
    PostsWhatWasValidated vc' ↔ FormUnchanged vc e := by
  have huntrapped := untrapped_of_step hstep
  have hpressed := pressed_grows hstep
  have hj' := hj.step hstep
  cases e with
  | input input =>
      obtain rfl := step_input hstep
      exact iff_of_true (h.frame rfl huntrapped hpressed) trivial
  | submitButtonPressed =>
      refine iff_of_true ?_ trivial
      cases step_submitButtonPressed hstep with
      | inl hrefused => exact hrefused.2 ▸ h
      | inr haccepted =>
          obtain ⟨data, _, _, rfl⟩ := haccepted
          exact h.frame rfl huntrapped hpressed
  | uploaded index success =>
      obtain ⟨upload, rest, _, rfl⟩ := step_uploaded hstep
      refine iff_of_true ?_ trivial
      cases success with
      | false => exact h.frame rfl huntrapped hpressed
      | true => exact h.frame rfl huntrapped hpressed
  | answered index response =>
      obtain ⟨registration, rest, _, rfl⟩ := step_answered hstep
      exact iff_of_true (h.frame rfl huntrapped hpressed) trivial
  | located index success =>
      obtain ⟨lookup, rest, htake, hcases⟩ := step_located hstep
      obtain ⟨form, hform, haccepted⟩ := hj.form_of_lookup htake
      have hcondition : FormUnchanged vc (.located index true) ↔ StillSays vc.form form := by
        simp [FormUnchanged, (takeAt_eq_some_iff.mp htake).1, hform]
      obtain ⟨rfl, rfl⟩ | ⟨rfl, ⟨item, hitem, rfl⟩ | ⟨hitem, rfl⟩⟩ := hcases
      · exact iff_of_true (h.frame rfl huntrapped hpressed) trivial
      · rw [hcondition, stillSays_iff_of_item hitem]
        constructor
        · intro hposts
          obtain ⟨before, hbefore, _, hsays⟩ := hposts.validated ⟨lookup.press, item⟩ (by simp)
          obtain rfl : form = before := Option.some.inj (hform.symm.trans hbefore)
          exact hsays
        · intro hsays
          refine ⟨hj'.nodup_registered, fun registration hmem => ?_, fun press hmem => ?_⟩
          · cases List.mem_append.mp hmem with
            | inl hold => exact h.validated registration hold
            | inr hnew =>
                obtain rfl := List.mem_singleton.mp hnew
                exact ⟨form, hform, haccepted, hsays⟩
          · exact h.untouched press hmem
      · rw [hcondition, stillSays_iff_of_trap hitem]
        constructor
        · intro hposts
          obtain ⟨before, hbefore, hanswers⟩ := hposts.untouched lookup.press rfl
          obtain rfl : form = before := Option.some.inj (hform.symm.trans hbefore)
          exact hanswers
        · intro hanswers
          refine ⟨hj'.nodup_registered, h.validated, fun press hmem => ?_⟩
          obtain rfl : lookup.press = press := Option.some.inj hmem
          exact ⟨form, hform, hanswers⟩

/-- Along every run, what is registered is what was validated, each item for one press,
and no callback traps on an edited form, exactly if every answered lookup finds the form
saying what it said at the press. -/
theorem posts_what_was_validated_iff {jwtToken : Option String}
    (h : (controller π).run (opened π jwtToken) es = some vc) :
    (controller π).Along PostsWhatWasValidated (opened π jwtToken) es ↔
      (controller π).Meets FormUnchanged (opened π jwtToken) es := by
  refine Machine.along_iff_meets (J := Traced) (A := fun _ _ => True) (traced_opened jwtToken)
    ⟨List.nodup_nil, ?_, ?_⟩ (fun t e u hj _ hstep => hj.step hstep) ?_ h
    (fun _ _ _ _ _ => trivial)
  · intro registration hmem
    cases hmem
  · intro press hmem
    cases hmem
  · exact fun t e u hj hp _ hstep => postsWhatWasValidated_step hj hp hstep

/-- A form with a picture and a category is submitted, and its image uploaded. -/
def submitted : List (Callback Nat) :=
  [.input (.didFinishPickingMedia 1),
    .input (.chooseCategory ⟨1, "", none⟩ ⟨2, "", none⟩ ⟨3, "", none⟩), .submitButtonPressed,
    .uploaded 0 true]

/-- The price is retyped with a sign, and the name is edited only after the lookup. -/
theorem posts_what_was_validated_respelled :
    (controller Nat).Along PostsWhatWasValidated (opened Nat (some ""))
      (submitted ++ [.input (.editPrice "+10000"), .located 0 true,
        .input (.editProductName "가방")]) := by
  have hrun : ∃ vc, (controller Nat).run (opened Nat (some ""))
      (submitted ++ [.input (.editPrice "+10000"), .located 0 true,
        .input (.editProductName "가방")]) = some vc := ⟨_, rfl⟩
  obtain ⟨vc, hrun⟩ := hrun
  exact (posts_what_was_validated_iff hrun).mpr (by decide)

/-- The product name is edited between the upload and the lookup's answer. -/
theorem edited_name_is_registered :
    ¬ ∀ es vc, (controller Nat).run (opened Nat (some "")) es = some vc →
      PostsWhatWasValidated vc := by
  intro halways
  have hrun : ∃ vc registration form, (controller Nat).run (opened Nat (some ""))
      (submitted ++ [.input (.editProductName "가방"), .located 0 true]) = some vc ∧
        vc.registered = [registration] ∧ vc.pressed[registration.press]? = some form ∧
          form.values ≠ some registration.item.values :=
    ⟨_, _, _, rfl, rfl, rfl, by decide⟩
  obtain ⟨vc, registration, form, hrun, hregistered, hform, hother⟩ := hrun
  obtain ⟨before, hbefore, _, hsays⟩ := (halways _ vc hrun).validated registration
    (by simp [hregistered])
  obtain rfl : form = before := Option.some.inj (hform.symm.trans hbefore)
  exact hother hsays

end BunjangClone.Register
