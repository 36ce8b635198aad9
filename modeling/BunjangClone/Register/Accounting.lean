import BunjangClone.Reactive.Conservation
import BunjangClone.Register.Submission
import Mathlib.Data.List.Range

/-!
# Where the presses go

No accepted press disappears and none is counted twice: it is being uploaded or looked up, was
registered, was lost with a failed upload or lookup, or is the one that trapped. An item that
was registered is on its way to the server or answered, unless there was no token to send it
with.
-/

namespace BunjangClone.Register

open Reactive

variable {π : Type} {vc vc' : RegisterViewController π} {e : Callback π}
variable {es : List (Callback π)}

/-- The press of a failed upload or lookup, which is only printed. -/
def lost (vc : RegisterViewController π) : Callback π → List Nat
  | .uploaded index false => (vc.uploads[index]?.map Upload.press).toList
  | .located index false => (vc.lookups[index]?.map Lookup.press).toList
  | _ => []

/-- The registration a callback answers. -/
def settled (vc : RegisterViewController π) : Callback π → List Registration
  | .answered index _ => vc.requests[index]?.toList
  | _ => []

/-! ## One step -/

/-- The presses after a step, with those it loses, are those before and the accepted one. -/
theorem presses_perm_step (h : (controller π).step vc e = some vc') :
    ∃ new, vc'.pressed = vc.pressed ++ new ∧
      (vc'.presses ++ lost vc e).Perm
        (vc.presses ++ List.range' vc.pressed.length new.length) := by
  have huntrapped := untrapped_of_step h
  have hcount : ∀ {l l' : List Nat}, (∀ press, l.count press = l'.count press) → l.Perm l' :=
    fun h => List.perm_iff_count.mpr h
  cases e with
  | input input =>
      obtain rfl := step_input h
      exact ⟨[], by simp, by simp [lost, RegisterViewController.presses]⟩
  | submitButtonPressed =>
      obtain ⟨_, rfl⟩ | ⟨data, _, _, rfl⟩ := step_submitButtonPressed h
      · exact ⟨[], by simp, by simp [lost]⟩
      · refine ⟨[vc.form], rfl, hcount fun press => ?_⟩
        simp only [RegisterViewController.presses, lost, List.map_append, List.map_cons,
          List.map_nil, List.count_append, List.length_singleton, List.range'_one,
          List.count_nil]
        omega
  | uploaded index success =>
      obtain ⟨upload, rest, htake, rfl⟩ := step_uploaded h
      have hrest := count_map_takeAt Upload.press htake
      obtain ⟨hindex, _⟩ := takeAt_eq_some_iff.mp htake
      refine ⟨[], ?_, hcount fun press => ?_⟩
      · cases success <;> simp [RegisterViewController.uploaded]
      · cases success with
        | false =>
            simp only [RegisterViewController.uploaded, Bool.false_eq_true, if_false,
              RegisterViewController.presses, lost, hindex, Option.map_some, Option.toList_some,
              List.count_append, List.length_nil, List.range'_zero, List.count_nil, hrest press]
            omega
        | true =>
            simp only [RegisterViewController.uploaded, if_true, RegisterViewController.presses,
              lost, List.map_append, List.map_cons, List.map_nil, List.count_append,
              List.length_nil, List.range'_zero, List.count_nil, hrest press]
            omega
  | located index success =>
      obtain ⟨lookup, rest, htake, hcases⟩ := step_located h
      have hrest := count_map_takeAt Lookup.press htake
      obtain ⟨hindex, _⟩ := takeAt_eq_some_iff.mp htake
      obtain ⟨rfl, rfl⟩ | ⟨rfl, ⟨item, _, rfl⟩ | ⟨_, rfl⟩⟩ := hcases
      · refine ⟨[], by simp, hcount fun press => ?_⟩
        simp only [RegisterViewController.presses, lost, hindex, Option.map_some,
          Option.toList_some, List.count_append, List.length_nil, List.range'_zero,
          List.count_nil, hrest press]
        omega
      · refine ⟨[], by simp, hcount fun press => ?_⟩
        simp only [RegisterViewController.presses, lost, List.map_append, List.map_cons,
          List.map_nil, List.count_append, List.length_nil, List.range'_zero, List.count_nil,
          hrest press]
        omega
      · refine ⟨[], by simp, hcount fun press => ?_⟩
        simp only [RegisterViewController.presses, lost, huntrapped, Option.toList_none,
          Option.toList_some, List.count_append, List.length_nil, List.range'_zero,
          List.count_nil, hrest press]
        omega
  | answered index response =>
      obtain ⟨registration, rest, _, rfl⟩ := step_answered h
      exact ⟨[], by simp, by simp [lost, RegisterViewController.presses]⟩

/-- The items that are sent. -/
def RegisterViewController.sent (vc : RegisterViewController π) : List Registration :=
  if vc.jwtToken.isSome then vc.registered else []

/-- What is registered is sent if there is a token, and what is answered was sent. -/
theorem requests_perm_step (h : (controller π).step vc e = some vc') :
    vc'.jwtToken = vc.jwtToken ∧ ∃ new, vc'.sent.Perm (vc.sent ++ new) ∧
      (vc'.requests ++ settled vc e).Perm (vc.requests ++ new) := by
  cases e with
  | input input =>
      obtain rfl := step_input h
      exact ⟨rfl, [], by simp [RegisterViewController.sent], by simp [settled]⟩
  | submitButtonPressed =>
      obtain ⟨_, rfl⟩ | ⟨data, _, _, rfl⟩ := step_submitButtonPressed h <;>
        exact ⟨rfl, [], by simp [RegisterViewController.sent], by simp [settled]⟩
  | uploaded index success =>
      obtain ⟨upload, rest, _, rfl⟩ := step_uploaded h
      cases success <;>
        exact ⟨rfl, [], by simp [RegisterViewController.sent, RegisterViewController.uploaded],
          by simp [settled, RegisterViewController.uploaded]⟩
  | located index success =>
      obtain ⟨lookup, rest, _, ⟨rfl, rfl⟩ | ⟨rfl, ⟨item, _, rfl⟩ | ⟨_, rfl⟩⟩⟩ := step_located h
      · exact ⟨rfl, [], by simp [RegisterViewController.sent], by simp [settled]⟩
      · refine ⟨rfl, if vc.jwtToken.isSome then [⟨lookup.press, item⟩] else [], ?_,
          by simp [settled]⟩
        cases htoken : vc.jwtToken <;> simp [RegisterViewController.sent, htoken]
      · exact ⟨rfl, [], by simp [RegisterViewController.sent], by simp [settled]⟩
  | answered index response =>
      obtain ⟨registration, rest, htake, rfl⟩ := step_answered h
      obtain ⟨hindex, _⟩ := takeAt_eq_some_iff.mp htake
      refine ⟨rfl, [], by simp [RegisterViewController.sent], ?_⟩
      have hmoved : (rest ++ [registration]).Perm (registration :: rest) :=
        List.perm_append_singleton _ _
      simpa [settled, hindex] using hmoved.trans (takeAt_perm htake).symm

/-! ## Runs -/

structure Accounted (jwtToken : Option String) (es : List (Callback π))
    (vc : RegisterViewController π) : Prop where
  presses : (vc.presses ++ (controller π).collect lost (opened π jwtToken) es).Perm
    (List.range vc.pressed.length)
  registered : (vc.requests ++ (controller π).collect settled (opened π jwtToken) es).Perm
    (if jwtToken.isSome then vc.registered else [])

theorem jwtToken_controller {jwtToken : Option String}
    (h : (controller π).run (opened π jwtToken) es = some vc) : vc.jwtToken = jwtToken := by
  refine Machine.invariant_of_step (P := fun vc => vc.jwtToken = jwtToken) rfl ?_ h
  intro t e u hjwt hstep
  exact (requests_perm_step hstep).1.trans hjwt

/-- In every run, each accepted press is accounted for exactly once, and so is each item that
was registered. -/
theorem presses_accounted {jwtToken : Option String}
    (h : (controller π).run (opened π jwtToken) es = some vc) : Accounted jwtToken es vc := by
  refine ⟨?_, ?_⟩
  · refine Machine.conserved RegisterViewController.presses
      (fun _ vc => List.range vc.pressed.length) lost (List.Perm.refl _)
      (fun _ t e u _ hstep => ?_) h
    obtain ⟨new, hpressed, hpresses⟩ := presses_perm_step hstep
    refine ⟨List.range' t.pressed.length new.length, ?_, hpresses⟩
    have hrange := List.range'_append_1 (s := 0) (m := t.pressed.length) (n := new.length)
    rw [Nat.zero_add, ← List.range_eq_range', ← List.range_eq_range'] at hrange
    rw [hpressed, List.length_append, hrange]
  · have hsent : (if jwtToken.isSome then vc.registered else []) = vc.sent := by
      rw [RegisterViewController.sent, jwtToken_controller h]
    rw [hsent]
    refine Machine.conserved RegisterViewController.requests
      (fun _ vc => RegisterViewController.sent vc) settled ?_
      (fun _ t e u _ hstep => (requests_perm_step hstep).2) h
    cases jwtToken <;> exact List.Perm.refl _

/-- Two presses: one item is registered, the other upload fails. -/
theorem presses_accounted_twice : ∃ vc,
    (controller Nat).run (opened Nat (some "")) (submitted ++
      [.submitButtonPressed, .located 0 true, .uploaded 0 false]) = some vc ∧
    Accounted (some "") (submitted ++
      [.submitButtonPressed, .located 0 true, .uploaded 0 false]) vc :=
  ⟨_, rfl, presses_accounted rfl⟩

end BunjangClone.Register
