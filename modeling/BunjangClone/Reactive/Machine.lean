import Mathlib.Data.List.Infix
import Mathlib.Data.List.Nodup

/-!
# Callback-driven machines and their runs

A program that only acts inside callbacks is a partial transition function: `step s e`
is the state after callback `e`, and `none` says that `e` cannot come in `s`. A run is
a finite list of callbacks, so a statement about all runs is a statement about all
lists and carries its own history; no ghost state is added to the program.

`Along` speaks about every state a run passes through and `Meets` about every step it
takes, each in the state before the step; `AlongPast` and `MeetsPast` also see the run so
far. The rules below reduce them to one-step obligations. `collect` reads the outputs of a
run off its steps, and `restrict` leaves out the steps an environment does not take.
-/

namespace Reactive

/-- A machine is given by its partial transition function alone. -/
structure Machine (σ : Type*) (ε : Type*) where
  step : σ → ε → Option σ

namespace Machine

variable {σ ε β : Type*} {m : Machine σ ε}
variable {s t u : σ} {e : ε} {es fs : List ε}

/-- Take all the callbacks in order, failing at the first one that cannot come. -/
def run (m : Machine σ ε) : σ → List ε → Option σ
  | s, [] => some s
  | s, e :: es => (m.step s e).bind fun t => m.run t es

@[simp] theorem run_nil (m : Machine σ ε) (s : σ) : m.run s [] = some s := rfl

theorem run_cons_iff :
    m.run s (e :: es) = some t ↔ ∃ u, m.step s e = some u ∧ m.run u es = some t := by
  simp [run, Option.bind_eq_some_iff]

theorem run_of_step (h : m.step s e = some t) : m.run s [e] = some t :=
  run_cons_iff.mpr ⟨t, h, rfl⟩

theorem run_append_iff :
    m.run s (es ++ fs) = some t ↔ ∃ u, m.run s es = some u ∧ m.run u fs = some t := by
  induction es generalizing s with
  | nil => simp
  | cons e es ih =>
      simp only [List.cons_append, run_cons_iff, ih]
      constructor
      · rintro ⟨v, hv, u, hu, ht⟩
        exact ⟨u, ⟨v, hv, hu⟩, ht⟩
      · rintro ⟨u, ⟨v, hv, hu⟩, ht⟩
        exact ⟨v, hv, u, hu, ht⟩

theorem run_concat_iff :
    m.run s (es ++ [e]) = some t ↔ ∃ u, m.run s es = some u ∧ m.step u e = some t := by
  rw [run_append_iff]
  simp [run_cons_iff]

theorem run_append (hs : m.run s es = some u) (hu : m.run u fs = some t) :
    m.run s (es ++ fs) = some t :=
  run_append_iff.mpr ⟨u, hs, hu⟩

theorem run_concat (hs : m.run s es = some u) (hu : m.step u e = some t) :
    m.run s (es ++ [e]) = some t :=
  run_concat_iff.mpr ⟨u, hs, hu⟩

/-- The induction every whole-run fact uses: what holds of the empty run and survives
one more step holds of all runs. The run so far stays available to the invariant. -/
theorem run_induction {P : List ε → σ → Prop} (nil : P [] s)
    (concat : ∀ es t e u, m.run s es = some t → P es t → m.step t e = some u →
      P (es ++ [e]) u) :
    ∀ es t, m.run s es = some t → P es t := by
  intro es
  induction es using List.reverseRecOn with
  | nil =>
      intro t ht
      obtain rfl : s = t := by simpa using ht
      exact nil
  | append_singleton es e ih =>
      intro u hu
      obtain ⟨t, ht, hstep⟩ := run_concat_iff.mp hu
      exact concat es t e u ht (ih t ht) hstep

/-- The plain invariant rule, for assertions about the state alone. -/
theorem invariant_of_step {P : σ → Prop} (initial : P s)
    (preserved : ∀ t e u, P t → m.step t e = some u → P u)
    (h : m.run s es = some t) : P t :=
  run_induction (P := fun _ t => P t) initial
    (fun _ t e u _ hp hstep => preserved t e u hp hstep) es t h

/-- The invariant rule for runs whose callbacks all lie in a given class. -/
theorem invariant_of_mem {P : σ → Prop} {A : ε → Prop} (initial : P s)
    (preserved : ∀ t e u, P t → A e → m.step t e = some u → P u)
    (hes : ∀ e ∈ es, A e) (h : m.run s es = some t) : P t := by
  have key := run_induction (m := m) (s := s) (P := fun es t => (∀ e ∈ es, A e) → P t)
    (fun _ => initial)
    (fun es t e u _ ih hstep hes =>
      preserved t e u (ih fun e he => hes e (by simp [he])) (hes e (by simp)) hstep)
  exact key es t h hes

/-- `P` holds at every state the run passes through, both ends included. -/
def Along (m : Machine σ ε) (P : σ → Prop) (s : σ) (es : List ε) : Prop :=
  ∀ pre t, pre <+: es → m.run s pre = some t → P t

/-- Every step of the run is taken in a state, and with a callback, that meet `C`. -/
def Meets (m : Machine σ ε) (C : σ → ε → Prop) (s : σ) (es : List ε) : Prop :=
  ∀ pre e t, pre ++ [e] <+: es → m.run s pre = some t → C t e

/-- `Along` for what depends on how the state was reached. -/
def AlongPast (m : Machine σ ε) (P : List ε → σ → Prop) (s : σ) (es : List ε) : Prop :=
  ∀ pre t, pre <+: es → m.run s pre = some t → P pre t

/-- `Meets` for conditions on the run before the step. -/
def MeetsPast (m : Machine σ ε) (C : List ε → σ → ε → Prop) (s : σ) (es : List ε) : Prop :=
  ∀ pre e t, pre ++ [e] <+: es → m.run s pre = some t → C pre t e

theorem AlongPast.last {P : List ε → σ → Prop} (h : m.AlongPast P s es)
    (ht : m.run s es = some t) : P es t :=
  h es t List.prefix_rfl ht

theorem alongPast_nil {P : List ε → σ → Prop} : m.AlongPast P s [] ↔ P [] s := by
  constructor
  · intro h
    exact h.last (run_nil m s)
  · intro hs pre t hpre ht
    obtain rfl := List.prefix_nil.mp hpre
    obtain rfl : s = t := by simpa using ht
    exact hs

theorem alongPast_concat {P : List ε → σ → Prop} :
    m.AlongPast P s (es ++ [e]) ↔
      m.AlongPast P s es ∧ ∀ t, m.run s (es ++ [e]) = some t → P (es ++ [e]) t := by
  constructor
  · intro h
    exact ⟨fun pre t hpre ht => h pre t (hpre.trans (List.prefix_append es [e])) ht,
      fun t ht => h.last ht⟩
  · rintro ⟨h, hlast⟩ pre t hpre ht
    rcases List.prefix_concat_iff.mp hpre with rfl | hpre
    · exact hlast t ht
    · exact h pre t hpre ht

theorem meetsPast_nil {C : List ε → σ → ε → Prop} : m.MeetsPast C s [] := by
  intro pre e t hpre
  simp at hpre

theorem meetsPast_concat {C : List ε → σ → ε → Prop} :
    m.MeetsPast C s (es ++ [e]) ↔ m.MeetsPast C s es ∧ ∀ t, m.run s es = some t → C es t e := by
  constructor
  · intro h
    exact ⟨fun pre f t hpre ht => h pre f t (hpre.trans (List.prefix_append es [e])) ht,
      fun t ht => h es e t List.prefix_rfl ht⟩
  · rintro ⟨h, hlast⟩ pre f t hpre ht
    rcases List.prefix_concat_iff.mp hpre with heq | hpre
    · obtain ⟨rfl, hfe⟩ := List.append_inj' heq rfl
      obtain rfl : f = e := by simpa using hfe
      exact hlast t ht
    · exact h pre f t hpre ht

/-- The steps after the first one have it in their past. -/
theorem meetsPast_cons {C : List ε → σ → ε → Prop} :
    m.MeetsPast C s (e :: es) ↔
      C [] s e ∧ ∀ t, m.step s e = some t → m.MeetsPast (fun pre => C (e :: pre)) t es := by
  constructor
  · intro h
    refine ⟨h [] e s (by simp) rfl, fun t ht pre f u hpre hu => ?_⟩
    exact h (e :: pre) f u (by simpa using hpre) (run_cons_iff.mpr ⟨t, ht, hu⟩)
  · rintro ⟨hnow, hlater⟩ pre f u hpre hu
    cases pre with
    | nil =>
        obtain rfl : s = u := by simpa using hu
        obtain rfl : f = e := by simpa using hpre
        exact hnow
    | cons g pre =>
        obtain ⟨rfl, hrest⟩ := List.cons_prefix_cons.mp hpre
        obtain ⟨t, ht, hu⟩ := run_cons_iff.mp hu
        exact hlater t ht pre f u hrest hu

/-- Whether the steps of a concrete run meet a condition can be computed. -/
instance decidableMeetsPast (m : Machine σ ε) :
    ∀ (es : List ε) (C : List ε → σ → ε → Prop) [∀ pre s e, Decidable (C pre s e)] (s : σ),
      Decidable (m.MeetsPast C s es)
  | [], _, _, _ => isTrue meetsPast_nil
  | e :: es, C, _, s =>
      match h : m.step s e with
      | none => decidable_of_iff (C [] s e) (by simp [meetsPast_cons, h])
      | some t =>
          have : Decidable (m.MeetsPast (fun pre => C (e :: pre)) t es) :=
            decidableMeetsPast m es (fun pre => C (e :: pre)) t
          decidable_of_iff (C [] s e ∧ m.MeetsPast (fun pre => C (e :: pre)) t es)
            (by simp [meetsPast_cons, h])

theorem Along.last {P : σ → Prop} (h : m.Along P s es) (ht : m.run s es = some t) : P t :=
  h es t List.prefix_rfl ht

theorem meets_nil {C : σ → ε → Prop} : m.Meets C s [] :=
  meetsPast_nil (C := fun _ => C)

theorem meets_concat {C : σ → ε → Prop} :
    m.Meets C s (es ++ [e]) ↔ m.Meets C s es ∧ ∀ t, m.run s es = some t → C t e :=
  meetsPast_concat (C := fun _ => C)

theorem meets_cons {C : σ → ε → Prop} :
    m.Meets C s (e :: es) ↔ C s e ∧ ∀ t, m.step s e = some t → m.Meets C t es :=
  meetsPast_cons (C := fun _ => C)

theorem meets_append {C : σ → ε → Prop} :
    m.Meets C s (es ++ fs) ↔ m.Meets C s es ∧ ∀ t, m.run s es = some t → m.Meets C t fs := by
  induction es generalizing s with
  | nil => simp [meets_nil]
  | cons e es ih =>
      simp only [List.cons_append, meets_cons, ih, run_cons_iff]
      constructor
      · rintro ⟨hnow, hlater⟩
        refine ⟨⟨hnow, fun t ht => (hlater t ht).1⟩, ?_⟩
        rintro u ⟨t, ht, hu⟩
        exact (hlater t ht).2 u hu
      · rintro ⟨⟨hnow, hlater⟩, hrest⟩
        exact ⟨hnow, fun t ht => ⟨hlater t ht, fun u hu => hrest u ⟨t, ht, hu⟩⟩⟩

instance decidableMeets {C : σ → ε → Prop} [∀ s e, Decidable (C s e)] (m : Machine σ ε) (s : σ)
    (es : List ε) : Decidable (m.Meets C s es) :=
  decidableMeetsPast m es (fun _ => C) s

theorem Meets.initial {C : σ → ε → Prop} (h : m.Meets C s es) (hearlier : fs <+: es) :
    m.Meets C s fs :=
  fun pre e t hpre ht => h pre e t (hpre.trans hearlier) ht

/-- The invariant rule for runs whose steps all meet a condition. -/
theorem invariant_of_meets {P : σ → Prop} {C : σ → ε → Prop} (initial : P s)
    (preserved : ∀ t e u, P t → C t e → m.step t e = some u → P u)
    (hmeets : m.Meets C s es) (h : m.run s es = some t) : P t := by
  have key := run_induction (m := m) (s := s) (P := fun es t => m.Meets C s es → P t)
    (fun _ => initial)
    (fun es t e u ht ih hstep hmeets =>
      preserved t e u (ih (meets_concat.mp hmeets).1) ((meets_concat.mp hmeets).2 t ht) hstep)
  exact key es t h hmeets

/-- A run that ends in `Q`, where nothing follows a state outside of it, never leaves `Q`. -/
theorem meets_of_last {Q : σ → Prop} (final : ∀ t e u, m.step t e = some u → Q t)
    (h : m.run s es = some t) (hlast : Q t) :
    m.Meets (fun t e => ∀ u, m.step t e = some u → Q u) s es := by
  have key := run_induction (m := m) (s := s)
    (P := fun es t => Q t → m.Meets (fun t e => ∀ u, m.step t e = some u → Q u) s es)
    (fun _ => meets_nil) ?_
  · exact key es t h hlast
  · intro es t e u ht ih hstep hlast
    refine meets_concat.mpr ⟨ih (final t e u hstep), fun t' ht' u' hu' => ?_⟩
    obtain rfl : t = t' := Option.some.inj (ht.symm.trans ht')
    obtain rfl : u = u' := Option.some.inj (hstep.symm.trans hu')
    exact hlast

/-- The safety rule: an invariant of the steps that meet a condition holds at every state
of a run that meets it, and with it all that it implies. -/
theorem along_of_meets {J P : σ → Prop} {C : σ → ε → Prop} (initial : J s)
    (preserved : ∀ t e u, J t → C t e → m.step t e = some u → J u) (imp : ∀ t, J t → P t)
    (hmeets : m.Meets C s es) : m.Along P s es := by
  intro pre t hpre ht
  exact imp t (invariant_of_meets initial preserved (hmeets.initial hpre) ht)

/-- Let `J` be an invariant of the runs whose steps meet the assumption `A`. If each
such step keeps `P` exactly when it meets `C`, then `P` holds along such a run exactly
when all of its steps meet `C`. -/
theorem alongPast_iff_meetsPast {J P : List ε → σ → Prop} {A C : List ε → σ → ε → Prop}
    (initialJ : J [] s) (initial : P [] s)
    (keepsJ : ∀ es t e u, m.run s es = some t → J es t → A es t e → m.step t e = some u →
      J (es ++ [e]) u)
    (exact_step : ∀ es t e u, m.run s es = some t → J es t → P es t → A es t e →
      m.step t e = some u → (P (es ++ [e]) u ↔ C es t e))
    (h : m.run s es = some t) (assumed : m.MeetsPast A s es) :
    m.AlongPast P s es ↔ m.MeetsPast C s es := by
  have key := run_induction (m := m) (s := s)
    (P := fun es t => m.MeetsPast A s es → J es t ∧ (m.AlongPast P s es ↔ m.MeetsPast C s es))
    (fun _ => ⟨initialJ, by simp [alongPast_nil, initial, meetsPast_nil]⟩) ?_
  · exact (key es t h assumed).2
  · intro es t e u ht ih hstep assumed
    obtain ⟨before, now⟩ := meetsPast_concat.mp assumed
    obtain ⟨hj, ih⟩ := ih before
    refine ⟨keepsJ es t e u ht hj (now t ht) hstep, ?_⟩
    have hlast : m.run s (es ++ [e]) = some u := run_concat ht hstep
    rw [alongPast_concat, meetsPast_concat, ih]
    refine and_congr_right fun hmeets => ?_
    have hp : P es t := (ih.mpr hmeets).last ht
    simp only [hlast, ht, Option.some.injEq, forall_eq']
    exact exact_step es t e u ht hj hp (now t ht) hstep

theorem along_iff_meets {J P : σ → Prop} {A C : σ → ε → Prop} (initialJ : J s)
    (initial : P s) (keepsJ : ∀ t e u, J t → A t e → m.step t e = some u → J u)
    (exact_step : ∀ t e u, J t → P t → A t e → m.step t e = some u → (P u ↔ C t e))
    (h : m.run s es = some t) (assumed : m.Meets A s es) :
    m.Along P s es ↔ m.Meets C s es :=
  alongPast_iff_meetsPast (J := fun _ => J) (P := fun _ => P) (A := fun _ => A)
    (C := fun _ => C) initialJ initial (fun _ t e u _ => keepsJ t e u)
    (fun _ t e u _ => exact_step t e u) h assumed

/-- Let `J` be an invariant. If each step meets `C` exactly when it meets `D`, so does
each run. -/
theorem meetsPast_iff_meetsPast {J : List ε → σ → Prop} {C D : List ε → σ → ε → Prop}
    (initial : J [] s)
    (preserved : ∀ es t e u, m.run s es = some t → J es t → m.step t e = some u →
      J (es ++ [e]) u)
    (exact_step : ∀ es t e u, J es t → m.step t e = some u → (C es t e ↔ D es t e))
    (h : m.run s es = some t) : m.MeetsPast C s es ↔ m.MeetsPast D s es := by
  have key := run_induction (m := m) (s := s)
    (P := fun es t => J es t ∧ (m.MeetsPast C s es ↔ m.MeetsPast D s es))
    ⟨initial, iff_of_true meetsPast_nil meetsPast_nil⟩ ?_
  · exact (key es t h).2
  · intro es t e u ht ih hstep
    obtain ⟨hj, ih⟩ := ih
    refine ⟨preserved es t e u ht hj hstep, ?_⟩
    rw [meetsPast_concat, meetsPast_concat, ih]
    refine and_congr_right fun _ => ?_
    simp only [ht, Option.some.injEq, forall_eq']
    exact exact_step es t e u hj hstep

/-! ## Environments that do less -/

/-- The machine with the steps left out that do not meet `A`. -/
def restrict (m : Machine σ ε) (A : σ → ε → Prop) [∀ s e, Decidable (A s e)] : Machine σ ε where
  step s e := if A s e then m.step s e else none

variable {A : σ → ε → Prop} [∀ s e, Decidable (A s e)]

theorem restrict_step_iff : (m.restrict A).step s e = some t ↔ A s e ∧ m.step s e = some t :=
  Option.ite_none_right_eq_some

theorem run_of_restrict (h : (m.restrict A).run s es = some t) : m.run s es = some t := by
  refine run_induction (m := m.restrict A) (P := fun es t => m.run s es = some t) rfl ?_ es t h
  intro es t e u _ ih hstep
  exact run_concat ih (restrict_step_iff.mp hstep).2

/-! ## Outputs -/

/-- The outputs of a run, read off each step in the state before it. -/
def collect (m : Machine σ ε) (f : σ → ε → List β) : σ → List ε → List β
  | _, [] => []
  | s, e :: es => f s e ++ (m.step s e).elim [] fun t => m.collect f t es

@[simp] theorem collect_nil (f : σ → ε → List β) (s : σ) : m.collect f s [] = [] := rfl

theorem collect_append (f : σ → ε → List β) (h : m.run s es = some t) :
    m.collect f s (es ++ fs) = m.collect f s es ++ m.collect f t fs := by
  induction es generalizing s with
  | nil =>
      obtain rfl : s = t := by simpa using h
      rfl
  | cons e es ih =>
      obtain ⟨u, hu, ht⟩ := run_cons_iff.mp h
      simp [collect, hu, ih ht]

theorem collect_concat (f : σ → ε → List β) (h : m.run s es = some t) :
    m.collect f s (es ++ [e]) = m.collect f s es ++ f t e := by
  rw [collect_append f h]
  cases hstep : m.step t e <;> simp [collect, hstep]

/-- What was put out, some step of the run put out. -/
theorem mem_collect {f : σ → ε → List β} {b : β} (h : b ∈ m.collect f s es) :
    ∃ before e after t, es = before ++ e :: after ∧ m.run s before = some t ∧ b ∈ f t e := by
  induction es generalizing s with
  | nil => cases h
  | cons e es ih =>
      obtain hnow | hlater := List.mem_append.mp h
      · exact ⟨[], e, es, s, rfl, rfl, hnow⟩
      · cases hstep : m.step s e with
        | none =>
            rw [hstep] at hlater
            cases hlater
        | some u =>
            rw [hstep] at hlater
            obtain ⟨before, f, after, t, rfl, hrun, hmem⟩ := ih hlater
            exact ⟨e :: before, f, after, t, rfl, run_cons_iff.mpr ⟨u, hstep, hrun⟩, hmem⟩

theorem collect_eq_nil {f : σ → ε → List β} {A : ε → Prop} (silent : ∀ s e, A e → f s e = [])
    (hes : ∀ e ∈ es, A e) (s : σ) : m.collect f s es = [] := by
  induction es generalizing s with
  | nil => rfl
  | cons e es ih =>
      rw [collect, silent s e (hes e (by simp))]
      cases m.step s e with
      | none => rfl
      | some t => exact ih (fun e he => hes e (by simp [he])) t

/-- A cell that callbacks overwrite, or leave alone, holds what was written last. -/
theorem last_write_of_meets {C : σ → ε → Prop} (cell : σ → β) (writes : ε → Option β)
    (overwritten : ∀ t e u, C t e → m.step t e = some u → cell u = (writes e).getD (cell t))
    (hmeets : m.Meets C s es) (h : m.run s es = some t) :
    cell t = (es.filterMap writes).getLast?.getD (cell s) := by
  have key := run_induction (m := m) (s := s)
    (P := fun es t => m.Meets C s es → cell t = (es.filterMap writes).getLast?.getD (cell s))
    (fun _ => rfl) ?_
  · exact key es t h hmeets
  · intro es t e u ht ih hstep hmeets
    obtain ⟨before, now⟩ := meets_concat.mp hmeets
    rw [overwritten t e u (now t ht) hstep, ih before, List.filterMap_append]
    cases hwrites : writes e <;> simp [hwrites]

theorem last_write (cell : σ → β) (writes : ε → Option β)
    (overwritten : ∀ t e u, m.step t e = some u → cell u = (writes e).getD (cell t))
    (h : m.run s es = some t) : cell t = (es.filterMap writes).getLast?.getD (cell s) :=
  last_write_of_meets (C := fun _ _ => True) cell writes
    (fun t e u _ hstep => overwritten t e u hstep) (fun _ _ _ _ _ => trivial) h

end Machine
end Reactive
