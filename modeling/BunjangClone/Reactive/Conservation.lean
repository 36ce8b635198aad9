import BunjangClone.Reactive.Machine
import Mathlib.Data.List.Perm.Basic

/-!
# Nothing gets lost

A machine takes things in, holds them for a while and gives them out again. If each step moves
things without losing or copying any, then after every run what is held and what was given out
are together all that was taken in.
-/

namespace Reactive.Machine

open scoped List

variable {σ ε α : Type*} {m : Machine σ ε} {s t : σ} {es : List ε}

/-- `total` is what was taken in so far, and `out` what a step gives out. -/
theorem conserved (held : σ → List α) (total : List ε → σ → List α) (out : σ → ε → List α)
    (initial : held s ~ total [] s)
    (moved : ∀ es t e u, m.run s es = some t → m.step t e = some u →
      ∃ new, total (es ++ [e]) u ~ total es t ++ new ∧ held u ++ out t e ~ held t ++ new)
    (h : m.run s es = some t) : held t ++ m.collect out s es ~ total es t := by
  refine run_induction (m := m) (s := s)
    (P := fun es t => held t ++ m.collect out s es ~ total es t) ?_ ?_ es t h
  · rw [collect_nil, List.append_nil]
    exact initial
  · intro es t e u ht ih hstep
    obtain ⟨new, htotal, hheld⟩ := moved es t e u ht hstep
    rw [collect_concat out ht]
    calc held u ++ (m.collect out s es ++ out t e)
        ~ held u ++ out t e ++ m.collect out s es := by
          rw [List.append_assoc]
          exact List.perm_append_comm.append_left _
      _ ~ held t ++ new ++ m.collect out s es := hheld.append_right _
      _ ~ held t ++ m.collect out s es ++ new := by
          rw [List.append_assoc, List.append_assoc]
          exact List.perm_append_comm.append_left _
      _ ~ total es t ++ new := ih.append_right _
      _ ~ total (es ++ [e]) u := htotal.symm

/-- What was there, and `taken` in by the steps since. -/
theorem conserved_collect (held : σ → List α) (taken out : σ → ε → List α)
    (moved : ∀ t e u, m.step t e = some u → held u ++ out t e ~ held t ++ taken t e)
    (h : m.run s es = some t) :
    held t ++ m.collect out s es ~ held s ++ m.collect taken s es := by
  refine conserved held (fun es _ => held s ++ m.collect taken s es) out ?_ ?_ h
  · rw [collect_nil, List.append_nil]
  · intro es t e u ht hstep
    refine ⟨taken t e, ?_, moved t e u hstep⟩
    rw [collect_concat taken ht, List.append_assoc]

end Reactive.Machine
