import BunjangClone.Reactive.Machine

/-!
# One machine inside another

A machine made of parts acts, step by step, like each of its parts: one step of the whole is
some callbacks of the part, often none. `Simulates` says so for one step, for the callbacks
that `ρ` reads off it, and `Simulates.run` for a whole run.
-/

namespace Reactive.Machine

variable {σ τ ε δ : Type*} {m : Machine σ ε} {n : Machine τ δ}
variable {s s' u : σ} {t t' : τ} {e : ε} {es : List ε}

/-- Related states stay related if `n` takes the callbacks `ρ` for each step of `m` that
meets `C`. -/
def Simulates (m : Machine σ ε) (n : Machine τ δ) (C : σ → ε → Prop) (ρ : σ → ε → List δ)
    (R : σ → τ → Prop) : Prop :=
  ∀ s e s' t, R s t → C s e → m.step s e = some s' → ∃ t', n.run t (ρ s e) = some t' ∧ R s' t'

theorem Simulates.run {C : σ → ε → Prop} {ρ : σ → ε → List δ} {R : σ → τ → Prop}
    (h : m.Simulates n C ρ R) (initial : R s t) (hmeets : m.Meets C s es)
    (hrun : m.run s es = some s') :
    ∃ t', n.run t (m.collect ρ s es) = some t' ∧ R s' t' := by
  have key := run_induction (m := m) (s := s)
    (P := fun es s' => m.Meets C s es → ∃ t', n.run t (m.collect ρ s es) = some t' ∧ R s' t')
    (fun _ => ⟨t, by simp, initial⟩) ?_
  · exact key es s' hrun hmeets
  · intro es u e u' hu ih hstep hmeets
    obtain ⟨before, now⟩ := meets_concat.mp hmeets
    obtain ⟨v, hv, hrel⟩ := ih before
    obtain ⟨v', hv', hrel'⟩ := h u e u' v hrel (now u hu) hstep
    refine ⟨v', ?_, hrel'⟩
    rw [collect_concat ρ hu]
    exact run_append hv hv'

end Reactive.Machine
