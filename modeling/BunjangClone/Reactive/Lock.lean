import BunjangClone.Reactive.Machine
import Mathlib.Logic.Function.Iterate

/-!
# Calls under a lock

Threads call code that works on a shared state. A call waits for the lock, makes its steps on the
state, lets the lock go, and may still touch the state before it returns. Between any two steps
of a thread the others make theirs.

If nothing is touched without the lock, every run is serial: the calls took effect one after
another, in the order in which they let the lock go, and each thread's in the order it made
them. While a thread is in the middle of a call, some thread can go on with its own; and if each
call takes a bounded number of steps, the threads come to rest unless they are called again.
-/

namespace Reactive.Lock

variable {ι σ κ Λ ρ : Type*}

/-- The steps of a call are those of its frame, until it has returned. `leave` is what the call
still does without the lock. -/
structure Code (σ κ Λ ρ : Type*) where
  enter : κ → Λ
  step : Λ × σ → Λ × σ
  returned : Λ → Option ρ
  leave : κ → ρ → σ → σ

/-- A call that has let the lock go. -/
structure Done (ι κ ρ : Type*) where
  thread : ι
  call : κ
  result : ρ
deriving DecidableEq

/-! ## One call after another -/

namespace Code

variable {code : Code σ κ Λ ρ} {call : κ} {result result' : ρ} {s t u : σ}

def next (code : Code σ κ Λ ρ) (x : Λ × σ) : Λ × σ :=
  if (code.returned x.1).isSome then x else code.step x

/-- The call, on its own. -/
def Returns (code : Code σ κ Λ ρ) (call : κ) (s : σ) (result : ρ) (t : σ) : Prop :=
  ∃ n frame, code.next^[n] (code.enter call, s) = (frame, t) ∧ code.returned frame = some result

/-- The calls, one after another. -/
inductive Serial (code : Code σ κ Λ ρ) (s : σ) : List (Done ι κ ρ) → σ → Prop where
  | nil : Serial code s [] s
  | concat {history : List (Done ι κ ρ)} {t u : σ} {done : Done ι κ ρ}
      (earlier : Serial code s history t) (now : code.Returns done.call t done.result u) :
      Serial code s (history ++ [done]) u

/-- Each call of the history runs on its own, after those before it. -/
theorem Serial.exists_returns {history : List (Done ι κ ρ)} (h : code.Serial s history t)
    {done : Done ι κ ρ} (hmem : done ∈ history) :
    ∃ earlier u v, earlier <+: history ∧ code.Serial s earlier u ∧
      code.Returns done.call u done.result v := by
  induction h with
  | nil => cases hmem
  | @concat history t u last earlier now ih =>
      obtain hmem | hlast := List.mem_append.mp hmem
      · obtain ⟨initial, v, w, hinitial, hserial, hreturns⟩ := ih hmem
        exact ⟨initial, v, w, hinitial.trans (List.prefix_append history [last]), hserial,
          hreturns⟩
      · obtain rfl := List.mem_singleton.mp hlast
        exact ⟨history, t, u, List.prefix_append history [done], earlier, now⟩

theorem next_of_returned {x : Λ × σ} (h : code.returned x.1 = some result) :
    code.next x = x := by
  rw [next, h]
  rfl

theorem next_of_not_returned {x : Λ × σ} (h : code.returned x.1 = none) :
    code.next x = code.step x := by
  rw [next, h]
  rfl

/-- What has returned stays as it is. -/
theorem iterate_of_returned {x y : Λ × σ} {n : Nat} (h : code.next^[n] x = y)
    (hreturned : code.returned y.1 = some result) (k : Nat) : code.next^[n + k] x = y := by
  induction k with
  | zero => exact h
  | succ k ih =>
      rw [← Nat.add_assoc, Function.iterate_succ_apply', ih, next_of_returned hreturned]

/-- A call on its own has one outcome. -/
theorem Returns.unique (h : code.Returns call s result t) (h' : code.Returns call s result' u) :
    result = result' ∧ t = u := by
  obtain ⟨n, frame, hn, hresult⟩ := h
  obtain ⟨m, frame', hm, hresult'⟩ := h'
  have hnm := iterate_of_returned hn hresult m
  have hmn := iterate_of_returned hm hresult' n
  rw [Nat.add_comm, hmn] at hnm
  obtain ⟨rfl, rfl⟩ := Prod.mk.inj hnm
  rw [hresult] at hresult'
  exact ⟨Option.some.inj hresult', rfl⟩

end Code

/-! ## Threads -/

inductive Phase (κ Λ ρ : Type*) where
  | idle
  | waiting (call : κ)
  | inside (call : κ) (frame : Λ)
  | leaving (call : κ) (result : ρ)
deriving DecidableEq

/-- The call that has not let the lock go yet. -/
def Phase.pending : Phase κ Λ ρ → List κ
  | .waiting call | .inside call _ => [call]
  | .idle | .leaving _ _ => []

structure Threads (ι σ κ Λ ρ : Type*) where
  shared : σ
  owner : Option ι := none
  phase : ι → Phase κ Λ ρ := fun _ => .idle

/-- The thread inside is the one that holds the lock. -/
def Exclusive (state : Threads ι σ κ Λ ρ) : Prop :=
  ∀ i, state.owner = some i ↔ ∃ call frame, state.phase i = .inside call frame

theorem Exclusive.eq {state : Threads ι σ κ Λ ρ} (h : Exclusive state) {i j : ι}
    {call call' : κ} {frame frame' : Λ} (hi : state.phase i = .inside call frame)
    (hj : state.phase j = .inside call' frame') : i = j := by
  have howner := (h i).mpr ⟨call, frame, hi⟩
  rw [(h j).mpr ⟨call', frame', hj⟩] at howner
  exact (Option.some.inj howner).symm

/-- What one thread does while the others stand still. -/
inductive Turn (ι κ : Type*) where
  | call (i : ι) (call : κ)
  | lock (i : ι)
  | step (i : ι)
  | unlock (i : ι)
  | leave (i : ι)
deriving DecidableEq

def Turn.thread : Turn ι κ → ι
  | .call i _ | .lock i | .step i | .unlock i | .leave i => i

def Turn.isCall : Turn ι κ → Bool
  | .call _ _ => true
  | _ => false

variable [DecidableEq ι]

/-- The call that a thread makes. -/
def Turn.calledBy (i : ι) : Turn ι κ → Option κ
  | .call j made => if j = i then some made else none
  | _ => none

namespace Threads

def setPhase (threads : Threads ι σ κ Λ ρ) (i : ι) (phase : Phase κ Λ ρ) : Threads ι σ κ Λ ρ :=
  { threads with phase := Function.update threads.phase i phase }

variable (threads : Threads ι σ κ Λ ρ) (i : ι) (phase : Phase κ Λ ρ)

@[simp] theorem setPhase_shared : (threads.setPhase i phase).shared = threads.shared := rfl

@[simp] theorem setPhase_owner : (threads.setPhase i phase).owner = threads.owner := rfl

@[simp] theorem setPhase_phase :
    (threads.setPhase i phase).phase = Function.update threads.phase i phase := rfl

def turn (code : Code σ κ Λ ρ) (threads : Threads ι σ κ Λ ρ) :
    Turn ι κ → Option (Threads ι σ κ Λ ρ)
  | .call i call =>
      match threads.phase i with
      | .idle => some (threads.setPhase i (.waiting call))
      | _ => none
  | .lock i =>
      match threads.phase i, threads.owner with
      | .waiting call, none =>
          some { threads.setPhase i (.inside call (code.enter call)) with owner := some i }
      | _, _ => none
  | .step i =>
      match threads.phase i with
      | .inside call frame =>
          match code.returned frame with
          | none =>
              let (frame, shared) := code.step (frame, threads.shared)
              some { threads.setPhase i (.inside call frame) with shared := shared }
          | some _ => none
      | _ => none
  | .unlock i =>
      match threads.phase i with
      | .inside call frame => (code.returned frame).map fun result =>
          { threads.setPhase i (.leaving call result) with owner := none }
      | _ => none
  | .leave i =>
      match threads.phase i with
      | .leaving call result => some
          { threads.setPhase i .idle with shared := code.leave call result threads.shared }
      | _ => none

/-- The call that lets the lock go. -/
def released (code : Code σ κ Λ ρ) (threads : Threads ι σ κ Λ ρ) :
    Turn ι κ → List (Done ι κ ρ)
  | .unlock i =>
      match threads.phase i with
      | .inside call frame => ((code.returned frame).map fun result => ⟨i, call, result⟩).toList
      | _ => []
  | _ => []

end Threads

def threads (ι : Type*) [DecidableEq ι] (code : Code σ κ Λ ρ) :
    Machine (Threads ι σ κ Λ ρ) (Turn ι κ) := ⟨Threads.turn code⟩

/-- Without the lock nothing is touched. -/
def Quiet (code : Code σ κ Λ ρ) (threads : Threads ι σ κ Λ ρ) : Turn ι κ → Prop
  | .leave i => ∀ call result, threads.phase i = .leaving call result →
      code.leave call result threads.shared = threads.shared
  | _ => True

variable {code : Code σ κ Λ ρ} {state state' : Threads ι σ κ Λ ρ} {turn : Turn ι κ}
variable {turns : List (Turn ι κ)} {history : List (Done ι κ ρ)} {s : σ}

/-- What the turns do. -/
inductive Turns (code : Code σ κ Λ ρ) (state : Threads ι σ κ Λ ρ) :
    Turn ι κ → Threads ι σ κ Λ ρ → Prop where
  | call {i : ι} {call : κ} (idle : state.phase i = .idle) :
      Turns code state (.call i call) (state.setPhase i (.waiting call))
  | lock {i : ι} {call : κ} (waiting : state.phase i = .waiting call)
      (free : state.owner = none) :
      Turns code state (.lock i)
        { state.setPhase i (.inside call (code.enter call)) with owner := some i }
  | step {i : ι} {call : κ} {frame : Λ} (inside : state.phase i = .inside call frame)
      (returned : code.returned frame = none) :
      Turns code state (.step i)
        { state.setPhase i (.inside call (code.step (frame, state.shared)).1) with
          shared := (code.step (frame, state.shared)).2 }
  | unlock {i : ι} {call : κ} {frame : Λ} {result : ρ}
      (inside : state.phase i = .inside call frame)
      (returned : code.returned frame = some result) :
      Turns code state (.unlock i)
        { state.setPhase i (.leaving call result) with owner := none }
  | leave {i : ι} {call : κ} {result : ρ} (leaving : state.phase i = .leaving call result) :
      Turns code state (.leave i)
        { state.setPhase i .idle with shared := code.leave call result state.shared }

theorem turns_of_step (h : (threads ι code).step state turn = some state') :
    Turns code state turn state' := by
  change state.turn code turn = some state' at h
  cases turn with
  | call i call =>
      rw [Threads.turn] at h
      split at h
      · rename_i hidle
        obtain rfl := Option.some.inj h
        exact .call hidle
      · cases h
  | lock i =>
      rw [Threads.turn] at h
      split at h
      · rename_i hwaiting hfree
        obtain rfl := Option.some.inj h
        exact .lock hwaiting hfree
      · cases h
  | step i =>
      rw [Threads.turn] at h
      split at h
      · rename_i hinside
        split at h
        · rename_i hreturned
          obtain rfl := Option.some.inj h
          exact .step hinside hreturned
        · cases h
      · cases h
  | unlock i =>
      rw [Threads.turn] at h
      split at h
      · rename_i hinside
        obtain ⟨result, hreturned, rfl⟩ := Option.map_eq_some_iff.mp h
        exact .unlock hinside hreturned
      · cases h
  | leave i =>
      rw [Threads.turn] at h
      split at h
      · rename_i hleaving
        obtain rfl := Option.some.inj h
        exact .leave hleaving
      · cases h

/-! ## Who holds the lock -/

theorem exclusive_of_turns (hexclusive : Exclusive state) (h : Turns code state turn state') :
    Exclusive state' := by
  intro j
  cases h with
  | @call i call hidle =>
      have hj := hexclusive j
      by_cases hji : j = i
      · subst hji
        rw [hidle] at hj
        simpa using hj
      · simpa [hji] using hj
  | @lock i call hwaiting hfree =>
      have hj := hexclusive j
      rw [hfree] at hj
      by_cases hji : j = i
      · subst hji
        simp
      · simpa [hji, Ne.symm hji] using hj
  | @step i call frame hinside hreturned =>
      have hj := hexclusive j
      by_cases hji : j = i
      · subst hji
        rw [hinside] at hj
        simpa using hj
      · simpa [hji] using hj
  | @unlock i call frame result hinside hreturned =>
      have hi : state.owner = some i := (hexclusive i).mpr ⟨call, frame, hinside⟩
      have hj := hexclusive j
      rw [hi] at hj
      by_cases hji : j = i
      · subst hji
        simp
      · simpa [hji, Ne.symm hji] using hj
  | @leave i call result hleaving =>
      have hj := hexclusive j
      by_cases hji : j = i
      · subst hji
        rw [hleaving] at hj
        simpa using hj
      · simpa [hji] using hj

/-- Whoever is in the middle of a call, some thread can go on with its own. -/
theorem exists_turn (hexclusive : Exclusive state) {i : ι} (hbusy : state.phase i ≠ .idle) :
    ∃ turn, turn.isCall = false ∧ (state.turn code turn).isSome := by
  cases howner : state.owner with
  | some j =>
      obtain ⟨call, frame, hinside⟩ := (hexclusive j).mp howner
      cases hreturned : code.returned frame with
      | none => exact ⟨.step j, rfl, by simp [Threads.turn, hinside, hreturned]⟩
      | some result => exact ⟨.unlock j, rfl, by simp [Threads.turn, hinside, hreturned]⟩
  | none =>
      cases hphase : state.phase i with
      | idle => exact absurd hphase hbusy
      | waiting call => exact ⟨.lock i, rfl, by simp [Threads.turn, hphase, howner]⟩
      | inside call frame =>
          rw [(hexclusive i).mpr ⟨call, frame, hphase⟩] at howner
          cases howner
      | leaving call result => exact ⟨.leave i, rfl, by simp [Threads.turn, hphase]⟩

/-! ## The serial history -/

/-- The calls that let the lock go, one after another, have led to `t`. The shared state is `t`
while the lock is free, and what the call of its owner has made of `t` else. -/
structure From (code : Code σ κ Λ ρ) (s : σ) (history : List (Done ι κ ρ)) (t : σ)
    (state : Threads ι σ κ Λ ρ) : Prop where
  serial : code.Serial s history t
  free : state.owner = none → state.shared = t
  inside : ∀ i call frame, state.phase i = .inside call frame →
    ∃ n, code.next^[n] (code.enter call, t) = (frame, state.shared)

theorem from_of_turns {t : σ} (hexclusive : Exclusive state) (hfrom : From code s history t state)
    (hquiet : Quiet code state turn) (h : Turns code state turn state') :
    ∃ t, From code s (history ++ state.released code turn) t state' := by
  obtain ⟨hserial, hfree, hinside⟩ := hfrom
  cases h with
  | @call i call hidle =>
      refine ⟨t, by simpa [Threads.released] using hserial, hfree, fun j c frame hj => ?_⟩
      by_cases hji : j = i
      · subst hji
        simp at hj
      · exact hinside j c frame (by simpa [hji] using hj)
  | @lock i call hwaiting hunowned =>
      refine ⟨t, by simpa [Threads.released] using hserial, nofun, fun j c frame hj => ?_⟩
      by_cases hji : j = i
      · subst hji
        obtain ⟨rfl, rfl⟩ : call = c ∧ code.enter call = frame := by
          simpa using hj
        exact ⟨0, by rw [← hfree hunowned]; rfl⟩
      · have hold : state.phase j = .inside c frame := by
          simpa [hji] using hj
        rw [(hexclusive j).mpr ⟨c, frame, hold⟩] at hunowned
        cases hunowned
  | @step i call frame hi hreturned =>
      have howner : state.owner = some i := (hexclusive i).mpr ⟨call, frame, hi⟩
      refine ⟨t, by simpa [Threads.released] using hserial,
        fun hfree => absurd (howner.symm.trans hfree) (by simp), fun j c frame' hj => ?_⟩
      by_cases hji : j = i
      · subst hji
        obtain ⟨rfl, rfl⟩ : call = c ∧ (code.step (frame, state.shared)).1 = frame' := by
          simpa using hj
        obtain ⟨n, hn⟩ := hinside j call frame hi
        refine ⟨n + 1, ?_⟩
        rw [Function.iterate_succ_apply', hn, Code.next_of_not_returned hreturned]
      · have hold : state.phase j = .inside c frame' := by
          simpa [hji] using hj
        exact absurd (hexclusive.eq hold hi) hji
  | @unlock i call frame result hi hreturned =>
      obtain ⟨n, hn⟩ := hinside i call frame hi
      refine ⟨state.shared, ?_, fun _ => rfl, fun j c frame' hj => ?_⟩
      · have hnow : code.Returns call t result state.shared := ⟨n, frame, hn, hreturned⟩
        have hlater : code.Serial s (history ++ [⟨i, call, result⟩]) state.shared :=
          .concat hserial hnow
        simpa [Threads.released, hi, hreturned] using hlater
      · by_cases hji : j = i
        · subst hji
          simp at hj
        · have hold : state.phase j = .inside c frame' := by
            simpa [hji] using hj
          exact absurd (hexclusive.eq hold hi) hji
  | @leave i call result hleaving =>
      have hkept : code.leave call result state.shared = state.shared :=
        hquiet call result hleaving
      refine ⟨t, by simpa [Threads.released] using hserial, fun hnone => ?_,
        fun j c frame hj => ?_⟩
      · show code.leave call result state.shared = t
        rw [hkept]
        exact hfree hnone
      · show ∃ n, _ = (frame, code.leave call result state.shared)
        rw [hkept]
        by_cases hji : j = i
        · subst hji
          simp at hj
        · exact hinside j c frame (by simpa [hji] using hj)

/-- A thread's calls are those that let the lock go, and the one it is at. -/
theorem pending_of_turns (h : Turns code state turn state') (i : ι) :
    ((state.released code turn).filter (·.thread = i)).map Done.call ++ (state'.phase i).pending =
      (state.phase i).pending ++ (turn.calledBy i).toList := by
  cases h with
  | @call j call hidle =>
      by_cases hij : i = j
      · subst hij
        simp [Threads.released, Turn.calledBy, hidle, Phase.pending]
      · simp [Threads.released, Turn.calledBy, hij, Ne.symm hij]
  | @lock j call hwaiting hfree =>
      by_cases hij : i = j
      · subst hij
        simp [Threads.released, Turn.calledBy, hwaiting, Phase.pending]
      · simp [Threads.released, Turn.calledBy, hij]
  | @step j call frame hinside hreturned =>
      by_cases hij : i = j
      · subst hij
        simp [Threads.released, Turn.calledBy, hinside, Phase.pending]
      · simp [Threads.released, Turn.calledBy, hij]
  | @unlock j call frame result hinside hreturned =>
      by_cases hij : i = j
      · subst hij
        simp [Threads.released, Turn.calledBy, hinside, hreturned,
          Phase.pending]
      · simp [Threads.released, Turn.calledBy, hinside, hreturned, hij,
          Ne.symm hij]
  | @leave j call result hleaving =>
      by_cases hij : i = j
      · subst hij
        simp [Threads.released, Turn.calledBy, hleaving, Phase.pending]
      · simp [Threads.released, Turn.calledBy, hij]

/-! ## How long a call takes -/

/-- `μ` counts the steps that a call has left, at most `k` of them, while its frame is `ok`. -/
structure Bounded (code : Code σ κ Λ ρ) (μ : Λ → Nat) (k : Nat) (ok : Λ → Prop) : Prop where
  enter : ∀ call, ok (code.enter call) ∧ μ (code.enter call) ≤ k
  step : ∀ frame shared, ok frame → code.returned frame = none →
    ok (code.step (frame, shared)).1 ∧ μ (code.step (frame, shared)).1 < μ frame

/-- How many turns a thread's call has left. -/
def Phase.left (μ : Λ → Nat) (k : Nat) : Phase κ Λ ρ → Nat
  | .idle => 0
  | .waiting _ => k + 3
  | .inside _ frame => μ frame + 2
  | .leaving _ _ => 1

variable {μ : Λ → Nat} {k : Nat} {ok : Λ → Prop}

theorem ok_of_turns (hbounded : Bounded code μ k ok)
    (hok : ∀ i call frame, state.phase i = .inside call frame → ok frame)
    (h : Turns code state turn state') :
    ∀ i call frame, state'.phase i = .inside call frame → ok frame := by
  intro j c f hj
  cases h with
  | @lock i call hwaiting hfree =>
      by_cases hji : j = i
      · subst hji
        obtain ⟨rfl, rfl⟩ : call = c ∧ code.enter call = f := by simpa using hj
        exact (hbounded.enter call).1
      · exact hok j c f (by simpa [hji] using hj)
  | @step i call frame hinside hreturned =>
      by_cases hji : j = i
      · subst hji
        obtain ⟨rfl, rfl⟩ : call = c ∧ (code.step (frame, state.shared)).1 = f := by
          simpa using hj
        exact (hbounded.step frame state.shared (hok j call frame hinside) hreturned).1
      · exact hok j c f (by simpa [hji] using hj)
  | @call i call | @unlock i call frame result | @leave i call result =>
      by_cases hji : j = i
      · subst hji
        simp at hj
      · exact hok j c f (by simpa [hji] using hj)

/-- A turn is one fewer to come, and a call brings its own. -/
theorem left_of_turns (hbounded : Bounded code μ k ok)
    (hok : ∀ i call frame, state.phase i = .inside call frame → ok frame)
    (h : Turns code state turn state') (i : ι) :
    (state'.phase i).left μ k + ([turn].filter (·.thread = i)).length ≤
      (state.phase i).left μ k + (k + 4) * (turn.calledBy i).toList.length := by
  cases h with
  | @call j call hidle =>
      by_cases hij : i = j
      · subst hij
        simp [Turn.thread, Turn.calledBy, hidle, Phase.left]
      · simp [Turn.thread, Turn.calledBy, hij, Ne.symm hij]
  | @lock j call hwaiting hfree =>
      by_cases hij : i = j
      · subst hij
        have henter := (hbounded.enter call).2
        simpa [Turn.thread, Turn.calledBy, hwaiting, Phase.left] using henter
      · simp [Turn.thread, Turn.calledBy, hij, Ne.symm hij]
  | @step j call frame hinside hreturned =>
      by_cases hij : i = j
      · subst hij
        have hstep :=
          (hbounded.step frame state.shared (hok i call frame hinside) hreturned).2
        simp [Turn.thread, Turn.calledBy, hinside, Phase.left]
        omega
      · simp [Turn.thread, Turn.calledBy, hij, Ne.symm hij]
  | @unlock j call frame result hinside hreturned =>
      by_cases hij : i = j
      · subst hij
        simp [Turn.thread, Turn.calledBy, hinside, Phase.left]
      · simp [Turn.thread, Turn.calledBy, hij, Ne.symm hij]
  | @leave j call result hleaving =>
      by_cases hij : i = j
      · subst hij
        simp [Turn.thread, Turn.calledBy, hleaving, Phase.left]
      · simp [Turn.thread, Turn.calledBy, hij, Ne.symm hij]

/-! ## Runs -/

theorem exclusive_of_run (h : (threads ι code).run { shared := s } turns = some state) :
    Exclusive state := by
  refine Machine.invariant_of_step (P := Exclusive) ?_ ?_ h
  · intro i
    simp
  · intro state turn state' hexclusive hstep
    exact exclusive_of_turns hexclusive (turns_of_step hstep)

/-- The run is serial. -/
theorem serial_of_run (hquiet : (threads ι code).Meets (Quiet code) { shared := s } turns)
    (h : (threads ι code).run { shared := s } turns = some state) :
    ∃ t, From code s ((threads ι code).collect (Threads.released code) { shared := s } turns) t
      state := by
  have key := Machine.run_induction (m := threads ι code) (s := { shared := s })
    (P := fun turns state => (threads ι code).Meets (Quiet code) { shared := s } turns →
      ∃ t, From code s
        ((threads ι code).collect (Threads.released code) { shared := s } turns) t state) ?_ ?_
  · exact key turns state h hquiet
  · intro _
    exact ⟨s, .nil, fun _ => rfl, fun i call frame hinside => by cases hinside⟩
  · intro turns state turn state' hrun ih hstep hquiet
    obtain ⟨before, now⟩ := Machine.meets_concat.mp hquiet
    obtain ⟨t, hfrom⟩ := ih before
    rw [Machine.collect_concat _ hrun]
    exact from_of_turns (exclusive_of_run hrun) hfrom (now state hrun) (turns_of_step hstep)

/-- Each thread's calls let the lock go in the order it made them. -/
theorem ordered_of_run (h : (threads ι code).run { shared := s } turns = some state) (i : ι) :
    turns.filterMap (Turn.calledBy i) =
      (((threads ι code).collect (Threads.released code) { shared := s } turns).filter
        (·.thread = i)).map Done.call ++ (state.phase i).pending := by
  refine Machine.run_induction (m := threads ι code) (s := { shared := s })
    (P := fun turns state => turns.filterMap (Turn.calledBy i) =
      (((threads ι code).collect (Threads.released code) { shared := s } turns).filter
        (·.thread = i)).map Done.call ++ (state.phase i).pending) ?_ ?_ turns state h
  · rfl
  · intro turns state turn state' hrun ih hstep
    have hpending := pending_of_turns (turns_of_step hstep) i
    rw [Machine.collect_concat _ hrun, List.filter_append, List.map_append, List.append_assoc,
      hpending, List.filterMap_append, ih, List.append_assoc]
    cases hcalled : turn.calledBy i <;> simp [hcalled]

/-- A thread has so many turns for each of its calls, and no more. -/
theorem bounded_of_run (hbounded : Bounded code μ k ok)
    (h : (threads ι code).run { shared := s } turns = some state) (i : ι) :
    (turns.filter (·.thread = i)).length ≤
      (k + 4) * (turns.filterMap (Turn.calledBy i)).length := by
  have key := Machine.run_induction (m := threads ι code) (s := { shared := s })
    (P := fun turns state => (∀ i call frame, state.phase i = .inside call frame → ok frame) ∧
      (state.phase i).left μ k + (turns.filter (·.thread = i)).length ≤
        (k + 4) * (turns.filterMap (Turn.calledBy i)).length) ?_ ?_ turns state h
  · omega
  · exact ⟨fun i call frame hinside => (by cases hinside), by simp [Phase.left]⟩
  · intro turns state turn state' hrun ih hstep
    obtain ⟨hok, ih⟩ := ih
    have hturns := turns_of_step hstep
    have hleft := left_of_turns hbounded hok hturns i
    refine ⟨ok_of_turns hbounded hok hturns, ?_⟩
    have hcalled : (turns ++ [turn]).filterMap (Turn.calledBy i) =
        turns.filterMap (Turn.calledBy i) ++ (turn.calledBy i).toList := by
      rw [List.filterMap_append]
      cases hcall : turn.calledBy i <;> simp [hcall]
    rw [hcalled, List.filter_append, List.length_append, List.length_append, Nat.mul_add]
    omega

/-- What let the lock go was called. -/
theorem called_of_released (h : (threads ι code).run { shared := s } turns = some state)
    {done : Done ι κ ρ}
    (hmem : done ∈ (threads ι code).collect (Threads.released code) { shared := s } turns) :
    .call done.thread done.call ∈ turns := by
  have hcalled : done.call ∈ turns.filterMap (Turn.calledBy done.thread) := by
    rw [ordered_of_run h done.thread]
    apply List.mem_append_left
    exact List.mem_map_of_mem (List.mem_filter.mpr ⟨hmem, by simp⟩)
  obtain ⟨turn, hturn, hcall⟩ := List.mem_filterMap.mp hcalled
  cases turn with
  | call i call =>
      obtain ⟨rfl, rfl⟩ : i = done.thread ∧ call = done.call := by
        simpa [Turn.calledBy] using hcall
      exact hturn
  | _ => cases hcall

/-- What is leaving has let the lock go. -/
theorem released_of_leaving (h : (threads ι code).run { shared := s } turns = some state)
    {i : ι} {call : κ} {result : ρ} (hleaving : state.phase i = .leaving call result) :
    ⟨i, call, result⟩ ∈
      (threads ι code).collect (Threads.released code) { shared := s } turns := by
  refine Machine.run_induction (m := threads ι code) (s := { shared := s })
    (P := fun turns state => ∀ i call result, state.phase i = .leaving call result →
      ⟨i, call, result⟩ ∈
        (threads ι code).collect (Threads.released code) { shared := s } turns) ?_ ?_
    turns state h i call result hleaving
  · intro i call result hleaving
    cases hleaving
  · intro turns state turn state' hrun ih hstep j c r hj
    rw [Machine.collect_concat _ hrun, List.mem_append]
    by_cases hold : state.phase j = .leaving c r
    · exact .inl (ih j c r hold)
    · right
      cases turns_of_step hstep with
      | @unlock i call frame result hinside hreturned =>
          by_cases hji : j = i
          · subst hji
            obtain ⟨rfl, rfl⟩ : call = c ∧ result = r := by
              simpa using hj
            simp [Threads.released, hinside, hreturned]
          · exact absurd (by simpa [hji] using hj) hold
      | @call i call | @lock i call | @step i call frame | @leave i call result =>
          by_cases hji : j = i
          · subst hji
            simp at hj
          · exact absurd (by simpa [hji] using hj) hold

end Reactive.Lock
