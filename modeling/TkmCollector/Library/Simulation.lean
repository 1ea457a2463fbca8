import Mathlib.Data.List.Induction
import TkmCollector.Library.Machine

/-!
# Simulations

A machine that, seen through a function on its states, does nothing but what another machine does:
each of its steps is a short run of the other one. Then so are its runs, up to the fault that ends
both. The inputs of the other machine may depend on the states, and are listed by `trace`.
-/

namespace Machine

variable {σ ι ε σ' ι' ε' : Type*}

/-- The inputs of the other machine along a run, those of a step that fails included. -/
def inputs (step : σ → ι → Except ε σ) (trace : σ → ι → List ι') : σ → List ι → List ι'
  | _, [] => []
  | s, i :: is => trace s i ++
    match step s i with
    | .ok s' => inputs step trace s' is
    | .error _ => []

/-- Seen through `view`, each step from the invariant is a run of the other machine. Of the faults,
those that `raised` names are faults of the other machine. -/
structure Simulates (step : σ → ι → Except ε σ) (step' : σ' → ι' → Except ε' σ') (Inv : σ → Prop)
    (view : σ → σ') (trace : σ → ι → List ι') (raised : ε → Option ε') : Prop where
  ok : ∀ s i s', Inv s → step s i = .ok s' → run step' (view s) (trace s i) = .ok (view s')
  error : ∀ s i e, Inv s → step s i = .error e → ∀ e' ∈ raised e,
    run step' (view s) (trace s i) = .error e'

variable {step : σ → ι → Except ε σ} {step' : σ' → ι' → Except ε' σ'} {Inv : σ → Prop}
  {view : σ → σ'} {trace : σ → ι → List ι'} {raised : ε → Option ε'}

lemma run_append_error {s : σ'} {e : ε'} {is : List ι'} (js : List ι')
    (h : run step' s is = .error e) : run step' s (is ++ js) = .error e := by
  induction is generalizing s with
  | nil => cases h
  | cons i is ih =>
    rw [List.cons_append]
    cases hstep : step' s i with
    | error f =>
      rw [run_cons_error _ hstep] at h ⊢
      exact h
    | ok t =>
      rw [run_cons_ok _ hstep] at h ⊢
      exact ih h

/-- A run is simulated by the run on the inputs that belong to it. -/
theorem Simulates.run_ok (h : Simulates step step' Inv view trace raised)
    (hinv : Preserves step (fun _ _ => True) Inv) {s t : σ} {is : List ι} (h0 : Inv s)
    (hrun : run step s is = .ok t) : run step' (view s) (inputs step trace s is) = .ok (view t) := by
  induction is generalizing s with
  | nil =>
    obtain rfl : s = t := by simpa using hrun
    rfl
  | cons i is ih =>
    obtain ⟨u, hu, hrest⟩ := run_cons_ok_iff.mp hrun
    rw [inputs, hu, run_append _ (h.ok s i u h0 hu)]
    exact ih (hinv s i u h0 trivial hu) hrest

/-- The fault that ends a run ends the simulating run too. -/
theorem Simulates.run_error (h : Simulates step step' Inv view trace raised)
    (hinv : Preserves step (fun _ _ => True) Inv) {s : σ} {is : List ι} {e : ε} {e' : ε'} (h0 : Inv s)
    (hrun : run step s is = .error e) (hraised : e' ∈ raised e) :
    run step' (view s) (inputs step trace s is) = .error e' := by
  induction is generalizing s with
  | nil => cases hrun
  | cons i is ih =>
    cases hstep : step s i with
    | error f =>
      rw [run_cons_error is hstep] at hrun
      obtain rfl := Except.error.inj hrun
      rw [inputs, hstep, List.append_nil]
      exact h.error s i f h0 hstep e' hraised
    | ok u =>
      rw [run_cons_ok is hstep] at hrun
      rw [inputs, hstep, run_append _ (h.ok s i u h0 hstep)]
      exact ih (hinv s i u h0 trivial hstep) hrun

/-- What holds at the start, and of a longer run when it holds of the run before, holds of every run
and the state that it ends in. -/
theorem run_induction {Q : List ι → σ → Prop} {s t : σ} {is : List ι} (h0 : Q [] s)
    (hstep : ∀ js u i u', Q js u → step u i = .ok u' → Q (js ++ [i]) u')
    (hrun : run step s is = .ok t) : Q is t := by
  induction is using List.reverseRecOn generalizing t with
  | nil =>
    obtain rfl : s = t := by simpa using hrun
    exact h0
  | append_singleton is i ih =>
    cases hfirst : run step s is with
    | error e =>
      rw [run_append_error [i] hfirst] at hrun
      cases hrun
    | ok u =>
      rw [run_append [i] hfirst] at hrun
      obtain ⟨u', hu, hend⟩ := run_cons_ok_iff.mp hrun
      obtain rfl : u' = t := by simpa using hend
      exact hstep is u i u' (ih hfirst) hu

end Machine
