import Mathlib.Logic.Basic

/-!
# Programs that leave their state behind when they fail

A program takes a state to a result or a fault, and to a state in both cases. The rules build
what a program does to the state from what its parts do.
-/

/-- A program with the state `σ`, the faults `ε` and the result `α`. -/
def Faulting (σ ε α : Type) := σ → Except ε α × σ

namespace Faulting

variable {σ ε α β : Type}

def throw (e : ε) : Faulting σ ε α := fun s => (.error e, s)

def get : Faulting σ ε σ := fun s => (.ok s, s)

instance : Monad (Faulting σ ε) where
  pure a := fun s => (.ok a, s)
  bind m f := fun s =>
    match m s with
    | (.ok a, s) => f a s
    | (.error e, s) => (.error e, s)

lemma bind_ok {m : Faulting σ ε α} {f : α → Faulting σ ε β} {s s' : σ} {a : α}
    (h : m s = (.ok a, s')) : (m >>= f) s = f a s' := by
  change (match m s with
    | (.ok a, s) => f a s
    | (.error e, s) => (.error e, s)) = _
  rw [h]

lemma bind_error {m : Faulting σ ε α} {f : α → Faulting σ ε β} {s s' : σ} {e : ε}
    (h : m s = (.error e, s')) : (m >>= f) s = (.error e, s') := by
  change (match m s with
    | (.ok a, s) => f a s
    | (.error e, s) => (.error e, s)) = _
  rw [h]

/-- From the states that satisfy `P` the program has a result; it keeps `P`, and `R` holds between
the two states. -/
def Completes (P : σ → Prop) (R : σ → σ → Prop) (m : Faulting σ ε α) : Prop :=
  ∀ s, P s → ∃ a s', m s = (.ok a, s') ∧ P s' ∧ R s s'

variable {P : σ → Prop} {R : σ → σ → Prop}

lemma completes_pure (hrefl : ∀ s, R s s) (a : α) : Completes P R (pure a : Faulting σ ε α) :=
  fun s hs => ⟨a, s, rfl, hs, hrefl s⟩

lemma completes_get (hrefl : ∀ s, R s s) : Completes P R (get : Faulting σ ε σ) :=
  fun s hs => ⟨s, s, rfl, hs, hrefl s⟩

lemma completes_bind (htrans : ∀ s t u, R s t → R t u → R s u) {m : Faulting σ ε α}
    {f : α → Faulting σ ε β} (hm : Completes P R m) (hf : ∀ a, Completes P R (f a)) :
    Completes P R (m >>= f) := by
  intro s hs
  obtain ⟨a, t, hrun, ht, hst⟩ := hm s hs
  obtain ⟨b, u, hrun', hu, htu⟩ := hf a t ht
  refine ⟨b, u, ?_, hu, htrans s t u hst htu⟩
  rw [bind_ok hrun, hrun']

lemma completes_ite {c : Prop} [Decidable c] {m n : Faulting σ ε α} (hm : Completes P R m)
    (hn : Completes P R n) : Completes P R (if c then m else n) := by
  by_cases hc : c
  · rw [if_pos hc]
    exact hm
  · rw [if_neg hc]
    exact hn

end Faulting
