import Mathlib.Data.List.InsertIdx
import TkmCollector.Library.Machine

/-!
# Unwinding

Two machines side by side, where the first has something in one of its queues that the second
does not have. While it waits, the two take the same steps; when it is its turn, the first takes
a step that the second leaves out.
-/

namespace Unwinding

variable {α : Type*}

/-- The queue without the entry at the place, if there is a place. -/
def leaveOut (place : Option Nat) (queue : List α) : List α :=
  match place with
  | none => queue
  | some n => queue.eraseIdx n

/-- The place is in the queue. -/
def Within (place : Option Nat) (queue : List α) : Prop := ∀ n ∈ place, n < queue.length

variable {place : Option Nat} {queue : List α}

@[simp] lemma leaveOut_none (queue : List α) : leaveOut none queue = queue := rfl

@[simp] lemma leaveOut_nil (place : Option Nat) : leaveOut place ([] : List α) = [] := by
  cases place <;> rfl

@[simp] lemma within_none (queue : List α) : Within none queue := by
  intro n hn
  simp at hn

lemma within_of_getElem? (h : ∀ n ∈ place, queue[n]? ≠ none) : Within place queue := by
  intro n hn
  by_contra hlt
  exact h n hn (List.getElem?_eq_none (Nat.not_lt.mp hlt))

lemma Within.append (h : Within place queue) (new : List α) : Within place (queue ++ new) := by
  intro n hn
  have hlt := h n hn
  rw [List.length_append]
  omega

lemma leaveOut_append (h : Within place queue) (new : List α) :
    leaveOut place (queue ++ new) = leaveOut place queue ++ new := by
  cases place with
  | none => rfl
  | some n => exact List.eraseIdx_append_of_lt_length (h n rfl) new

lemma leaveOut_between (front : List α) (x : α) (back : List α) :
    leaveOut (some front.length) (front ++ x :: back) = front ++ back := by
  change (front ++ x :: back).eraseIdx front.length = front ++ back
  rw [List.eraseIdx_append_of_length_le (Nat.le_refl _), Nat.sub_self]
  rfl

lemma leaveOut_concat (queue : List α) (x : α) :
    leaveOut (some queue.length) (queue ++ [x]) = queue := by
  rw [leaveOut_between, List.append_nil]

lemma map_leaveOut {β : Type*} (f : α → β) (place : Option Nat) (queue : List α) :
    (leaveOut place queue).map f = leaveOut place (queue.map f) := by
  cases place with
  | none => rfl
  | some n => exact (List.eraseIdx_map f queue n).symm

lemma leaveOut_cons (h : place ≠ some 0) (x : α) (queue : List α) :
    leaveOut place (x :: queue) = x :: leaveOut (place.map (· - 1)) queue := by
  cases place with
  | none => rfl
  | some n =>
    cases n with
    | zero => exact absurd rfl h
    | succ n => rfl

lemma Within.tail {x : α} (h : Within place (x :: queue)) (h0 : place ≠ some 0) :
    Within (place.map (· - 1)) queue := by
  intro n hn
  cases place with
  | none => simp at hn
  | some m =>
    have hlt := h m rfl
    have hpos : m ≠ 0 := fun hm => h0 (by rw [hm])
    have hm : m - 1 = n := by simpa using hn
    rw [List.length_cons] at hlt
    omega

lemma Within.eq_none (h : Within place ([] : List α)) : place = none := by
  cases place with
  | none => rfl
  | some n => exact absurd (h n rfl) (Nat.not_lt_zero n)

/-- An entry of the queue keeps its place when others join behind it. -/
lemma getElem?_joined {n : Nat} {x : α} (h : queue[n]? = some x) (new : List α) :
    (queue ++ new)[n]? = some x := by
  obtain ⟨hlt, -⟩ := List.getElem?_eq_some_iff.mp h
  rw [List.getElem?_append_left hlt, h]

lemma getElem?_served {n : Nat} {x : α} (h : queue[n]? = some x) (h0 : n ≠ 0) (new : List α) :
    (queue.tail ++ new)[n - 1]? = some x := by
  apply getElem?_joined
  rw [List.getElem?_tail, Nat.sub_add_cancel (Nat.one_le_iff_ne_zero.mpr h0), h]

lemma eq_cons_of_getElem?_zero {x : α} (h : queue[0]? = some x) : ∃ rest, queue = x :: rest := by
  rw [← List.head?_eq_getElem?] at h
  exact List.head?_eq_some_iff.mp h

end Unwinding

namespace Machine

variable {σ τ ι ε ε' : Type*} {step : σ → ι → Except ε σ} {step' : τ → ι → Except ε' τ}
  {out : σ → ι → Bool} {G : σ → ι → Prop} {R : σ → τ → Prop}

/-- The inputs of a run that are not left out. -/
def kept (step : σ → ι → Except ε σ) (out : σ → ι → Bool) : σ → List ι → List ι
  | _, [] => []
  | s, i :: is =>
    match step s i with
    | .ok s' => if out s i then kept step out s' is else i :: kept step out s' is
    | .error _ => []

/-- Every allowed step of the first machine is one of the second, or is left out by it. -/
def Unwinds (step : σ → ι → Except ε σ) (step' : τ → ι → Except ε' τ) (out : σ → ι → Bool)
    (G : σ → ι → Prop) (R : σ → τ → Prop) : Prop :=
  ∀ s t i s', R s t → G s i → step s i = .ok s' →
    if out s i then R s' t else ∃ t', step' t i = .ok t' ∧ R s' t'

/-- A run of the first machine is one of the second without the inputs that it leaves out. -/
theorem Unwinds.run (hstep : Unwinds step step' out G R) {s s' : σ} {t : τ} {is : List ι} (h0 : R s t)
    (hg : Guarded step G s is) (h : Machine.run step s is = .ok s') :
    ∃ t', Machine.run step' t (kept step out s is) = .ok t' ∧ R s' t' := by
  induction is generalizing s t with
  | nil =>
    obtain rfl : s = s' := by simpa using h
    exact ⟨t, rfl, h0⟩
  | cons i is ih =>
    obtain ⟨u, hu, hr⟩ := run_cons_ok_iff.mp h
    have hnext := hstep s t i u h0 hg.1 hu
    rw [kept, hu]
    cases hout : out s i with
    | true =>
      rw [hout, if_pos rfl] at hnext
      exact ih hnext (hg.2 u hu) hr
    | false =>
      rw [hout, if_neg (by simp)] at hnext
      obtain ⟨t', ht', hr'⟩ := hnext
      obtain ⟨t'', hrun, hend⟩ := ih hr' (hg.2 u hu) hr
      refine ⟨t'', ?_, hend⟩
      simp only [Bool.false_eq_true, if_false]
      rw [run_cons_ok _ ht']
      exact hrun

end Machine
