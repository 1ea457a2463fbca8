import Mathlib.Data.List.Basic

/-- The meaning of the operations of a type, one after the other. -/
structure SequentialObject (σ ω ρ : Type*) where
  next : σ → ω → σ
  respond : σ → ω → ρ

namespace SequentialObject

variable {σ ω ρ χ α : Type*} (O : SequentialObject σ ω ρ)

/-- The state after some operations. -/
def after (s : σ) (ops : List ω) : σ := ops.foldl O.next s

@[simp] lemma after_nil (s : σ) : O.after s [] = s := rfl

@[simp] lemma after_append (s : σ) (l₁ l₂ : List ω) :
    O.after s (l₁ ++ l₂) = O.after (O.after s l₁) l₂ := by
  simp [after]

@[simp] lemma after_single (s : σ) (op : ω) : O.after s [op] = O.next s op := rfl

section Log

variable (view : χ → Option ω) (fits : ρ → α → Prop)

/-- The state after the operations of a log. What is logged need not be an operation. -/
def logged (s : σ) (log : List χ) : σ := O.after s (log.filterMap view)

/-- An answer to an entry of the log is that of the object after the entries before it. -/
def Explains (s : σ) (log : List χ) (n : ℕ) (answer : α) : Prop :=
  ∃ x, log[n]? = some x ∧
    ∀ op ∈ view x, fits (O.respond (O.logged view s (log.take n)) op) answer

variable {view fits} {s : σ} {log : List χ} {n : ℕ} {answer : α}

@[simp] lemma logged_nil : O.logged view s [] = s := rfl

lemma logged_concat_none {x : χ} (h : view x = none) :
    O.logged view s (log ++ [x]) = O.logged view s log := by
  simp [logged, h]

lemma logged_concat_some {x : χ} {op : ω} (h : view x = some op) :
    O.logged view s (log ++ [x]) = O.next (O.logged view s log) op := by
  simp [logged, h]

variable {O}

lemma Explains.append (h : O.Explains view fits s log n answer) (later : List χ) :
    O.Explains view fits s (log ++ later) n answer := by
  obtain ⟨x, hx, hop⟩ := h
  have hn : n < log.length := (List.getElem?_eq_some_iff.mp hx).choose
  refine ⟨x, ?_, ?_⟩
  · rw [List.getElem?_append_left hn]
    exact hx
  · rw [List.take_append_of_le_length (Nat.le_of_lt hn)]
    exact hop

/-- The last entry of a log is answered after all the others. -/
lemma explains_last {x : χ}
    (h : ∀ op ∈ view x, fits (O.respond (O.logged view s log) op) answer) :
    O.Explains view fits s (log ++ [x]) log.length answer := by
  refine ⟨x, by simp, ?_⟩
  rw [List.take_left]
  exact h

end Log

end SequentialObject
