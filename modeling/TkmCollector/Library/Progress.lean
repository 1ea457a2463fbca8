import Mathlib.Data.Nat.Order.Lemmas
import Mathlib.Order.WellFounded
import TkmCollector.Library.Machine

/-!
# Progress

Runs that never end, and ranks in a well-founded order. Where every allowed step lowers the rank,
no run is endless and each can be brought to rest. Where a rank is lowered again and again and
never raised, what it counts down to happens.
-/

namespace Machine

variable {σ ι ε α : Type*} {step : σ → ι → Except ε σ} {G : σ → ι → Prop} {Inv : σ → Prop}

/-- The states and the inputs of a run that never ends. -/
def Endless (step : σ → ι → Except ε σ) (states : ℕ → σ) (inputs : ℕ → ι) : Prop :=
  ∀ n, step (states n) (inputs n) = .ok (states (n + 1))

/-- No allowed input can be taken. -/
def AtRest (step : σ → ι → Except ε σ) (G : σ → ι → Prop) (s : σ) : Prop :=
  ∀ i s', G s i → step s i ≠ .ok s'

lemma Endless.invariant (hstep : Preserves step G Inv) {states : ℕ → σ} {inputs : ℕ → ι}
    (h : Endless step states inputs) (h0 : Inv (states 0)) (hg : ∀ n, G (states n) (inputs n))
    (n : ℕ) : Inv (states n) := by
  induction n with
  | zero => exact h0
  | succ n ih => exact hstep _ _ _ ih (hg n) (h n)

/-- From a state with the invariant, every allowed step lowers the rank. -/
structure Lowers [Preorder α] (step : σ → ι → Except ε σ) (G : σ → ι → Prop) (Inv : σ → Prop)
    (rank : σ → α) : Prop where
  preserves : Preserves step G Inv
  lowers : ∀ s i s', Inv s → G s i → step s i = .ok s' → rank s' < rank s

section Rank

variable [Preorder α] [WellFoundedLT α] {rank : σ → α}

/-- No run of allowed steps is endless. -/
theorem Lowers.not_endless (hr : Lowers step G Inv rank) {states : ℕ → σ} {inputs : ℕ → ι}
    (h0 : Inv (states 0)) (hg : ∀ n, G (states n) (inputs n)) : ¬ Endless step states inputs := by
  intro h
  -- there is no rank below the least one
  obtain ⟨_, ⟨n, rfl⟩, hleast⟩ := (wellFounded_lt (α := α)).has_min
    (Set.range fun n => rank (states n)) ⟨_, 0, rfl⟩
  exact hleast _ ⟨n + 1, rfl⟩
    (hr.lowers _ _ _ (h.invariant hr.preserves h0 hg n) (hg n) (h n))

/-- Some run of allowed steps comes to rest. -/
theorem Lowers.comes_to_rest (hr : Lowers step G Inv rank) {s : σ} (h0 : Inv s) :
    ∃ is t, Guarded step G s is ∧ run step s is = .ok t ∧ AtRest step G t := by
  induction hrank : rank s using WellFoundedLT.induction generalizing s with
  | ind r ih =>
    by_cases hrest : AtRest step G s
    · exact ⟨[], s, trivial, rfl, hrest⟩
    · unfold AtRest at hrest
      push Not at hrest
      obtain ⟨i, t, hg, hi⟩ := hrest
      have hlower : rank t < r := hrank ▸ hr.lowers s i t h0 hg hi
      obtain ⟨is, u, his, hrun, hu⟩ := ih _ hlower (hr.preserves s i t h0 hg hi) rfl
      refine ⟨i :: is, u, ⟨hg, fun t' ht' => ?_⟩, ?_, hu⟩
      · obtain rfl : t = t' := Except.ok.inj (hi.symm.trans ht')
        exact his
      · rw [run_cons_ok _ hi]
        exact hrun

end Rank

/-- A rank in the natural numbers bounds the number of steps. -/
theorem Lowers.length_le {rank : σ → ℕ} (hr : Lowers step G Inv rank) {s t : σ} {is : List ι}
    (h0 : Inv s) (hg : Guarded step G s is) (h : run step s is = .ok t) :
    is.length + rank t ≤ rank s := by
  induction is generalizing s with
  | nil =>
    obtain rfl : s = t := by simpa using h
    simp
  | cons i is ih =>
    obtain ⟨u, hu, hrun⟩ := run_cons_ok_iff.mp h
    have hlower := hr.lowers s i u h0 hg.1 hu
    have hrest := ih (hr.preserves s i u h0 hg.1 hu) (hg.2 u hu) hrun
    rw [List.length_cons]
    omega

/-- At some moments there is a situation with a rank. The next moment brings the goal about or has a
situation with no higher rank, and after a helpful moment with a lower one. -/
def CountsDown [Preorder α] (Helpful Goal : ℕ → Prop) (P : ℕ → α → Prop) : Prop :=
  ∀ n r, P n r → Goal n ∨ ∃ r' ≤ r, P (n + 1) r' ∧ (Helpful n → r' < r)

section CountsDown

variable [Preorder α] {Helpful Goal : ℕ → Prop} {P : ℕ → α → Prop}

lemma CountsDown.lasts (hc : CountsDown Helpful Goal P) {n : ℕ} {r : α} (hP : P n r) (k : ℕ) :
    (∃ m, n ≤ m ∧ Goal m) ∨ ∃ r' ≤ r, P (n + k) r' := by
  induction k with
  | zero => exact .inr ⟨r, le_rfl, hP⟩
  | succ k ih =>
    obtain hmet | ⟨r', hr', hP'⟩ := ih
    · exact .inl hmet
    · obtain hgoal | ⟨r'', hr'', hP'', -⟩ := hc _ _ hP'
      · exact .inl ⟨n + k, Nat.le_add_right n k, hgoal⟩
      · exact .inr ⟨r'', hr''.trans hr', hP''⟩

/-- The response rule: when helpful moments come again and again, the goal is met. -/
theorem CountsDown.met [WellFoundedLT α] (hc : CountsDown Helpful Goal P)
    (hfair : ∀ n, ∃ m, n ≤ m ∧ Helpful m) {n : ℕ} {r : α} (hP : P n r) : ∃ m, n ≤ m ∧ Goal m := by
  induction r using WellFoundedLT.induction generalizing n with
  | ind r ih =>
    obtain ⟨m, hm, hhelpful⟩ := hfair n
    obtain ⟨k, rfl⟩ := Nat.exists_eq_add_of_le hm
    obtain hmet | ⟨r', hr', hP'⟩ := hc.lasts hP k
    · exact hmet
    · obtain hgoal | ⟨r'', -, hP'', hlower⟩ := hc _ _ hP'
      · exact ⟨n + k, hm, hgoal⟩
      · obtain ⟨m', hm', hgoal⟩ := ih r'' ((hlower hhelpful).trans_le hr') hP''
        exact ⟨m', by omega, hgoal⟩

/-- A count that never falls, and rises at helpful moments up to a bound, passes the bound. -/
theorem passes {count : ℕ → ℕ} {bound n : ℕ} (hkept : ∀ m, n ≤ m → count m ≤ count (m + 1))
    (hrises : ∀ m, n ≤ m → Helpful m → count m ≤ bound → count m < count (m + 1))
    (hfair : ∀ n, ∃ m, n ≤ m ∧ Helpful m) : ∃ m, n ≤ m ∧ bound < count m := by
  by_cases hpast : bound < count n
  · exact ⟨n, le_rfl, hpast⟩
  have hcounts : CountsDown Helpful (fun m => bound < count (m + 1))
      fun m r => n ≤ m ∧ count m + r = bound := by
    rintro m r ⟨hm, hr⟩
    have hnext := hkept m hm
    by_cases hgoal : bound < count (m + 1)
    · exact .inl hgoal
    · refine .inr ⟨bound - count (m + 1), by omega, ⟨by omega, by omega⟩, fun hhelpful => ?_⟩
      have hrise := hrises m hm hhelpful (by omega)
      omega
  obtain ⟨m, hm, hgoal⟩ := hcounts.met hfair (n := n) (r := bound - count n) ⟨le_rfl, by omega⟩
  exact ⟨m + 1, by omega, hgoal⟩

end CountsDown

/-- The inputs of a kind are taken again and again. -/
def Recurring (inputs : ℕ → ι) (Kind : ι → Prop) : Prop := ∀ n, ∃ m, n ≤ m ∧ Kind (inputs m)

/-- From a situation with a rank, a step brings the goal about or leads to a situation with no
higher rank, and one of the helpful kind to a lower one. -/
def Approaches [Preorder α] (step : σ → ι → Except ε σ) (Helpful : ι → Prop)
    (Goal : σ → ι → Prop) (P : σ → α → Prop) : Prop :=
  ∀ s i s' r, P s r → step s i = .ok s' →
    (Goal s i ∧ Helpful i) ∨ ∃ r' ≤ r, P s' r' ∧ (Helpful i → r' < r)

/-- The response rule for the steps of a run that never ends. -/
theorem Approaches.met [Preorder α] [WellFoundedLT α] {Helpful : ι → Prop} {Goal : σ → ι → Prop}
    {P : σ → α → Prop} {states : ℕ → σ} {inputs : ℕ → ι} (ha : Approaches step Helpful Goal P)
    (h : Endless step states inputs) (hfair : Recurring inputs Helpful) {n : ℕ} {r : α}
    (hP : P (states n) r) : ∃ m, n ≤ m ∧ Helpful (inputs m) ∧ Goal (states m) (inputs m) := by
  have hcounts : CountsDown (fun n => Helpful (inputs n))
      (fun n => Helpful (inputs n) ∧ Goal (states n) (inputs n)) fun n => P (states n) := by
    intro m r' hP'
    obtain ⟨hgoal, hhelpful⟩ | hlower := ha _ _ _ _ hP' (h m)
    · exact .inl ⟨hhelpful, hgoal⟩
    · exact .inr hlower
  exact hcounts.met hfair hP

/-- The history of a channel: what was written up to each moment, and what was read of it, which is
always a first part. -/
structure Conveys (written read : ℕ → List α) : Prop where
  writes : ∀ n, written n <+: written (n + 1)
  reads : ∀ n, read n <+: read (n + 1)
  first : ∀ n, read n <+: written n
  fresh : read 0 = []

section Conveys

variable {written read : ℕ → List α} {Helpful : ℕ → Prop} {start n : ℕ} {x : α}

lemma Conveys.written_mono (hc : Conveys written read) {n m : ℕ} (h : n ≤ m) :
    written n <+: written m := by
  induction m, h using Nat.le_induction with
  | base => exact List.prefix_rfl
  | succ m _ ih => exact ih.trans (hc.writes m)

/-- When from some moment on every helpful moment lets the reader read on, what is written is read
at some moment. -/
theorem Conveys.arrives (hc : Conveys written read)
    (hreads : ∀ m, start ≤ m → Helpful m → (read m).length < (written m).length →
      (read m).length < (read (m + 1)).length)
    (hfair : ∀ n, ∃ m, n ≤ m ∧ Helpful m) (hx : x ∈ written n) :
    ∃ m, x ∈ (read (m + 1)).drop (read m).length := by
  obtain ⟨k, hk, rfl⟩ := List.getElem_of_mem hx
  have hrises : ∀ m, max start n ≤ m → Helpful m → (read m).length ≤ k →
      (read m).length < (read (m + 1)).length := by
    intro m hm hhelpful hle
    have hlong := (hc.written_mono ((le_max_right start n).trans hm)).length_le
    exact hreads m ((le_max_left start n).trans hm) hhelpful (by omega)
  have hpassed : ∃ m, k < (read m).length := by
    obtain ⟨m, -, hm⟩ := passes (fun m _ => (hc.reads m).length_le) hrises hfair
    exact ⟨m, hm⟩
  have hnone : ¬ k < (read 0).length := by simp [hc.fresh]
  obtain ⟨m, hbefore, hafter⟩ := Nat.exists_not_and_succ_of_not_zero_of_exists hnone hpassed
  refine ⟨m, ?_⟩
  -- both histories agree with a later one on what stands at the place
  have hlater := (hc.first (m + 1)).trans (hc.written_mono (le_max_right n (m + 1)))
  have hsame : (read (m + 1))[k] = (written n)[k] := by
    rw [hlater.getElem hafter, (hc.written_mono (le_max_left n (m + 1))).getElem hk]
  rw [← hsame, List.mem_drop_iff_getElem]
  exact ⟨k - (read m).length, by omega, by congr 1; omega⟩

end Conveys

/-- The state after the first inputs of a list, and that after all of them from then on. -/
def stateAfter (step : σ → ι → Except ε σ) (s t : σ) : List ι → ℕ → σ
  | [], _ => t
  | _ :: _, 0 => s
  | i :: is, n + 1 =>
    match step s i with
    | .ok s' => stateAfter step s' t is n
    | .error _ => t

/-- The inputs of a list, and those of a sequence from then on. -/
def inputsAfter (rest : ℕ → ι) : List ι → ℕ → ι
  | [], n => rest n
  | i :: _, 0 => i
  | _ :: is, n + 1 => inputsAfter rest is n

instance decidableThroughout {P : σ → Prop} [DecidablePred P] :
    ∀ s is, Decidable (Throughout step P s is)
  | s, [] => inferInstanceAs (Decidable (P s))
  | s, i :: is =>
    match h : step s i with
    | .ok t =>
      have : Decidable (Throughout step P t is) := decidableThroughout t is
      decidable_of_iff (P s ∧ Throughout step P t is)
        (and_congr_right' ⟨fun hr _ hu => Except.ok.inj (h.symm.trans hu) ▸ hr, fun hr => hr t h⟩)
    | .error e =>
      decidable_of_iff (P s)
        ⟨fun hs => ⟨hs, fun _ hu => by simp [h] at hu⟩, fun hs => hs.1⟩

/-- The run ends without a fault, in a state with the property. -/
def EndsIn (step : σ → ι → Except ε σ) (P : σ → Prop) (s : σ) (is : List ι) : Prop :=
  ∃ t, run step s is = .ok t ∧ P t

instance decidableEndsIn {P : σ → Prop} [DecidablePred P] (s : σ) (is : List ι) :
    Decidable (EndsIn step P s is) :=
  match h : run step s is with
  | .ok t => decidable_of_iff (P t)
      ⟨fun ht => ⟨t, h, ht⟩, fun ⟨_, hu, hP⟩ => Except.ok.inj (h.symm.trans hu) ▸ hP⟩
  | .error _ => isFalse fun ⟨_, hu, _⟩ => by simp [h] at hu

lemma stateAfter_of_throughout {P : σ → Prop} {s t : σ} {is : List ι} (h : run step s is = .ok t)
    (hP : Throughout step P s is) (n : ℕ) : P (stateAfter step s t is n) := by
  induction is generalizing s n with
  | nil =>
    obtain rfl : s = t := by simpa using h
    exact hP
  | cons i is ih =>
    obtain ⟨u, hu, hrun⟩ := run_cons_ok_iff.mp h
    cases n with
    | zero => exact hP.1
    | succ n =>
      rw [stateAfter, hu]
      exact ih hrun (hP.2 u hu) n

lemma inputsAfter_length (rest : ℕ → ι) (is : List ι) (n : ℕ) :
    inputsAfter rest is (is.length + n) = rest n := by
  induction is with
  | nil => rw [List.length_nil, Nat.zero_add, inputsAfter]
  | cons i is ih =>
    rw [List.length_cons, Nat.succ_add, inputsAfter]
    exact ih

lemma inputsAfter_of_forall {P : ι → Prop} {rest : ℕ → ι} {is : List ι} (h : ∀ i ∈ is, P i)
    (hrest : ∀ n, P (rest n)) (n : ℕ) : P (inputsAfter rest is n) := by
  induction is generalizing n with
  | nil => exact hrest n
  | cons i is ih =>
    cases n with
    | zero => exact h i List.mem_cons_self
    | succ n => exact ih (fun j hj => h j (List.mem_cons_of_mem i hj)) n

lemma Recurring.after {rest : ℕ → ι} {Kind : ι → Prop} (h : Recurring rest Kind) (is : List ι) :
    Recurring (inputsAfter rest is) Kind := by
  intro n
  obtain ⟨m, hm, hkind⟩ := h n
  exact ⟨is.length + m, by omega, by rwa [inputsAfter_length]⟩

/-- A run that ends where nothing more changes can go on for ever. -/
theorem endless_of_run {s t : σ} {is : List ι} {rest : ℕ → ι} (h : run step s is = .ok t)
    (hrest : ∀ n, step t (rest n) = .ok t) :
    Endless step (stateAfter step s t is) (inputsAfter rest is) := by
  induction is generalizing s with
  | nil => exact hrest
  | cons i is ih =>
    obtain ⟨u, hu, hrun⟩ := run_cons_ok_iff.mp h
    intro n
    cases n with
    | zero =>
      have hnext : stateAfter step u t is 0 = u := by
        cases is with
        | nil => exact (Except.ok.inj hrun).symm
        | cons j js => rfl
      change step s i = .ok _
      rw [hu]
      simp [stateAfter, hu, hnext]
    | succ n =>
      have hn := ih hrun n
      simpa [stateAfter, inputsAfter, hu] using hn

end Machine
