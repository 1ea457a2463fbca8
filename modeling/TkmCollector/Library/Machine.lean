import Mathlib.Data.List.Basic

/-!
# Machines with faults

A machine is a step function that takes a state and an input to the next state or to
a fault. A run is a list of inputs; it ends early at the first fault. The file gives
the rules by which a property of single steps becomes a property of whole runs.
-/

namespace Machine

variable {σ ι ε : Type*}

/-- The state after a list of inputs, or the first fault. -/
def run (step : σ → ι → Except ε σ) : σ → List ι → Except ε σ
  | s, [] => .ok s
  | s, i :: is =>
    match step s i with
    | .ok s' => run step s' is
    | .error e => .error e

/-- Every input of the run is taken in a state that allows it. -/
def Guarded (step : σ → ι → Except ε σ) (G : σ → ι → Prop) : σ → List ι → Prop
  | _, [] => True
  | s, i :: is => G s i ∧ ∀ s', step s i = .ok s' → Guarded step G s' is

/-- The property holds in every state of the run, the first one included. -/
def Throughout (step : σ → ι → Except ε σ) (P : σ → Prop) : σ → List ι → Prop
  | s, [] => P s
  | s, i :: is => P s ∧ ∀ s', step s i = .ok s' → Throughout step P s' is

/-- The relation holds between the two ends of every step of the run. -/
def EachStep (step : σ → ι → Except ε σ) (R : σ → ι → σ → Prop) : σ → List ι → Prop
  | _, [] => True
  | s, i :: is => ∀ s', step s i = .ok s' → R s i s' ∧ EachStep step R s' is

/-- A state some run of the machine ends in. -/
def Reachable (step : σ → ι → Except ε σ) (init s : σ) : Prop :=
  ∃ is, run step init is = .ok s

/-- The invariant survives every step that the guard allows. -/
def Preserves (step : σ → ι → Except ε σ) (G : σ → ι → Prop) (Inv : σ → Prop) : Prop :=
  ∀ s i s', Inv s → G s i → step s i = .ok s' → Inv s'

variable {step : σ → ι → Except ε σ} {G : σ → ι → Prop} {Inv P : σ → Prop}

@[simp] lemma run_nil (s : σ) : run step s [] = .ok s := rfl

lemma run_cons_ok {s s' : σ} {i : ι} (is : List ι) (h : step s i = .ok s') :
    run step s (i :: is) = run step s' is := by
  rw [run, h]

lemma run_cons_error {s : σ} {i : ι} {e : ε} (is : List ι) (h : step s i = .error e) :
    run step s (i :: is) = .error e := by
  rw [run, h]

lemma run_cons_ok_iff {s s' : σ} {i : ι} {is : List ι} :
    run step s (i :: is) = .ok s' ↔ ∃ t, step s i = .ok t ∧ run step t is = .ok s' := by
  cases h : step s i with
  | error e => simp [run, h]
  | ok t => simp [run, h]

lemma run_append {s s' : σ} {is : List ι} (js : List ι) (h : run step s is = .ok s') :
    run step s (is ++ js) = run step s' js := by
  induction is generalizing s with
  | nil =>
    obtain rfl : s = s' := by simpa using h
    rfl
  | cons i is ih =>
    obtain ⟨t, ht, hr⟩ := run_cons_ok_iff.mp h
    rw [List.cons_append, run_cons_ok _ ht]
    exact ih hr

lemma Reachable.refl (s : σ) : Reachable step s s := ⟨[], rfl⟩

lemma Reachable.next {init s s' : σ} {i : ι} (hr : Reachable step init s)
    (h : step s i = .ok s') : Reachable step init s' := by
  obtain ⟨is, his⟩ := hr
  refine ⟨is ++ [i], ?_⟩
  rw [run_append _ his, run_cons_ok _ h]
  rfl

lemma guarded_append {s s' : σ} {is js : List ι} (h : run step s is = .ok s') :
    Guarded step G s (is ++ js) ↔ Guarded step G s is ∧ Guarded step G s' js := by
  induction is generalizing s with
  | nil =>
    obtain rfl : s = s' := by simpa using h
    simp [Guarded]
  | cons i is ih =>
    obtain ⟨t, ht, hr⟩ := run_cons_ok_iff.mp h
    simp only [List.cons_append, Guarded]
    constructor
    · rintro ⟨hg, hall⟩
      have hsplit := (ih hr).mp (hall t ht)
      refine ⟨⟨hg, fun u hu => ?_⟩, hsplit.2⟩
      obtain rfl : t = u := by rw [ht] at hu; exact Except.ok.inj hu
      exact hsplit.1
    · rintro ⟨⟨hg, hall⟩, hrest⟩
      refine ⟨hg, fun u hu => ?_⟩
      obtain rfl : t = u := by rw [ht] at hu; exact Except.ok.inj hu
      exact (ih hr).mpr ⟨hall t ht, hrest⟩

lemma guarded_true (s : σ) (is : List ι) : Guarded step (fun _ _ => True) s is := by
  induction is generalizing s with
  | nil => trivial
  | cons i is ih => exact ⟨trivial, fun s' _ => ih s'⟩

instance decidableGuarded [∀ s i, Decidable (G s i)] : ∀ s is, Decidable (Guarded step G s is)
  | _, [] => isTrue trivial
  | s, i :: is =>
    match h : step s i with
    | .ok t =>
      have := decidableGuarded t is
      decidable_of_iff (G s i ∧ Guarded step G t is)
        (and_congr_right' ⟨fun hr _ hu => Except.ok.inj (h.symm.trans hu) ▸ hr, fun hr => hr t h⟩)
    | .error e =>
      decidable_of_iff (G s i)
        ⟨fun hg => ⟨hg, fun _ hu => by simp [h] at hu⟩, fun hg => hg.1⟩

/-- The invariant rule: what every allowed step preserves holds at the end of the run. -/
theorem invariant_run (hstep : Preserves step G Inv) {s s' : σ} {is : List ι} (h0 : Inv s)
    (hg : Guarded step G s is) (h : run step s is = .ok s') : Inv s' := by
  induction is generalizing s with
  | nil =>
    obtain rfl : s = s' := by simpa using h
    exact h0
  | cons i is ih =>
    obtain ⟨t, ht, hr⟩ := run_cons_ok_iff.mp h
    exact ih (hstep s i t h0 hg.1 ht) (hg.2 t ht) hr

/-- The invariant rule for every state on the way. -/
theorem throughout_of_guarded (hstep : Preserves step G Inv) {s : σ} {is : List ι} (h0 : Inv s)
    (hg : Guarded step G s is) : Throughout step Inv s is := by
  induction is generalizing s with
  | nil => exact h0
  | cons i is ih => exact ⟨h0, fun t ht => ih (hstep s i t h0 hg.1 ht) (hg.2 t ht)⟩

/-- The rule for properties of steps: an invariant and the guard give the relation. -/
theorem eachStep_of_guarded {R : σ → ι → σ → Prop} (hstep : Preserves step G Inv)
    (hrel : ∀ s i s', Inv s → G s i → step s i = .ok s' → R s i s') {s : σ} {is : List ι}
    (h0 : Inv s) (hg : Guarded step G s is) : EachStep step R s is := by
  induction is generalizing s with
  | nil => trivial
  | cons i is ih =>
    intro t ht
    exact ⟨hrel s i t h0 hg.1 ht, ih (hstep s i t h0 hg.1 ht) (hg.2 t ht)⟩

/-- The relation holds of the step after a prefix of the run. -/
lemma EachStep.last {R : σ → ι → σ → Prop} {s t t' : σ} {is js : List ι} {i : ι}
    (h : EachStep step R s (is ++ i :: js)) (hrun : run step s is = .ok t) (hstep : step t i = .ok t') :
    R t i t' := by
  induction is generalizing s with
  | nil =>
    obtain rfl : s = t := by simpa using hrun
    exact (h t' hstep).1
  | cons j is ih =>
    obtain ⟨u, hu, hr⟩ := run_cons_ok_iff.mp hrun
    exact ih (h u hu).2 hr

lemma Throughout.mono {Q : σ → Prop} (hPQ : ∀ s, P s → Q s) {s : σ} {is : List ι}
    (h : Throughout step P s is) : Throughout step Q s is := by
  induction is generalizing s with
  | nil => exact hPQ s h
  | cons i is ih => exact ⟨hPQ s h.1, fun t ht => ih (h.2 t ht)⟩

lemma Throughout.head {s : σ} {is : List ι} (h : Throughout step P s is) : P s := by
  cases is with
  | nil => exact h
  | cons i is => exact h.1

/-- The fault cannot occur when no allowed step from the invariant raises it. -/
theorem run_ne_error {e : ε} (hstep : Preserves step G Inv)
    (hne : ∀ s i, Inv s → G s i → step s i ≠ .error e) {s : σ} {is : List ι} (h0 : Inv s)
    (hg : Guarded step G s is) : run step s is ≠ .error e := by
  induction is generalizing s with
  | nil => simp
  | cons i is ih =>
    cases h : step s i with
    | error f =>
      rw [run_cons_error is h]
      intro hf
      exact hne s i h0 hg.1 (by rw [h]; exact congrArg _ (Except.error.inj hf))
    | ok t =>
      rw [run_cons_ok is h]
      exact ih (hstep s i t h0 hg.1 h) (hg.2 t h)

/-- A guard is exact for a property when every step outside the guard breaks the
property. Then the guard holds along every run on which the property holds. -/
theorem guarded_of_throughout (hstep : Preserves step G Inv)
    (hexact : ∀ s i, Inv s → ¬ G s i → ∃ s', step s i = .ok s' ∧ ¬ P s') {s : σ} {is : List ι}
    (h0 : Inv s) (h : Throughout step P s is) : Guarded step G s is := by
  induction is generalizing s with
  | nil => trivial
  | cons i is ih =>
    have hg : G s i := by
      by_contra hn
      obtain ⟨t, ht, hP⟩ := hexact s i h0 hn
      exact hP (h.2 t ht).head
    exact ⟨hg, fun t ht => ih (hstep s i t h0 hg ht) (h.2 t ht)⟩

/-- Along the runs that an assumption allows, a guard that holds exactly where the relation does
holds exactly when the relation does. -/
theorem eachStep_iff_guarded_of {A : σ → ι → Prop} {R : σ → ι → σ → Prop}
    (hstep : Preserves step A Inv)
    (hexact : ∀ s i, Inv s → A s i → ((∀ s', step s i = .ok s' → R s i s') ↔ G s i)) {s : σ}
    {is : List ι} (h0 : Inv s) (hA : Guarded step A s is) :
    EachStep step R s is ↔ Guarded step G s is := by
  induction is generalizing s with
  | nil => exact Iff.rfl
  | cons i is ih =>
    have hnext : ∀ t, step s i = .ok t → (EachStep step R t is ↔ Guarded step G t is) :=
      fun t ht => ih (hstep s i t h0 hA.1 ht) (hA.2 t ht)
    constructor
    · intro h
      refine ⟨(hexact s i h0 hA.1).mp fun t ht => (h t ht).1, fun t ht => ?_⟩
      exact (hnext t ht).mp (h t ht).2
    · rintro ⟨hg, hrest⟩ t ht
      exact ⟨(hexact s i h0 hA.1).mpr hg t ht, (hnext t ht).mpr (hrest t ht)⟩

/-- A guard that holds exactly where the relation does, holds along exactly the runs along which
the relation does. -/
theorem eachStep_iff_guarded {R : σ → ι → σ → Prop} (hstep : Preserves step (fun _ _ => True) Inv)
    (hexact : ∀ s i, Inv s → ((∀ s', step s i = .ok s' → R s i s') ↔ G s i)) {s : σ} {is : List ι}
    (h0 : Inv s) : EachStep step R s is ↔ Guarded step G s is :=
  eachStep_iff_guarded_of hstep (fun s i hs _ => hexact s i hs) h0 (guarded_true s is)

/-- Two guards that agree wherever the invariant holds allow the same runs. -/
theorem guarded_congr {G' : σ → ι → Prop} (hstep : Preserves step G' Inv)
    (hiff : ∀ s i, Inv s → (G s i ↔ G' s i)) {s : σ} {is : List ι} (h0 : Inv s) :
    Guarded step G s is ↔ Guarded step G' s is := by
  induction is generalizing s with
  | nil => exact Iff.rfl
  | cons i is ih =>
    constructor
    · intro h
      have hg : G' s i := (hiff s i h0).mp h.1
      exact ⟨hg, fun t ht => (ih (hstep s i t h0 hg ht)).mp (h.2 t ht)⟩
    · intro h
      exact ⟨(hiff s i h0).mpr h.1, fun t ht => (ih (hstep s i t h0 h.1 ht)).mpr (h.2 t ht)⟩

end Machine
