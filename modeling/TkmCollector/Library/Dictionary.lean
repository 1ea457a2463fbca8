import Mathlib.Data.List.Nodup
import Mathlib.Logic.Function.Basic
import TkmCollector.Library.SequentialObject

namespace Dictionary

variable {κ ν : Type*}

/-- What a dictionary can be asked for. `put` replaces what is there and `insert` does not. -/
inductive Operation (κ ν : Type*) where
  | insert (k : κ) (v : ν)
  | put (k : κ) (v : ν)
  | remove (k : κ)
  | clear
  | keep
  | list

/-- The key that an operation is about. -/
def Operation.key : Operation κ ν → Option κ
  | .insert k _ | .put k _ | .remove k => some k
  | .clear | .keep | .list => none

/-- The value that an operation brings. -/
def Operation.value : Operation κ ν → Option ν
  | .insert _ v | .put _ v => some v
  | .remove _ | .clear | .keep | .list => none

/-- What a dictionary answers. -/
inductive Response (κ ν : Type*) where
  | accepted
  | refused
  | contents (m : κ → Option ν)

/-- The dictionary over the keys. -/
def object [DecidableEq κ] : SequentialObject (κ → Option ν) (Operation κ ν) (Response κ ν) where
  next m
    | .insert k v => if m k = none then Function.update m k (some v) else m
    | .put k v => Function.update m k (some v)
    | .remove k => Function.update m k none
    | .clear => fun _ => none
    | .keep | .list => m
  respond m
    | .insert k _ => if m k = none then .accepted else .refused
    | .remove k => if m k = none then .refused else .accepted
    | .put _ _ | .clear | .keep => .accepted
    | .list => .contents m

section Records

variable [DecidableEq κ] (key : ν → κ)

/-- The record with a key. -/
def lookup (rows : List ν) (k : κ) : Option ν := rows.find? fun v => key v = k

variable {key} {rows : List ν} {k : κ} {v : ν}

@[simp] lemma lookup_nil : lookup key ([] : List ν) = fun _ => none := rfl

lemma lookup_eq_none : lookup key rows k = none ↔ k ∉ rows.map key := by
  simp [lookup]

lemma lookup_append (hnew : key v ∉ rows.map key) :
    lookup key (rows ++ [v]) = Function.update (lookup key rows) (key v) (some v) := by
  funext k
  unfold lookup
  rw [List.find?_append]
  by_cases hk : k = key v
  · subst hk
    have hnone : rows.find? (fun w => key w = key v) = none := lookup_eq_none.mpr hnew
    simp [hnone]
  · simp [Function.update_of_ne hk, Ne.symm hk]

lemma lookup_filter (gone : ν → Bool) (h : ∀ w ∈ rows, gone w = true ↔ key w = k) :
    lookup key (rows.filter fun w => !gone w) = Function.update (lookup key rows) k none := by
  funext j
  induction rows with
  | nil => simp [lookup, Function.update_apply]
  | cons w rows ih =>
    have hrest := ih fun v hv => h v (List.mem_cons_of_mem w hv)
    have hw := h w List.mem_cons_self
    unfold lookup at hrest ⊢
    by_cases hk : key w = k
    · -- the record goes, and nothing is to be found under its key
      have hskip : ∀ j, j ≠ k → (w :: rows).find? (fun v => key v = j) =
          rows.find? fun v => key v = j := by
        intro j hj
        rw [List.find?_cons_of_neg]
        simp [hk, Ne.symm hj]
      rw [List.filter_cons_of_neg (by simp [hw.mpr hk]), hrest]
      by_cases hj : j = k
      · simp [hj]
      · rw [Function.update_of_ne hj, Function.update_of_ne hj, hskip j hj]
    · have hstays : gone w = false := by
        rw [Bool.eq_false_iff]
        exact fun hgone => hk (hw.mp hgone)
      rw [List.filter_cons_of_pos (by simp [hstays])]
      by_cases hj : key w = j
      · have hne : j ≠ k := fun he => hk (hj.trans he)
        simp [Function.update_of_ne hne, hj]
      · rw [List.find?_cons_of_neg (by simp [hj]), hrest]
        simp [Function.update_apply, hj]

end Records

end Dictionary
