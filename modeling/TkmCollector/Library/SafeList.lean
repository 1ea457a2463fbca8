import Mathlib.Data.List.Basic

/-- The committed items, and what the next commit adds and removes. -/
structure SafeList (α : Type*) where
  items : List α
  added : List α
  removed : List α

namespace SafeList

variable {α σ ε : Type*}

def empty : SafeList α := ⟨[], [], []⟩

def append (l : SafeList α) (a : α) : SafeList α := { l with added := l.added ++ [a] }

def remove (l : SafeList α) (a : α) : SafeList α := { l with removed := l.removed ++ [a] }

def commit [DecidableEq α] (l : SafeList α) : SafeList α :=
  ⟨l.items.filter (· ∉ l.removed) ++ l.added, [], []⟩

/-- The loop, for a body that takes a state to the next. -/
def foreach (l : SafeList α) (body : σ → α → σ) (s : σ) : σ := l.items.foldl body s

/-- The loop, for a body that may fail. -/
def tryForeach (l : SafeList α) (body : σ → α → Except ε σ) (s : σ) : Except ε σ :=
  l.items.foldlM body s

/-- Nothing waits for a commit. -/
def Clean (l : SafeList α) : Prop := l.added = [] ∧ l.removed = []

lemma clean_empty : Clean (empty : SafeList α) := ⟨rfl, rfl⟩

lemma clean_commit [DecidableEq α] (l : SafeList α) : Clean l.commit := ⟨rfl, rfl⟩

lemma commit_append [DecidableEq α] {l : SafeList α} (h : Clean l) (a : α) :
    (l.append a).commit = ⟨l.items ++ [a], [], []⟩ := by
  simp [append, commit, h.1, h.2]

lemma commit_remove [DecidableEq α] {l : SafeList α} (hadded : l.added = []) {gone : α → Bool}
    (hremoved : ∀ a ∈ l.items, a ∈ l.removed ↔ gone a = true) :
    l.commit.items = l.items.filter fun a => !gone a := by
  rw [commit, hadded, List.append_nil]
  apply List.filter_congr
  intro a ha
  cases hgone : gone a with
  | true => simpa using (hremoved a ha).mpr hgone
  | false =>
    have hnot : a ∉ l.removed := fun hmem => by
      rw [(hremoved a ha).mp hmem] at hgone
      cases hgone
    simpa using hnot

lemma foreach_any (l : SafeList α) (found : α → Bool) :
    l.foreach (fun b a => if found a then true else b) false = l.items.any found := by
  have hfold : ∀ (items : List α) (b : Bool),
      items.foldl (fun b a => if found a then true else b) b = (b || items.any found) := by
    intro items
    induction items with
    | nil => simp
    | cons a items ih =>
      intro b
      rw [List.foldl_cons, ih, List.any_cons]
      cases found a <;> cases b <;> rfl
  rw [foreach, hfold, Bool.false_or]

lemma foreach_last (l : SafeList α) (found : α → Bool) :
    l.foreach (fun last a => if found a then some a else last) none = l.items.reverse.find? found := by
  have hfold : ∀ (items : List α) (last : Option α),
      items.foldl (fun last a => if found a then some a else last) last =
        (items.reverse.find? found).or last := by
    intro items
    induction items with
    | nil => simp
    | cons a items ih =>
      intro last
      rw [List.foldl_cons, ih, List.reverse_cons, List.find?_append]
      cases hfound : found a <;> cases items.reverse.find? found <;> simp [hfound]
  rw [foreach, hfold, Option.or_none]

end SafeList
