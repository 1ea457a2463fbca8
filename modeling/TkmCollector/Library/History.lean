import Mathlib.Data.List.Basic

namespace History

variable {α : Type*}

/-- Every element is allowed by the elements in front of it. -/
def Justified (P : List α → α → Prop) (l : List α) : Prop :=
  ∀ pre a post, l = pre ++ a :: post → P pre a

/-- Every element is met by the elements behind it. -/
def Answered (Q : α → List α → Prop) (l : List α) : Prop :=
  ∀ pre a post, l = pre ++ a :: post → Q a post

variable {P P' : List α → α → Prop} {Q Q' : α → List α → Prop} {l pre post : List α} {a x : α}

lemma concat_eq_split :
    l ++ [x] = pre ++ a :: post ↔
      l = pre ∧ x = a ∧ post = [] ∨ ∃ rest, post = rest ++ [x] ∧ l = pre ++ a :: rest := by
  constructor
  · intro h
    obtain rfl | ⟨rest, y, rfl⟩ := List.eq_nil_or_concat' post
    · obtain ⟨rfl, ha⟩ := List.append_inj' h rfl
      exact .inl ⟨rfl, by simpa using ha, rfl⟩
    · have h' : l ++ [x] = (pre ++ a :: rest) ++ [y] := by simpa using h
      obtain ⟨rfl, hy⟩ := List.append_inj' h' rfl
      obtain rfl : x = y := by simpa using hy
      exact .inr ⟨rest, rfl, rfl⟩
  · rintro (⟨rfl, rfl, rfl⟩ | ⟨rest, rfl, rfl⟩)
    · rfl
    · simp

lemma justified_nil : Justified P [] := by
  intro pre a post h
  simp at h

lemma justified_concat : Justified P (l ++ [a]) ↔ Justified P l ∧ P l a := by
  constructor
  · intro h
    refine ⟨fun pre x post hl => h pre x (post ++ [a]) ?_, h l a [] rfl⟩
    rw [hl]
    simp
  · rintro ⟨hl, ha⟩ pre x post h
    obtain ⟨rfl, rfl, rfl⟩ | ⟨rest, rfl, rfl⟩ := concat_eq_split.mp h
    · exact ha
    · exact hl pre x rest rfl

lemma justified_cons :
    Justified P (a :: l) ↔ P [] a ∧ Justified (fun pre x => P (a :: pre) x) l := by
  constructor
  · intro h
    refine ⟨h [] a l rfl, fun pre x post hl => h (a :: pre) x post ?_⟩
    rw [hl]
    rfl
  · rintro ⟨ha, hl⟩ pre x post h
    cases pre with
    | nil =>
      obtain ⟨rfl, rfl⟩ := List.cons.inj h
      exact ha
    | cons y pre =>
      obtain ⟨rfl, rfl⟩ := List.cons.inj h
      exact hl pre x post rfl

lemma Justified.mono (h : Justified P l) (hP : ∀ pre, ∀ a ∈ l, P pre a → P' pre a) :
    Justified P' l := by
  intro pre a post hl
  refine hP pre a ?_ (h pre a post hl)
  rw [hl]
  simp

lemma answered_nil : Answered Q [] := by
  intro pre a post h
  simp at h

lemma Answered.concat (h : Answered Q l) (hold : ∀ a post, Q a post → Q' a (post ++ [x]))
    (hnew : Q' x []) : Answered Q' (l ++ [x]) := by
  intro pre a post hl
  obtain ⟨rfl, rfl, rfl⟩ | ⟨rest, rfl, rfl⟩ := concat_eq_split.mp hl
  · exact hnew
  · exact hold a rest (h pre a rest rfl)

end History
