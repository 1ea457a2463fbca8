import Mathlib.Data.List.Infix

/-!
# LIKE patterns

In a pattern `%` stands for any run of characters, `_` for one character, and a
backslash takes the next character for itself. A pattern that ends in a backslash is an
error and matches nothing. The file shows which patterns match one text only.
-/

namespace LikePattern

/-- One element of a pattern. -/
inductive Wild where
  | any
  | one
  | char (c : Char)
  deriving DecidableEq

/-- A pattern is read from the left; the flag says that a backslash came before. -/
def parse : Bool → List Char → Option (List Wild)
  | false, [] => some []
  | true, [] => none
  | true, c :: cs => (parse false cs).map (.char c :: ·)
  | false, c :: cs =>
    if c = '\\' then parse true cs
    else if c = '%' then (parse false cs).map (.any :: ·)
    else if c = '_' then (parse false cs).map (.one :: ·)
    else (parse false cs).map (.char c :: ·)

def accepts : List Wild → List Char → Bool
  | [], text => text.isEmpty
  | .any :: p, text => text.tails.any (accepts p)
  | .one :: _, [] => false
  | .one :: p, _ :: text => accepts p text
  | .char _ :: _, [] => false
  | .char c :: p, d :: text => c = d && accepts p text

/-- `text LIKE pattern`. -/
def like (pattern text : String) : Bool :=
  match parse false pattern.toList with
  | some p => accepts p text.toList
  | none => false

/-- The characters with a meaning of their own in a pattern. -/
def special : List Char := ['%', '_', '\\']

/-- A string that is a pattern without special characters. -/
def Literal (s : String) : Prop := ∀ c ∈ special, c ∉ s.toList

instance (s : String) : Decidable (Literal s) := List.decidableBAll (fun c => c ∉ s.toList) special

/-- The meaning of a pattern, element by element. -/
inductive Matches : List Wild → List Char → Prop where
  | nil : Matches [] []
  | any (run : List Char) {p : List Wild} {text : List Char} (h : Matches p text) :
      Matches (.any :: p) (run ++ text)
  | one (d : Char) {p : List Wild} {text : List Char} (h : Matches p text) :
      Matches (.one :: p) (d :: text)
  | char (c : Char) {p : List Wild} {text : List Char} (h : Matches p text) :
      Matches (.char c :: p) (c :: text)

theorem accepts_iff_matches (p : List Wild) (text : List Char) :
    accepts p text = true ↔ Matches p text := by
  induction p generalizing text with
  | nil =>
    rw [accepts, List.isEmpty_iff]
    constructor
    · rintro rfl
      exact .nil
    · intro h
      cases h
      rfl
  | cons w p ih =>
    cases w with
    | any =>
      rw [accepts, List.any_eq_true]
      constructor
      · rintro ⟨tail, htail, hacc⟩
        obtain ⟨run, rfl⟩ := (List.mem_tails _ _).mp htail
        exact .any run ((ih tail).mp hacc)
      · intro h
        cases h with
        | any run h => exact ⟨_, (List.mem_tails _ _).mpr (List.suffix_append run _), (ih _).mpr h⟩
    | one =>
      cases text with
      | nil =>
        simp only [accepts, Bool.false_eq_true, false_iff]
        intro h
        cases h
      | cons d text =>
        rw [accepts, ih]
        constructor
        · exact .one d
        · intro h
          cases h with
          | one _ h => exact h
    | char c =>
      cases text with
      | nil =>
        simp only [accepts, Bool.false_eq_true, false_iff]
        intro h
        cases h
      | cons d text =>
        rw [accepts, Bool.and_eq_true, decide_eq_true_eq, ih]
        constructor
        · rintro ⟨rfl, h⟩
          exact .char c h
        · intro h
          cases h with
          | char _ h => exact ⟨rfl, h⟩

lemma parse_literal {cs : List Char} (h : ∀ c ∈ special, c ∉ cs) :
    parse false cs = some (cs.map .char) := by
  induction cs with
  | nil => rfl
  | cons c cs ih =>
    have hcs : ∀ d ∈ special, d ∉ cs := fun d hd hmem => h d hd (List.mem_cons_of_mem c hmem)
    have hc : ∀ d ∈ special, c ≠ d := by
      rintro d hd rfl
      exact h c hd List.mem_cons_self
    rw [parse, if_neg (hc '\\' (by decide)), if_neg (hc '%' (by decide)),
      if_neg (hc '_' (by decide)), ih hcs]
    rfl

lemma accepts_chars (cs text : List Char) : accepts (cs.map .char) text = true ↔ text = cs := by
  induction cs generalizing text with
  | nil => rw [List.map_nil, accepts, List.isEmpty_iff]
  | cons c cs ih =>
    cases text with
    | nil => simp [accepts]
    | cons d text =>
      rw [List.map_cons, accepts, Bool.and_eq_true, decide_eq_true_eq, ih, List.cons.injEq]
      constructor
      · rintro ⟨rfl, rfl⟩
        exact ⟨rfl, rfl⟩
      · rintro ⟨rfl, rfl⟩
        exact ⟨rfl, rfl⟩

/-- A literal pattern matches exactly itself. -/
theorem like_literal {pattern : String} (h : Literal pattern) (text : String) :
    like pattern text = true ↔ text = pattern := by
  unfold like
  rw [parse_literal h]
  simp only [accepts_chars]
  exact String.toList_inj

/-- Every wildcard stands for the same character. -/
def fill (d : Char) (p : List Wild) : List Char :=
  p.map fun w => match w with
    | .any => d
    | .one => d
    | .char c => c

lemma accepts_fill (d : Char) (p : List Wild) : accepts p (fill d p) = true := by
  rw [accepts_iff_matches]
  induction p with
  | nil => exact .nil
  | cons w p ih =>
    cases w with
    | any => exact .any [d] ih
    | one => exact .one d ih
    | char c => exact .char c ih

lemma chars_of_unique {p : List Wild} {cs : List Char}
    (h : ∀ text, accepts p text = true → text = cs) : p = cs.map .char := by
  have ha : fill 'a' p = cs := h _ (accepts_fill 'a' p)
  have hb : fill 'b' p = cs := h _ (accepts_fill 'b' p)
  clear h
  induction p generalizing cs with
  | nil =>
    obtain rfl : [] = cs := ha
    rfl
  | cons w p ih =>
    cases cs with
    | nil => simp [fill] at ha
    | cons c cs =>
      simp only [fill, List.map_cons, List.cons.injEq] at ha hb
      rw [List.map_cons, ← ih ha.2 hb.2]
      cases w with
      | any => exact absurd (ha.1.trans hb.1.symm) (by decide)
      | one => exact absurd (ha.1.trans hb.1.symm) (by decide)
      | char d =>
        obtain rfl : d = c := ha.1
        rfl

lemma length_parse (escaped : Bool) (cs : List Char) (p : List Wild)
    (h : parse escaped cs = some p) : p.length ≤ cs.length := by
  induction cs generalizing escaped p with
  | nil =>
    cases escaped
    · obtain rfl : [] = p := by simpa [parse] using h
      exact Nat.le_refl 0
    · simp [parse] at h
  | cons c cs ih =>
    have hmap : ∀ w, (parse false cs).map (w :: ·) = some p → p.length ≤ (c :: cs).length := by
      intro w hw
      obtain ⟨q, hq, rfl⟩ := Option.map_eq_some_iff.mp hw
      have := ih false q hq
      simp only [List.length_cons]
      omega
    cases escaped with
    | true => exact hmap _ h
    | false =>
      rw [parse] at h
      split at h
      · have := ih true p h
        simp only [List.length_cons]
        omega
      · split at h
        · exact hmap _ h
        · split at h
          · exact hmap _ h
          · exact hmap _ h

lemma literal_of_parse {cs : List Char} (h : parse false cs = some (cs.map .char)) :
    ∀ c ∈ special, c ∉ cs := by
  induction cs with
  | nil => simp
  | cons c cs ih =>
    rw [parse] at h
    split at h
    · -- after a backslash fewer elements are left than characters
      have hlen := length_parse true cs _ h
      simp only [List.length_map, List.length_cons] at hlen
      omega
    · rename_i hb
      split at h
      · obtain ⟨q, -, hq⟩ := Option.map_eq_some_iff.mp h
        simp at hq
      · rename_i hp
        split at h
        · obtain ⟨q, -, hq⟩ := Option.map_eq_some_iff.mp h
          simp at hq
        · rename_i hu
          obtain ⟨q, hq, hcons⟩ := Option.map_eq_some_iff.mp h
          simp only [List.map_cons, List.cons.injEq, true_and] at hcons
          rw [hcons] at hq
          intro d hd hmem
          obtain rfl | hmem := List.mem_cons.mp hmem
          · simp only [special, List.mem_cons, List.not_mem_nil, or_false] at hd
            obtain h1 | h1 | h1 := hd
            · exact hp h1
            · exact hu h1
            · exact hb h1
          · exact ih hq d hd hmem

/-- A pattern means equality exactly when it has no special characters. -/
theorem like_eq_iff_literal (pattern : String) :
    (∀ text, like pattern text = true ↔ text = pattern) ↔ Literal pattern := by
  constructor
  · intro h
    have hself : like pattern pattern = true := (h pattern).mpr rfl
    unfold like at hself
    cases hp : parse false pattern.toList with
    | none => simp [hp] at hself
    | some p =>
      have hchars : p = pattern.toList.map .char := by
        apply chars_of_unique
        intro text htext
        have hlike : like pattern (String.ofList text) = true := by
          unfold like
          rw [hp, String.toList_ofList]
          exact htext
        rw [← (h _).mp hlike, String.toList_ofList]
      rw [hchars] at hp
      exact literal_of_parse hp
  · intro h text
    exact like_literal h text

end LikePattern
