import Mathlib.Data.List.Basic

/-!
# Text with quoted literals

A statement is written as pieces: text of its own, and literals between single quotes.
The lexer reads a text back by the rule for literals: inside a literal two quotes stand
for one, and a single one ends it. The file shows when the lexer finds the literals that
were written.
-/

namespace SqlText

/-- The character that delimits a literal. -/
def quote : Char := '\''

/-- A string that can stand in a literal as it is. -/
def QuoteFree (s : String) : Prop := quote ∉ s.toList

instance (s : String) : Decidable (QuoteFree s) := inferInstanceAs (Decidable (¬ _))

/-- What a text is made of. -/
inductive Piece where
  | code (s : String)
  | lit (s : String)
  deriving DecidableEq

/-- What the lexer finds: a character outside of literals, a literal with its decoded
value, or a literal that does not end. -/
inductive Token where
  | char (c : Char)
  | lit (value : List Char)
  | unterminated
  deriving DecidableEq

def Piece.text : Piece → String
  | .code s => s
  | .lit s => "'" ++ s ++ "'"

def render (pieces : List Piece) : String :=
  String.join (pieces.map Piece.text)

def Piece.tokens : Piece → List Token
  | .code s => s.toList.map .char
  | .lit s => [.lit s.toList]

/-- The tokens that the pieces stand for. -/
def tokens (pieces : List Piece) : List Token :=
  pieces.flatMap Piece.tokens

/-- Where the lexer is: outside of literals, inside of one, or behind a quote in one. -/
inductive Mode where
  | code
  | lit (value : List Char)
  | quoted (value : List Char)

def lexFrom : Mode → List Char → List Token
  | .code, [] => []
  | .code, c :: cs => if c = quote then lexFrom (.lit []) cs else .char c :: lexFrom .code cs
  | .lit _, [] => [.unterminated]
  | .lit value, c :: cs =>
    if c = quote then lexFrom (.quoted value) cs else lexFrom (.lit (value ++ [c])) cs
  | .quoted value, [] => [.lit value]
  | .quoted value, c :: cs =>
    if c = quote then lexFrom (.lit (value ++ [quote])) cs
    else .lit value :: .char c :: lexFrom .code cs

def lex (text : String) : List Token :=
  lexFrom .code text.toList

/-- The next piece is text of its own, and there is some. -/
def StartsCode : List Piece → Prop
  | .code s :: _ => s ≠ ""
  | _ => False

/-- A way to write a statement: the text is free of quotes, and follows every literal. -/
def Template : List Piece → Prop
  | [] => True
  | .code s :: pieces => QuoteFree s ∧ Template pieces
  | .lit _ :: pieces => StartsCode pieces ∧ Template pieces

/-- The literals of the pieces. -/
def literals (pieces : List Piece) : List String :=
  pieces.filterMap fun p => match p with
    | .code _ => none
    | .lit s => some s

@[simp] lemma render_nil : render [] = "" := by
  simp [render]

@[simp] lemma render_cons (p : Piece) (ps : List Piece) : render (p :: ps) = p.text ++ render ps := by
  simp [render]

lemma render_append (ps qs : List Piece) : render (ps ++ qs) = render ps ++ render qs := by
  simp [render]

lemma literals_append (ps qs : List Piece) : literals (ps ++ qs) = literals ps ++ literals qs := by
  simp [literals]

@[simp] lemma literals_code (s : String) (ps : List Piece) : literals (.code s :: ps) = literals ps := rfl

@[simp] lemma literals_lit (s : String) (ps : List Piece) :
    literals (.lit s :: ps) = s :: literals ps := rfl

lemma StartsCode.append {ps : List Piece} (h : StartsCode ps) (qs : List Piece) :
    StartsCode (ps ++ qs) := by
  cases ps with
  | nil => exact h.elim
  | cons p ps =>
    cases p with
    | code s => exact h
    | lit s => exact h.elim

lemma Template.append {ps qs : List Piece} (hp : Template ps) (hq : Template qs) :
    Template (ps ++ qs) := by
  induction ps with
  | nil => exact hq
  | cons p ps ih =>
    cases p with
    | code s => exact ⟨hp.1, ih hp.2⟩
    | lit s => exact ⟨hp.1.append qs, ih hp.2⟩

lemma template_flatMap {α : Type*} {f : α → List Piece} {l : List α}
    (h : ∀ a ∈ l, Template (f a)) : Template (l.flatMap f) := by
  induction l with
  | nil => trivial
  | cons a l ih =>
    rw [List.flatMap_cons]
    exact (h a List.mem_cons_self).append (ih fun b hb => h b (List.mem_cons_of_mem a hb))

lemma quoteFree_append {s t : String} : QuoteFree (s ++ t) ↔ QuoteFree s ∧ QuoteFree t := by
  simp [QuoteFree]

lemma lexFrom_code_append {cs : List Char} (h : quote ∉ cs) (rest : List Char) :
    lexFrom .code (cs ++ rest) = cs.map .char ++ lexFrom .code rest := by
  induction cs with
  | nil => rfl
  | cons c cs ih =>
    simp only [List.mem_cons, not_or] at h
    have hc : c ≠ quote := fun hc => h.1 hc.symm
    rw [List.cons_append, lexFrom, if_neg hc, ih h.2]
    rfl

lemma lexFrom_lit_append {cs : List Char} (h : quote ∉ cs) (value rest : List Char) :
    lexFrom (.lit value) (cs ++ rest) = lexFrom (.lit (value ++ cs)) rest := by
  induction cs generalizing value with
  | nil => simp
  | cons c cs ih =>
    simp only [List.mem_cons, not_or] at h
    have hc : c ≠ quote := fun hc => h.1 hc.symm
    rw [List.cons_append, lexFrom, if_neg hc, ih h.2]
    simp

lemma lexFrom_literal {cs : List Char} (h : quote ∉ cs) {c : Char} (hc : c ≠ quote)
    (rest : List Char) :
    lexFrom .code (quote :: (cs ++ quote :: c :: rest)) = .lit cs :: lexFrom .code (c :: rest) := by
  have hopen : lexFrom .code (quote :: (cs ++ quote :: c :: rest)) =
      lexFrom (.lit cs) (quote :: c :: rest) := by
    rw [lexFrom, if_pos rfl, lexFrom_lit_append h, List.nil_append]
  have hclose : lexFrom (.lit cs) (quote :: c :: rest) = .lit cs :: .char c :: lexFrom .code rest := by
    rw [lexFrom, if_pos rfl, lexFrom, if_neg hc]
  have hnext : lexFrom .code (c :: rest) = .char c :: lexFrom .code rest := by
    rw [lexFrom, if_neg hc]
  rw [hopen, hclose, hnext]

/-- How much text a literal takes up: every character that is no quote once, every quote
in it twice, and the quote that ends it. -/
lemma literal_consumed (raw : List Char) :
    (∀ value s ts, lexFrom (.lit value) raw = .lit s :: ts → ∃ used rest, raw = used ++ rest ∧
      used.countP (· ≠ quote) + value.countP (· ≠ quote) = s.countP (· ≠ quote) ∧
      used.count quote + 2 * value.count quote = 2 * s.count quote + 1) ∧
    (∀ value s ts, lexFrom (.quoted value) raw = .lit s :: ts → ∃ used rest, raw = used ++ rest ∧
      used.countP (· ≠ quote) + value.countP (· ≠ quote) = s.countP (· ≠ quote) ∧
      used.count quote + 2 * value.count quote = 2 * s.count quote) := by
  induction raw with
  | nil =>
    constructor
    · intro value s ts h
      simp [lexFrom] at h
    · intro value s ts h
      simp only [lexFrom, List.cons.injEq, Token.lit.injEq] at h
      obtain ⟨rfl, -⟩ := h
      exact ⟨[], [], rfl, by simp, by simp⟩
  | cons c raw ih =>
    obtain ⟨ihlit, ihquoted⟩ := ih
    constructor
    · intro value s ts h
      rw [lexFrom] at h
      by_cases hc : c = quote
      · rw [if_pos hc] at h
        obtain ⟨used, rest, hraw, hother, hquote⟩ := ihquoted value s ts h
        refine ⟨c :: used, rest, by rw [hraw, List.cons_append], ?_, ?_⟩
        · simpa [hc] using hother
        · rw [hc, List.count_cons_self]
          omega
      · rw [if_neg hc] at h
        obtain ⟨used, rest, hraw, hother, hquote⟩ := ihlit (value ++ [c]) s ts h
        refine ⟨c :: used, rest, by rw [hraw, List.cons_append], ?_, ?_⟩
        · simp only [List.countP_append, List.countP_cons, List.countP_nil, ne_eq, hc,
            not_false_eq_true, decide_true, if_true] at hother ⊢
          omega
        · rw [List.count_append, List.count_singleton] at hquote
          rw [List.count_cons]
          simp only [beq_iff_eq, hc, if_false, Nat.add_zero] at hquote ⊢
          exact hquote
    · intro value s ts h
      rw [lexFrom] at h
      by_cases hc : c = quote
      · rw [if_pos hc] at h
        obtain ⟨used, rest, hraw, hother, hquote⟩ := ihlit (value ++ [quote]) s ts h
        refine ⟨c :: used, rest, by rw [hraw, List.cons_append], ?_, ?_⟩
        · simpa [hc] using hother
        · rw [List.count_append, List.count_singleton_self] at hquote
          rw [hc, List.count_cons_self]
          omega
      · rw [if_neg hc] at h
        simp only [List.cons.injEq, Token.lit.injEq] at h
        obtain ⟨rfl, -⟩ := h
        exact ⟨[], c :: raw, rfl, by simp, by simp⟩

lemma quote_not_mem_of_lexFrom {s : List Char} {c : Char} (hc : c ≠ quote) {rest : List Char}
    {ts : List Token} (h : lexFrom (.lit []) (s ++ quote :: c :: rest) = .lit s :: ts) :
    quote ∉ s := by
  obtain ⟨used, rest', hraw, hother, hquote⟩ := (literal_consumed _).1 [] s ts h
  simp only [List.countP_nil, List.count_nil, Nat.add_zero, Nat.mul_zero] at hother hquote
  have hprefix : used <+: s ++ [quote] ++ (c :: rest) := ⟨rest', by simp [← hraw]⟩
  -- the text used cannot reach the character behind the closing quote
  have hshort : used <+: s ++ [quote] := by
    obtain hle | ⟨used', hused⟩ := List.prefix_or_prefix_of_prefix hprefix
      (List.prefix_append (s ++ [quote]) (c :: rest))
    · exact hle
    · cases used' with
      | nil => exact ⟨[], by simp [← hused]⟩
      | cons d used' =>
        exfalso
        have hd : d = c := by
          obtain ⟨more, hmore⟩ := hprefix
          rw [← hused, List.append_assoc] at hmore
          have := List.append_cancel_left hmore
          simp only [List.cons_append, List.cons.injEq] at this
          exact this.1
        have hpos : 0 < (d :: used').countP (· ≠ quote) := by
          rw [List.countP_pos_iff]
          exact ⟨d, List.mem_cons_self, by simpa [hd] using hc⟩
        rw [← hused, List.countP_append, List.countP_append] at hother
        omega
  have hcount : used.count quote ≤ (s ++ [quote]).count quote := hshort.sublist.count_le quote
  rw [List.count_append, List.count_singleton_self] at hcount
  exact List.count_eq_zero.mp (by omega)

lemma lex_render_lit (s : String) {ps : List Piece} (hs : StartsCode ps) (ht : Template ps) :
    lex (render (.lit s :: ps)) = tokens (.lit s :: ps) ↔
      QuoteFree s ∧ lex (render ps) = tokens ps := by
  cases ps with
  | nil => exact hs.elim
  | cons p ps =>
    cases p with
    | lit t => exact hs.elim
    | code t =>
      obtain ⟨c, cs, hcs⟩ : ∃ c cs, t.toList = c :: cs := by
        cases hl : t.toList with
        | nil => exact absurd (String.toList_eq_nil_iff.mp hl) hs
        | cons c cs => exact ⟨c, cs, rfl⟩
      have hc : c ≠ quote := by
        rintro rfl
        exact ht.1 (by rw [hcs]; exact List.mem_cons_self)
      have htext : (render (.lit s :: .code t :: ps)).toList =
          quote :: (s.toList ++ quote :: c :: (cs ++ (render ps).toList)) := by
        simp [Piece.text, hcs, quote]
      have hrest : (render (.code t :: ps)).toList = c :: (cs ++ (render ps).toList) := by
        simp [Piece.text, hcs]
      have htokens : tokens (.lit s :: .code t :: ps) =
          .lit s.toList :: tokens (.code t :: ps) := rfl
      unfold lex
      rw [htext, hrest, htokens]
      constructor
      · intro h
        have hfree : QuoteFree s := by
          rw [lexFrom, if_pos rfl] at h
          exact quote_not_mem_of_lexFrom hc h
        rw [lexFrom_literal hfree hc] at h
        exact ⟨hfree, (List.cons.inj h).2⟩
      · rintro ⟨hfree, h⟩
        rw [lexFrom_literal hfree hc, h]

/-- The lexer finds the literals that were written exactly when none contains a quote. -/
theorem lex_render_iff {ps : List Piece} (ht : Template ps) :
    lex (render ps) = tokens ps ↔ ∀ s ∈ literals ps, QuoteFree s := by
  induction ps with
  | nil => simp [lex, lexFrom, tokens, literals]
  | cons p ps ih =>
    cases p with
    | code s =>
      have hcode : lex (render (.code s :: ps)) = s.toList.map .char ++ lex (render ps) := by
        unfold lex
        rw [render_cons, String.toList_append]
        exact lexFrom_code_append ht.1 _
      have htokens : tokens (.code s :: ps) = s.toList.map .char ++ tokens ps := rfl
      rw [hcode, htokens, List.append_cancel_left_eq, ih ht.2, literals_code]
    | lit s =>
      rw [lex_render_lit s ht.1 ht.2, ih ht.2, literals_lit, List.forall_mem_cons]

end SqlText
