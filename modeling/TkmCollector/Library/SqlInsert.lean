import Mathlib.Data.List.TakeWhile
import TkmCollector.Library.SqlText

namespace SqlText

structure InsertHead where
  table : String
  columns : List String
  literals : List String
  deriving DecidableEq

/-- The tokens behind a fixed text. -/
def skip : List Char → List Token → Option (List Token)
  | [], ts => some ts
  | k :: ks, .char c :: ts => if c = k then skip ks ts else none
  | _ :: _, _ => none

/-- The characters in front of a delimiter, and the tokens behind it. -/
def upTo (stop : Char) : List Token → List Char × List Token
  | .char c :: ts => if c = stop then ([], ts) else (c :: (upTo stop ts).1, (upTo stop ts).2)
  | ts => ([], ts)

def leadingLiterals : List Token → List String
  | .lit v :: .char c :: .char d :: ts =>
    if c = ',' ∧ d = ' ' then String.ofList v :: leadingLiterals ts else [String.ofList v]
  | .lit v :: _ => [String.ofList v]
  | _ => []

def insertHead (ts : List Token) : Option InsertHead :=
  match skip "INSERT INTO ".toList ts with
  | none => none
  | some ts =>
    match skip "(".toList (upTo ' ' ts).2 with
    | none => none
    | some rest =>
      match skip " VALUES (".toList (upTo ')' rest).2 with
      | none => none
      | some values => some {
          table := String.ofList (upTo ' ' ts).1
          columns := ((upTo ')' rest).1.splitOn ',').map String.ofList
          literals := leadingLiterals values }

/-- The text in front of the values. -/
def insertCode (table : String) (columns : List String) : List Char :=
  "INSERT INTO ".toList ++ table.toList ++ " (".toList ++
    [','].intercalate (columns.map String.toList) ++ ") VALUES (".toList

/-- Values between quotes, each with a comma behind it. -/
def listedText (ls : List String) : List Char :=
  ls.flatMap fun l => quote :: (l.toList ++ [quote, ',', ' '])

lemma skip_chars (ks : List Char) (ts : List Token) : skip ks (ks.map .char ++ ts) = some ts := by
  induction ks with
  | nil => rfl
  | cons k ks ih =>
    rw [List.map_cons, List.cons_append, skip, if_pos rfl, ih]

lemma upTo_chars {stop : Char} {cs : List Char} (h : stop ∉ cs) (ts : List Token) :
    upTo stop (cs.map .char ++ .char stop :: ts) = (cs, ts) := by
  induction cs with
  | nil => rw [List.map_nil, List.nil_append, upTo, if_pos rfl]
  | cons c cs ih =>
    have hc : c ≠ stop := fun hc => h (hc ▸ List.mem_cons_self)
    rw [List.map_cons, List.cons_append, upTo, if_neg hc,
      ih fun hmem => h (List.mem_cons_of_mem c hmem)]

/-- What the names in an `INSERT` must be free of to be read back. -/
structure Names (table : String) (columns : List String) : Prop where
  table_plain : ' ' ∉ table.toList
  columns_ne : columns ≠ []
  columns_comma : ∀ c ∈ columns, ',' ∉ c.toList
  columns_plain : ')' ∉ [','].intercalate (columns.map String.toList)

lemma insertHead_text {table : String} {columns : List String} (h : Names table columns)
    (ts : List Token) :
    insertHead ((insertCode table columns).map .char ++ ts) =
      some ⟨table, columns, leadingLiterals ts⟩ := by
  have htext : (insertCode table columns).map Token.char ++ ts =
      "INSERT INTO ".toList.map .char ++ (table.toList.map .char ++ .char ' ' ::
        ("(".toList.map .char ++ (([','].intercalate (columns.map String.toList)).map .char ++
          .char ')' :: (" VALUES (".toList.map .char ++ ts)))) := by
    have hopen : " (".toList = ' ' :: "(".toList := by decide
    have hclose : ") VALUES (".toList = ')' :: " VALUES (".toList := by decide
    unfold insertCode
    rw [hopen, hclose]
    generalize "INSERT INTO ".toList = start, "(".toList = paren, " VALUES (".toList = values
    simp only [List.map_append, List.map_cons, List.append_assoc, List.cons_append]
  have hcolumns : ([','].intercalate (columns.map String.toList)).splitOn ',' =
      columns.map String.toList := by
    apply List.splitOn_intercalate
    · intro l hl
      rw [List.mem_map] at hl
      obtain ⟨c, hc, rfl⟩ := hl
      exact h.columns_comma c hc
    · simpa using h.columns_ne
  have hnames : (columns.map String.toList).map String.ofList = columns := by
    rw [List.map_map]
    exact List.map_id'' (fun c => String.ofList_toList) columns
  rw [htext, insertHead, skip_chars]
  simp only [upTo_chars h.table_plain, skip_chars, upTo_chars h.columns_plain, hcolumns, hnames,
    String.ofList_toList]

lemma leadingLiterals_lit (v : List Char) (ts : List Token) :
    leadingLiterals (.lit v :: .char ',' :: .char ' ' :: ts) =
      String.ofList v :: leadingLiterals ts := by
  rw [leadingLiterals, if_pos ⟨rfl, rfl⟩]

lemma lit_mem_of_leading {l : String} {ts : List Token} (h : l ∈ leadingLiterals ts) :
    .lit l.toList ∈ ts := by
  induction ts using leadingLiterals.induct with
  | case1 v c d ts hcomma ih =>
    rw [leadingLiterals, if_pos hcomma, List.mem_cons] at h
    rcases h with rfl | h
    · simp
    · simp [ih h]
  | case2 v c d ts hcomma =>
    rw [leadingLiterals, if_neg hcomma, List.mem_singleton] at h
    simp [h]
  | case3 v ts hshort =>
    rw [leadingLiterals, List.mem_singleton] at h
    · simp [h]
    · exact hshort
  | case4 ts h1 h2 =>
    rw [leadingLiterals] at h
    · exact absurd h List.not_mem_nil
    · exact h1
    · exact h2

lemma lit_of_leading {l : String} {ls : List String} {ts : List Token}
    (h : l :: ls <+: leadingLiterals ts) : ∃ rest, ts = .lit l.toList :: rest := by
  obtain ⟨more, hmore⟩ := h
  cases ts with
  | nil => simp [leadingLiterals] at hmore
  | cons t ts =>
    cases t with
    | char c => simp [leadingLiterals] at hmore
    | unterminated => simp [leadingLiterals] at hmore
    | lit v =>
      have hhead : (leadingLiterals (.lit v :: ts)).head? = some (String.ofList v) := by
        unfold leadingLiterals
        split <;> simp_all
        split <;> simp
      rw [← hmore] at hhead
      simp only [List.cons_append, List.head?_cons, Option.some.injEq] at hhead
      exact ⟨ts, by rw [hhead, String.toList_ofList]⟩

lemma listed_cons (l : String) (ls : List String) (tail : List Char) :
    listedText (l :: ls) ++ tail =
      quote :: (l.toList ++ quote :: ',' :: ' ' :: (listedText ls ++ tail)) := by
  simp [listedText]

lemma lexFrom_listed {l : String} (h : QuoteFree l) (ls : List String) (tail : List Char) :
    lexFrom .code (listedText (l :: ls) ++ tail) =
      .lit l.toList :: .char ',' :: .char ' ' :: lexFrom .code (listedText ls ++ tail) := by
  rw [listed_cons, lexFrom_literal h (by decide), lexFrom, if_neg (by decide), lexFrom,
    if_neg (by decide)]

lemma leading_listed {ls : List String} (h : ∀ l ∈ ls, QuoteFree l) (tail : List Char) :
    leadingLiterals (lexFrom .code (listedText ls ++ tail)) =
      ls ++ leadingLiterals (lexFrom .code tail) := by
  induction ls with
  | nil => rfl
  | cons l ls ih =>
    rw [List.forall_mem_cons] at h
    rw [lexFrom_listed h.1, leadingLiterals_lit, ih h.2, String.ofList_toList, List.cons_append]

lemma quoteFree_of_leading {ls : List String} {tail : List Char}
    (h : ls <+: leadingLiterals (lexFrom .code (listedText ls ++ tail))) : ∀ l ∈ ls, QuoteFree l := by
  induction ls with
  | nil => simp
  | cons l ls ih =>
    obtain ⟨rest, hrest⟩ := lit_of_leading h
    have hfree : QuoteFree l := by
      rw [listed_cons, lexFrom, if_pos rfl] at hrest
      exact quote_not_mem_of_lexFrom (by decide) hrest
    rw [lexFrom_listed hfree, leadingLiterals_lit, String.ofList_toList, List.prefix_cons_inj] at h
    rw [List.forall_mem_cons]
    exact ⟨hfree, ih h⟩

def Mode.value : Mode → List Char
  | .code => []
  | .lit value | .quoted value => value

/-- The characters of a literal are from the text. -/
lemma mem_of_lit_mem {p : Char → Prop} {cs : List Char} (mode : Mode) (hmode : ∀ c ∈ mode.value, p c)
    (hcs : ∀ c ∈ cs, p c) {v : List Char} (h : .lit v ∈ lexFrom mode cs) : ∀ c ∈ v, p c := by
  have hnone : ∀ c ∈ ([] : List Char), p c := by simp
  have hsnoc {value : List Char} {c : Char} (hvalue : ∀ d ∈ value, p d) (hc : p c) :
      ∀ d ∈ value ++ [c], p d := by
    intro d hd
    rw [List.mem_append, List.mem_singleton] at hd
    rcases hd with hd | rfl
    · exact hvalue d hd
    · exact hc
  induction cs generalizing mode with
  | nil =>
    cases mode with
    | code => simp [lexFrom] at h
    | lit value => simp [lexFrom] at h
    | quoted value =>
      simp only [lexFrom, List.mem_singleton, Token.lit.injEq] at h
      rw [h]
      exact hmode
  | cons c cs ih =>
    rw [List.forall_mem_cons] at hcs
    cases mode with
    | code =>
      rw [lexFrom] at h
      split at h
      · exact ih (.lit []) hnone hcs.2 h
      · simp only [List.mem_cons, reduceCtorEq, false_or] at h
        exact ih .code hnone hcs.2 h
    | lit value =>
      rw [lexFrom] at h
      split at h
      · exact ih (.quoted value) hmode hcs.2 h
      · exact ih (.lit (value ++ [c])) (hsnoc hmode hcs.1) hcs.2 h
    | quoted value =>
      rw [lexFrom] at h
      split at h
      · next hc => exact ih (.lit (value ++ [quote])) (hsnoc hmode (hc ▸ hcs.1)) hcs.2 h
      · simp only [List.mem_cons, Token.lit.injEq, reduceCtorEq, false_or] at h
        rcases h with rfl | h
        · exact hmode
        · exact ih .code hnone hcs.2 h

lemma takeWhile_listed {p : Char → Bool} (hq : p quote) (hc : p ',') (hs : p ' ') {ls : List String}
    (h : ∀ l ∈ ls, ∀ c ∈ l.toList, p c) (tail : List Char) :
    (listedText ls ++ tail).takeWhile p = listedText ls ++ tail.takeWhile p := by
  rw [List.takeWhile_append_of_pos]
  intro c hmem
  rw [listedText, List.mem_flatMap] at hmem
  obtain ⟨l, hl, hmem⟩ := hmem
  simp only [List.mem_cons, List.mem_append, List.not_mem_nil, or_false] at hmem
  rcases hmem with rfl | hmem | rfl | rfl | rfl
  · exact hq
  · exact h l hl c hmem
  · exact hq
  · exact hc
  · exact hs

/-- The values come first among those that are read from the text up to a character exactly when
none contains a quote or that character. -/
theorem leading_cut_iff {p : Char → Bool} (hq : p quote) (hc : p ',') (hs : p ' ') (ls : List String)
    (tail : List Char) :
    ls <+: leadingLiterals (lexFrom .code ((listedText ls ++ tail).takeWhile p)) ↔
      ∀ l ∈ ls, QuoteFree l ∧ ∀ c ∈ l.toList, p c := by
  constructor
  · intro h
    have hplain : ∀ l ∈ ls, ∀ c ∈ l.toList, p c := by
      intro l hl
      have hlit := lit_mem_of_leading (h.subset hl)
      exact mem_of_lit_mem .code (by simp [Mode.value]) (fun c => List.mem_takeWhile_imp) hlit
    rw [takeWhile_listed hq hc hs hplain] at h
    intro l hl
    exact ⟨quoteFree_of_leading h l hl, hplain l hl⟩
  · intro h
    rw [takeWhile_listed hq hc hs fun l hl => (h l hl).2, leading_listed fun l hl => (h l hl).1]
    exact List.prefix_append _ _

end SqlText
