import Mathlib.Data.List.Basic

/-!
# Options of a command line

`getopt_long`: a table of long options and a string of short ones, and what is reported for the
words of a command line. An option can be written in short where both tables and the
documentation agree on whether it takes an argument.
-/

namespace GetOpt

/-- A row of the table of long options, with `required_argument` or `no_argument`. -/
structure LongOption where
  name : String
  takesArg : Bool
  val : Char
  deriving DecidableEq

structure Table where
  long : List LongOption
  short : List (Char × Bool)

/-- The short options of a string: a colon behind one says that it takes an argument. -/
def shortOptions : List Char → List (Char × Bool)
  | c :: ':' :: rest => (c, true) :: shortOptions rest
  | c :: rest => (c, false) :: shortOptions rest
  | [] => []

/-- What a call returns: an option with its argument, or a question mark. -/
inductive Report where
  | option (val : Char) (arg : Option String)
  | unknown
  deriving DecidableEq

/-- What a word is: the end of the options, a long option, short options or an operand. -/
inductive Kind where
  | stop
  | long (body : List Char)
  | cluster (chars : List Char)
  | operand
  deriving DecidableEq

def kind (w : String) : Kind :=
  match w.toList with
  | ['-', '-'] => .stop
  | '-' :: '-' :: body => .long body
  | '-' :: c :: chars => .cluster (c :: chars)
  | _ => .operand

/-- The name in a long option, and the argument behind an equals sign. -/
def splitLong (body : List Char) : List Char × Option (List Char) :=
  match body.dropWhile (· ≠ '=') with
  | [] => (body, none)
  | _ :: value => (body.takeWhile (· ≠ '='), some value)

/-- The option of a name: the one that has it, or the one that it abbreviates. It may abbreviate
several that are the same but for their names. -/
def resolve (t : Table) (name : List Char) : Option LongOption :=
  match t.long.find? fun o => o.name.toList = name with
  | some o => some o
  | none =>
    match t.long.filter fun o => name.isPrefixOf o.name.toList with
    | [] => none
    | o :: others =>
      if others.all fun o' => o'.takesArg = o.takesArg ∧ o'.val = o.val then some o else none

/-- The report for a long option, and whether the next word is its argument. -/
def longReport (t : Table) (body : List Char) (next : Option String) : Report × Bool :=
  match resolve t (splitLong body).1 with
  | none => (.unknown, false)
  | some o =>
    match o.takesArg, (splitLong body).2, next with
    | false, none, _ => (.option o.val none, false)
    | false, some _, _ => (.unknown, false)
    | true, some value, _ => (.option o.val (some (String.ofList value)), false)
    | true, none, some a => (.option o.val (some a), true)
    | true, none, none => (.unknown, false)

/-- The reports for short options in one word. The rest of the word is the argument of an option
that takes one, or else the next word. -/
def clusterReports (t : Table) (next : Option String) : List Char → List Report × Bool
  | [] => ([], false)
  | c :: chars =>
    match t.short.lookup c with
    | none => (.unknown :: (clusterReports t next chars).1, (clusterReports t next chars).2)
    | some false => (.option c none :: (clusterReports t next chars).1, (clusterReports t next chars).2)
    | some true =>
      if chars ≠ [] then ([.option c (some (String.ofList chars))], false)
      else match next with
        | some a => ([.option c (some a)], true)
        | none => ([.unknown], false)

/-- The reports for a word, and whether the next word is its argument, or nothing when the scan
ends with it. With `posix` it ends with the first operand. -/
def wordReports (t : Table) (posix : Bool) (w : String) (next : Option String) :
    Option (List Report × Bool) :=
  match kind w with
  | .stop => none
  | .long body => some ([(longReport t body next).1], (longReport t body next).2)
  | .cluster chars => some (clusterReports t next chars)
  | .operand => if posix then none else some ([], false)

/-- All that is reported for the words. With `skip` the first of them has been taken as an
argument. -/
def scanFrom (t : Table) (posix : Bool) : Bool → List String → List Report
  | _, [] => []
  | true, _ :: rest => scanFrom t posix false rest
  | false, w :: rest =>
    match wordReports t posix w rest.head? with
    | none => []
    | some (reports, skip) => reports ++ scanFrom t posix skip rest

def scan (t : Table) (posix : Bool) (words : List String) : List Report :=
  scanFrom t posix false words

def shortWord (val : Char) : String := String.ofList ['-', val]

/-- The ways to write an option with its argument in short. -/
def spellings (val : Char) (a : String) : List (List String) :=
  [shortWord val, a] :: if a = "" then [] else [[String.ofList ('-' :: val :: a.toList)]]

/-- The argument that is given to a long option, and the words behind it. -/
def given : Option (List Char) → List String → Option (String × List String)
  | some value, rest => some (String.ofList value, rest)
  | none, a :: rest => some (a, rest)
  | none, [] => none

section

variable (t : Table) (posix : Bool) (documented : Char → Bool) (replaced : Char → Prop)

/-- Some of the long options that the scan finds in the words are written in short, with the
arguments that they are documented to take. -/
inductive Respelled : List String → List String → Prop
  | nil : Respelled [] []
  | stop {w : String} {rest : List String} (hend : wordReports t posix w rest.head? = none) :
      Respelled (w :: rest) (w :: rest)
  | keep {w : String} {rest rest' : List String} {reports : List Report} {skip : Bool}
      (hword : wordReports t posix w rest.head? = some (reports, skip))
      (h : Respelled (rest.drop skip.toNat) rest') :
      Respelled (w :: rest) (w :: (rest.take skip.toNat ++ rest'))
  | valued {w a : String} {rest more rest' spelled : List String} {body : List Char} {o : LongOption}
      (hkind : kind w = .long body) (hname : resolve t (splitLong body).1 = some o)
      (hreplaced : replaced o.val) (htakes : documented o.val)
      (hgiven : given (splitLong body).2 rest = some (a, more))
      (hspelled : spelled ∈ spellings o.val a) (h : Respelled more rest') :
      Respelled (w :: rest) (spelled ++ rest')
  | bare {w : String} {rest rest' : List String} {body : List Char} {o : LongOption}
      {reports : List Report} {skip : Bool}
      (hkind : kind w = .long body) (hname : resolve t (splitLong body).1 = some o)
      (hreplaced : replaced o.val) (hnone : (splitLong body).2 = none)
      (hbare : documented o.val = false ∨ rest = [])
      (hword : wordReports t posix w rest.head? = some (reports, skip))
      (h : Respelled (rest.drop skip.toNat) rest') :
      Respelled (w :: rest) (shortWord o.val :: (rest.take skip.toNat ++ rest'))

end

/-- The short options and the documentation say the same about an option as the table. -/
def Agrees (t : Table) (documented : Char → Bool) (o : LongOption) : Prop :=
  o.val ≠ '-' ∧ t.short.lookup o.val = some o.takesArg ∧ documented o.val = o.takesArg

variable {t : Table} {posix : Bool} {documented : Char → Bool} {replaced : Char → Prop}

lemma resolve_mem {name : List Char} {o : LongOption} (h : resolve t name = some o) : o ∈ t.long := by
  unfold resolve at h
  split at h
  · next found =>
    rw [Option.some.injEq] at h
    exact h ▸ List.mem_of_find?_eq_some found
  · split at h
    · cases h
    · next o' others hfilter =>
      split at h
      · rw [Option.some.injEq] at h
        have hmem : o' ∈ t.long.filter fun o => name.isPrefixOf o.name.toList := by
          rw [hfilter]
          exact List.mem_cons_self
        exact h ▸ List.mem_of_mem_filter hmem
      · cases h

lemma clusterReports_next {a : String} {chars : List Char} {reports : List Report}
    (h : clusterReports t (some a) chars = (reports, false)) (next : Option String) :
    clusterReports t next chars = (reports, false) := by
  induction chars generalizing reports with
  | nil => exact h
  | cons c chars ih =>
    have hrest : clusterReports t (some a) chars = ((clusterReports t (some a) chars).1, false) →
        clusterReports t next chars = ((clusterReports t (some a) chars).1, false) := ih
    unfold clusterReports at h ⊢
    cases hc : t.short.lookup c with
    | none =>
      simp only [hc, Prod.mk.injEq] at h ⊢
      rw [hrest (by rw [← h.2])]
      exact ⟨h.1, rfl⟩
    | some takesArg =>
      cases takesArg with
      | false =>
        simp only [hc, Prod.mk.injEq] at h ⊢
        rw [hrest (by rw [← h.2])]
        exact ⟨h.1, rfl⟩
      | true =>
        simp only [hc] at h ⊢
        by_cases hchars : chars = []
        · simp [hchars] at h
        · simpa [hchars] using h

lemma longReport_next {a : String} {body : List Char} {report : Report}
    (h : longReport t body (some a) = (report, false)) (next : Option String) :
    longReport t body next = (report, false) := by
  unfold longReport at h ⊢
  cases hname : resolve t (splitLong body).1 with
  | none => simpa [hname] using h
  | some o =>
    cases htakes : o.takesArg <;> cases hvalue : (splitLong body).2 <;> simp_all

lemma wordReports_next {w a : String} {reports : List Report}
    (h : wordReports t posix w (some a) = some (reports, false)) (next : Option String) :
    wordReports t posix w next = some (reports, false) := by
  unfold wordReports at h ⊢
  cases hkind : kind w with
  | stop => simp [hkind] at h
  | operand => simpa [hkind] using h
  | cluster chars =>
    simp only [hkind, Option.some.injEq] at h ⊢
    exact clusterReports_next h next
  | long body =>
    simp only [hkind, Option.some.injEq, Prod.mk.injEq] at h ⊢
    have hreport := longReport_next (Prod.ext rfl h.2) next
    rw [hreport]
    exact ⟨h.1, rfl⟩

lemma clusterReports_none (chars : List Char) : (clusterReports t none chars).2 = false := by
  induction chars with
  | nil => rfl
  | cons c chars ih =>
    unfold clusterReports
    cases t.short.lookup c with
    | none => exact ih
    | some takesArg =>
      cases takesArg with
      | false => exact ih
      | true => by_cases hchars : chars = [] <;> simp [hchars]

lemma longReport_none (body : List Char) : (longReport t body none).2 = false := by
  unfold longReport
  cases resolve t (splitLong body).1 with
  | none => rfl
  | some o => cases htakes : o.takesArg <;> cases (splitLong body).2 <;> simp [htakes]

lemma wordReports_nil {w : String} {reports : List Report} {skip : Bool}
    (h : wordReports t posix w none = some (reports, skip)) : skip = false := by
  unfold wordReports at h
  cases hkind : kind w with
  | stop => simp [hkind] at h
  | operand =>
    simp only [hkind] at h
    split at h
    · cases h
    · exact (Prod.mk.inj (Option.some.inj h)).2.symm
  | cluster chars =>
    have hnone := clusterReports_none (t := t) chars
    simp only [hkind, Option.some.injEq] at h
    rwa [h] at hnone
  | long body =>
    simp only [hkind, Option.some.injEq, Prod.mk.injEq] at h
    rw [← h.2, longReport_none]

lemma scanFrom_skip (skip : Bool) (rest : List String) :
    scanFrom t posix skip rest = scanFrom t posix false (rest.drop skip.toNat) := by
  cases skip with
  | false => rfl
  | true => cases rest <;> rfl

lemma scanFrom_cons {w : String} {rest : List String} {reports : List Report} {skip : Bool}
    (h : wordReports t posix w rest.head? = some (reports, skip)) :
    scanFrom t posix false (w :: rest) = reports ++ scanFrom t posix false (rest.drop skip.toNat) := by
  rw [scanFrom, h, ← scanFrom_skip]

lemma kind_short {val : Char} (h : val ≠ '-') (chars : List Char) :
    kind (String.ofList ('-' :: val :: chars)) = .cluster (val :: chars) := by
  unfold kind
  rw [String.toList_ofList]
  split
  · next heq => exact absurd (List.cons.inj (List.cons.inj heq).2).1 h
  · next heq => exact absurd (List.cons.inj (List.cons.inj heq).2).1 h
  · next heq =>
    obtain ⟨rfl, rfl⟩ := List.cons.inj (List.cons.inj heq).2
    rfl
  · next hnone => exact absurd rfl (hnone val chars)

lemma wordReports_short {val : Char} (h : val ≠ '-') (next : Option String) :
    wordReports t posix (shortWord val) next = some (clusterReports t next [val]) := by
  unfold wordReports shortWord
  rw [kind_short h]

lemma scanFrom_spelled {o : LongOption} (h : o.val ≠ '-') (hshort : t.short.lookup o.val = some true)
    {a : String} {spelled : List String} (hspelled : spelled ∈ spellings o.val a) (rest : List String) :
    scanFrom t posix false (spelled ++ rest) =
      .option o.val (some a) :: scanFrom t posix false rest := by
  unfold spellings at hspelled
  rw [List.mem_cons] at hspelled
  rcases hspelled with rfl | hspelled
  · have hword : wordReports t posix (shortWord o.val) (some a) =
        some ([.option o.val (some a)], true) := by
      rw [wordReports_short h, clusterReports, hshort]
      rfl
    exact @scanFrom_cons t posix (shortWord o.val) (a :: rest) _ _ hword
  · split at hspelled
    · cases hspelled
    · next hne =>
      rw [List.mem_singleton] at hspelled
      have hchars : a.toList ≠ [] := fun hnil => hne (String.toList_eq_nil_iff.mp hnil)
      have hword : wordReports t posix (String.ofList ('-' :: o.val :: a.toList)) rest.head? =
          some ([.option o.val (some a)], false) := by
        unfold wordReports
        rw [kind_short h]
        simp only [clusterReports, hshort, if_pos hchars, String.ofList_toList]
      rw [hspelled, List.singleton_append, scanFrom_cons hword]
      rfl

lemma scanFrom_valued {w a : String} {rest more : List String} {body : List Char} {o : LongOption}
    (hkind : kind w = .long body) (hname : resolve t (splitLong body).1 = some o)
    (htakes : o.takesArg = true) (hgiven : given (splitLong body).2 rest = some (a, more)) :
    scanFrom t posix false (w :: rest) = .option o.val (some a) :: scanFrom t posix false more := by
  cases hvalue : (splitLong body).2 with
  | some value =>
    rw [hvalue] at hgiven
    obtain ⟨rfl, rfl⟩ := Prod.mk.inj (Option.some.inj hgiven)
    have hword : wordReports t posix w rest.head? =
        some ([.option o.val (some (String.ofList value))], false) := by
      simp [wordReports, hkind, longReport, hname, htakes, hvalue]
    exact scanFrom_cons hword
  | none =>
    rw [hvalue] at hgiven
    cases rest with
    | nil => cases hgiven
    | cons b rest =>
      obtain ⟨rfl, rfl⟩ := Prod.mk.inj (Option.some.inj hgiven)
      have hword : wordReports t posix w (b :: rest).head? = some ([.option o.val (some b)], true) := by
        simp [wordReports, hkind, longReport, hname, htakes, hvalue]
      exact scanFrom_cons hword

lemma wordReports_bare {w : String} {next : Option String} {body : List Char} {o : LongOption}
    (hkind : kind w = .long body) (hname : resolve t (splitLong body).1 = some o)
    (hnone : (splitLong body).2 = none) (h : o.val ≠ '-')
    (hshort : t.short.lookup o.val = some o.takesArg) (hbare : o.takesArg = false ∨ next = none) :
    wordReports t posix w next = wordReports t posix (shortWord o.val) next := by
  rw [wordReports_short h]
  cases htakes : o.takesArg with
  | false =>
    rw [htakes] at hshort
    simp [wordReports, hkind, longReport, hname, htakes, hnone, clusterReports, hshort]
  | true =>
    rw [htakes] at hshort hbare
    have hnext : next = none := by simpa using hbare
    simp [wordReports, hkind, longReport, hname, htakes, hnone, clusterReports, hshort, hnext]

/-- A word says the same when what follows it is written in short, but for its argument. -/
lemma wordReports_kept {w : String} {rest rest' : List String} {reports : List Report} {skip : Bool}
    (hword : wordReports t posix w rest.head? = some (reports, skip)) (hnil : rest = [] → rest' = []) :
    wordReports t posix w (rest.take skip.toNat ++ rest').head? = some (reports, skip) := by
  cases rest with
  | nil =>
    rw [hnil rfl, wordReports_nil hword]
    rw [wordReports_nil hword] at hword
    exact hword
  | cons a rest =>
    cases skip with
    | true => exact hword
    | false => exact wordReports_next hword _

lemma drop_kept {w : String} {rest rest' : List String} {reports : List Report} {skip : Bool}
    (hword : wordReports t posix w rest.head? = some (reports, skip)) :
    (rest.take skip.toNat ++ rest').drop skip.toNat = rest' := by
  cases rest with
  | nil =>
    rw [wordReports_nil hword]
    rfl
  | cons a rest => cases skip <;> rfl

lemma Respelled.nil_of_nil {words : List String} (h : Respelled t posix documented replaced [] words) :
    words = [] := by
  cases h
  rfl

/-- Long options that the short ones and the documentation agree with can be written in short:
the same is reported. -/
theorem scan_respelled (hagree : ∀ o ∈ t.long, replaced o.val → Agrees t documented o)
    {words words' : List String} (h : Respelled t posix documented replaced words words') :
    scan t posix words = scan t posix words' := by
  unfold scan
  induction h with
  | nil => rfl
  | stop hend => rfl
  | @keep w rest rest' reports skip hword h ih =>
    have hnil : rest = [] → rest' = [] := by
      rintro rfl
      exact Respelled.nil_of_nil (by simpa using h)
    rw [scanFrom_cons hword, scanFrom_cons (wordReports_kept hword hnil), drop_kept hword, ih]
  | valued hkind hname hreplaced htakes hgiven hspelled h ih =>
    obtain ⟨hval, hshort, hdoc⟩ := hagree _ (resolve_mem hname) hreplaced
    rw [htakes] at hdoc
    rw [← hdoc] at hshort
    rw [scanFrom_valued hkind hname hdoc.symm hgiven, scanFrom_spelled hval hshort hspelled, ih]
  | @bare w rest rest' body o reports skip hkind hname hreplaced hnone hbare hword h ih =>
    obtain ⟨hval, hshort, hdoc⟩ := hagree _ (resolve_mem hname) hreplaced
    have hnil : rest = [] → rest' = [] := by
      rintro rfl
      exact Respelled.nil_of_nil (by simpa using h)
    have hkept := wordReports_kept hword hnil
    have hshortWord : o.takesArg = false ∨ (rest.take skip.toNat ++ rest').head? = none := by
      rcases hbare with hbare | rfl
      · exact Or.inl (hdoc ▸ hbare)
      · exact Or.inr (by rw [hnil rfl, List.take_nil]; rfl)
    rw [wordReports_bare hkind hname hnone hval hshort hshortWord] at hkept
    rw [scanFrom_cons hword, scanFrom_cons hkept, drop_kept hword, ih]

end GetOpt
