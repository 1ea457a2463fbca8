import Mathlib.Algebra.Ring.Int.Defs
import Mathlib.Data.List.TakeWhile

namespace CNumber

/-- What a signed type with the given number of bits holds. -/
def Fits (bits : Nat) (n : Int) : Prop := -2 ^ (bits - 1) ≤ n ∧ n < 2 ^ (bits - 1)

instance (bits : Nat) (n : Int) : Decidable (Fits bits n) := inferInstanceAs (Decidable (_ ∧ _))

lemma Fits.mono {m n : Nat} {k : Int} (h : Fits m k) (hmn : m ≤ n) : Fits n k := by
  have hpow : (2 : Int) ^ (m - 1) ≤ 2 ^ (n - 1) := by
    exact_mod_cast Nat.pow_le_pow_right (by omega) (by omega)
  unfold Fits at *
  omega

/-- `isspace`. -/
def isSpace (c : Char) : Bool := c.toNat ∈ [9, 10, 11, 12, 13, 32]

def signed (negative : Bool) (magnitude : Nat) : Int :=
  if negative then -(magnitude : Int) else magnitude

lemma signed_natAbs (n : Int) : signed (decide (n < 0)) n.natAbs = n := by
  unfold signed
  split
  · next h =>
    have hneg : n < 0 := of_decide_eq_true h
    omega
  · next h =>
    have hneg : ¬ n < 0 := fun hneg => h (decide_eq_true hneg)
    omega

/-- The sign in front of a number, and what is behind it. -/
def sign : List Char → Bool × List Char
  | '-' :: rest => (true, rest)
  | '+' :: rest => (false, rest)
  | chars => (false, chars)

/-- The sign and the magnitude of the number at the start of a text, behind blanks, as `strtol`
and its relatives find it. -/
def strto (text : String) : Option (Bool × Nat) :=
  let (negative, chars) := sign (text.toList.dropWhile isSpace)
  let digits := chars.takeWhile Char.isDigit
  if digits = [] then none else some (negative, Nat.ofDigitChars 10 digits 0)

/-- The number that a text is, as `from_chars` finds it. -/
def fromChars (text : String) : Option Int :=
  let (negative, digits) := match text.toList with
    | '-' :: rest => (true, rest)
    | chars => (false, chars)
  if digits ≠ [] ∧ digits.all Char.isDigit then
    some (signed negative (Nat.ofDigitChars 10 digits 0))
  else none

lemma digits_ne_nil (n : Nat) : n.repr.toList ≠ [] := by
  rw [Nat.toList_repr]
  exact Nat.toDigits_ne_nil

lemma isDigit_of_mem {n : Nat} {c : Char} (h : c ∈ n.repr.toList) : c.isDigit := by
  rw [Nat.toList_repr] at h
  exact Nat.isDigit_of_mem_toDigits (by decide) (by decide) h

lemma isDigit_range {c : Char} (h : c.isDigit) : 48 ≤ c.toNat ∧ c.toNat ≤ 57 := by
  simpa [Char.isDigit, UInt32.le_iff_toNat_le] using h

lemma ofDigitChars_repr (n : Nat) : Nat.ofDigitChars 10 n.repr.toList 0 = n := by
  rw [Nat.toList_repr, Nat.ofDigitChars_ten_toDigits]

lemma takeWhile_digits (n : Nat) : n.repr.toList.takeWhile Char.isDigit = n.repr.toList := by
  rw [List.takeWhile_eq_self_iff]
  intro c hc
  exact isDigit_of_mem hc

/-- The first digit is neither a blank nor a sign. -/
lemma digit_first (n : Nat) :
    ∃ c cs, n.repr.toList = c :: cs ∧ isSpace c = false ∧ c ≠ '-' ∧ c ≠ '+' := by
  cases hdigits : n.repr.toList with
  | nil => exact absurd hdigits (digits_ne_nil n)
  | cons c cs =>
    have hc : c.isDigit := isDigit_of_mem (n := n) (by rw [hdigits]; exact List.mem_cons_self)
    refine ⟨c, cs, rfl, ?_, ?_, ?_⟩
    · have hrange := isDigit_range hc
      simp only [isSpace, List.mem_cons, List.not_mem_nil, or_false, decide_eq_false_iff_not]
      omega
    · rintro rfl
      exact absurd hc (by decide)
    · rintro rfl
      exact absurd hc (by decide)

lemma sign_of_ne {chars : List Char} (hminus : ∀ rest, chars ≠ '-' :: rest)
    (hplus : ∀ rest, chars ≠ '+' :: rest) : sign chars = (false, chars) := by
  unfold sign
  split
  · next rest => exact absurd rfl (hminus rest)
  · next rest => exact absurd rfl (hplus rest)
  · rfl

lemma repr_ofNat (n : Nat) : (Int.ofNat n).repr = n.repr := rfl

lemma repr_negSucc (n : Nat) : (Int.negSucc n).repr.toList = '-' :: (n + 1).repr.toList := by
  change ("-" ++ (n + 1).repr).toList = _
  rw [String.toList_append]
  rfl

theorem strto_repr (n : Int) : strto n.repr = some (decide (n < 0), n.natAbs) := by
  cases n with
  | ofNat n =>
    obtain ⟨c, cs, hdigits, hspace, hminus, hplus⟩ := digit_first n
    have hdrop : n.repr.toList.dropWhile isSpace = n.repr.toList := by
      rw [hdigits, List.dropWhile_cons_of_neg (by rw [hspace]; decide)]
    have hsign : sign n.repr.toList = (false, n.repr.toList) := by
      apply sign_of_ne
      · intro rest heq
        exact hminus (List.cons.inj (hdigits.symm.trans heq)).1
      · intro rest heq
        exact hplus (List.cons.inj (hdigits.symm.trans heq)).1
    simp only [strto, repr_ofNat, hdrop, hsign, takeWhile_digits, if_neg (digits_ne_nil n),
      ofDigitChars_repr]
    simp
  | negSucc n =>
    have hdrop : ('-' :: (n + 1).repr.toList).dropWhile isSpace = '-' :: (n + 1).repr.toList :=
      List.dropWhile_cons_of_neg (by decide)
    simp only [strto, repr_negSucc, hdrop, sign, takeWhile_digits, if_neg (digits_ne_nil (n + 1)),
      ofDigitChars_repr]
    simp

theorem fromChars_repr (n : Int) : fromChars n.repr = some n := by
  have hall (m : Nat) : m.repr.toList ≠ [] ∧ m.repr.toList.all Char.isDigit = true :=
    ⟨digits_ne_nil m, List.all_eq_true.mpr fun c hc => isDigit_of_mem hc⟩
  cases n with
  | ofNat n =>
    obtain ⟨c, cs, hdigits, -, hminus, -⟩ := digit_first n
    have hsign : (match n.repr.toList with
        | '-' :: rest => (true, rest)
        | chars => (false, chars)) = (false, n.repr.toList) := by
      rw [hdigits]
      split
      · next heq => exact absurd (List.cons.inj heq).1 hminus
      · rfl
    simp only [fromChars, repr_ofNat, hsign, if_pos (hall n), ofDigitChars_repr]
    rfl
  | negSucc n =>
    simp only [fromChars, repr_negSucc, if_pos (hall (n + 1)), ofDigitChars_repr]
    rfl

end CNumber
