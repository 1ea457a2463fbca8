import Mathlib.Data.List.Basic
import Mathlib.Data.Nat.ModEq

namespace Varint

/-- A number in `k + 1` bytes at most. -/
def encode : Nat → Nat → List UInt8
  | 0, n => [UInt8.ofNat (n % 128)]
  | k + 1, n => if n < 128 then [UInt8.ofNat n] else UInt8.ofNat (n % 128 + 128) :: encode k (n / 128)

/-- The number of `m` bytes at most that the bytes begin with, and what is behind it. -/
def decode : Nat → List UInt8 → Option (Nat × List UInt8)
  | 0, _ => none
  | _, [] => none
  | m + 1, b :: rest =>
    if b.toNat < 128 then some (b.toNat, rest)
    else (decode m rest).map fun (n, rest) => (b.toNat - 128 + 128 * n, rest)

lemma length_encode_pos (k n : Nat) : 0 < (encode k n).length := by
  cases k with
  | zero => simp [encode]
  | succ k =>
    unfold encode
    split <;> simp

lemma length_encode_le {k n j : Nat} (h : n < 128 ^ (j + 1)) : (encode k n).length ≤ j + 1 := by
  induction k generalizing n j with
  | zero => simp [encode]
  | succ k ih =>
    unfold encode
    split
    · simp
    · cases j with
      | zero => omega
      | succ j =>
        have hdiv : n / 128 < 128 ^ (j + 1) := by
          rw [Nat.div_lt_iff_lt_mul (by decide)]
          rw [pow_succ] at h
          exact h
        have hlength := ih hdiv
        simp only [List.length_cons]
        omega

lemma lt_length_encode {k n j : Nat} (hk : j ≤ k) (h : 128 ^ j ≤ n) : j < (encode k n).length := by
  induction k generalizing n j with
  | zero =>
    obtain rfl : j = 0 := by omega
    simp [encode]
  | succ k ih =>
    cases j with
    | zero => exact length_encode_pos _ _
    | succ j =>
      have hlarge : ¬ n < 128 := by
        have hpos : 1 ≤ 128 ^ j := Nat.one_le_pow _ _ (by decide)
        rw [pow_succ] at h
        omega
      have hdiv : 128 ^ j ≤ n / 128 := by
        rw [Nat.le_div_iff_mul_le (by decide), ← pow_succ]
        exact h
      have hlength := ih (by omega) hdiv
      rw [encode, if_neg hlarge, List.length_cons]
      omega

/-- What was written is read back, whatever is behind it. -/
theorem decode_encode {k m n : Nat} (hkm : k < m) (hn : n < 128 ^ (k + 1)) (rest : List UInt8) :
    decode m (encode k n ++ rest) = some (n, rest) := by
  induction k generalizing m n with
  | zero =>
    obtain ⟨m, rfl⟩ := Nat.exists_eq_succ_of_ne_zero (by omega : m ≠ 0)
    have hsmall : n < 128 := by simpa using hn
    have hbyte : (UInt8.ofNat (n % 128)).toNat = n := by
      rw [UInt8.toNat_ofNat']
      omega
    simp [encode, decode, hbyte, hsmall]
  | succ k ih =>
    obtain ⟨m, rfl⟩ := Nat.exists_eq_succ_of_ne_zero (by omega : m ≠ 0)
    by_cases hsmall : n < 128
    · have hbyte : (UInt8.ofNat n).toNat = n := by
        rw [UInt8.toNat_ofNat']
        omega
      simp [encode, decode, hbyte, hsmall]
    · have hbyte : (UInt8.ofNat (n % 128 + 128)).toNat = n % 128 + 128 := by
        rw [UInt8.toNat_ofNat']
        omega
      have hdiv : n / 128 < 128 ^ (k + 1) := by
        rw [Nat.div_lt_iff_lt_mul (by decide), ← pow_succ]
        exact hn
      have hrest := ih (by omega : k < m) hdiv
      rw [encode, if_neg hsmall, List.cons_append, decode, hbyte, if_neg (by omega), hrest]
      simp only [Option.map_some, Option.some.injEq, Prod.mk.injEq, and_true]
      omega

lemma decode_split {m n : Nat} {bytes rest : List UInt8} (h : decode m bytes = some (n, rest)) :
    ∃ number, bytes = number ++ rest ∧ 0 < number.length ∧ number.length ≤ m ∧
      ∀ others, decode m (number ++ others) = some (n, others) := by
  induction m generalizing n bytes with
  | zero => simp [decode] at h
  | succ m ih =>
    cases bytes with
    | nil => simp [decode] at h
    | cons b bytes =>
      rw [decode] at h
      by_cases hlast : b.toNat < 128
      · rw [if_pos hlast, Option.some.injEq, Prod.mk.injEq] at h
        refine ⟨[b], by rw [h.2]; rfl, by simp, by simp, fun others => ?_⟩
        rw [List.singleton_append, decode, if_pos hlast, h.1]
      · rw [if_neg hlast, Option.map_eq_some_iff] at h
        obtain ⟨⟨n', rest'⟩, hrest, heq⟩ := h
        obtain ⟨hn, rfl⟩ := Prod.mk.inj heq
        obtain ⟨number, hbytes, hpos, hle, hagain⟩ := ih hrest
        refine ⟨b :: number, by rw [hbytes]; rfl, by simp, by simpa using hle, fun others => ?_⟩
        rw [List.cons_append, decode, if_neg hlast, hagain, ← hn]
        rfl

lemma decode_isSome_of_zero {m : Nat} (bytes others : List UInt8) (h : bytes.length < m) :
    (decode m (bytes ++ 0 :: others)).isSome := by
  induction bytes generalizing m with
  | nil =>
    obtain ⟨m, rfl⟩ := Nat.exists_eq_succ_of_ne_zero (by omega : m ≠ 0)
    rfl
  | cons b bytes ih =>
    obtain ⟨m, rfl⟩ := Nat.exists_eq_succ_of_ne_zero (by omega : m ≠ 0)
    rw [List.cons_append, decode]
    split
    · rfl
    · rw [Option.isSome_map]
      apply ih
      rw [List.length_cons] at h
      omega

lemma decode_modEq {m n n' : Nat} {bytes others others' rest rest' : List UInt8}
    (h : decode m (bytes ++ others) = some (n, rest)) (hrest : rest.length < others.length)
    (h' : decode m (bytes ++ others') = some (n', rest')) (hrest' : rest'.length < others'.length) :
    n ≡ n' [MOD 128 ^ bytes.length] := by
  induction bytes generalizing m n n' with
  | nil => exact Nat.modEq_one
  | cons b bytes ih =>
    cases m with
    | zero => simp [decode] at h
    | succ m =>
      rw [List.cons_append, decode] at h h'
      by_cases hlast : b.toNat < 128
      · rw [if_pos hlast, Option.some.injEq, Prod.mk.injEq] at h
        rw [← h.2, List.length_append] at hrest
        omega
      · rw [if_neg hlast, Option.map_eq_some_iff] at h h'
        obtain ⟨⟨n₁, rest₁⟩, hdecode, heq⟩ := h
        obtain ⟨⟨n₂, rest₂⟩, hdecode', heq'⟩ := h'
        obtain ⟨hn, rfl⟩ := Prod.mk.inj heq
        obtain ⟨hn', rfl⟩ := Prod.mk.inj heq'
        have hmod := ih hdecode hdecode'
        rw [← hn, ← hn', List.length_cons, pow_succ']
        exact (hmod.mul_left' 128).add_left _

end Varint
