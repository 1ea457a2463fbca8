import Mathlib.Data.List.TakeWhile
import TkmCollector.Helpers

namespace TkmCollector.Proofs

open Control (DeviceData)

/-- The text that is hashed. -/
def hashed (d : DeviceData) : String := cStr (d.address ++ toString d.port)

/-- What is hashed of the port: nothing behind a null character of the address. -/
def hashedPort (d : DeviceData) : String :=
  if '\x00' ∈ d.address.toList then "" else toString d.port

/-- Two devices have the same hash exactly when they are dialed at the same address and port. -/
def IdentifiesEndpoint (jnkHsh : String → Nat) (gethostbyname : String → Option (BitVec 32))
    (d e : DeviceData) : Prop :=
  hashForDevice jnkHsh d = hashForDevice jnkHsh e ↔
    ∃ endpoint ∈ Connection.dials gethostbyname d, Connection.dials gethostbyname e = some endpoint

/-- The address of `e` goes on where that of `d` ends, with the first characters of the port of
`d`. -/
def RunsInto (d e : DeviceData) : Prop :=
  ∃ w : List Char, w ≠ [] ∧ (cStr e.address).toList = (cStr d.address).toList ++ w ∧
    (hashedPort d).toList = w ++ (hashedPort e).toList

/-- Both names are found at one address. -/
def OneHost (gethostbyname : String → Option (BitVec 32)) (d e : DeviceData) : Prop :=
  ∃ address ∈ gethostbyname (cStr d.address), gethostbyname (cStr e.address) = some address

/-- Of one name, which is found, the ports are spelled alike where they are the same port. Of two
names, one runs into a port exactly where they are found at one address and the ports are the same. -/
def ToldApart (gethostbyname : String → Option (BitVec 32)) (d e : DeviceData) : Prop :=
  if cStr d.address = cStr e.address then
    hashedPort d = hashedPort e ↔
      gethostbyname (cStr d.address) ≠ none ∧ d.port % 2 ^ 16 = e.port % 2 ^ 16
  else RunsInto d e ∨ RunsInto e d ↔
    OneHost gethostbyname d e ∧ d.port % 2 ^ 16 = e.port % 2 ^ 16

lemma null_notMem_nat (n : Nat) : '\x00' ∉ n.repr.toList := by
  intro hmem
  rw [Nat.toList_repr] at hmem
  exact absurd (Nat.isDigit_of_mem_toDigits (by decide) (by decide) hmem) (by decide)

lemma null_notMem_int (n : Int) : '\x00' ∉ (toString n).toList := by
  cases n with
  | ofNat n => exact null_notMem_nat n
  | negSucc n =>
    change '\x00' ∉ ("-" ++ (n + 1).repr).toList
    rw [String.toList_append, List.mem_append, not_or]
    exact ⟨by decide, null_notMem_nat (n + 1)⟩

lemma repr_inj {m n : Nat} (h : m.repr = n.repr) : m = n := by
  have hdigits : Nat.toDigits 10 m = Nat.toDigits 10 n := by
    rw [← Nat.toList_repr, ← Nat.toList_repr, h]
  rw [← Nat.ofDigitChars_ten_toDigits (n := m), hdigits, Nat.ofDigitChars_ten_toDigits]

lemma toList_cStr (text : String) : (cStr text).toList = text.toList.takeWhile fun c => c ≠ '\x00' := by
  simp [cStr]

lemma cStr_append (s t : String) :
    (cStr (s ++ t)).toList = (cStr s).toList ++ if '\x00' ∈ s.toList then [] else (cStr t).toList := by
  rw [toList_cStr, toList_cStr, toList_cStr, String.toList_append]
  by_cases hnull : '\x00' ∈ s.toList
  · rw [if_pos hnull, List.append_nil, List.takeWhile_append, if_neg]
    intro hlength
    have hall := (List.takeWhile_prefix fun c : Char => decide (c ≠ '\x00')).eq_of_length hlength
    have hne := List.mem_takeWhile_imp (hall ▸ hnull)
    simp at hne
  · rw [if_neg hnull, List.takeWhile_append_of_pos]
    · congr 1
      symm
      apply List.takeWhile_eq_self_iff.mpr
      intro c hc
      simpa using ne_of_mem_of_not_mem hc hnull
    · intro c hc
      simpa using ne_of_mem_of_not_mem hc hnull

lemma hashed_toList (d : DeviceData) :
    (hashed d).toList = (cStr d.address).toList ++ (hashedPort d).toList := by
  rw [hashed, cStr_append]
  unfold hashedPort
  split
  · rfl
  · congr 1
    rw [toList_cStr]
    apply List.takeWhile_eq_self_iff.mpr
    intro c hc
    simpa using ne_of_mem_of_not_mem hc (null_notMem_int d.port)

lemma dialedPort_eq_iff (m n : Int) :
    BitVec.ofInt 16 m = BitVec.ofInt 16 n ↔ m % 2 ^ 16 = n % 2 ^ 16 := by
  rw [← BitVec.toNat_inj, BitVec.toNat_ofInt, BitVec.toNat_ofInt]
  omega

/-- Two devices are hashed as one when address and port agree, or where one runs into the other. -/
lemma hashed_eq_iff (d e : DeviceData) :
    hashed d = hashed e ↔
      cStr d.address = cStr e.address ∧ hashedPort d = hashedPort e ∨ RunsInto d e ∨ RunsInto e d := by
  rw [← String.toList_inj, hashed_toList, hashed_toList, List.append_eq_append_iff]
  constructor
  · rintro (⟨w, haddress, hport⟩ | ⟨w, haddress, hport⟩)
    · by_cases hw : w = []
      · rw [hw, List.append_nil, String.toList_inj] at haddress
        rw [hw, List.nil_append, String.toList_inj] at hport
        exact .inl ⟨haddress.symm, hport⟩
      · exact .inr (.inl ⟨w, hw, haddress, hport⟩)
    · by_cases hw : w = []
      · rw [hw, List.append_nil, String.toList_inj] at haddress
        rw [hw, List.nil_append, String.toList_inj] at hport
        exact .inl ⟨haddress, hport.symm⟩
      · exact .inr (.inr ⟨w, hw, haddress, hport⟩)
  · rintro (⟨haddress, hport⟩ | ⟨w, -, haddress, hport⟩ | ⟨w, -, haddress, hport⟩)
    · exact .inl ⟨[], by rw [haddress, List.append_nil], by rw [hport, List.nil_append]⟩
    · exact .inl ⟨w, haddress, hport⟩
    · exact .inr ⟨w, haddress, hport⟩

lemma address_ne_of_runsInto {d e : DeviceData} (h : RunsInto d e) : cStr d.address ≠ cStr e.address := by
  obtain ⟨w, hw, haddress, -⟩ := h
  intro heq
  rw [heq] at haddress
  exact hw (List.self_eq_append_right.mp haddress)

lemma dials_eq_iff (gethostbyname : String → Option (BitVec 32)) (d e : DeviceData) :
    (∃ endpoint ∈ Connection.dials gethostbyname d,
      Connection.dials gethostbyname e = some endpoint) ↔
      OneHost gethostbyname d e ∧ d.port % 2 ^ 16 = e.port % 2 ^ 16 := by
  unfold OneHost Connection.dials
  rw [← dialedPort_eq_iff]
  cases gethostbyname (cStr d.address) with
  | none => simp
  | some address =>
    cases gethostbyname (cStr e.address) with
    | none => simp
    | some address' => simp [eq_comm]

/-- Where the hash function does not collide, two devices have the same hash exactly when they are
dialed at the same address and port, exactly when the names and the ports tell the endpoints apart. -/
theorem device_identity (jnkHsh : String → Nat) (gethostbyname : String → Option (BitVec 32))
    (d e : DeviceData) (hfree : jnkHsh (hashed d) = jnkHsh (hashed e) → hashed d = hashed e) :
    IdentifiesEndpoint jnkHsh gethostbyname d e ↔ ToldApart gethostbyname d e := by
  have hhash : hashForDevice jnkHsh d = hashForDevice jnkHsh e ↔ hashed d = hashed e := by
    constructor
    · intro h
      exact hfree (repr_inj h)
    · intro h
      change toString (jnkHsh (hashed d)) = toString (jnkHsh (hashed e))
      rw [h]
  unfold IdentifiesEndpoint ToldApart
  rw [hhash, hashed_eq_iff, dials_eq_iff]
  by_cases haddress : cStr d.address = cStr e.address
  · -- neither name goes on where the other one ends
    have hde : ¬ RunsInto d e := fun hruns => address_ne_of_runsInto hruns haddress
    have hed : ¬ RunsInto e d := fun hruns => address_ne_of_runsInto hruns haddress.symm
    have hhost : OneHost gethostbyname d e ↔ gethostbyname (cStr d.address) ≠ none := by
      unfold OneHost
      rw [← haddress]
      cases gethostbyname (cStr d.address) <;> simp
    rw [if_pos haddress, hhost]
    simp only [haddress, hde, hed, true_and, or_false]
  · rw [if_neg haddress]
    simp only [haddress, false_and, false_or]

/-- A hash of one character at a time, modulo 2 ^ 64. -/
def oneAtATime (text : String) : Nat :=
  let mixed := text.toList.foldl (fun hash c =>
    let hash := (hash + c.toNat) % 2 ^ 64
    let hash := (hash + hash <<< 10) % 2 ^ 64
    hash ^^^ hash >>> 6) 0
  let hash := (mixed + mixed <<< 3) % 2 ^ 64
  let hash := hash ^^^ hash >>> 11
  (hash + hash <<< 15) % 2 ^ 64

/-- A device at an address and a port. -/
def deviceAt (address : String) (port : Int) : DeviceData :=
  { (default : DeviceData) with address := address, port := port }

/-- A lookup in a hosts file. Addresses stand for themselves. -/
def hosts (name : String) : Option (BitVec 32) :=
  [("10.0.0.1", 0x0a000001), ("10.0.0.2", 0x0a000002), ("10.0.0.11", 0x0a00000b),
    ("127.0.0.1", 0x7f000001), ("localhost", 0x7f000001)].lookup name

theorem device_identity_told :
    IdentifiesEndpoint oneAtATime hosts (deviceAt "10.0.0.1" 80) (deviceAt "10.0.0.2" 80) ↔
      ToldApart hosts (deviceAt "10.0.0.1" 80) (deviceAt "10.0.0.2" 80) :=
  device_identity oneAtATime hosts _ _ (by decide +kernel)

/-- Two endpoints with one hash, and one endpoint with two, by its port and by its name. -/
theorem device_identity_confused :
    ¬ IdentifiesEndpoint oneAtATime hosts (deviceAt "10.0.0.1" 18080)
        (deviceAt "10.0.0.11" 8080) ∧
      ¬ IdentifiesEndpoint oneAtATime hosts (deviceAt "10.0.0.1" 80)
        (deviceAt "10.0.0.1" 65616) ∧
      ¬ IdentifiesEndpoint oneAtATime hosts (deviceAt "127.0.0.1" 80)
        (deviceAt "localhost" 80) := by
  unfold IdentifiesEndpoint
  decide +kernel

end TkmCollector.Proofs
