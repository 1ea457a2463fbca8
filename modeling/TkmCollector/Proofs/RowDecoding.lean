import Mathlib.Data.List.Forall2
import TkmCollector.RowCells
import TkmCollector.Proofs.DeviceIdentity

namespace TkmCollector.Proofs

open SqlText Query CNumber Database SQLiteDatabase PQDatabase
open Control (DeviceData SessionData)

lemma asSigned_repr (bits : Nat) (n : Int) :
    asSigned bits n.repr = if Fits bits n then some n else none := by
  unfold asSigned
  rw [fromChars_repr, Option.filter_some]
  simp

lemma stol_repr (n : Int) : (stol n.repr).toOption = if Fits 64 n then some n else none := by
  unfold stol
  rw [strto_repr]
  simp only [signed_natAbs]
  split <;> rfl

lemma stoul_repr {n : Int} (h : Fits 64 n) : (stoul n.repr).toOption = some (toUInt64 n) := by
  have hrange : n.natAbs < 2 ^ 64 := by
    unfold Fits at h
    omega
  unfold stoul
  rw [strto_repr]
  simp only [signed_natAbs, if_pos hrange]
  rfl

lemma foldl_digits {digits : List Char} (h : ∀ c ∈ digits, c.isDigit) (n : Nat) :
    digits.foldl (fun (n : Int) c => 10 * n + (c.toNat - '0'.toNat)) n =
      (Nat.ofDigitChars 10 digits n : Int) := by
  induction digits generalizing n with
  | nil => rfl
  | cons c digits ih =>
    rw [List.forall_mem_cons] at h
    have hc : 48 ≤ c.toNat := (isDigit_range h.1).1
    have hstep : 10 * (n : Int) + (c.toNat - '0'.toNat) =
        ((10 * n + (c.toNat - '0'.toNat) : Nat) : Int) := by
      change 10 * (n : Int) + (c.toNat - 48) = ((10 * n + (c.toNat - 48) : Nat) : Int)
      omega
    rw [List.foldl_cons, Nat.ofDigitChars_cons, ← ih h.2, hstep]

lemma stoi_digits (negative : Bool) (digits : List Char) (h : ∀ c ∈ digits, c.isDigit) :
    (if digits = [] then Except.error Fault.invalidArguments
      else
        let value : Int := digits.foldl (fun n c => 10 * n + (c.toNat - '0'.toNat)) 0
        let value := if negative then -value else value
        if -2147483648 ≤ value ∧ value < 2147483648 then .ok value else .error .outOfRange) =
      match if digits = [] then none else some (negative, Nat.ofDigitChars 10 digits 0) with
      | none => .error .invalidArguments
      | some (negative, magnitude) =>
        if Fits 32 (signed negative magnitude) then .ok (signed negative magnitude)
        else .error .outOfRange := by
  by_cases hnone : digits = []
  · rw [if_pos hnone, if_pos hnone]
  · have hvalue : (if negative then -digits.foldl (fun (n : Int) c => 10 * n + (c.toNat - '0'.toNat)) 0
        else digits.foldl (fun (n : Int) c => 10 * n + (c.toNat - '0'.toNat)) 0) =
        signed negative (Nat.ofDigitChars 10 digits 0) := by
      have hfold : digits.foldl (fun (n : Int) c => 10 * n + (c.toNat - '0'.toNat)) 0 =
          (Nat.ofDigitChars 10 digits 0 : Int) := foldl_digits h 0
      rw [hfold]
      rfl
    rw [if_neg hnone, if_neg hnone]
    simp only [hvalue]
    rfl

lemma stoi_eq (text : String) :
    ControlApp.stoi text = match strto text with
      | none => .error .invalidArguments
      | some (negative, magnitude) =>
        if Fits 32 (signed negative magnitude) then .ok (signed negative magnitude)
        else .error .outOfRange := by
  have hblank : (fun c : Char => decide (c.toNat ∈ [9, 10, 11, 12, 13, 32])) = isSpace := rfl
  have hdigits (chars : List Char) : ∀ c ∈ chars.takeWhile Char.isDigit, c.isDigit :=
    fun c hc => List.mem_takeWhile_imp hc
  unfold ControlApp.stoi strto
  rw [hblank]
  generalize text.toList.dropWhile isSpace = chars
  dsimp only
  split
  · next rest => exact stoi_digits true _ (hdigits rest)
  · next rest => exact stoi_digits false _ (hdigits rest)
  · next hminus hplus =>
    rw [sign_of_ne hminus hplus]
    exact stoi_digits false _ (hdigits chars)

lemma stoi_repr (n : Int) : (ControlApp.stoi n.repr).toOption = if Fits 32 n then some n else none := by
  rw [stoi_eq, strto_repr]
  simp only [signed_natAbs]
  split <;> rfl

lemma strncmp_deviceColumn (c c' : DeviceColumn) :
    strncmp (deviceColumn c) (deviceColumn c') 60 = decide (c = c') := by
  cases c <;> cases c' <;> decide

lemma strncmp_sessionColumn (c c' : SessionColumn) :
    strncmp (sessionColumn c) (sessionColumn c') 60 = decide (c = c') := by
  cases c <;> cases c' <;> decide

lemma deviceNames (type : DbType) : (devicesTable type).columns.map (fun c => c.name) =
    [deviceColumn .id, deviceColumn .hash, deviceColumn .name, deviceColumn .address,
      deviceColumn .port] := by
  cases type <;> rfl

lemma sessionNames (type : DbType) : (sessionsTable type).columns.map (fun c => c.name) =
    [sessionColumn .id, sessionColumn .name, sessionColumn .hash, sessionColumn .coreCount,
      sessionColumn .startTimestamp, sessionColumn .endTimestamp, sessionColumn .device] := by
  cases type <;> rfl

lemma toOption_bind {ε α β : Type} (x : Except ε α) (f : α → Except ε β) :
    (x >>= f).toOption = x.toOption.bind fun a => (f a).toOption := by
  cases x <;> rfl

lemma toOption_map {ε α β : Type} (x : Except ε α) (f : α → β) :
    (x.map f).toOption = x.toOption.map f := by
  cases x <;> rfl

lemma toOption_ok {ε α : Type} (a : α) : (Except.ok a : Except ε α).toOption = some a := rfl

lemma toOption_pure {ε α : Type} (a : α) : (pure a : Except ε α).toOption = some a := rfl

lemma setDeviceField_column (device : DeviceData) (c : DeviceColumn) (value : String) :
    setDeviceField device (deviceColumn c) value = match c with
      | .id => (stol value).map fun id => { device with id := id }
      | .hash => .ok { device with hash := value }
      | .name => .ok { device with name := value }
      | .address => .ok { device with address := value }
      | .port => (ControlApp.stoi value).map fun port => { device with port := port } := by
  unfold setDeviceField
  simp only [strncmp_deviceColumn]
  cases c <;> rfl

lemma setSessionField_column (session : SessionData) (c : SessionColumn) (value : String) :
    setSessionField session (sessionColumn c) value = match c with
      | .id => (stol value).map fun id => { session with id := id }
      | .hash => .ok { session with hash := value }
      | .name => .ok { session with name := value }
      | .startTimestamp => (stoul value).map fun started => { session with started := started }
      | .endTimestamp => (stoul value).map fun ended => { session with ended := ended }
      | .coreCount | .device => .ok session := by
  unfold setSessionField
  simp only [strncmp_sessionColumn]
  cases c <;> rfl

/-- Either backend reads the numbers of a row when they are in the range of their fields. -/
lemma decodeDevice_cells (type : DbType) (id port : Int) (hash name address : String) :
    decodeDevice type [.int id, .text hash, .text name, .text address, .int port] =
      if Fits 64 id ∧ Fits 32 port then some ⟨id, cStr hash, cStr name, cStr address, port, .unknown⟩
      else none := by
  have hread : decodeDevice type [.int id, .text hash, .text name, .text address, .int port] =
      (if Fits 64 id then some id else none).bind fun id =>
        (if Fits 32 port then some port else none).bind fun port =>
          some ⟨id, cStr hash, cStr name, cStr address, port, .unknown⟩ := by
    rw [← asSigned_repr, ← asSigned_repr]
    cases type with
    | postgreSQL => rfl
    | sqlite3 =>
      unfold decodeDevice callbackDevice
      rw [deviceNames]
      simp only [List.map_cons, List.map_nil, Cell.cString, List.zip_cons_cons, List.zip_nil_right,
        List.foldlM_cons, List.foldlM_nil, setDeviceField_column, toOption_bind, toOption_map,
        toOption_ok, toOption_pure, stol_repr, stoi_repr, asSigned_repr]
      cases (if Fits 64 id then some id else none) <;>
        cases (if Fits 32 port then some port else none) <;> rfl
  rw [hread]
  by_cases hid : Fits 64 id
  · by_cases hport : Fits 32 port
    · simp [hid, hport]
    · simp [hport]
  · simp [hid]

lemma decodeSession_cells (type : DbType) {id started ended : Int} (hid : Fits 64 id)
    (hstarted : Fits 64 started) (hended : Fits 64 ended) (coreCount device : Int)
    (hash name : String) :
    decodeSession type [.int id, .text name, .text hash, .int coreCount, .int started, .int ended,
      .int device] = some ⟨id, cStr hash, cStr name, toUInt64 started, toUInt64 ended, .unknown⟩ := by
  cases type with
  | postgreSQL =>
    have hread : decodeSession .postgreSQL [.int id, .text name, .text hash, .int coreCount,
        .int started, .int ended, .int device] =
        (asSigned 64 id.repr).bind fun id => (asSigned 64 started.repr).bind fun started =>
          (asSigned 64 ended.repr).bind fun ended =>
            some ⟨id, cStr hash, cStr name, toUInt64 started, toUInt64 ended, .unknown⟩ := rfl
    rw [hread, asSigned_repr, asSigned_repr, asSigned_repr, if_pos hid, if_pos hstarted, if_pos hended]
    rfl
  | sqlite3 =>
    unfold decodeSession callbackSession
    rw [sessionNames]
    simp only [List.map_cons, List.map_nil, Cell.cString, List.zip_cons_cons, List.zip_nil_right,
      List.foldlM_cons, List.foldlM_nil, setSessionField_column, toOption_bind, toOption_map,
      toOption_ok, toOption_pure, stol_repr, stoul_repr hstarted, stoul_repr hended, if_pos hid]
    rfl

lemma bits_le (type : DbType) (kind : ColumnKind) : kind.bits type ≤ 64 := by
  cases type <;> cases kind <;> decide

lemma admits_int {type : DbType} {kind : ColumnKind} {cell : Cell} (hkind : kind ≠ .text)
    (h : kind.Admits type cell) : ∃ n, cell = .int n ∧ Fits 64 n := by
  cases cell with
  | int n =>
    refine ⟨n, rfl, @Fits.mono (kind.bits type) 64 n ?_ (bits_le type kind)⟩
    cases kind with
    | text => exact absurd rfl hkind
    | real => exact h.elim
    | integerKey => exact h
    | serialKey => exact h
    | integer => exact h
    | bigint => exact h
  | text s =>
    cases kind with
    | text => exact absurd rfl hkind
    | real => exact h.elim
    | integerKey => exact h.elim
    | serialKey => exact h.elim
    | integer => exact h.elim
    | bigint => exact h.elim

lemma admits_text {type : DbType} {cell : Cell} (h : ColumnKind.text.Admits type cell) :
    ∃ s, cell = .text s := by
  cases cell with
  | int n => exact h.elim
  | text s => exact ⟨s, rfl⟩

lemma devices_admit {type : DbType} {row : List Cell} (h : (devicesTable type).Admits type row) :
    ∃ id hash name address port, Fits 64 id ∧
      row = [.int id, .text hash, .text name, .text address, .int port] := by
  have hcolumns : ∃ key, key ≠ .text ∧ (devicesTable type).columns =
      [⟨deviceColumn .id, key⟩, ⟨deviceColumn .hash, .text⟩, ⟨deviceColumn .name, .text⟩,
        ⟨deviceColumn .address, .text⟩, ⟨deviceColumn .port, .integer⟩] := by
    cases type with
    | sqlite3 => exact ⟨.integerKey, by decide, rfl⟩
    | postgreSQL => exact ⟨.serialKey, by decide, rfl⟩
  obtain ⟨key, hkey, hcolumns⟩ := hcolumns
  unfold TableDef.Admits at h
  rw [hcolumns] at h
  simp only [List.forall₂_cons_left_iff, List.forall₂_nil_left_iff] at h
  obtain ⟨id, _, hid, ⟨hash, _, hhash, ⟨name, _, hname, ⟨address, _, haddress,
    ⟨port, _, hport, rfl, rfl⟩, rfl⟩, rfl⟩, rfl⟩, rfl⟩ := h
  obtain ⟨id, rfl, hfits⟩ := admits_int hkey hid
  obtain ⟨hash, rfl⟩ := admits_text hhash
  obtain ⟨name, rfl⟩ := admits_text hname
  obtain ⟨address, rfl⟩ := admits_text haddress
  obtain ⟨port, rfl, -⟩ := admits_int (by decide) hport
  exact ⟨id, hash, name, address, port, hfits, rfl⟩

lemma sessions_admit {type : DbType} {row : List Cell} (h : (sessionsTable type).Admits type row) :
    ∃ id name hash cores started ended device, Fits 64 id ∧ Fits 64 started ∧ Fits 64 ended ∧
      row = [.int id, .text name, .text hash, .int cores, .int started, .int ended, .int device] := by
  have hcolumns : ∃ key count, key ≠ .text ∧ count ≠ .text ∧ (sessionsTable type).columns =
      [⟨sessionColumn .id, key⟩, ⟨sessionColumn .name, .text⟩, ⟨sessionColumn .hash, .text⟩,
        ⟨sessionColumn .coreCount, count⟩, ⟨sessionColumn .startTimestamp, count⟩,
        ⟨sessionColumn .endTimestamp, count⟩, ⟨sessionColumn .device, .integer⟩] := by
    cases type with
    | sqlite3 => exact ⟨.integerKey, .integer, by decide, by decide, rfl⟩
    | postgreSQL => exact ⟨.serialKey, .bigint, by decide, by decide, rfl⟩
  obtain ⟨key, count, hkey, hcount, hcolumns⟩ := hcolumns
  unfold TableDef.Admits at h
  rw [hcolumns] at h
  simp only [List.forall₂_cons_left_iff, List.forall₂_nil_left_iff] at h
  obtain ⟨id, _, hid, ⟨name, _, hname, ⟨hash, _, hhash, ⟨cores, _, hcores, ⟨started, _, hstarted,
    ⟨ended, _, hended, ⟨device, _, hdevice, rfl, rfl⟩, rfl⟩, rfl⟩, rfl⟩, rfl⟩, rfl⟩, rfl⟩ := h
  obtain ⟨id, rfl, hidFits⟩ := admits_int hkey hid
  obtain ⟨name, rfl⟩ := admits_text hname
  obtain ⟨hash, rfl⟩ := admits_text hhash
  obtain ⟨cores, rfl, -⟩ := admits_int hcount hcores
  obtain ⟨started, rfl, hstartedFits⟩ := admits_int hcount hstarted
  obtain ⟨ended, rfl, hendedFits⟩ := admits_int hcount hended
  obtain ⟨device, rfl, -⟩ := admits_int (by decide) hdevice
  exact ⟨id, name, hash, cores, started, ended, device, hidFits, hstartedFits, hendedFits, rfl⟩

/-- From every row of the devices with a 32-bit port both backends build the same data. -/
theorem devices_alike {type : DbType} {row : List Cell} (h : (devicesTable type).Admits type row)
    (hport : ∀ port, row[DeviceColumn.port.ctorIdx]? = some (.int port) → Fits 32 port) :
    ∃ d, decodeDevice .sqlite3 row = some d ∧ decodeDevice .postgreSQL row = some d := by
  obtain ⟨id, hash, name, address, port, hid, rfl⟩ := devices_admit h
  refine ⟨⟨id, cStr hash, cStr name, cStr address, port, .unknown⟩, ?_, ?_⟩
  · rw [decodeDevice_cells, if_pos ⟨hid, hport port rfl⟩]
  · rw [decodeDevice_cells, if_pos ⟨hid, hport port rfl⟩]

/-- From every row of the sessions both backends build the same data. -/
theorem sessions_alike {type : DbType} {row : List Cell} (h : (sessionsTable type).Admits type row) :
    ∃ s, decodeSession .sqlite3 row = some s ∧ decodeSession .postgreSQL row = some s := by
  obtain ⟨id, name, hash, cores, started, ended, device, hid, hstarted, hended, rfl⟩ := sessions_admit h
  exact ⟨_, decodeSession_cells .sqlite3 hid hstarted hended cores device hash name,
    decodeSession_cells .postgreSQL hid hstarted hended cores device hash name⟩

lemma cStr_of_notMem {s : String} (h : '\x00' ∉ s.toList) : cStr s = s := by
  unfold cStr
  rw [List.takeWhile_eq_self_iff.mpr, String.ofList_toList]
  intro c hc
  simpa using ne_of_mem_of_not_mem hc h

lemma cStr_of_plain {s : String} (h : Plain s) : cStr s = s := cStr_of_notMem h.2

/-- The data that the handlers list for a device is what either backend reads from its row. -/
theorem decodeDevice_toData (type : DbType) {row : DeviceRow} (hid : Fits 64 row.id)
    (hport : Fits 32 row.port) (hplain : Plain row.hash ∧ Plain row.name ∧ Plain row.address) :
    decodeDevice type row.cells = some (DeviceRow.toData row) := by
  unfold DeviceRow.cells DeviceRow.toData
  rw [decodeDevice_cells, if_pos ⟨hid, hport⟩, cStr_of_plain hplain.1, cStr_of_plain hplain.2.1,
    cStr_of_plain hplain.2.2]

theorem decodeSession_toData (type : DbType) {row : SessionRow} (hid : Fits 64 row.id)
    (hstart : row.startTimestamp < 2 ^ 63) (hend : row.endTimestamp < 2 ^ 63)
    (hplain : Plain row.hash ∧ Plain row.name) :
    decodeSession type row.cells = some (SessionRow.toData row) := by
  have hfits {n : Nat} (h : n < 2 ^ 63) : Fits 64 (n : Int) ∧ toUInt64 n = n := by
    unfold Fits toUInt64
    omega
  unfold SessionRow.cells SessionRow.toData
  rw [decodeSession_cells type hid (hfits hstart).1 (hfits hend).1, cStr_of_plain hplain.1,
    cStr_of_plain hplain.2, (hfits hstart).2, (hfits hend).2]

end TkmCollector.Proofs
