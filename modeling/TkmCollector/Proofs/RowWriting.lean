import TkmCollector.Proofs.QueryEncoding
import TkmCollector.Proofs.RowDecoding

/-!
# What comes back from a row that was written

The texts of `addDevice` and `addSession` list their strings between quotes. The strings go into
the row as they are, and come back from it, exactly when they are plain. The row is then the one
that the statement of the builder adds.
-/

namespace TkmCollector.Proofs

open SqlText Query CNumber Database SQLiteDatabase PQDatabase
open Control (DeviceData SessionData)

def upToNull (cs : List Char) : List Char := cs.takeWhile fun c => c ≠ '\x00'

/-- The columns that `addDevice` lists. -/
def deviceListed : List String :=
  [deviceColumn .hash, deviceColumn .name, deviceColumn .address, deviceColumn .port]

/-- The columns that `addSession` lists, with the hash in front of the name. -/
def sessionListed : List String :=
  [sessionColumn .hash, sessionColumn .name, sessionColumn .coreCount, sessionColumn .startTimestamp,
    sessionColumn .endTimestamp, sessionColumn .device]

lemma deviceListed_names : Names devicesTableName deviceListed where
  table_plain := by decide
  columns_ne := by decide
  columns_comma := by decide
  columns_plain := by decide

lemma sessionListed_names : Names sessionsTableName sessionListed where
  table_plain := by decide
  columns_ne := by decide
  columns_comma := by decide
  columns_plain := by decide

/-- The literals at the head of the values, as the server gets them. -/
def heads (values : List Char) : List String := leadingLiterals (lexFrom .code (upToNull values))

lemma insertHead_cut {table : String} {columns : List String} (h : Names table columns)
    (hplain : quote ∉ insertCode table columns ∧ '\x00' ∉ insertCode table columns) {text : String}
    {values : List Char} (htext : text.toList = insertCode table columns ++ values) :
    insertHead (lex (cStr text)) = some ⟨table, columns, heads values⟩ := by
  have hcut : (cStr text).toList = insertCode table columns ++ upToNull values := by
    rw [toList_cStr, htext, List.takeWhile_append_of_pos]
    · rfl
    · intro c hc
      simpa using ne_of_mem_of_not_mem hc hplain.2
  unfold lex
  rw [hcut, lexFrom_code_append hplain.1, insertHead_text h]
  rfl

lemma cStr_of_mem_heads {values : List Char} {l : String} (h : l ∈ heads values) : cStr l = l := by
  have hplain : ∀ c ∈ l.toList, c ≠ '\x00' :=
    mem_of_lit_mem .code (by simp [Mode.value])
      (fun c hc => by simpa using List.mem_takeWhile_imp hc) (lit_mem_of_leading h)
  exact cStr_of_notMem fun hmem => hplain _ hmem rfl

lemma plain_iff (l : String) :
    (QuoteFree l ∧ ∀ c ∈ l.toList, decide (c ≠ '\x00') = true) ↔ Plain l := by
  unfold Plain
  refine and_congr_right fun _ => ⟨fun h hmem => ?_, fun h c hc => ?_⟩
  · simpa using h _ hmem
  · simpa using ne_of_mem_of_not_mem hc h

/-- The strings come first among the literals exactly when they are plain. -/
lemma heads_prefix_iff (ls : List String) (tail : List Char) :
    ls <+: heads (listedText ls ++ tail) ↔ ∀ l ∈ ls, Plain l := by
  have h := leading_cut_iff (p := fun c => decide (c ≠ '\x00')) (by decide) (by decide)
    (by decide) ls tail
  simp only [plain_iff] at h
  exact h

lemma heads_listed {ls : List String} (h : ∀ l ∈ ls, Plain l) (tail : List Char) :
    heads (listedText ls ++ tail) = ls ++ heads tail := by
  unfold heads upToNull
  rw [takeWhile_listed (by decide) (by decide) (by decide) fun l hl => ((plain_iff l).mpr (h l hl)).2,
    leading_listed fun l hl => (h l hl).1]

lemma plain_repr (n : Int) : Plain n.repr :=
  ⟨quoteFree_int n, null_notMem_int n⟩

/-- The last value of a device and the end of the statement. -/
def portTail (port : Int) : List Char := quote :: (port.repr.toList ++ [quote, ')', ';'])

/-- The device of a session and the end of the statement. -/
def deviceTail (type : DbType) (deviceHash : String) : List Char :=
  (deviceSelect type deviceHash).toList ++ [')', ';']

lemma heads_portTail (port : Int) : heads (portTail port) = [port.repr] := by
  have hcut : upToNull (portTail port) = portTail port := by
    unfold upToNull portTail
    rw [List.takeWhile_eq_self_iff]
    intro c hc
    simp only [List.mem_cons, List.mem_append, List.not_mem_nil, or_false] at hc
    rcases hc with rfl | hc | rfl | rfl | rfl
    · decide
    · simpa using ne_of_mem_of_not_mem hc (plain_repr port).2
    · decide
    · decide
    · decide
  have hlex : lexFrom .code (portTail port) = [.lit port.repr.toList, .char ')', .char ';'] :=
    lexFrom_literal (plain_repr port).1 (by decide) [';']
  unfold heads
  rw [hcut, hlex, leadingLiterals, if_neg (by decide), String.ofList_toList]

lemma heads_deviceTail (type : DbType) (deviceHash : String) :
    heads (deviceTail type deviceHash) = [] := by
  obtain ⟨rest, hrest⟩ : ∃ rest, deviceTail type deviceHash = '(' :: rest := by
    unfold deviceTail
    rw [deviceSelect_text]
    simp [Statement.devicePieces, Piece.text]
  unfold heads upToNull
  rw [hrest, List.takeWhile_cons_of_pos (by decide), lexFrom, if_neg (by decide)]
  rfl

/-- What follows the columns in the text of `addDevice`. -/
def deviceValues (hash name address : String) (port : Int) : List Char :=
  listedText [hash, name, address] ++ portTail port

/-- What follows the columns in the text of `addSession`. -/
def sessionValues (type : DbType) (info : Monitor.SessionInfo) (deviceHash : String)
    (startTimestamp : Nat) : List Char :=
  listedText [info.hash, info.name] ++
    (listedText [info.coreCount.repr, startTimestamp.repr, "0"] ++ deviceTail type deviceHash)

lemma addDevice_values (hash name address : String) (port : Int) :
    (addDevice hash name address port).toList =
      insertCode devicesTableName deviceListed ++ deviceValues hash name address port := by
  have hcode : insertCode devicesTableName deviceListed =
      "INSERT INTO tkmDevices (Hash,Name,Address,Port) VALUES (".toList := by decide
  unfold deviceValues
  rw [hcode, addDevice_text .sqlite3]
  simp [Statement.pieces, Piece.text, listedText, portTail, quote, toString]

lemma addSession_values (type : DbType) (info : Monitor.SessionInfo) (deviceHash : String)
    (startTimestamp : Nat) :
    (addSession type info deviceHash startTimestamp).toList =
      insertCode sessionsTableName sessionListed ++
        sessionValues type info deviceHash startTimestamp := by
  have hcode : insertCode sessionsTableName sessionListed =
      ("INSERT INTO tkmSessions (Hash,Name,CoreCount,StartTimestamp,EndTimestamp,Device) " ++
        "VALUES (").toList := by
    decide
  unfold sessionValues deviceTail
  rw [hcode, addSession_text, deviceSelect_text]
  simp [Statement.pieces, render_append, Piece.text, listedText, quote, toString]

lemma store_int {type : DbType} {kind : ColumnKind} {literal : String} {cell : Cell}
    (hkind : kind ≠ .text) (h : kind.store type literal = some cell) :
    ∃ n, cell = .int n ∧ Fits 64 n := by
  have hnumber : ((fromChars literal).filter fun n => Fits (kind.bits type) n).map .int = some cell →
      ∃ n, cell = .int n ∧ Fits 64 n := by
    intro h
    rw [Option.map_eq_some_iff] at h
    obtain ⟨n, hn, rfl⟩ := h
    rw [Option.filter_eq_some_iff] at hn
    exact ⟨n, rfl, Fits.mono (by simpa using hn.2) (bits_le type kind)⟩
  cases kind with
  | text => exact absurd rfl hkind
  | real => cases h
  | integerKey => exact hnumber h
  | serialKey => exact hnumber h
  | integer => exact hnumber h
  | bigint => exact hnumber h

lemma store_repr {type : DbType} {kind : ColumnKind} (hkind : kind = .integer ∨ kind = .bigint)
    {n : Int} (h : Fits (kind.bits type) n) : kind.store type n.repr = some (.int n) := by
  have hnumber : ((fromChars n.repr).filter fun n => Fits (kind.bits type) n).map Cell.int =
      some (.int n) := by
    rw [fromChars_repr, Option.filter_some, if_pos (by simpa using h)]
    rfl
  rcases hkind with rfl | rfl
  · exact hnumber
  · exact hnumber

/-- The row of a device with the given key and literals. -/
def rowOfDevice (type : DbType) (id : Int) (literals : List String) : Option (List Cell) :=
  storeRow type (devicesTable type) [(deviceColumn .id, id)]
    ⟨devicesTableName, deviceListed, literals⟩

/-- The row of a session with the given key, device and literals. -/
def rowOfSession (type : DbType) (id device : Int) (literals : List String) : Option (List Cell) :=
  storeRow type (sessionsTable type) [(sessionColumn .id, id), (sessionColumn .device, device)]
    ⟨sessionsTableName, sessionListed, literals⟩

lemma rowOfDevice_eq (type : DbType) (id : Int) (hash name address port : String)
    (rest : List String) :
    rowOfDevice type id (hash :: name :: address :: port :: rest) =
      (ColumnKind.integer.store type port).bind fun cell =>
        some [.int id, .text hash, .text name, .text address, cell] := by
  cases type <;> rfl

lemma rowOfDevice_some {type : DbType} {id : Int} {literals : List String} {row : List Cell}
    (h : rowOfDevice type id literals = some row) :
    ∃ hash name address port rest n, literals = hash :: name :: address :: port :: rest ∧
      row = [.int id, .text hash, .text name, .text address, .int n] := by
  rcases literals with _ | ⟨hash, _ | ⟨name, _ | ⟨address, _ | ⟨port, rest⟩⟩⟩⟩
  · cases type <;> cases h
  · cases type <;> cases h
  · cases type <;> cases h
  · cases type <;> cases h
  · rw [rowOfDevice_eq, Option.bind_eq_some_iff] at h
    obtain ⟨cell, hcell, hrow⟩ := h
    obtain ⟨n, rfl, -⟩ := store_int (by decide) hcell
    exact ⟨hash, name, address, port, rest, n, rfl, (Option.some.inj hrow).symm⟩

/-- The type of the counts and times of a session. -/
def countKind : DbType → ColumnKind
  | .sqlite3 => .integer
  | .postgreSQL => .bigint

lemma countKind_bits (type : DbType) : (countKind type).bits type = 64 := by
  cases type <;> rfl

lemma rowOfSession_eq (type : DbType) (id device : Int) (hash name cores started ended : String)
    (rest : List String) :
    rowOfSession type id device (hash :: name :: cores :: started :: ended :: rest) =
      ((countKind type).store type cores).bind fun cores =>
        ((countKind type).store type started).bind fun started =>
          ((countKind type).store type ended).bind fun ended =>
            some [.int id, .text name, .text hash, cores, started, ended, .int device] := by
  cases type <;> rfl

lemma rowOfSession_some {type : DbType} {id device : Int} {literals : List String} {row : List Cell}
    (h : rowOfSession type id device literals = some row) :
    ∃ hash name rest cores started ended, literals = hash :: name :: rest ∧
      Fits 64 started ∧ Fits 64 ended ∧ row = [.int id, .text name, .text hash, .int cores,
        .int started, .int ended, .int device] := by
  rcases literals with _ | ⟨hash, _ | ⟨name, _ | ⟨cores, _ | ⟨started, _ | ⟨ended, rest⟩⟩⟩⟩⟩
  · cases type <;> cases h
  · cases type <;> cases h
  · cases type <;> cases h
  · have hrow : rowOfSession type id device [hash, name, cores] =
        ((countKind type).store type cores).bind fun _ => none := by
      cases type <;> rfl
    simp [hrow] at h
  · have hrow : rowOfSession type id device [hash, name, cores, started] =
        ((countKind type).store type cores).bind fun _ =>
          ((countKind type).store type started).bind fun _ => none := by
      cases type <;> rfl
    simp [hrow] at h
  · have hkind : countKind type ≠ .text := by cases type <;> decide
    rw [rowOfSession_eq, Option.bind_eq_some_iff] at h
    obtain ⟨cell, hcell, h⟩ := h
    obtain ⟨cores, rfl, -⟩ := store_int hkind hcell
    rw [Option.bind_eq_some_iff] at h
    obtain ⟨cell, hcell, h⟩ := h
    obtain ⟨started, rfl, hstarted⟩ := store_int hkind hcell
    rw [Option.bind_eq_some_iff] at h
    obtain ⟨cell, hcell, h⟩ := h
    obtain ⟨ended, rfl, hended⟩ := store_int hkind hcell
    exact ⟨hash, name, _, cores, started, ended, rfl, hstarted, hended, (Option.some.inj h).symm⟩

section

variable (type : DbType)

lemma insertedRow_device (id : Int) (hash name address : String) (port : Int) :
    insertedRow type (devicesTable type) [(deviceColumn .id, id)]
        (addDevice hash name address port) =
      rowOfDevice type id (heads (deviceValues hash name address port)) := by
  have hhead := insertHead_cut deviceListed_names (by decide)
    (addDevice_values hash name address port)
  unfold insertedRow
  rw [hhead]
  cases type <;> rfl

lemma insertedRow_session (id device : Int) (info : Monitor.SessionInfo) (deviceHash : String)
    (startTimestamp : Nat) :
    insertedRow type (sessionsTable type)
        [(sessionColumn .id, id), (sessionColumn .device, device)]
        (addSession type info deviceHash startTimestamp) =
      rowOfSession type id device (heads (sessionValues type info deviceHash startTimestamp)) := by
  have hhead := insertHead_cut sessionListed_names (by decide)
    (addSession_values type info deviceHash startTimestamp)
  unfold insertedRow
  rw [hhead]
  cases type <;> rfl

lemma device_written (id : Int) {hash name address : String} {port : Int}
    (hplain : Plain hash ∧ Plain name ∧ Plain address) (hport : Fits 32 port) :
    insertedRow type (devicesTable type) [(deviceColumn .id, id)]
        (addDevice hash name address port) =
      some [.int id, .text hash, .text name, .text address, .int port] := by
  have hbits : Fits (ColumnKind.integer.bits type) port := by
    cases type with
    | sqlite3 => exact hport.mono (by decide)
    | postgreSQL => exact hport
  have hheads : heads (deviceValues hash name address port) = [hash, name, address, port.repr] := by
    unfold deviceValues
    rw [heads_listed (by simpa using hplain), heads_portTail]
    rfl
  rw [insertedRow_device, hheads, rowOfDevice_eq, store_repr (Or.inl rfl) hbits]
  rfl

lemma session_written (id device : Int) {info : Monitor.SessionInfo} (deviceHash : String)
    {startTimestamp : Nat} (hplain : Plain info.hash ∧ Plain info.name)
    (hcores : Fits 64 info.coreCount) (hstart : startTimestamp < 2 ^ 63) :
    insertedRow type (sessionsTable type)
        [(sessionColumn .id, id), (sessionColumn .device, device)]
        (addSession type info deviceHash startTimestamp) =
      some [.int id, .text info.name, .text info.hash, .int info.coreCount, .int startTimestamp,
        .int 0, .int device] := by
  have hstartFits : Fits 64 (startTimestamp : Int) := by
    unfold Fits
    omega
  have hkind : countKind type = .integer ∨ countKind type = .bigint := by
    cases type <;> decide
  have hstore (n : Int) (h : Fits 64 n) : (countKind type).store type n.repr = some (.int n) :=
    store_repr hkind (by rwa [countKind_bits])
  have hnumbers : ∀ l ∈ [info.coreCount.repr, startTimestamp.repr, "0"], Plain l := by
    simp only [List.forall_mem_cons, List.not_mem_nil, false_imp_iff, implies_true, and_true]
    exact ⟨plain_repr _, plain_repr startTimestamp, by decide⟩
  have hheads : heads (sessionValues type info deviceHash startTimestamp) =
      [info.hash, info.name, info.coreCount.repr, startTimestamp.repr, "0"] := by
    unfold sessionValues
    rw [heads_listed (by simpa using hplain), heads_listed hnumbers, heads_deviceTail]
    rfl
  have hrepr : startTimestamp.repr = (startTimestamp : Int).repr := rfl
  have hzero : "0" = (0 : Int).repr := rfl
  rw [insertedRow_session, hheads, rowOfSession_eq, hstore _ hcores, hrepr, hstore _ hstartFits,
    hzero, hstore 0 (by decide)]
  rfl

/-- A device comes back as it was written exactly when its strings are plain. -/
theorem storedDevice_iff {id port : Int} (hid : Fits 64 id) (hport : Fits 32 port)
    (hash name address : String) :
    storedDevice type id (addDevice hash name address port) =
        some ⟨id, hash, name, address, port, .unknown⟩ ↔
      Plain hash ∧ Plain name ∧ Plain address := by
  unfold storedDevice
  constructor
  · intro h
    rw [Option.bind_eq_some_iff] at h
    obtain ⟨row, hrow, hread⟩ := h
    rw [insertedRow_device] at hrow
    obtain ⟨hash', name', address', port', rest, n, hheads, rfl⟩ := rowOfDevice_some hrow
    have hcut : cStr hash' = hash' ∧ cStr name' = name' ∧ cStr address' = address' := by
      refine ⟨?_, ?_, ?_⟩ <;> apply cStr_of_mem_heads <;> rw [hheads] <;> simp
    rw [decodeDevice_cells, hcut.1, hcut.2.1, hcut.2.2] at hread
    split at hread
    · simp only [Option.some.injEq, DeviceData.mk.injEq] at hread
      obtain ⟨-, rfl, rfl, rfl, -⟩ := hread
      have hfirst : [hash', name', address'] <+: heads (deviceValues hash' name' address' port) :=
        ⟨port' :: rest, by rw [hheads]; rfl⟩
      simpa using (heads_prefix_iff _ _).mp hfirst
    · cases hread
  · intro h
    rw [device_written type id h hport, Option.bind_some, decodeDevice_cells, if_pos ⟨hid, hport⟩,
      cStr_of_plain h.1, cStr_of_plain h.2.1, cStr_of_plain h.2.2]

/-- A session comes back as it was written exactly when its strings are plain. -/
theorem storedSession_iff {id : Int} (hid : Fits 64 id) (device : Int) {info : Monitor.SessionInfo}
    (hcores : Fits 64 info.coreCount) (deviceHash : String) {startTimestamp : Nat}
    (hstart : startTimestamp < 2 ^ 63) :
    storedSession type id device (addSession type info deviceHash startTimestamp) =
        some ⟨id, info.hash, info.name, startTimestamp, 0, .unknown⟩ ↔
      Plain info.hash ∧ Plain info.name := by
  have hstartFits : Fits 64 (startTimestamp : Int) ∧ toUInt64 startTimestamp = startTimestamp := by
    unfold Fits toUInt64
    omega
  unfold storedSession
  constructor
  · intro h
    rw [Option.bind_eq_some_iff] at h
    obtain ⟨row, hrow, hread⟩ := h
    rw [insertedRow_session] at hrow
    obtain ⟨hash', name', rest, cores, started, ended, hheads, hstarted, hended, rfl⟩ :=
      rowOfSession_some hrow
    have hcut : cStr hash' = hash' ∧ cStr name' = name' := by
      refine ⟨?_, ?_⟩ <;> apply cStr_of_mem_heads <;> rw [hheads] <;> simp
    rw [decodeSession_cells type hid hstarted hended, hcut.1, hcut.2] at hread
    simp only [Option.some.injEq, SessionData.mk.injEq] at hread
    obtain ⟨-, hhash, hname, -⟩ := hread
    rw [hhash, hname] at hheads
    have hfirst : [info.hash, info.name] <+:
        heads (sessionValues type info deviceHash startTimestamp) :=
      ⟨rest, by rw [hheads]; rfl⟩
    simpa using (heads_prefix_iff _ _).mp hfirst
  · intro h
    rw [session_written type id device deviceHash h hcores hstart, Option.bind_some,
      decodeSession_cells type hid hstartFits.1 (by decide), cStr_of_plain h.1, cStr_of_plain h.2,
      hstartFits.2]
    rfl

end

/-- The row that the text of `addDevice` writes is the one that its statement adds. -/
theorem insertDevice_row (type : DbType) (t : Tables) {hash name address : String} {port : Int}
    (hplain : Plain hash ∧ Plain name ∧ Plain address) (hport : Fits 32 port) :
    ∃ t' row, Statement.exec type t (.insertDevice hash name address port) = some (t', .done) ∧
      t'.devices = t.devices ++ [row] ∧
      insertedRow type (devicesTable type) [(deviceColumn .id, row.id)]
        (addDevice hash name address port) = some row.cells :=
  ⟨_, ⟨newId type (t.devices.map (·.id)) t.deviceSeq, hash, name, address, port⟩, rfl, rfl,
    device_written type _ hplain hport⟩

/-- The row that the text of `addSession` writes is the one that its statement adds, for the
device that the sub-select finds. -/
theorem insertSession_row {type : DbType} {t : Tables} {info : Monitor.SessionInfo}
    {deviceHash : String} {startTimestamp : Nat} (hplain : Plain info.hash ∧ Plain info.name)
    (hcores : Fits 64 info.coreCount) (hstart : startTimestamp < 2 ^ 63) {owner : Nat}
    (howner : scalar type ((t.devicesWith (hashMatches type) deviceHash).map (·.id)) = some owner) :
    ∃ t' row, Statement.exec type t (.insertSession info.hash info.name info.coreCount startTimestamp
        deviceHash) = some (t', .done) ∧ t'.sessions = t.sessions ++ [row] ∧ row.device = owner ∧
      insertedRow type (sessionsTable type)
        [(sessionColumn .id, row.id), (sessionColumn .device, row.device)]
        (addSession type info deviceHash startTimestamp) = some row.cells := by
  let row : SessionRow := ⟨newId type (t.sessions.map (·.id)) t.sessionSeq, info.name, info.hash,
    info.coreCount, startTimestamp, 0, owner⟩
  refine ⟨{ t with sessions := t.sessions ++ [row], sessionSeq := t.sessionSeq + 1 }, row, ?_, rfl, rfl,
    session_written type _ owner deviceHash hplain hcores hstart⟩
  simp only [Statement.exec, Statement.execWith, howner]
  rfl

/-- Both backends build the same data from every row of the two tables. What a builder writes
comes back from the row exactly when the strings that go into the row are plain. -/
theorem rows_come_back (type : DbType) :
    (∀ row, (devicesTable type).Admits type row →
      (∀ port, row[DeviceColumn.port.ctorIdx]? = some (.int port) → Fits 32 port) →
      ∃ d, decodeDevice .sqlite3 row = some d ∧ decodeDevice .postgreSQL row = some d) ∧
    (∀ row, (sessionsTable type).Admits type row →
      ∃ s, decodeSession .sqlite3 row = some s ∧ decodeSession .postgreSQL row = some s) ∧
    (∀ id hash name address port, Fits 64 id → Fits 32 port →
      (storedDevice type id (addDevice hash name address port) =
          some ⟨id, hash, name, address, port, .unknown⟩ ↔
        Plain hash ∧ Plain name ∧ Plain address)) ∧
    (∀ id device info deviceHash startTimestamp, Fits 64 id → Fits 64 info.coreCount →
      startTimestamp < 2 ^ 63 →
      (storedSession type id device (addSession type info deviceHash startTimestamp) =
          some ⟨id, info.hash, info.name, startTimestamp, 0, .unknown⟩ ↔
        Plain info.hash ∧ Plain info.name)) := by
  refine ⟨?_, ?_, ?_, ?_⟩
  · intro row hrow hport
    exact devices_alike hrow hport
  · intro row hrow
    exact sessions_alike hrow
  · intro id hash name address port hid hport
    exact storedDevice_iff type hid hport hash name address
  · intro id device info deviceHash startTimestamp hid hcores hstart
    exact storedSession_iff type hid device hcores deviceHash hstart

theorem rows_come_back_localhost :
    (∃ d, decodeDevice .sqlite3 [.int 1, .text "17", .text "board", .text "host", .int 3357] = some d ∧
      decodeDevice .postgreSQL [.int 1, .text "17", .text "board", .text "host", .int 3357] = some d) ∧
    (∃ s, decodeSession .sqlite3
        [.int 1, .text "run", .text "5", .int 4, .int 1600, .int 0, .int 1] = some s ∧
      decodeSession .postgreSQL
        [.int 1, .text "run", .text "5", .int 4, .int 1600, .int 0, .int 1] = some s) ∧
    storedDevice .postgreSQL 1 (addDevice "17" "board" "host" 3357) =
      some ⟨1, "17", "board", "host", 3357, .unknown⟩ ∧
    storedSession .postgreSQL 1 1 (addSession .postgreSQL
        { (default : Monitor.SessionInfo) with hash := "5", name := "run" } "17" 1600) =
      some ⟨1, "5", "run", 1600, 0, .unknown⟩ := by
  have hone : Fits 64 1 := by decide
  have hport : Fits 32 3357 := by decide
  refine ⟨?_, ?_, ?_, ?_⟩
  · apply (rows_come_back .sqlite3).1
    · have hlast : Fits 64 3357 := by decide
      exact .cons hone (.cons trivial (.cons trivial (.cons trivial (.cons hlast .nil))))
    · intro port hrow
      have heq : (3357 : Int) = port := Cell.int.inj (Option.some.inj hrow)
      exact heq ▸ hport
  · have hcores : Fits 64 4 := by decide
    have hstart : Fits 64 1600 := by decide
    have hend : Fits 64 0 := by decide
    apply (rows_come_back .sqlite3).2.1
    exact .cons hone (.cons trivial (.cons trivial (.cons hcores (.cons hstart (.cons hend
      (.cons hone .nil))))))
  · apply ((rows_come_back .postgreSQL).2.2.1 1 "17" "board" "host" 3357 hone hport).mpr
    decide
  · apply ((rows_come_back .postgreSQL).2.2.2 1 1 _ "17" 1600 hone (by decide) (by decide)).mpr
    decide

/-- Two quotes in a name come back as one. -/
theorem name_not_brought_back :
    storedDevice .sqlite3 1 (addDevice "17" "a''b" "localhost" 3357) =
        some ⟨1, "17", "a'b", "localhost", 3357, .unknown⟩ ∧
      storedDevice .sqlite3 1 (addDevice "17" "a''b" "localhost" 3357) ≠
        some ⟨1, "17", "a''b", "localhost", 3357, .unknown⟩ := by
  decide +kernel

end TkmCollector.Proofs
