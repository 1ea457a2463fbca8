import TkmCollector.Query
import TkmCollector.Library.SqlText
import TkmCollector.Library.LikePattern

/-!
# Statements and tables

What the texts of the builders are meant to say. A `Statement` carries the arguments of a
builder as values; it has a way to be written down, and a meaning on the tables.
-/

namespace TkmCollector

open SqlText Query

inductive Statement where
  | devices
  | device (hash : String)
  | deviceId (hash : String)
  | insertDevice (hash name address : String) (port : Int)
  | deleteDevices (hash : String)
  | sessions
  | sessionsOf (deviceHash : String)
  | session (hash : String)
  | sessionId (hash : String)
  | insertSession (hash name : String) (coreCount : Int) (startTimestamp : Nat) (deviceHash : String)
  | endSessions (hash : String) (now : Nat)
  | deleteSessions (hash : String)
  | insertData (i : Insert) (sessionHash : String)
  deriving DecidableEq

/-- The statements that a builder is meant to write. -/
def Query.Call.statements : Call → List Statement
  | .getDevices => [.devices]
  | .addDevice hash name address port => [.insertDevice hash name address port]
  | .remDevice hash => [.deleteDevices hash]
  | .getDevice hash => [.device hash]
  | .hasDevice hash => [.deviceId hash]
  | .getSessions => [.sessions]
  | .getSessionsOf deviceHash => [.sessionsOf deviceHash]
  | .addSession info deviceHash startTimestamp =>
    [.insertSession info.hash info.name info.coreCount startTimestamp deviceHash]
  | .endSession hash now => [.endSessions hash now]
  | .remSession hash => [.deleteSessions hash]
  | .getSession hash => [.session hash]
  | .hasSession hash => [.sessionId hash]
  | .addData sessionHash m t => (m.inserts t).map (.insertData · sessionHash)

namespace Statement

/-- A sub-select for the device with the given hash. -/
def devicePieces (type : DbType) (deviceHash : String) : List Piece :=
  [.code ("(SELECT Id FROM tkmDevices WHERE Hash" ++ hashOperator type), .lit deviceHash, .code ")"]

/-- The statement with every argument as one literal. -/
def pieces (type : DbType) : Statement → List Piece
  | .devices => [.code "SELECT *  FROM tkmDevices;"]
  | .device hash =>
    [.code ("SELECT * FROM tkmDevices WHERE Hash" ++ hashOperator type), .lit hash, .code " LIMIT 1;"]
  | .deviceId hash =>
    [.code ("SELECT Id FROM tkmDevices WHERE Hash" ++ hashOperator type), .lit hash, .code " LIMIT 1;"]
  | .insertDevice hash name address port =>
    [.code "INSERT INTO tkmDevices (Hash,Name,Address,Port) VALUES (", .lit hash, .code ", ",
      .lit name, .code ", ", .lit address, .code ", ", .lit (toString port), .code ");"]
  | .deleteDevices hash =>
    [.code ("DELETE FROM tkmDevices WHERE Hash" ++ hashOperator type), .lit hash, .code ";"]
  | .sessions => [.code "SELECT *  FROM tkmSessions;"]
  | .sessionsOf deviceHash =>
    [.code ("SELECT * FROM tkmSessions WHERE Device" ++ hashOperator type)] ++
      devicePieces type deviceHash ++ [.code ";"]
  | .session hash =>
    [.code ("SELECT * FROM tkmSessions WHERE Hash" ++ hashOperator type), .lit hash, .code " LIMIT 1;"]
  | .sessionId hash =>
    [.code ("SELECT Id FROM tkmSessions WHERE Hash" ++ hashOperator type), .lit hash, .code " LIMIT 1;"]
  | .insertSession hash name coreCount startTimestamp deviceHash =>
    [.code
        "INSERT INTO tkmSessions (Hash,Name,CoreCount,StartTimestamp,EndTimestamp,Device) VALUES (",
      .lit hash, .code ", ", .lit name, .code ", ", .lit (toString coreCount), .code ", ",
      .lit (toString startTimestamp), .code ", ", .lit "0", .code ", "] ++
      devicePieces type deviceHash ++ [.code ");"]
  | .endSessions hash now =>
    [.code "UPDATE tkmSessions SET EndTimestamp = ", .lit (toString now),
      .code (" WHERE Hash" ++ hashOperator type), .lit hash, .code ";"]
  | .deleteSessions hash =>
    [.code ("DELETE FROM tkmSessions WHERE Hash" ++ hashOperator type), .lit hash, .code ";"]
  | .insertData i sessionHash =>
    [.code ("INSERT INTO " ++ i.table ++ " (" ++ ",".intercalate i.columns ++ ") VALUES (")] ++
      (i.values.flatMap fun v => [.lit v.render, .code ", "]) ++
      [.code ("(SELECT Id FROM tkmSessions WHERE Hash" ++ hashOperator type), .lit sessionHash,
        .code " AND EndTimestamp = 0));"]

/-- The string of the caller in a value. -/
def valueString : Value → Option String
  | .text s => some s
  | .int _ | .float _ => none

/-- The strings of the caller in a statement. -/
def strings : Statement → List String
  | .devices | .sessions => []
  | .device hash | .deviceId hash | .deleteDevices hash | .session hash | .sessionId hash
  | .endSessions hash _ | .deleteSessions hash => [hash]
  | .sessionsOf deviceHash => [deviceHash]
  | .insertDevice hash name address _ => [hash, name, address]
  | .insertSession hash name _ _ deviceHash => [hash, name, deviceHash]
  | .insertData i sessionHash => i.values.filterMap valueString ++ [sessionHash]

end Statement

/-- The strings of the caller in the text of a builder. -/
def Query.Call.strings (call : Call) : List String :=
  call.statements.flatMap Statement.strings

/-- A string that ends neither a literal nor the text, which is handed on up to the first
null character. -/
def Plain (s : String) : Prop := QuoteFree s ∧ '\x00' ∉ s.toList

instance (s : String) : Decidable (Plain s) := inferInstanceAs (Decidable (_ ∧ ¬ _))

/-- A row of the table of devices. -/
structure DeviceRow where
  id : Nat
  hash : String
  name : String
  address : String
  port : Int
  deriving DecidableEq

/-- A row of the table of sessions. An open session has the end time 0. -/
structure SessionRow where
  id : Nat
  name : String
  hash : String
  coreCount : Int
  startTimestamp : Nat
  endTimestamp : Nat
  device : Nat
  deriving DecidableEq

/-- A row of one of the tables of measurements. -/
structure DataRow where
  table : String
  columns : List String
  values : List Value
  session : Nat
  deriving DecidableEq

/-- The content of the database. PostgreSQL takes new ids from the two sequences. `missing`
are the tables of the schema that are not there; a statement on one of them is among those
that fail. -/
structure Tables where
  devices : List DeviceRow
  sessions : List SessionRow
  data : List DataRow
  deviceSeq : Nat
  sessionSeq : Nat
  missing : List String := []
  deriving DecidableEq

/-- `Hash IS 'hash'` and `Hash LIKE 'hash'`. -/
def hashMatches : DbType → String → String → Bool
  | .sqlite3, hash, value => value = hash
  | .postgreSQL, hash, value => LikePattern.like hash value

/-- The key of a new row: SQLite takes the one after the largest, PostgreSQL the next of
its sequence. -/
def newId (type : DbType) (ids : List Nat) (seq : Nat) : Nat :=
  match type with
  | .sqlite3 => ids.foldr max 0 + 1
  | .postgreSQL => seq + 1

/-- The value of a sub-select. SQLite takes the first row, PostgreSQL refuses several; a
missing value violates the `NOT NULL` of the column it is for. -/
def scalar (type : DbType) (ids : List Nat) : Option Nat :=
  match type, ids with
  | .sqlite3, ids => ids.head?
  | .postgreSQL, [id] => some id
  | .postgreSQL, _ => none

namespace Tables

section Matching

variable (t : Tables) (matching : String → String → Bool) (hash : String)

def devicesWith : List DeviceRow :=
  t.devices.filter fun row => matching hash row.hash

def sessionsWith : List SessionRow :=
  t.sessions.filter fun row => matching hash row.hash

def openSessionsWith : List SessionRow :=
  t.sessions.filter fun row => matching hash row.hash && row.endTimestamp == 0

end Matching

/-- `ON DELETE CASCADE` from the sessions. SQLite does not enforce foreign keys. -/
def deleteSessions (t : Tables) (type : DbType) (gone : SessionRow → Bool) : Tables :=
  { t with
    sessions := t.sessions.filter fun row => !gone row
    data := match type with
      | .sqlite3 => t.data
      | .postgreSQL =>
        t.data.filter fun row => !t.sessions.any fun s => gone s && s.id == row.session }

/-- `ON DELETE CASCADE` from the devices. -/
def deleteDevices (t : Tables) (type : DbType) (gone : DeviceRow → Bool) : Tables :=
  let rest := { t with devices := t.devices.filter fun row => !gone row }
  match type with
  | .sqlite3 => rest
  | .postgreSQL =>
    rest.deleteSessions type fun s => t.devices.any fun d => gone d && d.id == s.device

end Tables

/-- What a statement returns. -/
inductive Reply where
  | done
  | id (id : Option Nat)
  | devices (rows : List DeviceRow)
  | sessions (rows : List SessionRow)
  deriving DecidableEq

namespace Statement

/-- What a statement does for a way to compare hashes, or nothing when the database
refuses it. -/
def execWith (matching : String → String → Bool) (type : DbType) (t : Tables) :
    Statement → Option (Tables × Reply)
  | .devices => some (t, .devices t.devices)
  | .device hash => some (t, .devices ((t.devicesWith matching hash).take 1))
  | .deviceId hash => some (t, .id ((t.devicesWith matching hash).head?.map (·.id)))
  | .insertDevice hash name address port =>
    let id := newId type (t.devices.map (·.id)) t.deviceSeq
    some ({ t with
      devices := t.devices ++ [⟨id, hash, name, address, port⟩]
      deviceSeq := t.deviceSeq + 1 }, .done)
  | .deleteDevices hash => some (t.deleteDevices type fun row => matching hash row.hash, .done)
  | .sessions => some (t, .sessions t.sessions)
  | .sessionsOf deviceHash =>
    match type with
    | .sqlite3 =>
      match (t.devicesWith matching deviceHash).head? with
      | some d => some (t, .sessions (t.sessions.filter fun row => row.device == d.id))
      | none => some (t, .sessions [])
    -- there is no operator LIKE for a column of integers
    | .postgreSQL => none
  | .session hash => some (t, .sessions ((t.sessionsWith matching hash).take 1))
  | .sessionId hash => some (t, .id ((t.sessionsWith matching hash).head?.map (·.id)))
  | .insertSession hash name coreCount startTimestamp deviceHash =>
    match scalar type ((t.devicesWith matching deviceHash).map (·.id)) with
    | none => none
    | some owner =>
      let id := newId type (t.sessions.map (·.id)) t.sessionSeq
      some ({ t with
        sessions := t.sessions ++ [⟨id, name, hash, coreCount, startTimestamp, 0, owner⟩]
        sessionSeq := t.sessionSeq + 1 }, .done)
  | .endSessions hash now =>
    some ({ t with
      sessions := t.sessions.map fun row =>
        if matching hash row.hash then { row with endTimestamp := now } else row }, .done)
  | .deleteSessions hash => some (t.deleteSessions type fun row => matching hash row.hash, .done)
  | .insertData i sessionHash =>
    match scalar type ((t.openSessionsWith matching sessionHash).map (·.id)) with
    | none => none
    | some owner =>
      some ({ t with data := t.data ++ [⟨i.table, i.columns, i.values, owner⟩] }, .done)

/-- The meaning of a statement. -/
def exec (type : DbType) (t : Tables) (st : Statement) : Option (Tables × Reply) :=
  st.execWith (hashMatches type) type t

end Statement

end TkmCollector
