import TkmCollector.PQDatabase
import TkmCollector.ControlApp
import TkmCollector.Helpers
import TkmCollector.Library.CNumber
import TkmCollector.Library.SqlInsert

/-!
# Rows as the servers keep them and hand them out

A row is a list of values in the order of the declaration. An `INSERT` writes one by the names
of its columns; `SELECT *` hands it out as texts, which `sqlite_callback` reads by the names of
the columns and the handlers of `PQDatabase` by their positions.
-/

namespace TkmCollector

open SqlText Query CNumber

/-- A value of one of the tables of devices and sessions. -/
inductive Cell where
  | int (n : Int)
  | text (s : String)
  deriving DecidableEq

/-- The null-terminated text in which a client library hands out a value. -/
def Cell.cString : Cell → String
  | .int n => n.repr
  | .text s => cStr s

/-- The width of the integers of a column. `INTEGER` has 64 bits in SQLite. -/
def Query.ColumnKind.bits : DbType → ColumnKind → Nat
  | .sqlite3, _ | .postgreSQL, .bigint => 64
  | .postgreSQL, _ => 32

/-- The values of the type that a column is declared with. -/
def Query.ColumnKind.Admits (type : DbType) : ColumnKind → Cell → Prop
  | .text, .text _ => True
  | .text, .int _ | .real, _ => False
  | kind, .int n => Fits (kind.bits type) n
  | _, .text _ => False

/-- A row of the table, in the order of the declaration. -/
def Query.TableDef.Admits (type : DbType) (T : TableDef) (row : List Cell) : Prop :=
  List.Forall₂ (fun c cell => c.kind.Admits type cell) T.columns row

/-- What a column makes of a literal. One that is no integer of the column is not followed. -/
def Query.ColumnKind.store (type : DbType) (kind : ColumnKind) (literal : String) : Option Cell :=
  match kind with
  | .text => some (.text literal)
  | .real => none
  | _ => ((fromChars literal).filter fun n => Fits (kind.bits type) n).map .int

/-- The row of an `INSERT`: a column has the value that is found for it, which is the case for
keys and sub-selects, or the literal at the place of its name. -/
def storeRow (type : DbType) (T : TableDef) (found : List (String × Int)) (head : InsertHead) :
    Option (List Cell) :=
  T.columns.mapM fun c => match found.lookup c.name with
    | some n => some (.int n)
    | none => ((head.columns.zip head.literals).lookup c.name).bind (c.kind.store type)

/-- The row that a text writes into a table. The server gets the text up to the first null
character. -/
def insertedRow (type : DbType) (T : TableDef) (found : List (String × Int)) (text : String) :
    Option (List Cell) :=
  ((insertHead (lex (cStr text))).filter fun head => head.table = T.name).bind
    (storeRow type T found)

namespace SQLiteDatabase

/-- `strncmp` with a result of 0. -/
def strncmp (a b : String) (n : Nat) : Bool := a.toList.take n = b.toList.take n

def stol (text : String) : Except Fault Int :=
  match strto text with
  | none => .error .invalidArguments
  | some (negative, magnitude) =>
    if Fits 64 (signed negative magnitude) then .ok (signed negative magnitude)
    else .error .outOfRange

/-- A sign is taken, and the value wraps around. -/
def stoul (text : String) : Except Fault Nat :=
  match strto text with
  | none => .error .invalidArguments
  | some (negative, magnitude) =>
    if magnitude < 2 ^ 64 then .ok ((signed negative magnitude) % 2 ^ 64).toNat
    else .error .outOfRange

/-- One turn of the loop for `LoadDevices` and `GetDevices`. -/
def setDeviceField (device : Control.DeviceData) (colname value : String) :
    Except Fault Control.DeviceData :=
  if strncmp colname (deviceColumn .id) 60 then (stol value).map fun id => { device with id := id }
  else if strncmp colname (deviceColumn .hash) 60 then .ok { device with hash := value }
  else if strncmp colname (deviceColumn .name) 60 then .ok { device with name := value }
  else if strncmp colname (deviceColumn .address) 60 then .ok { device with address := value }
  else if strncmp colname (deviceColumn .port) 60 then
    (ControlApp.stoi value).map fun port => { device with port := port }
  else .ok device

/-- One turn of the loop for `CleanSessions` and `GetSessions`. -/
def setSessionField (session : Control.SessionData) (colname value : String) :
    Except Fault Control.SessionData :=
  if strncmp colname (sessionColumn .id) 60 then (stol value).map fun id => { session with id := id }
  else if strncmp colname (sessionColumn .hash) 60 then .ok { session with hash := value }
  else if strncmp colname (sessionColumn .name) 60 then .ok { session with name := value }
  else if strncmp colname (sessionColumn .startTimestamp) 60 then
    (stoul value).map fun started => { session with started := started }
  else if strncmp colname (sessionColumn .endTimestamp) 60 then
    (stoul value).map fun ended => { session with ended := ended }
  else .ok session

def callbackDevice (argv colname : List String) : Except Fault Control.DeviceData :=
  (colname.zip argv).foldlM (fun device field => setDeviceField device field.1 field.2) default

def callbackSession (argv colname : List String) : Except Fault Control.SessionData :=
  (colname.zip argv).foldlM (fun session field => setSessionField session field.1 field.2) default

end SQLiteDatabase

namespace PQDatabase

/-- `as<long>` and `as<int>`, or nothing when they throw. -/
def asSigned (bits : Nat) (field : String) : Option Int :=
  (fromChars field).filter fun n => Fits bits n

/-- `static_cast<uint64_t>`. -/
def toUInt64 (n : Int) : Nat := (n % 2 ^ 64).toNat

/-- The loop of `doLoadDevices` and `doGetDevices`. -/
def readDevice (row : List String) : Option Control.DeviceData := do
  let id ← row[DeviceColumn.id.ctorIdx]?.bind (asSigned 64)
  let hash ← row[DeviceColumn.hash.ctorIdx]?
  let name ← row[DeviceColumn.name.ctorIdx]?
  let address ← row[DeviceColumn.address.ctorIdx]?
  let port ← row[DeviceColumn.port.ctorIdx]?.bind (asSigned 32)
  return { (default : Control.DeviceData) with
    id := id, hash := hash, name := name, address := address, port := port }

/-- The loop of `doCleanSessions` and `doGetSessions`. -/
def readSession (row : List String) : Option Control.SessionData := do
  let id ← row[SessionColumn.id.ctorIdx]?.bind (asSigned 64)
  let hash ← row[SessionColumn.hash.ctorIdx]?
  let name ← row[SessionColumn.name.ctorIdx]?
  let started ← row[SessionColumn.startTimestamp.ctorIdx]?.bind (asSigned 64)
  let ended ← row[SessionColumn.endTimestamp.ctorIdx]?.bind (asSigned 64)
  return { (default : Control.SessionData) with
    id := id, hash := hash, name := name, started := toUInt64 started, ended := toUInt64 ended }

end PQDatabase

def decodeDevice (type : DbType) (row : List Cell) : Option Control.DeviceData :=
  match type with
  | .sqlite3 => (SQLiteDatabase.callbackDevice (row.map Cell.cString)
      ((devicesTable .sqlite3).columns.map fun c => c.name)).toOption
  | .postgreSQL => PQDatabase.readDevice (row.map Cell.cString)

def decodeSession (type : DbType) (row : List Cell) : Option Control.SessionData :=
  match type with
  | .sqlite3 => (SQLiteDatabase.callbackSession (row.map Cell.cString)
      ((sessionsTable .sqlite3).columns.map fun c => c.name)).toOption
  | .postgreSQL => PQDatabase.readSession (row.map Cell.cString)

/-- The device that comes back from the text of `addDevice`, in a row with the given key. -/
def storedDevice (type : DbType) (id : Int) (text : String) : Option Control.DeviceData :=
  (insertedRow type (devicesTable type) [(deviceColumn .id, id)] text).bind (decodeDevice type)

/-- The session that comes back from the text of `addSession`, in a row with the given key and
the given device. -/
def storedSession (type : DbType) (id device : Int) (text : String) : Option Control.SessionData :=
  (insertedRow type (sessionsTable type)
    [(sessionColumn .id, id), (sessionColumn .device, device)] text).bind (decodeSession type)

/-- A row of the table of devices, in the order of the declaration. -/
def DeviceRow.cells (row : DeviceRow) : List Cell :=
  [.int row.id, .text row.hash, .text row.name, .text row.address, .int row.port]

def SessionRow.cells (row : SessionRow) : List Cell :=
  [.int row.id, .text row.name, .text row.hash, .int row.coreCount, .int row.startTimestamp,
    .int row.endTimestamp, .int row.device]

end TkmCollector
