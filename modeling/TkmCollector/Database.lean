import TkmCollector.Statement
import TkmCollector.Request

/-!
# The databases

`SQLiteDatabase` and `PQDatabase`: how they run a query, and their request handlers. Both
have the same handlers, which differ in what they do when a statement fails. The outcomes
of system calls come in as an argument, as for the devices.
-/

namespace TkmCollector

open Query

/-- A database. A text that is not the statements its builder means is foreign: what the
server makes of it is left open. -/
structure Backend where
  type : DbType
  foreign : String → Tables → Tables × Option Reply

/-- What `is_open` and `reconnect` find: the connection is open, is opened again, stays
closed, or the attempt throws. -/
inductive Link where
  | isOpen | reopened | closed | broken
  deriving DecidableEq

/-- The outcomes of the system calls of one handler. With `(n, k)` in `fails`, statement `k`
of query `n` of the handler fails for a reason outside of the tables. -/
structure DbIo where
  now : Nat
  now_pos : 0 < now
  fails : List (Nat × Nat)
  write : Bool
  link : Link

/-- Whether a statement fails. -/
instance (io : DbIo) (statement : Nat × Nat) : Decidable (statement ∈ io.fails) :=
  List.instDecidableMemOfLawfulBEq statement io.fails

/-- A list that is sent to a client. -/
inductive ControlList where
  | devices (list : List Control.DeviceData)
  | sessions (list : List Control.SessionData)
  deriving DecidableEq

/-- What a handler of the database leaves behind. `loaded` are the devices that it hands
to the device manager. -/
structure DbOutcome where
  tables : Tables
  dispatcher : List Dispatcher.Request
  database : List IDatabase.Request
  loaded : List Control.DeviceData
  lists : List (ClientId × ControlList)
  result : Bool

namespace Database

/-- The statements of a text one after the other, up to the first that fails. The reply is
that of the last one. -/
def execAll (type : DbType) (fails : List (Nat × Nat)) (n : Nat) :
    Nat → Tables → Reply → List Statement → Tables × Option Reply
  | _, t, reply, [] => (t, some reply)
  | k, t, _, st :: rest =>
    if (n, k) ∈ fails then (t, none)
    else match st.exec type t with
      | none => (t, none)
      | some (t, reply) => execAll type fails n (k + 1) t reply rest

/-- `runQuery` of SQLite keeps what was done before a failure; `runTransaction` of
PostgreSQL does not. -/
def runQuery (b : Backend) (io : DbIo) (n : Nat) (t : Tables) (call : Call) : Tables × Option Reply :=
  if ∀ s ∈ call.strings, Plain s then
    match b.type, execAll b.type io.fails n 0 t .done call.statements with
    | .sqlite3, result => result
    | .postgreSQL, (t', some reply) => (t', some reply)
    | .postgreSQL, (_, none) => (t, none)
  else b.foreign (call.text b.type) t

/-- `DROP TABLE IF EXISTS`, with the rows of the table and its sequence. -/
def dropTable (t : Tables) (name : String) : Tables :=
  let t := { t with missing := name :: t.missing }
  if name = devicesTableName then { t with devices := [], deviceSeq := 0 }
  else if name = sessionsTableName then { t with sessions := [], sessionSeq := 0 }
  else { t with data := t.data.filter fun row => row.table ≠ name }

/-- `CREATE TABLE IF NOT EXISTS`. -/
def createTable (t : Tables) (name : String) : Tables :=
  { t with missing := t.missing.filter (· ≠ name) }

/-- The text of `dropTables`. SQLite keeps what was dropped before a failure. -/
def runDropTables (b : Backend) (io : DbIo) (n : Nat) (t : Tables) : Tables :=
  let upTo := ((List.range droppedTables.length).takeWhile fun k => (n, k) ∉ io.fails).length
  match b.type with
  | .sqlite3 => (droppedTables.take upTo).foldl dropTable t
  | .postgreSQL => if upTo = droppedTables.length then droppedTables.foldl dropTable t else t

/-- The tables that the text of `createTables` creates, in this order. -/
def createdTables (type : DbType) : List String := (tables type).map (·.name)

/-- The text of `createTables`. SQLite keeps what was created before a failure. -/
def runCreateTables (b : Backend) (io : DbIo) (n : Nat) (t : Tables) : Tables × Bool :=
  let created := createdTables b.type
  let upTo := ((List.range created.length).takeWhile fun k => (n, k) ∉ io.fails).length
  let status := upTo = created.length
  match b.type with
  | .sqlite3 => ((created.take upTo).foldl createTable t, status)
  | .postgreSQL => if status then (created.foldl createTable t, true) else (t, false)

/-- A `SendStatus` request for the client of a request. -/
def sendStatus (rq : IDatabase.Request) (args : Args) : Dispatcher.Request where
  client := rq.client
  action := .sendStatus
  args := args
  bulkData := .int 0

def statusFor (status : Bool) : String :=
  if status then valFor .statusOkay else valFor .statusError

def DeviceRow.toData (row : DeviceRow) : Control.DeviceData where
  id := row.id
  hash := row.hash
  name := row.name
  address := row.address
  port := row.port
  state := .unknown

def SessionRow.toData (row : SessionRow) : Control.SessionData where
  id := row.id
  hash := row.hash
  name := row.name
  started := row.startTimestamp
  ended := row.endTimestamp
  state := .unknown

def Reply.deviceList : Option Reply → List Control.DeviceData
  | some (.devices rows) => rows.map DeviceRow.toData
  | _ => []

def Reply.sessionList : Option Reply → List Control.SessionData
  | some (.sessions rows) => rows.map SessionRow.toData
  | _ => []

/-- `static_cast<int>` of the id of a row. -/
def castInt (id : Nat) : Int := Int.bmod id 4294967296

/-- Whether `hasDevice` and `hasSession` leave another id than the -1 that was there. SQLite
casts the id of the row to `int`. -/
def Reply.found (type : DbType) : Option Reply → Bool
  | some (.id (some id)) =>
    match type with
    | .sqlite3 => castInt id ≠ -1
    | .postgreSQL => true
  | _ => false

/-- Nothing but the tables changes. -/
def quiet (t : Tables) : DbOutcome where
  tables := t
  dispatcher := []
  database := []
  loaded := []
  lists := []
  result := true

/-- The tables change and the client gets a status. -/
def answer (t : Tables) (rq : IDatabase.Request) (args : Args) : DbOutcome :=
  { quiet t with dispatcher := [sendStatus rq args] }

/-- `Forced` is given and is `True`. -/
def forced (rq : IDatabase.Request) : Bool :=
  rq.args.lookup .forced = some (valFor .true)

def doInitDatabase (b : Backend) (io : DbIo) (t : Tables) (rq : IDatabase.Request) :
    Except Fault DbOutcome :=
  let run : DbOutcome :=
    let t := if forced rq then runDropTables b io 0 t else t
    let (t, status) := runCreateTables b io 1 t
    answer t rq (((Args.copyRequestId rq.args).emplace .status (statusFor status)).emplace .reason
      (if status then "Database init complete" else "Database init failed. Query error"))
  match b.type, io.link with
  | .sqlite3, _ => .ok run
  | .postgreSQL, .isOpen | .postgreSQL, .reopened => .ok run
  | .postgreSQL, .broken => .error .brokenConnection
  | .postgreSQL, .closed =>
    .ok (answer t rq (((Args.copyRequestId rq.args).emplace .status (valFor .statusError)).emplace
      .reason "Database connection error"))

def doLoadDevices (b : Backend) (io : DbIo) (t : Tables) : Except Fault DbOutcome :=
  let (t, reply) := runQuery b io 0 t .getDevices
  .ok { quiet t with loaded := Reply.deviceList reply }

def doCleanSessions (b : Backend) (io : DbIo) (t : Tables) : Except Fault DbOutcome :=
  let (t, reply) := runQuery b io 0 t .getSessions
  let opened := (Reply.sessionList reply).filter fun session => session.ended = 0
  .ok { quiet t with
    database := opened.map fun session =>
      ⟨none, .endSession, Args.emplace [] .sessionHash session.hash, .int 0⟩ }

/-- The list of a `Get` request is sent, then its status. -/
def sendList (t : Tables) (rq : IDatabase.Request) (client : ClientId) (io : DbIo)
    (reply : Option Reply) (list : ControlList) (failure : String) : DbOutcome :=
  let args := Args.copyRequestId rq.args
  match reply with
  | none =>
    answer t rq ((args.emplace .reason "Query failed").emplace .status (valFor .statusError))
  | some _ =>
    { answer t rq ((args.emplace .reason (if io.write then "List provided" else failure)).emplace
        .status (valFor .statusOkay)) with
      lists := if io.write then [(client, list)] else [] }

/-- The state in which the device manager has a device, for the rows it knows. -/
def withState (states : String → Option Control.DeviceState) (device : Control.DeviceData) :
    Control.DeviceData :=
  match states device.hash with
  | some state => { device with state := state }
  | none => device

def doGetDevices (b : Backend) (states : String → Option Control.DeviceState) (io : DbIo)
    (t : Tables) (rq : IDatabase.Request) : Except Fault DbOutcome :=
  match rq.client with
  | none => .error .nullClient
  | some client =>
    let (t, reply) := runQuery b io 0 t .getDevices
    .ok (sendList t rq client io reply (.devices ((Reply.deviceList reply).map (withState states)))
      "Failed to send device list")

def doGetSessions (b : Backend) (io : DbIo) (t : Tables) (rq : IDatabase.Request) :
    Except Fault DbOutcome :=
  match rq.client, rq.bulkData.castDeviceData with
  | none, _ => .error .nullClient
  | some _, .error fault => .error fault
  | some client, .ok deviceData =>
    let (t, reply) := runQuery b io 0 t
      (if deviceData.hash.isEmpty then .getSessions else .getSessionsOf deviceData.hash)
    let sessions := (Reply.sessionList reply).map fun session =>
      { session with state := if session.ended = 0 then .progress else .complete }
    .ok (sendList t rq client io reply (.sessions sessions) "Failed to send session list")

def doAddDevice (b : Backend) (io : DbIo) (t : Tables) (rq : IDatabase.Request) :
    Except Fault DbOutcome :=
  match rq.client, rq.bulkData.castDeviceData with
  | none, _ => .error .nullClient
  | some _, .error fault => .error fault
  | some _, .ok deviceData =>
    let args := Args.copyRequestId rq.args
    let (t, reply) := runQuery b io 0 t (.hasDevice deviceData.hash)
    if reply = none then
      .ok (answer t rq ((args.emplace .reason "Cannot check existing device").emplace .status
        (valFor .statusError)))
    else if rq.args.count .forced = false ∧ Reply.found b.type reply then
      .ok (answer t rq ((args.emplace .status (valFor .statusError)).emplace .reason
        "Device already exists"))
    else
      let (t, removed) :=
        if forced rq then runQuery b io 1 t (.remDevice deviceData.hash) else (t, some .done)
      -- only PostgreSQL gives up when the old device cannot be removed
      let (t, added) :=
        if b.type = .postgreSQL ∧ removed = none then (t, none)
        else runQuery b io 2 t
          (.addDevice deviceData.hash deviceData.name deviceData.address deviceData.port)
      let load : IDatabase.Request := ⟨none, .loadDevices, [], .int 0⟩
      .ok { answer t rq ((args.emplace .reason
            (if added.isSome then "Device added" else "Failed to add device")).emplace .status
            (statusFor added.isSome)) with
          database := if added.isSome then [load] else [] }

def doRemoveDevice (b : Backend) (io : DbIo) (t : Tables) (rq : IDatabase.Request) :
    Except Fault DbOutcome :=
  match rq.client, rq.bulkData.castDeviceData with
  | none, _ => .error .nullClient
  | some _, .error fault => .error fault
  | some _, .ok deviceData =>
    let args := Args.copyRequestId rq.args
    let (t, reply) := runQuery b io 0 t (.hasDevice deviceData.hash)
    if reply = none then
      .ok (answer t rq ((args.emplace .reason "Cannot check existing device").emplace .status
        (valFor .statusError)))
    else
      -- the handler goes on after this status, and later values do not replace it
      let args := if Reply.found b.type reply then args
        else (args.emplace .status (valFor .statusError)).emplace .reason "No such device"
      let (t, removed) := runQuery b io 1 t (.remDevice deviceData.hash)
      .ok (answer t rq ((args.emplace .reason
        (if removed.isSome then "Device removed" else "Failed to remove device")).emplace .status
        (statusFor removed.isSome)))

def doAddSession (b : Backend) (io : DbIo) (t : Tables) (rq : IDatabase.Request) :
    Except Fault DbOutcome :=
  match rq.bulkData.castSessionInfo, rq.args.lookup .deviceHash with
  | .error fault, _ => .error fault
  | .ok _, none => .error .invalidArguments
  | .ok sessionInfo, some deviceHash =>
    let (t, reply) := runQuery b io 0 t (.hasSession sessionInfo.hash)
    let t := if Reply.found b.type reply then (runQuery b io 1 t (.remSession sessionInfo.hash)).1 else t
    .ok (quiet (runQuery b io 2 t (.addSession sessionInfo deviceHash io.now)).1)

def doRemSession (b : Backend) (io : DbIo) (t : Tables) (rq : IDatabase.Request) :
    Except Fault DbOutcome :=
  match rq.client, rq.bulkData.castSessionData with
  | none, _ => .error .nullClient
  | some _, .error fault => .error fault
  | some _, .ok sessionData =>
    let args := Args.copyRequestId rq.args
    let (t, reply) := runQuery b io 0 t (.hasSession sessionData.hash)
    if reply = none then
      .ok (answer t rq ((args.emplace .reason "Cannot check existing session").emplace .status
        (valFor .statusError)))
    else
      let missing := (args.emplace .status (valFor .statusError)).emplace .reason "No such session"
      if b.type = .postgreSQL ∧ Reply.found b.type reply = false then .ok (answer t rq missing)
      else
        -- SQLite goes on after this status, and later values do not replace it
        let args := if Reply.found b.type reply then args else missing
        let (t, removed) := runQuery b io 1 t (.remSession sessionData.hash)
        .ok (answer t rq ((args.emplace .reason
          (if removed.isSome then "Session removed" else "Failed to remove session")).emplace .status
          (statusFor removed.isSome)))

def doEndSession (b : Backend) (io : DbIo) (t : Tables) (rq : IDatabase.Request) :
    Except Fault DbOutcome :=
  match rq.args.lookup .sessionHash with
  | none => .error .invalidArguments
  | some sessionHash => .ok (quiet (runQuery b io 0 t (.endSession sessionHash io.now)).1)

/-- The switch of `doAddData`. A payload of another type unpacks to the default message. -/
def measurement (data : Monitor.Data) : Option Measurement :=
  match data.what, data.payload with
  | .procEvent, .procEvent m => some (.procEvent m)
  | .procEvent, _ => some (.procEvent default)
  | .procAcct, .procAcct m => some (.procAcct m)
  | .procAcct, _ => some (.procAcct default)
  | .procInfo, .procInfo m => some (.procInfo m)
  | .procInfo, _ => some (.procInfo default)
  | .contextInfo, .contextInfo m => some (.contextInfo m)
  | .contextInfo, _ => some (.contextInfo default)
  | .sysProcStat, .sysProcStat m => some (.sysProcStat m)
  | .sysProcStat, _ => some (.sysProcStat default)
  | .sysProcBuddyInfo, .sysProcBuddyInfo m => some (.sysProcBuddyInfo m)
  | .sysProcBuddyInfo, _ => some (.sysProcBuddyInfo default)
  | .sysProcWireless, .sysProcWireless m => some (.sysProcWireless m)
  | .sysProcWireless, _ => some (.sysProcWireless default)
  | .sysProcMemInfo, .sysProcMemInfo m => some (.sysProcMemInfo m)
  | .sysProcMemInfo, _ => some (.sysProcMemInfo default)
  | .sysProcPressure, .sysProcPressure m => some (.sysProcPressure m)
  | .sysProcPressure, _ => some (.sysProcPressure default)
  | .sysProcDiskStats, .sysProcDiskStats m => some (.sysProcDiskStats m)
  | .sysProcDiskStats, _ => some (.sysProcDiskStats default)
  | .sysProcVMStat, .sysProcVMStat m => some (.sysProcVMStat m)
  | .sysProcVMStat, _ => some (.sysProcVMStat default)
  | .other _, _ => none

def timestamps (data : Monitor.Data) : Timestamps where
  systemTime := data.systemTimeSec
  monotonicTime := data.monotonicTimeSec
  receiveTime := data.receiveTimeSec

def doAddData (b : Backend) (io : DbIo) (t : Tables) (rq : IDatabase.Request) :
    Except Fault DbOutcome :=
  match rq.bulkData.castData, rq.args.lookup .sessionHash with
  | .error fault, _ => .error fault
  | .ok _, none => .error .invalidArguments
  | .ok data, some sessionHash =>
    match measurement data with
    | none => .ok (quiet t)
    | some m => .ok (quiet (runQuery b io 0 t (.addData sessionHash m (timestamps data))).1)

def doConnect (b : Backend) (io : DbIo) (t : Tables) : Except Fault DbOutcome :=
  match b.type, io.link with
  | .postgreSQL, .broken => .error .brokenConnection
  | _, _ => .ok (quiet t)

def requestHandler (b : Backend) (states : String → Option Control.DeviceState) (io : DbIo)
    (t : Tables) (rq : IDatabase.Request) : Except Fault DbOutcome :=
  match rq.action with
  | .checkDatabase => .ok (quiet t)
  | .initDatabase => doInitDatabase b io t rq
  | .connect => doConnect b io t
  | .disconnect => .ok (quiet t)
  | .getDevices => doGetDevices b states io t rq
  | .addDevice => doAddDevice b io t rq
  | .removeDevice => doRemoveDevice b io t rq
  | .loadDevices => doLoadDevices b io t
  | .getSessions => doGetSessions b io t rq
  | .addSession => doAddSession b io t rq
  | .remSession => doRemSession b io t rq
  | .endSession => doEndSession b io t rq
  | .cleanSessions => doCleanSessions b io t
  | .addData => doAddData b io t rq

end Database

end TkmCollector
