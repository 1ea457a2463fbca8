import TkmCollector.Database
import TkmCollector.Library.Faulting

/-!
# The PostgreSQL database and its connection

`PQDatabase` with the pointer `m_connection`, while the server goes away and comes back. The
handlers are those of the databases; here they take their transactions to the connection, which
may be closed or null, and an exception leaves the state as it was when it was thrown.
-/

namespace TkmCollector

/-- A `pqxx::connection`: what `is_open` returns, and whether the server still serves it. A drop
may go unnoticed until the next transaction. -/
structure PQConnection where
  isOpen : Bool
  alive : Bool
  isOpen_of_alive : alive = true → isOpen = true
  deriving DecidableEq

namespace PQConnection

def opened : PQConnection := ⟨true, true, fun _ => rfl⟩

def lost : PQConnection := ⟨false, false, fun h => h⟩

/-- The server has gone away. -/
def dropped (c : PQConnection) (noticed : Bool) : PQConnection :=
  ⟨c.isOpen && !noticed, false, fun h => by cases h⟩

end PQConnection

/-- `m_connection`, whether the server can be reached, and what is in the database. `ran` is a
history variable that no code reads: for every transaction, whether its connection was alive. -/
structure PQDatabase where
  connection : Option PQConnection
  reachable : Bool
  tables : Tables
  ran : List Bool

namespace PQDatabase

/-- How a handler ends without a result: `m_connection` is dereferenced while it is null, or an
exception leaves the handler. -/
inductive Crash where
  | nullConnection
  | exception (fault : Fault)
  deriving DecidableEq

abbrev Handler (α : Type) := Faulting PQDatabase Crash α

/-- `*m_connection`. -/
def getConnection : Handler PQConnection := fun s =>
  match s.connection with
  | none => (.error .nullConnection, s)
  | some c => (.ok c, s)

/-- The constructor throws when the server cannot be reached; the old connection is gone by
then. -/
def reconnect : Handler Bool := do
  let c ← getConnection
  if c.isOpen then return true
  else fun s =>
    if s.reachable then (.ok true, { s with connection := some .opened })
    else (.error (.exception .brokenConnection), { s with connection := none })

/-- A transaction in a `try` block of its own. It throws on a connection that is not alive, which
is noticed then; `failed` is what the handler goes on with. -/
def transaction {α : Type} (run : Tables → Tables × α) (failed : α) : Handler α := fun s =>
  match s.connection with
  | none => (.error .nullConnection, s)
  | some c =>
    if c.alive then
      (.ok (run s.tables).2, { s with tables := (run s.tables).1, ran := s.ran ++ [true] })
    else (.ok failed, { s with connection := some .lost, ran := s.ran ++ [false] })

section

variable (foreign : String → Tables → Tables × Option Reply) (io : DbIo)

/-- `runTransaction`, with an exception as no reply. -/
def runTransaction (n : Nat) (call : Query.Call) : Handler (Option Reply) :=
  transaction (fun t => Database.runQuery ⟨.postgreSQL, foreign⟩ io n t call) none

def runDropTables : Handler Unit :=
  transaction (fun t => (Database.runDropTables ⟨.postgreSQL, foreign⟩ io 0 t, ())) ()

def runCreateTables : Handler Bool :=
  transaction (fun t => Database.runCreateTables ⟨.postgreSQL, foreign⟩ io 1 t) false

/-- An exception of the handler itself. -/
def raise {α : Type} (fault : Fault) : Handler α := Faulting.throw (.exception fault)

/-- A step over the request that may throw. -/
def check {α : Type} (result : Except Fault α) : Handler α :=
  match result with
  | .ok a => pure a
  | .error fault => raise fault

def quiet : Handler DbOutcome := do
  let s ← Faulting.get
  return Database.quiet s.tables

def answer (rq : IDatabase.Request) (args : Args) : Handler DbOutcome := do
  let s ← Faulting.get
  return Database.answer s.tables rq args

/-- `rq.client`, which is dereferenced. -/
def theClient (rq : IDatabase.Request) : Handler ClientId :=
  match rq.client with
  | some client => pure client
  | none => raise .nullClient

/-- An argument without which the handler throws. -/
def argument (rq : IDatabase.Request) (key : Arg) : Handler String :=
  match rq.args.lookup key with
  | some value => pure value
  | none => raise .invalidArguments

def doInitDatabase (rq : IDatabase.Request) : Handler DbOutcome := do
  let args := Args.copyRequestId rq.args
  let c ← getConnection
  let opened ← (if c.isOpen then pure true else reconnect)
  if opened = false then
    answer rq ((args.emplace .status (valFor .statusError)).emplace .reason
      "Database connection error")
  else do
    let _ ← (if Database.forced rq then runDropTables foreign io else pure ())
    let status ← runCreateTables foreign io
    answer rq ((args.emplace .status (Database.statusFor status)).emplace .reason
      (if status then "Database init complete" else "Database init failed. Query error"))

def doLoadDevices : Handler DbOutcome := do
  let reply ← runTransaction foreign io 0 .getDevices
  let o ← quiet
  return { o with loaded := Database.Reply.deviceList reply }

def doCleanSessions : Handler DbOutcome := do
  let reply ← runTransaction foreign io 0 .getSessions
  let o ← quiet
  return { o with
    database := ((Database.Reply.sessionList reply).filter fun session => session.ended = 0).map
      fun session => ⟨none, .endSession, Args.emplace [] .sessionHash session.hash, .int 0⟩ }

/-- The list of a `Get` request is sent, then its status. -/
def sendList (rq : IDatabase.Request) (client : ClientId) (reply : Option Reply)
    (list : ControlList) (failure : String) : Handler DbOutcome := do
  let s ← Faulting.get
  return Database.sendList s.tables rq client io reply list failure

def doGetDevices (states : String → Option Control.DeviceState) (rq : IDatabase.Request) :
    Handler DbOutcome := do
  let client ← theClient rq
  let reply ← runTransaction foreign io 0 .getDevices
  sendList io rq client reply
    (.devices ((Database.Reply.deviceList reply).map (Database.withState states)))
    "Failed to send device list"

def doGetSessions (rq : IDatabase.Request) : Handler DbOutcome := do
  let client ← theClient rq
  let deviceData ← check rq.bulkData.castDeviceData
  let reply ← runTransaction foreign io 0
    (if deviceData.hash.isEmpty then .getSessions else .getSessionsOf deviceData.hash)
  let sessions := (Database.Reply.sessionList reply).map fun session =>
    { session with state := if session.ended = 0 then .progress else .complete }
  sendList io rq client reply (.sessions sessions) "Failed to send session list"

def doAddDevice (rq : IDatabase.Request) : Handler DbOutcome := do
  let args := Args.copyRequestId rq.args
  let _ ← theClient rq
  let deviceData ← check rq.bulkData.castDeviceData
  let reply ← runTransaction foreign io 0 (.hasDevice deviceData.hash)
  if reply = none then
    answer rq ((args.emplace .reason "Cannot check existing device").emplace .status
      (valFor .statusError))
  else if rq.args.count .forced = false ∧ Database.Reply.found .postgreSQL reply then
    answer rq ((args.emplace .status (valFor .statusError)).emplace .reason
      "Device already exists")
  else do
    let remove := runTransaction foreign io 1 (.remDevice deviceData.hash)
    let removed ← (if Database.forced rq then remove else pure (some .done))
    let add := runTransaction foreign io 2
      (.addDevice deviceData.hash deviceData.name deviceData.address deviceData.port)
    let added ← (if removed = none then pure none else add)
    let o ← answer rq ((args.emplace .reason
      (if added.isSome then "Device added" else "Failed to add device")).emplace .status
      (Database.statusFor added.isSome))
    return { o with
      database := if added.isSome then [⟨none, .loadDevices, [], .int 0⟩] else [] }

def doRemoveDevice (rq : IDatabase.Request) : Handler DbOutcome := do
  let args := Args.copyRequestId rq.args
  let _ ← theClient rq
  let deviceData ← check rq.bulkData.castDeviceData
  let reply ← runTransaction foreign io 0 (.hasDevice deviceData.hash)
  if reply = none then
    answer rq ((args.emplace .reason "Cannot check existing device").emplace .status
      (valFor .statusError))
  else do
    let args := if Database.Reply.found .postgreSQL reply then args
      else (args.emplace .status (valFor .statusError)).emplace .reason "No such device"
    let removed ← runTransaction foreign io 1 (.remDevice deviceData.hash)
    answer rq ((args.emplace .reason
      (if removed.isSome then "Device removed" else "Failed to remove device")).emplace .status
      (Database.statusFor removed.isSome))

def doAddSession (rq : IDatabase.Request) : Handler DbOutcome := do
  let sessionInfo ← check rq.bulkData.castSessionInfo
  let deviceHash ← argument rq .deviceHash
  let reply ← runTransaction foreign io 0 (.hasSession sessionInfo.hash)
  let remove := runTransaction foreign io 1 (.remSession sessionInfo.hash)
  let _ ← (if Database.Reply.found .postgreSQL reply then remove else pure none)
  let _ ← runTransaction foreign io 2 (.addSession sessionInfo deviceHash io.now)
  quiet

def doRemSession (rq : IDatabase.Request) : Handler DbOutcome := do
  let args := Args.copyRequestId rq.args
  let _ ← theClient rq
  let sessionData ← check rq.bulkData.castSessionData
  let reply ← runTransaction foreign io 0 (.hasSession sessionData.hash)
  if reply = none then
    answer rq ((args.emplace .reason "Cannot check existing session").emplace .status
      (valFor .statusError))
  else if Database.Reply.found .postgreSQL reply = false then
    answer rq ((args.emplace .status (valFor .statusError)).emplace .reason "No such session")
  else do
    let removed ← runTransaction foreign io 1 (.remSession sessionData.hash)
    answer rq ((args.emplace .reason
      (if removed.isSome then "Session removed" else "Failed to remove session")).emplace .status
      (Database.statusFor removed.isSome))

def doEndSession (rq : IDatabase.Request) : Handler DbOutcome := do
  let sessionHash ← argument rq .sessionHash
  let _ ← runTransaction foreign io 0 (.endSession sessionHash io.now)
  quiet

/-- The switch of `doAddData`, with the `write` functions. -/
def writeData (data : Monitor.Data) (sessionHash : String) : Handler DbOutcome :=
  match Database.measurement data with
  | none => quiet
  | some m => do
    let _ ← runTransaction foreign io 0 (.addData sessionHash m (Database.timestamps data))
    quiet

def doAddData (rq : IDatabase.Request) : Handler DbOutcome := do
  let data ← check rq.bulkData.castData
  let sessionHash ← argument rq .sessionHash
  writeData foreign io data sessionHash

def doConnect : Handler DbOutcome := do
  let c ← getConnection
  if c.isOpen then quiet
  else do
    let _ ← reconnect
    quiet

def requestHandler (states : String → Option Control.DeviceState) (rq : IDatabase.Request) :
    Handler DbOutcome :=
  match rq.action with
  | .checkDatabase => quiet
  | .initDatabase => doInitDatabase foreign io rq
  | .connect => doConnect
  | .disconnect => quiet
  | .loadDevices => doLoadDevices foreign io
  | .getDevices => doGetDevices foreign io states rq
  | .addDevice => doAddDevice foreign io rq
  | .removeDevice => doRemoveDevice foreign io rq
  | .getSessions => doGetSessions foreign io rq
  | .addSession => doAddSession foreign io rq
  | .remSession => doRemSession foreign io rq
  | .endSession => doEndSession foreign io rq
  | .cleanSessions => doCleanSessions foreign io
  | .addData => doAddData foreign io rq

end

/-- After the constructor, which opened the connection. -/
def start (tables : Tables) : PQDatabase := ⟨some .opened, true, tables, []⟩

/-- A request is handled, the server goes away, or it comes back. -/
inductive Event where
  | request (states : String → Option Control.DeviceState) (io : DbIo) (rq : IDatabase.Request)
  | drop (noticed : Bool)
  | restore

/-- The next state. What follows an exception is left to the event loop, so that the run goes on
with the state it left. -/
def next (foreign : String → Tables → Tables × Option Reply) (s : PQDatabase) : Event → PQDatabase
  | .request states io rq => (requestHandler foreign io states rq s).2
  | .drop noticed => { s with
      connection := s.connection.map fun c => c.dropped noticed
      reachable := false }
  | .restore => { s with reachable := true }

def step (foreign : String → Tables → Tables × Option Reply) (s : PQDatabase) (e : Event) :
    Except Empty PQDatabase :=
  .ok (next foreign s e)

end PQDatabase

end TkmCollector
