import Mathlib.Data.List.TakeWhile
import TkmCollector.Proofs.DatabaseFrame
import TkmCollector.Proofs.Dispatch

namespace TkmCollector.Proofs

open Query Database

/-- What the components of the collector ask of the database. The erasure at start-up has no
client. -/
inductive Order where
  | checkDatabase
  | loadDevices
  | cleanSessions
  | initDatabase (client : Option (ClientId × String)) (forced : Bool)
  | getDevices (client : ClientId) (id : String)
  | getSessions (client : ClientId) (id : String) (forced : Bool) (deviceData : Control.DeviceData)
  | addDevice (client : ClientId) (id : String) (forced : Bool) (deviceData : Control.DeviceData)
  | removeDevice (client : ClientId) (id : String) (forced : Bool) (deviceData : Control.DeviceData)
  | remSession (client : ClientId) (id : String) (forced : Bool) (sessionData : Control.SessionData)
  | addSession (deviceHash : String) (info : Monitor.SessionInfo)
  | endSession (hash : String)
  | addData (sessionHash : String) (data : Monitor.Data)
  deriving DecidableEq

namespace Order

def forcedArgs (forced : Bool) : Args := if forced then [(.forced, valFor .true)] else []

/-- The arguments of a client's request. -/
def clientArgs (id : String) (forced : Bool) : Args := (.requestId, id) :: forcedArgs forced

/-- The request that is pushed for an order. -/
def request : Order → IDatabase.Request
  | .checkDatabase => ⟨none, .checkDatabase, [], .int 0⟩
  | .loadDevices => ⟨none, .loadDevices, [], .int 0⟩
  | .cleanSessions => ⟨none, .cleanSessions, [], .int 0⟩
  | .initDatabase none forced => ⟨none, .initDatabase, forcedArgs forced, .int 0⟩
  | .initDatabase (some (client, id)) forced =>
    ⟨some client, .initDatabase, clientArgs id forced, .int 0⟩
  | .getDevices client id => ⟨some client, .getDevices, clientArgs id false, .int 0⟩
  | .getSessions client id forced deviceData =>
    ⟨some client, .getSessions, clientArgs id forced, .deviceData deviceData⟩
  | .addDevice client id forced deviceData =>
    ⟨some client, .addDevice, clientArgs id forced, .deviceData deviceData⟩
  | .removeDevice client id forced deviceData =>
    ⟨some client, .removeDevice, clientArgs id forced, .deviceData deviceData⟩
  | .remSession client id forced sessionData =>
    ⟨some client, .remSession, clientArgs id forced, .sessionData sessionData⟩
  | .addSession deviceHash info => addSessionRequest deviceHash info
  | .endSession hash => endSessionRequest hash
  | .addData sessionHash data => addDataRequest sessionHash (.data data)

/-- The strings that are written into the statements of an order. -/
def strings : Order → List String
  | .checkDatabase | .loadDevices | .cleanSessions | .initDatabase _ _ | .getDevices _ _ => []
  | .getSessions _ _ _ deviceData | .removeDevice _ _ _ deviceData => [deviceData.hash]
  | .addDevice _ _ _ deviceData => [deviceData.hash, deviceData.name, deviceData.address]
  | .remSession _ _ _ sessionData => [sessionData.hash]
  | .addSession deviceHash info => [info.hash, info.name, deviceHash]
  | .endSession hash => [hash]
  | .addData sessionHash data => dataStrings data ++ [sessionHash]

@[simp] lemma lookup_requestId_clientArgs (id : String) (forced : Bool) :
    (clientArgs id forced).lookup .requestId = some id := rfl

@[simp] lemma lookup_forced_forcedArgs (forced : Bool) :
    (forcedArgs forced).lookup .forced = if forced then some (valFor .true) else none := by
  cases forced <;> rfl

@[simp] lemma lookup_forced_clientArgs (id : String) (forced : Bool) :
    (clientArgs id forced).lookup .forced = if forced then some (valFor .true) else none := by
  cases forced <;> rfl

@[simp] lemma count_forced_clientArgs (id : String) (forced : Bool) :
    Args.count (clientArgs id forced) .forced = forced := by
  cases forced <;> rfl

@[simp] lemma forced_initDatabase (client : Option (ClientId × String)) (forced : Bool) :
    Database.forced (Order.initDatabase client forced).request = forced := by
  cases client with
  | none => cases forced <;> simp [Database.forced, Order.request]
  | some p => cases forced <;> simp [Database.forced, Order.request]

@[simp] lemma forced_addDevice (client : ClientId) (id : String) (forced : Bool)
    (deviceData : Control.DeviceData) :
    Database.forced (Order.addDevice client id forced deviceData).request = forced := by
  cases forced <;> simp [Database.forced, Order.request]

end Order

/-- An order that is served, with the outcomes of its system calls. -/
structure Service where
  order : Order
  io : DbIo

/-- The tables after an order. The states of the devices matter to the list of `doGetDevices`
only. -/
def serve (b : Backend) (t : Tables) (s : Service) : Except Fault Tables :=
  (requestHandler b (fun _ => none) s.io t s.order.request).map DbOutcome.tables

/-- The outcomes of the system calls of a handler in which the given statements fail. -/
def failing (fails : List (Nat × Nat)) : DbIo := ⟨1, Nat.one_pos, fails, true, .isOpen⟩

/-! ### Queries that may fail -/

section Queries

variable {b : Backend} {io : DbIo} {t : Tables}

lemma runQuery_single {call : Call} {st : Statement} (hplain : ∀ s ∈ call.strings, Plain s)
    (hst : call.statements = [st]) (n : Nat) :
    runQuery b io n t call =
      if (n, 0) ∈ io.fails then (t, none)
      else match st.exec b.type t with
        | some (t', reply) => (t', some reply)
        | none => (t, none) := by
  unfold runQuery
  rw [if_pos hplain, hst]
  by_cases hfails : (n, 0) ∈ io.fails
  · rw [if_pos hfails]
    cases htype : b.type <;> simp [execAll, hfails]
  · rw [if_neg hfails]
    cases hexec : st.exec b.type t with
    | none => cases htype : b.type <;> simp_all [execAll]
    | some r => cases htype : b.type <;> simp_all [execAll]

lemma run_hasDevice {hash : String} (h : Plain hash) (n : Nat) :
    runQuery b io n t (.hasDevice hash) = (t, if (n, 0) ∈ io.fails then none
      else some (.id (checkedDevice b.type hash t))) := by
  rw [runQuery_single (by simpa [Call.strings, Call.statements, Statement.strings] using h) rfl]
  split <;> rfl

lemma run_remDevice {hash : String} (h : Plain hash) (n : Nat) :
    runQuery b io n t (.remDevice hash) =
      if (n, 0) ∈ io.fails then (t, none) else (dropped b.type hash t, some .done) := by
  rw [runQuery_single (by simpa [Call.strings, Call.statements, Statement.strings] using h) rfl]
  rfl

lemma run_addDevice {deviceData : Control.DeviceData} (hhash : Plain deviceData.hash)
    (hname : Plain deviceData.name) (haddress : Plain deviceData.address) (n : Nat) :
    runQuery b io n t (.addDevice deviceData.hash deviceData.name deviceData.address deviceData.port) =
      if (n, 0) ∈ io.fails then (t, none) else (added b.type deviceData t, some .done) := by
  have hstrings : ∀ s ∈ (Call.addDevice deviceData.hash deviceData.name deviceData.address
      deviceData.port).strings, Plain s := by
    simpa [Call.strings, Call.statements, Statement.strings] using ⟨hhash, hname, haddress⟩
  rw [runQuery_single hstrings rfl]
  rfl

lemma run_hasSession {hash : String} (h : Plain hash) (n : Nat) :
    runQuery b io n t (.hasSession hash) = (t, if (n, 0) ∈ io.fails then none
      else some (.id (checkedSession b.type hash t))) := by
  rw [runQuery_single (by simpa [Call.strings, Call.statements, Statement.strings] using h) rfl]
  split <;> rfl

lemma run_remSession {hash : String} (h : Plain hash) (n : Nat) :
    runQuery b io n t (.remSession hash) =
      if (n, 0) ∈ io.fails then (t, none) else (removed b.type hash t, some .done) := by
  rw [runQuery_single (by simpa [Call.strings, Call.statements, Statement.strings] using h) rfl]
  rfl

lemma run_endSession {hash : String} (h : Plain hash) (n : Nat) :
    runQuery b io n t (.endSession hash io.now) =
      if (n, 0) ∈ io.fails then (t, none) else (ended b.type hash io.now t, some .done) := by
  rw [runQuery_single (by simpa [Call.strings, Call.statements, Statement.strings] using h) rfl]
  rfl

/-- `INSERT` of a session for the device with the id. -/
def recorded (type : DbType) (info : Monitor.SessionInfo) (now owner : Nat) (t : Tables) : Tables :=
  { t with
    sessions := t.sessions ++ [newSession type info now owner t]
    sessionSeq := t.sessionSeq + 1 }

lemma run_addSession {deviceHash : String} {info : Monitor.SessionInfo} (hdevice : Plain deviceHash)
    (hhash : Plain info.hash) (hname : Plain info.name) (n : Nat) :
    (runQuery b io n t (.addSession info deviceHash io.now)).1 =
      if (n, 0) ∈ io.fails then t
      else match scalar b.type (deviceIds b.type deviceHash t) with
        | none => t
        | some owner => recorded b.type info io.now owner t := by
  have hstrings : ∀ s ∈ (Call.addSession info deviceHash io.now).strings, Plain s := by
    simpa [Call.strings, Call.statements, Statement.strings] using ⟨hhash, hname, hdevice⟩
  rw [runQuery_single hstrings rfl]
  by_cases hfails : (n, 0) ∈ io.fails
  · rw [if_pos hfails, if_pos hfails]
  · rw [if_neg hfails, if_neg hfails]
    simp only [Statement.exec, Statement.execWith, deviceIds]
    cases scalar b.type ((t.devicesWith (hashMatches b.type) deviceHash).map (·.id)) with
    | none => rfl
    | some owner => rfl

lemma run_getDevices (n : Nat) :
    runQuery b io n t .getDevices = (t, if (n, 0) ∈ io.fails then none else some (.devices t.devices)) := by
  rw [runQuery_single (by simp [Call.strings, Call.statements, Statement.strings]) rfl]
  split <;> rfl

lemma run_getSessions (n : Nat) :
    runQuery b io n t .getSessions =
      (t, if (n, 0) ∈ io.fails then none else some (.sessions t.sessions)) := by
  rw [runQuery_single (by simp [Call.strings, Call.statements, Statement.strings]) rfl]
  split <;> rfl

lemma run_getSessionsOf {hash : String} (h : Plain hash) (n : Nat) :
    (runQuery b io n t (.getSessionsOf hash)).1 = t := by
  rw [runQuery_single (by simpa [Call.strings, Call.statements, Statement.strings] using h) rfl]
  simp only [Statement.exec, Statement.execWith]
  split
  · rfl
  · cases b.type with
    | sqlite3 =>
      dsimp only
      cases (t.devicesWith (hashMatches .sqlite3) hash).head? <;> rfl
    | postgreSQL => rfl

/-- The `INSERT`s of a message are done up to the first that fails. -/
lemma execAll_insertData_prefix (type : DbType) (fails : List (Nat × Nat)) (n : Nat)
    (sessionHash : String) (inserts : List Insert) (k : Nat) (t : Tables) (reply : Reply) :
    ∃ upTo, (execAll type fails n k t reply (inserts.map (.insertData · sessionHash))).1 =
        match scalar type (sessionIds type sessionHash t) with
        | none => t
        | some owner => { t with
            data := t.data ++ (inserts.take upTo).map fun i => ⟨i.table, i.columns, i.values, owner⟩ } := by
  have hnothing : t = match scalar type (sessionIds type sessionHash t) with
      | none => t
      | some owner => { t with
          data := t.data ++ (inserts.take 0).map fun i => ⟨i.table, i.columns, i.values, owner⟩ } := by
    cases scalar type (sessionIds type sessionHash t) <;> simp
  induction inserts generalizing k t reply with
  | nil => exact ⟨0, hnothing⟩
  | cons i inserts ih =>
    rw [List.map_cons, execAll]
    by_cases hfails : (n, k) ∈ fails
    · rw [if_pos hfails]
      exact ⟨0, hnothing⟩
    · rw [if_neg hfails]
      cases hscalar : scalar type (sessionIds type sessionHash t) with
      | none =>
        rw [exec_insertData, hscalar]
        exact ⟨0, rfl⟩
      | some owner =>
        rw [exec_insertData, hscalar, Option.map_some]
        have hsame : scalar type (sessionIds type sessionHash
            { t with data := t.data ++ [⟨i.table, i.columns, i.values, owner⟩] }) = some owner := hscalar
        obtain ⟨upTo, hupTo⟩ := ih (k + 1)
          { t with data := t.data ++ [⟨i.table, i.columns, i.values, owner⟩] } .done
          (by rw [hsame]; simp)
        refine ⟨upTo + 1, ?_⟩
        dsimp only
        rw [hupTo, hsame]
        simp

end Queries

/-! ### Dropping and creating the tables -/

/-- The tables with the names are dropped. -/
def erased (names : List String) (t : Tables) : Tables := names.foldl dropTable t

/-- The tables that are dropped by a query of a handler. -/
def droppedNames (type : DbType) (io : DbIo) (n : Nat) : List String :=
  let upTo := ((List.range droppedTables.length).takeWhile fun k => (n, k) ∉ io.fails).length
  match type with
  | .sqlite3 => droppedTables.take upTo
  | .postgreSQL => if upTo = droppedTables.length then droppedTables else []

lemma runDropTables_eq (b : Backend) (io : DbIo) (n : Nat) (t : Tables) :
    runDropTables b io n t = erased (droppedNames b.type io n) t := by
  unfold runDropTables droppedNames erased
  cases b.type with
  | sqlite3 => rfl
  | postgreSQL =>
    dsimp only
    split <;> rfl

lemma devicesTableName_ne : devicesTableName ≠ sessionsTableName := by decide

lemma erased_devices (names : List String) (t : Tables) :
    (erased names t).devices = if devicesTableName ∈ names then [] else t.devices := by
  induction names generalizing t with
  | nil => simp [erased]
  | cons name names ih =>
    have hrec : (erased (name :: names) t).devices = (erased names (dropTable t name)).devices := rfl
    rw [hrec, ih]
    by_cases hname : name = devicesTableName
    · simp [dropTable, hname]
    · have hkeep : (dropTable t name).devices = t.devices := by
        unfold dropTable
        rw [if_neg hname]
        split <;> rfl
      rw [hkeep]
      simp [Ne.symm hname]

lemma erased_sessions (names : List String) (t : Tables) :
    (erased names t).sessions = if sessionsTableName ∈ names then [] else t.sessions := by
  induction names generalizing t with
  | nil => simp [erased]
  | cons name names ih =>
    have hrec : (erased (name :: names) t).sessions = (erased names (dropTable t name)).sessions := rfl
    rw [hrec, ih]
    by_cases hname : name = sessionsTableName
    · have hne : sessionsTableName ≠ devicesTableName := devicesTableName_ne.symm
      simp [dropTable, hname, hne]
    · have hkeep : (dropTable t name).sessions = t.sessions := by
        unfold dropTable
        split
        · rfl
        · rfl
      rw [hkeep]
      simp [Ne.symm hname]

lemma erased_data (names : List String) (t : Tables) : (erased names t).data = t.data.filter fun row =>
    row.table ∉ names ∨ row.table = devicesTableName ∨ row.table = sessionsTableName := by
  induction names generalizing t with
  | nil => simp [erased]
  | cons name names ih =>
    have hrec : (erased (name :: names) t).data = (erased names (dropTable t name)).data := rfl
    have hdrop : (dropTable t name).data = t.data.filter fun row =>
        row.table ≠ name ∨ row.table = devicesTableName ∨ row.table = sessionsTableName := by
      unfold dropTable
      split
      · rename_i hname
        exact (List.filter_eq_self.mpr fun row _ => by simp [hname]; tauto).symm
      · split
        · rename_i hname
          exact (List.filter_eq_self.mpr fun row _ => by simp [hname]; tauto).symm
        · rename_i hdevices hsessions
          apply List.filter_congr
          intro row _
          rw [Bool.eq_iff_iff, decide_eq_true_eq, decide_eq_true_eq]
          constructor
          · exact .inl
          · rintro (hne | hdev | hses)
            · exact hne
            · exact fun heq => hdevices (heq.symm.trans hdev)
            · exact fun heq => hsessions (heq.symm.trans hses)
    rw [hrec, ih, hdrop, List.filter_filter]
    apply List.filter_congr
    intro row _
    rw [Bool.eq_iff_iff, Bool.and_eq_true, decide_eq_true_eq, decide_eq_true_eq, decide_eq_true_eq,
      List.mem_cons]
    tauto

lemma mem_erased_data {names : List String} {t : Tables} {row : DataRow} :
    row ∈ (erased names t).data ↔ row ∈ t.data ∧
      (row.table ∈ names → row.table = devicesTableName ∨ row.table = sessionsTableName) := by
  rw [erased_data, List.mem_filter, decide_eq_true_eq, imp_iff_not_or]

lemma mem_erased_missing {names : List String} {t : Tables} {name : String} :
    name ∈ (erased names t).missing ↔ name ∈ names ∨ name ∈ t.missing := by
  induction names generalizing t with
  | nil => simp [erased]
  | cons first names ih =>
    have hrec : (erased (first :: names) t).missing = (erased names (dropTable t first)).missing := rfl
    have hdrop : (dropTable t first).missing = first :: t.missing := by
      unfold dropTable
      split
      · rfl
      · split <;> rfl
    rw [hrec, ih, hdrop, List.mem_cons, List.mem_cons]
    tauto

lemma mem_created_missing {names : List String} {t : Tables} {name : String} :
    name ∈ (created names t).missing ↔ name ∈ t.missing ∧ name ∉ names := by
  simp [created, reshaped]

/-! ### What an order does -/

/-- The status that a handler answers with. -/
def answered (o : DbOutcome) : Option String :=
  o.dispatcher.head?.bind fun answer => answer.args.lookup .status

@[simp] lemma answered_answer (t : Tables) (rq : IDatabase.Request) (args : Args) :
    answered (answer t rq args) = args.lookup .status := rfl

@[simp] lemma answered_quiet (t : Tables) : answered (quiet t) = none := rfl

/-- A statement of `createTables` fails. -/
def CreateFails (type : DbType) (io : DbIo) (n : Nat) : Prop :=
  ∃ k < (tables type).length, (n, k) ∈ io.fails

/-- PostgreSQL is connected when the tables are created. -/
def LinkUp (type : DbType) (io : DbIo) : Prop :=
  type = .postgreSQL → io.link = .isOpen ∨ io.link = .reopened

/-- A statement of `dropTables` fails. -/
def DropFails (io : DbIo) (n : Nat) : Prop := ∃ k < droppedTables.length, (n, k) ∈ io.fails

/-- `doAddDevice` gets as far as its `INSERT`. -/
structure InsertsDevice (type : DbType) (t : Tables) (io : DbIo) (forced : Bool) (hash : String) :
    Prop where
  checked : (0, 0) ∉ io.fails
  unmatched : forced = false → NotFound type hash t
  removed : forced = true → type = .postgreSQL → (1, 0) ∉ io.fails

/-- The strings of all statements that are run stay inside of their literals. -/
def RunsPlain (type : DbType) (t : Tables) (io : DbIo) : Order → Prop
  | .addDevice _ _ forced deviceData =>
    Plain deviceData.hash ∧ (InsertsDevice type t io forced deviceData.hash →
      Plain deviceData.name ∧ Plain deviceData.address)
  | order => ∀ v ∈ order.strings, Plain v

lemma runsPlain_of_plain {type : DbType} {t : Tables} {io : DbIo} {order : Order}
    (h : ∀ v ∈ order.strings, Plain v) : RunsPlain type t io order := by
  cases order with
  | addDevice client id forced deviceData =>
    exact ⟨h _ (by simp [Order.strings]), fun _ =>
      ⟨h _ (by simp [Order.strings]), h _ (by simp [Order.strings])⟩⟩
  | _ => exact h

/-- No statement of an order deletes a row or drops a table. -/
def DeletesNothing (type : DbType) (t : Tables) (io : DbIo) : Order → Prop
  | .initDatabase _ true => ¬ LinkUp type io
  | .addDevice _ _ true _ | .removeDevice _ _ _ _ =>
    (0, 0) ∈ io.fails ∨ (1, 0) ∈ io.fails
  | .addSession _ info =>
    (0, 0) ∈ io.fails ∨ (1, 0) ∈ io.fails ∨ Misread type (checkedSession type info.hash t)
  | .remSession _ _ _ sessionData =>
    (0, 0) ∈ io.fails ∨ (1, 0) ∈ io.fails ∨ t.sessionsWith (hashMatches type) sessionData.hash = []
  | _ => True

/-- What an order does to the tables, and the status that it is answered with. -/
inductive Effect (type : DbType) (t : Tables) (io : DbIo) : Order → Tables → Option String → Prop where
  | same (order : Order) (status : Option String) (hsame : DeletesNothing type t io order) :
      Effect type t io order t status
  | created (client : Option (ClientId × String)) (status : Option String) (hlink : LinkUp type io)
      (hcreate : status = some (valFor .statusError) → CreateFails type io 1) :
      Effect type t io (.initDatabase client false) (created (createdNames type io 1) t) status
  | erased (client : Option (ClientId × String)) (status : Option String) (hlink : LinkUp type io)
      (hcreate : status = some (valFor .statusError) → CreateFails type io 1) :
      Effect type t io (.initDatabase client true)
        (created (createdNames type io 1) (erased (droppedNames type io 0) t)) status
  | added (client : ClientId) (id : String) (forced : Bool) (deviceData : Control.DeviceData)
      (hnew : forced = false ∧ NotFound type deviceData.hash t ∨
        forced = true ∧ type = .sqlite3 ∧ (1, 0) ∈ io.fails)
      (hcheck : (0, 0) ∉ io.fails) (hinsert : (2, 0) ∉ io.fails) :
      Effect type t io (.addDevice client id forced deviceData) (added type deviceData t)
        (some (valFor .statusOkay))
  | replaced (client : ClientId) (id : String) (deviceData : Control.DeviceData)
      (hcheck : (0, 0) ∉ io.fails) (hremove : (1, 0) ∉ io.fails) :
      Effect type t io (.addDevice client id true deviceData)
        (added type deviceData (dropped type deviceData.hash t)) (some (valFor .statusOkay))
  | left (client : ClientId) (id : String) (deviceData : Control.DeviceData)
      (hcheck : (0, 0) ∉ io.fails) (hremove : (1, 0) ∉ io.fails) (hinsert : (2, 0) ∈ io.fails) :
      Effect type t io (.addDevice client id true deviceData) (dropped type deviceData.hash t)
        (some (valFor .statusError))
  | dropped (client : ClientId) (id : String) (forced : Bool) (deviceData : Control.DeviceData)
      (status : Option String) (hcheck : (0, 0) ∉ io.fails) (hremove : (1, 0) ∉ io.fails)
      (hstatus : status = some (valFor .statusError) → NotFound type deviceData.hash t) :
      Effect type t io (.removeDevice client id forced deviceData) (dropped type deviceData.hash t) status
  | removed (client : ClientId) (id : String) (forced : Bool) (sessionData : Control.SessionData)
      (status : Option String) (hcheck : (0, 0) ∉ io.fails) (hremove : (1, 0) ∉ io.fails)
      (hstatus : status = some (valFor .statusError) →
        t.sessionsWith (hashMatches type) sessionData.hash = [] ∨
          Misread type (checkedSession type sessionData.hash t)) :
      Effect type t io (.remSession client id forced sessionData) (removed type sessionData.hash t) status
  | cleared (deviceHash : String) (info : Monitor.SessionInfo)
      (hcheck : (0, 0) ∉ io.fails) (hremove : (1, 0) ∉ io.fails)
      (hread : ¬ Misread type (checkedSession type info.hash t)) :
      Effect type t io (.addSession deviceHash info) (removed type info.hash t) none
  | opened (deviceHash : String) (info : Monitor.SessionInfo) (owner : Nat)
      (howner : scalar type (deviceIds type deviceHash t) = some owner)
      (hcheck : (0, 0) ∉ io.fails) (hremove : (1, 0) ∉ io.fails)
      (hread : ¬ Misread type (checkedSession type info.hash t)) :
      Effect type t io (.addSession deviceHash info)
        (recorded type info io.now owner (removed type info.hash t)) none
  | doubled (deviceHash : String) (info : Monitor.SessionInfo) (owner : Nat)
      (howner : scalar type (deviceIds type deviceHash t) = some owner)
      (hfails : (0, 0) ∈ io.fails ∨ (1, 0) ∈ io.fails ∨
        Misread type (checkedSession type info.hash t)) (hinsert : (2, 0) ∉ io.fails) :
      Effect type t io (.addSession deviceHash info) (recorded type info io.now owner t) none
  | ended (hash : String) (hdone : (0, 0) ∉ io.fails) :
      Effect type t io (.endSession hash) (ended type hash io.now t) none
  | stored (sessionHash : String) (data : Monitor.Data) (owner upTo : Nat)
      (howner : scalar type (sessionIds type sessionHash t) = some owner) :
      Effect type t io (.addData sessionHash data)
        { t with data := t.data ++ (dataRows data owner).take upTo } none

section Effects

variable {b : Backend} {io : DbIo} {t : Tables} {states : String → Option Control.DeviceState}
  {o : DbOutcome}

lemma takeWhile_length_eq {fails : List (Nat × Nat)} {n m : Nat} :
    ((List.range m).takeWhile fun k => (n, k) ∉ fails).length = m ↔ ¬ ∃ k < m, (n, k) ∈ fails := by
  have hprefix := List.takeWhile_prefix (fun k => decide ((n, k) ∉ fails)) (l := List.range m)
  have hwhole : ((List.range m).takeWhile fun k => (n, k) ∉ fails).length = m ↔
      (List.range m).takeWhile (fun k => (n, k) ∉ fails) = List.range m := by
    constructor
    · intro h
      exact hprefix.eq_of_length (by rw [h, List.length_range])
    · intro h
      rw [h, List.length_range]
  rw [hwhole, List.takeWhile_eq_self_iff]
  simp

lemma runCreateTables_eq_false (t : Tables) {n : Nat} :
    (runCreateTables b io n t).2 = false ↔ CreateFails b.type io n := by
  have hlength : (createdTables b.type).length = (tables b.type).length := by
    rw [createdTables, List.length_map]
  unfold CreateFails
  rw [← hlength, ← not_iff_not, ← takeWhile_length_eq]
  unfold runCreateTables
  cases b.type with
  | sqlite3 => simp
  | postgreSQL =>
    dsimp only
    split
    · simp_all
    · simp_all

lemma lookup_initDatabase (args : Args) (status : Bool) (reason : String)
    (hargs : args.lookup .status = none) :
    ((args.emplace .status (statusFor status)).emplace .reason reason).lookup .status =
      some (statusFor status) := by
  simp [hargs]

lemma doInitDatabase_up {rq : IDatabase.Request} (hlink : LinkUp b.type io) :
    doInitDatabase b io t rq =
      let t := if forced rq then erased (droppedNames b.type io 0) t else t
      let status := (runCreateTables b io 1 t).2
      .ok (answer (created (createdNames b.type io 1) t) rq
        (((Args.copyRequestId rq.args).emplace .status (statusFor status)).emplace .reason
          (if status then "Database init complete" else "Database init failed. Query error"))) := by
  unfold doInitDatabase
  rw [runDropTables_eq]
  simp only [runCreateTables_tables]
  cases htype : b.type with
  | sqlite3 => rfl
  | postgreSQL =>
    obtain h | h := hlink htype
    · rw [h]
    · rw [h]

lemma initDatabase_effect {client : Option (ClientId × String)} {forced : Bool}
    (ho : doInitDatabase b io t (Order.initDatabase client forced).request = .ok o) :
    Effect b.type t io (.initDatabase client forced) o.tables (answered o) := by
  by_cases hlink : LinkUp b.type io
  · rw [doInitDatabase_up hlink, Order.forced_initDatabase, Except.ok.injEq] at ho
    rw [← ho, answered_answer, lookup_initDatabase _ _ _ (by simp)]
    have hcreate : ∀ t, some (statusFor (runCreateTables b io 1 t).2) = some (valFor .statusError) →
        CreateFails b.type io 1 := by
      intro t hstatus
      apply (runCreateTables_eq_false t).mp
      cases hcreate : (runCreateTables b io 1 t).2 with
      | false => rfl
      | true => simp [hcreate, statusFor, valFor] at hstatus
    cases forced with
    | true => exact .erased client _ hlink (hcreate _)
    | false => exact .created client _ hlink (hcreate _)
  · obtain ⟨htype, hdown⟩ := Classical.not_imp.mp hlink
    unfold doInitDatabase at ho
    cases hstate : io.link with
    | isOpen => exact absurd (.inl hstate) hdown
    | reopened => exact absurd (.inr hstate) hdown
    | closed =>
      simp only [htype, hstate, Except.ok.injEq] at ho
      rw [← ho]
      cases forced with
      | true => exact .same _ _ hlink
      | false => exact .same _ _ trivial
    | broken => simp [htype, hstate] at ho

lemma addDevice_order_effect {client : ClientId} {id : String} {forced : Bool}
    {deviceData : Control.DeviceData} (hhash : Plain deviceData.hash)
    (hplain : InsertsDevice b.type t io forced deviceData.hash →
      Plain deviceData.name ∧ Plain deviceData.address)
    (ho : doAddDevice b io t (Order.addDevice client id forced deviceData).request = .ok o) :
    Effect b.type t io (.addDevice client id forced deviceData) o.tables (answered o) := by
  unfold doAddDevice at ho
  rw [Order.forced_addDevice] at ho
  simp only [Order.request, BulkData.castDeviceData, run_hasDevice hhash,
    Order.count_forced_clientArgs] at ho
  by_cases hcheck : (0, 0) ∈ io.fails
  · simp only [if_pos hcheck, if_true, Except.ok.injEq] at ho
    rw [← ho]
    cases forced with
    | true => exact .same _ _ (.inl hcheck)
    | false => exact .same _ _ trivial
  simp only [if_neg hcheck, reduceCtorEq, if_false] at ho
  cases forced with
  | false =>
    by_cases hfound : NotFound b.type deviceData.hash t
    · have hnot := found_hasDevice.mpr hfound
      obtain ⟨hname, haddress⟩ := hplain ⟨hcheck, fun _ => hfound, by simp⟩
      simp only [hnot, run_addDevice hhash hname haddress] at ho
      by_cases hinsert : (2, 0) ∈ io.fails
      · simp [hinsert, answer, quiet] at ho
        rw [← ho]
        exact .same _ _ trivial
      · simp [hinsert, answer, quiet] at ho
        rw [← ho]
        exact .added client id false deviceData (.inl ⟨rfl, hfound⟩) hcheck hinsert
    · have hyes := mt found_hasDevice.mp hfound
      simp [Bool.not_eq_false] at hyes
      simp [hyes, answer, quiet] at ho
      rw [← ho]
      exact .same _ _ trivial
  | true =>
    simp only [Bool.true_eq_false, false_and, if_false, if_true, run_remDevice hhash] at ho
    by_cases hremove : (1, 0) ∈ io.fails
    · cases htype : b.type with
      | postgreSQL =>
        simp [htype, hremove, answer, quiet] at ho
        rw [← ho]
        exact .same _ _ (.inr hremove)
      | sqlite3 =>
        obtain ⟨hname, haddress⟩ := hplain ⟨hcheck, by simp, by simp [htype]⟩
        rw [run_addDevice hhash hname haddress] at ho
        by_cases hinsert : (2, 0) ∈ io.fails
        · simp [htype, hremove, hinsert, answer, quiet] at ho
          rw [← ho]
          exact .same _ _ (.inr hremove)
        · simp [htype, hremove, hinsert, answer, quiet] at ho
          rw [← ho]
          exact .added client id true deviceData (.inr ⟨rfl, rfl, hremove⟩) hcheck hinsert
    · obtain ⟨hname, haddress⟩ := hplain ⟨hcheck, by simp, fun _ _ => hremove⟩
      rw [run_addDevice hhash hname haddress] at ho
      by_cases hinsert : (2, 0) ∈ io.fails
      · simp [hremove, hinsert, answer, quiet] at ho
        rw [← ho]
        exact .left client id deviceData hcheck hremove hinsert
      · simp [hremove, hinsert, answer, quiet] at ho
        rw [← ho]
        exact .replaced client id deviceData hcheck hremove

lemma removeDevice_effect {client : ClientId} {id : String} {forced : Bool}
    {deviceData : Control.DeviceData} (hhash : Plain deviceData.hash)
    (ho : doRemoveDevice b io t (Order.removeDevice client id forced deviceData).request = .ok o) :
    Effect b.type t io (.removeDevice client id forced deviceData) o.tables (answered o) := by
  unfold doRemoveDevice at ho
  simp only [Order.request, BulkData.castDeviceData, run_hasDevice hhash, run_remDevice hhash] at ho
  by_cases hcheck : (0, 0) ∈ io.fails
  · simp only [if_pos hcheck, if_true, Except.ok.injEq] at ho
    rw [← ho]
    exact .same _ _ (.inl hcheck)
  simp only [if_neg hcheck, reduceCtorEq, if_false, Except.ok.injEq] at ho
  by_cases hremove : (1, 0) ∈ io.fails
  · simp only [if_pos hremove] at ho
    rw [← ho]
    exact .same _ _ (.inr hremove)
  · simp only [if_neg hremove] at ho
    rw [← ho, answered_answer]
    apply Effect.dropped _ _ _ _ _ hcheck hremove
    intro hstatus
    by_contra hfound
    have hyes := mt found_hasDevice.mp hfound
    rw [Bool.not_eq_false] at hyes
    simp [hyes, statusFor, valFor] at hstatus

lemma remSession_effect {client : ClientId} {id : String} {forced : Bool}
    {sessionData : Control.SessionData} (hhash : Plain sessionData.hash)
    (ho : doRemSession b io t (Order.remSession client id forced sessionData).request = .ok o) :
    Effect b.type t io (.remSession client id forced sessionData) o.tables (answered o) := by
  unfold doRemSession at ho
  simp only [Order.request, BulkData.castSessionData, run_hasSession hhash, run_remSession hhash] at ho
  by_cases hcheck : (0, 0) ∈ io.fails
  · simp only [if_pos hcheck, if_true, Except.ok.injEq] at ho
    rw [← ho]
    exact .same _ _ (.inl hcheck)
  simp only [if_neg hcheck, reduceCtorEq, if_false] at ho
  split at ho
  · rename_i hmissing
    simp only [Except.ok.injEq] at ho
    rw [← ho]
    refine .same _ _ (.inr (.inr ((found_hasSession.mp hmissing.2).resolve_right ?_)))
    rw [hmissing.1]
    exact not_misread_postgreSQL
  · simp only [Except.ok.injEq] at ho
    by_cases hremove : (1, 0) ∈ io.fails
    · simp only [if_pos hremove] at ho
      rw [← ho]
      exact .same _ _ (.inr (.inl hremove))
    · simp only [if_neg hremove] at ho
      rw [← ho, answered_answer]
      apply Effect.removed _ _ _ _ _ hcheck hremove
      intro hstatus
      by_contra hfound
      have hyes := mt found_hasSession.mp hfound
      rw [Bool.not_eq_false] at hyes
      simp [hyes, statusFor, valFor] at hstatus

lemma addSession_effect {deviceHash : String} {info : Monitor.SessionInfo}
    (hplain : ∀ s ∈ (Order.addSession deviceHash info).strings, Plain s)
    (ho : doAddSession b io t (Order.addSession deviceHash info).request = .ok o) :
    Effect b.type t io (.addSession deviceHash info) o.tables (answered o) := by
  have hhash : Plain info.hash := hplain _ (by simp [Order.strings])
  have hname : Plain info.name := hplain _ (by simp [Order.strings])
  have hdevice : Plain deviceHash := hplain _ (by simp [Order.strings])
  have hargs : (Order.addSession deviceHash info).request.args.lookup .deviceHash = some deviceHash := rfl
  unfold doAddSession at ho
  rw [hargs] at ho
  simp only [Order.request, addSessionRequest, BulkData.castSessionInfo, run_hasSession hhash,
    run_remSession hhash, run_addSession hdevice hhash hname, Except.ok.injEq] at ho
  rw [← ho]
  change Effect b.type t io (.addSession deviceHash info) (if (2, 0) ∈ io.fails then _ else _) none
  -- the old session is kept when it cannot be looked up or deleted, and when its id is misread
  by_cases hkept : (0, 0) ∈ io.fails ∨ (1, 0) ∈ io.fails ∨ Misread b.type (checkedSession b.type info.hash t)
  · have hsame : (if Reply.found b.type (if (0, 0) ∈ io.fails then none
        else some (.id (checkedSession b.type info.hash t))) = true
        then (if (1, 0) ∈ io.fails then (t, none)
          else (removed b.type info.hash t, some Reply.done)).1 else t) = t := by
      obtain h | h | h := hkept
      · rw [if_pos h]
        rfl
      · rw [if_pos h, ite_self]
      · by_cases hcheck : (0, 0) ∈ io.fails
        · rw [if_pos hcheck]
          rfl
        · rw [if_neg hcheck, found_hasSession.mpr (.inr h)]
          rfl
    rw [hsame]
    by_cases hinsert : (2, 0) ∈ io.fails
    · rw [if_pos hinsert]
      exact .same _ _ hkept
    · rw [if_neg hinsert]
      cases howner : scalar b.type (deviceIds b.type deviceHash t) with
      | none => exact .same _ _ hkept
      | some owner => exact .doubled deviceHash info owner howner hkept hinsert
  · obtain ⟨hcheck, hremove, hread⟩ := by simpa only [not_or] using hkept
    have hgone : (if Reply.found b.type (if (0, 0) ∈ io.fails then none
        else some (.id (checkedSession b.type info.hash t))) = true
        then (if (1, 0) ∈ io.fails then (t, none)
          else (removed b.type info.hash t, some Reply.done)).1 else t) = removed b.type info.hash t := by
      rw [if_neg hcheck, if_neg hremove]
      exact (removed_of_found b.type info.hash t).trans (vacated_of_read hread)
    rw [hgone]
    by_cases hinsert : (2, 0) ∈ io.fails
    · rw [if_pos hinsert]
      exact .cleared deviceHash info hcheck hremove hread
    · rw [if_neg hinsert]
      have hids : deviceIds b.type deviceHash (removed b.type info.hash t) =
          deviceIds b.type deviceHash t := rfl
      rw [hids]
      cases howner : scalar b.type (deviceIds b.type deviceHash t) with
      | none => exact .cleared deviceHash info hcheck hremove hread
      | some owner => exact .opened deviceHash info owner howner hcheck hremove hread

lemma endSession_effect {hash : String} (hhash : Plain hash)
    (ho : doEndSession b io t (Order.endSession hash).request = .ok o) :
    Effect b.type t io (.endSession hash) o.tables (answered o) := by
  have hargs : (Order.endSession hash).request.args.lookup .sessionHash = some hash := rfl
  unfold doEndSession at ho
  rw [hargs] at ho
  simp only [run_endSession hhash, Except.ok.injEq] at ho
  rw [← ho]
  by_cases hfails : (0, 0) ∈ io.fails
  · rw [if_pos hfails]
    exact .same _ _ trivial
  · rw [if_neg hfails]
    exact .ended hash hfails

lemma addData_effect {sessionHash : String} {data : Monitor.Data}
    (hplain : ∀ s ∈ (Order.addData sessionHash data).strings, Plain s)
    (ho : doAddData b io t (Order.addData sessionHash data).request = .ok o) :
    Effect b.type t io (.addData sessionHash data) o.tables (answered o) := by
  have hargs : (Order.addData sessionHash data).request.args.lookup .sessionHash = some sessionHash := rfl
  unfold doAddData at ho
  rw [hargs] at ho
  simp only [Order.request, addDataRequest, BulkData.castData] at ho
  cases hm : measurement data with
  | none =>
    simp only [hm, Except.ok.injEq] at ho
    rw [← ho]
    exact .same _ _ trivial
  | some m =>
    simp only [hm, Except.ok.injEq] at ho
    rw [← ho]
    have hstrings : ∀ s ∈ (Call.addData sessionHash m (timestamps data)).strings, Plain s := by
      intro s hs
      obtain ⟨st, hst, hs⟩ := List.mem_flatMap.mp hs
      obtain ⟨i, hi, rfl⟩ := List.mem_map.mp hst
      apply hplain
      obtain hvalue | hsession := List.mem_append.mp hs
      · apply List.mem_append_left
        simp only [dataStrings, hm]
        exact List.mem_flatMap.mpr ⟨i, hi, hvalue⟩
      · exact List.mem_append_right _ hsession
    obtain ⟨upTo, hupTo⟩ := execAll_insertData_prefix b.type io.fails 0 sessionHash
      (m.inserts (timestamps data)) 0 t .done
    change Effect b.type t io _ (runQuery b io 0 t _).1 none
    unfold runQuery
    rw [if_pos hstrings]
    simp only [Call.statements]
    have hrows : ∀ owner, scalar b.type (sessionIds b.type sessionHash t) = some owner →
        Effect b.type t io (.addData sessionHash data)
          (execAll b.type io.fails 0 0 t .done
            ((m.inserts (timestamps data)).map (.insertData · sessionHash))).1 none := by
      intro owner howner
      rw [hupTo, howner]
      have hdata : ((m.inserts (timestamps data)).take upTo).map
          (fun i => (⟨i.table, i.columns, i.values, owner⟩ : DataRow)) = (dataRows data owner).take upTo := by
        simp only [dataRows, hm, List.map_take]
      dsimp only
      rw [hdata]
      exact .stored sessionHash data owner upTo howner
    have hnothing : scalar b.type (sessionIds b.type sessionHash t) = none →
        (execAll b.type io.fails 0 0 t .done
          ((m.inserts (timestamps data)).map (.insertData · sessionHash))).1 = t := by
      intro hnone
      rw [hupTo, hnone]
    have hall : Effect b.type t io (.addData sessionHash data)
        (execAll b.type io.fails 0 0 t .done
          ((m.inserts (timestamps data)).map (.insertData · sessionHash))).1 none := by
      cases howner : scalar b.type (sessionIds b.type sessionHash t) with
      | none =>
        rw [hnothing howner]
        exact .same _ _ trivial
      | some owner => exact hrows owner howner
    cases htype : b.type with
    | sqlite3 =>
      rw [htype] at hall
      exact hall
    | postgreSQL =>
      rw [htype] at hall
      generalize execAll .postgreSQL io.fails 0 0 t .done
        ((m.inserts (timestamps data)).map (.insertData · sessionHash)) = result at hall ⊢
      obtain ⟨t', reply⟩ := result
      cases reply with
      | none => exact .same _ _ trivial
      | some reply => exact hall

/-- An order whose strings stay inside of their literals does one of the things listed. -/
theorem requestHandler_effect {order : Order} (hplain : RunsPlain b.type t io order)
    (ho : requestHandler b states io t order.request = .ok o) :
    Effect b.type t io order o.tables (answered o) := by
  cases order with
  | checkDatabase =>
    simp only [requestHandler, Order.request, Except.ok.injEq] at ho
    rw [← ho]
    exact .same _ _ trivial
  | loadDevices =>
    simp only [requestHandler, Order.request, doLoadDevices, run_getDevices, Except.ok.injEq] at ho
    rw [← ho]
    exact .same _ _ trivial
  | cleanSessions =>
    simp only [requestHandler, Order.request, doCleanSessions, run_getSessions, Except.ok.injEq] at ho
    rw [← ho]
    exact .same _ _ trivial
  | initDatabase client forced =>
    have haction : (Order.initDatabase client forced).request.action = .initDatabase := by
      cases client <;> rfl
    unfold requestHandler at ho
    rw [haction] at ho
    exact initDatabase_effect ho
  | getDevices client id =>
    simp only [requestHandler, Order.request, doGetDevices, run_getDevices, Except.ok.injEq] at ho
    rw [← ho]
    unfold sendList
    split <;> exact .same _ _ trivial
  | getSessions client id forced deviceData =>
    have hhash : Plain deviceData.hash := hplain _ (by simp [Order.strings])
    simp only [requestHandler, Order.request, doGetSessions, BulkData.castDeviceData,
      Except.ok.injEq] at ho
    rw [← ho]
    have hsame : (runQuery b io 0 t (if deviceData.hash.isEmpty then .getSessions
        else .getSessionsOf deviceData.hash)).1 = t := by
      split
      · rw [run_getSessions]
      · exact run_getSessionsOf hhash 0
    unfold sendList
    split
    · rw [hsame]
      exact .same _ _ trivial
    · dsimp only [answer, quiet]
      rw [hsame]
      exact .same _ _ trivial
  | addDevice client id forced deviceData => exact addDevice_order_effect hplain.1 hplain.2 ho
  | removeDevice client id forced deviceData =>
    exact removeDevice_effect (hplain _ (by simp [Order.strings])) ho
  | remSession client id forced sessionData =>
    exact remSession_effect (hplain _ (by simp [Order.strings])) ho
  | addSession deviceHash info => exact addSession_effect hplain ho
  | endSession hash => exact endSession_effect (hplain _ (by simp [Order.strings])) ho
  | addData sessionHash data => exact addData_effect hplain ho

theorem serve_effect {s : Service} {t' : Tables} (hplain : ∀ v ∈ s.order.strings, Plain v)
    (h : serve b t s = .ok t') : ∃ status, Effect b.type t s.io s.order t' status := by
  unfold serve at h
  cases ho : requestHandler b (fun _ => none) s.io t s.order.request with
  | error fault => simp [ho, Except.map] at h
  | ok o =>
    simp only [ho, Except.map, Except.ok.injEq] at h
    rw [← h]
    exact ⟨_, requestHandler_effect (runsPlain_of_plain hplain) ho⟩

end Effects

end TkmCollector.Proofs
