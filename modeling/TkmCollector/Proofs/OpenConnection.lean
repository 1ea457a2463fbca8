import TkmCollector.Proofs.ConnectionRecovery

namespace TkmCollector.Proofs

open PQDatabase Faulting

/-- The server behind a connection. Without one, no text does anything. -/
def serverOn (foreign : String → Tables → Tables × Option TkmCollector.Reply) (alive : Bool) :
    Backend :=
  ⟨.postgreSQL, if alive then foreign else fun _ t => (t, none)⟩

/-- The outcomes of the system calls. Without a server the first statement of every query fails. -/
def outcomesOn (alive : Bool) (link : Link) (io : DbIo) : DbIo :=
  { io with
    fails := if alive then io.fails else [(0, 0), (1, 0), (2, 0)]
    link := link }

lemma found_on {foreign : String → Tables → Tables × Option TkmCollector.Reply} {alive : Bool}
    {reply : Option TkmCollector.Reply} :
    Database.Reply.found (serverOn foreign alive).type reply =
      Database.Reply.found .postgreSQL reply := rfl

/-- What a transaction comes to. -/
def onServer {α : Type} (alive : Bool) (run : Tables → Tables × α) (failed : α) (t : Tables) :
    Tables × α :=
  if alive then run t else (t, failed)

/-- The connection after a transaction: one that is not alive is found closed. -/
def noticed (c : PQConnection) : PQConnection := if c.alive then c else .lost

/-- The state after a transaction that left the tables. -/
def afterTransaction (s : PQDatabase) (alive : Bool) (tables : Tables) : PQDatabase :=
  { s with
    connection := s.connection.map noticed
    tables := tables
    ran := s.ran ++ [alive] }

/-- The connection, when it is there, is alive or not. -/
def Finds (alive : Bool) (s : PQDatabase) : Prop := ∀ c, s.connection = some c → c.alive = alive

/-- A handler leaves the server as it is, and the connection too, or finds it closed. -/
structure Stays (s s' : PQDatabase) : Prop where
  connection : s'.connection = s.connection ∨ s'.connection = s.connection.map noticed
  reachable : s'.reachable = s.reachable

/-- The tables after a handler. One that throws has not changed them. -/
def tablesAfter (t : Tables) : Except Fault DbOutcome → Tables
  | .ok o => o.tables
  | .error _ => t

/-- The handler dies of the null pointer, or it does what `result` says. Its transactions run on
the connection of `found`. -/
def HandlesOn (found : PQDatabase) (m : Handler DbOutcome) (s : PQDatabase)
    (result : Except Fault DbOutcome) : Prop :=
  s.connection = none ∧ m s = (.error .nullConnection, s) ∨
    ∃ s', m s = (result.mapError .exception, s') ∧ s'.tables = tablesAfter s.tables result ∧
      Stays found s'

/-- The same for a handler that takes the connection as it is. -/
def HandlesLike (m : Handler DbOutcome) (s : PQDatabase) (result : Except Fault DbOutcome) : Prop :=
  HandlesOn s m s result

section

variable {foreign : String → Tables → Tables × Option TkmCollector.Reply} {io : DbIo}
  {states : String → Option Control.DeviceState} {rq : IDatabase.Request} {s s' : PQDatabase}
  {c : PQConnection} {alive : Bool} {link : Link}

@[simp] lemma noticed_alive (c : PQConnection) : (noticed c).alive = c.alive := by
  unfold noticed
  cases halive : c.alive with
  | true => exact halive
  | false => rfl

@[simp] lemma noticed_noticed (c : PQConnection) : noticed (noticed c) = noticed c := by
  cases halive : c.alive with
  | true => simp [noticed, halive]
  | false => simp [noticed, halive, PQConnection.lost]

lemma finds_afterTransaction (hs : Finds alive s) (t : Tables) :
    Finds alive (afterTransaction s alive t) := by
  intro c' hc'
  obtain ⟨c, hc, rfl⟩ := Option.map_eq_some_iff.mp hc'
  rw [noticed_alive]
  exact hs c hc

lemma Stays.refl (s : PQDatabase) : Stays s s := ⟨.inl rfl, rfl⟩

lemma Stays.of_afterTransaction {t : Tables} (h : Stays (afterTransaction s alive t) s') :
    Stays s s' where
  connection := by
    right
    rcases h.connection with hc | hc
    · exact hc
    · rw [hc]
      simp [afterTransaction, Option.map_map, Function.comp_def]
  reachable := h.reachable

lemma transaction_found {α : Type} {run : Tables → Tables × α} {failed : α} (hs : Finds alive s)
    (hc : s.connection = some c) :
    transaction run failed s = (.ok (onServer alive run failed s.tables).2,
      afterTransaction s alive (onServer alive run failed s.tables).1) := by
  have halive : c.alive = alive := hs c hc
  unfold transaction afterTransaction onServer noticed
  rw [hc]
  cases alive with
  | true => simp [halive]
  | false => simp [halive]

/-- A transaction, and what the handler does behind it. -/
lemma handles_transaction {α : Type} {run : Tables → Tables × α} {failed : α}
    {f : α → Handler DbOutcome} {o : DbOutcome} (hs : Finds alive s)
    (hf : HandlesLike (f (onServer alive run failed s.tables).2)
      (afterTransaction s alive (onServer alive run failed s.tables).1) (.ok o)) :
    HandlesLike (transaction run failed >>= f) s (.ok o) := by
  cases hc : s.connection with
  | none =>
    left
    refine ⟨hc, bind_error ?_⟩
    unfold transaction
    rw [hc]
  | some c =>
    right
    have hrun : (transaction run failed >>= f) s = _ := bind_ok (transaction_found hs hc)
    rw [hrun]
    rcases hf with ⟨hnone, -⟩ | ⟨s', hrest, htables, hstays⟩
    · have hmap : s.connection.map noticed = none := hnone
      rw [hc] at hmap
      cases hmap
    · exact ⟨s', hrest, htables, hstays.of_afterTransaction⟩

/-- What a query comes to is what it comes to with the statements failing. -/
lemma runQuery_on {n : Nat} {t : Tables} {call : Query.Call} (hn : (n, 0) ∈ [(0, 0), (1, 0), (2, 0)])
    (hcall : call.statements ≠ []) :
    Database.runQuery (serverOn foreign alive) (outcomesOn alive link io) n t call =
      onServer alive (fun t => Database.runQuery ⟨.postgreSQL, foreign⟩ io n t call) none t := by
  cases alive with
  | true => rfl
  | false =>
    change Database.runQuery _ _ n t call = (t, none)
    unfold Database.runQuery
    split
    · obtain ⟨statement, rest, hlist⟩ := List.exists_cons_of_ne_nil hcall
      rw [hlist]
      dsimp only [outcomesOn, serverOn]
      rw [Database.execAll, if_neg Bool.false_ne_true, if_pos hn]
    · rfl

lemma runQuery_on_tables {n : Nat} {t : Tables} {call : Query.Call}
    (hn : (n, 0) ∈ [(0, 0), (1, 0), (2, 0)]) :
    (Database.runQuery (serverOn foreign alive) (outcomesOn alive link io) n t call).1 =
      (onServer alive (fun t => Database.runQuery ⟨.postgreSQL, foreign⟩ io n t call) none t).1 := by
  by_cases hcall : call.statements = []
  · have hplain : ∀ x ∈ call.strings, Plain x := by simp [Query.Call.strings, hcall]
    cases alive with
    | true => rfl
    | false =>
      unfold Database.runQuery
      rw [if_pos hplain, hcall]
      rfl
  · rw [runQuery_on hn hcall]

lemma handles_query {n : Nat} {call : Query.Call} {t : Tables} {reply : Option TkmCollector.Reply}
    {f : Option TkmCollector.Reply → Handler DbOutcome} {o : DbOutcome} (hs : Finds alive s)
    (hquery : Database.runQuery (serverOn foreign alive) (outcomesOn alive link io) n s.tables call =
      (t, reply))
    (hn : (n, 0) ∈ [(0, 0), (1, 0), (2, 0)]) (hcall : call.statements ≠ [])
    (hf : HandlesLike (f reply) (afterTransaction s alive t) (.ok o)) :
    HandlesLike (runTransaction foreign io n call >>= f) s (.ok o) := by
  apply handles_transaction hs
  rw [← runQuery_on hn hcall, hquery]
  exact hf

lemma handles_write {n : Nat} {call : Query.Call} {m : Handler DbOutcome} {o : DbOutcome}
    (hn : (n, 0) ∈ [(0, 0), (1, 0), (2, 0)]) (hs : Finds alive s)
    (hm : HandlesLike m (afterTransaction s alive (Database.runQuery (serverOn foreign alive)
      (outcomesOn alive link io) n s.tables call).1) (.ok o)) :
    HandlesLike (runTransaction foreign io n call >>= fun _ => m) s (.ok o) := by
  apply handles_transaction hs
  rw [← runQuery_on_tables hn]
  exact hm

lemma handles_throw {m : Handler DbOutcome} {fault : Fault}
    (h : m s = (.error (.exception fault), s)) : HandlesLike m s (.error fault) :=
  .inr ⟨s, h, rfl, .refl s⟩

lemma handles_answer {args : Args} :
    HandlesLike (PQDatabase.answer rq args) s (.ok (Database.answer s.tables rq args)) :=
  .inr ⟨s, rfl, rfl, .refl s⟩

lemma handles_quiet : HandlesLike PQDatabase.quiet s (.ok (Database.quiet s.tables)) :=
  .inr ⟨s, rfl, rfl, .refl s⟩

lemma handles_sendList {client : ClientId} {reply : Option TkmCollector.Reply} {list : ControlList}
    {failure : String} : HandlesLike (PQDatabase.sendList io rq client reply list failure) s
      (.ok (Database.sendList s.tables rq client (outcomesOn alive link io) reply list failure)) := by
  cases reply with
  | none => exact .inr ⟨s, rfl, rfl, .refl s⟩
  | some reply => exact .inr ⟨s, rfl, rfl, .refl s⟩

lemma handles_loadDevices (hs : Finds alive s) :
    HandlesLike (PQDatabase.doLoadDevices foreign io) s
      (Database.doLoadDevices (serverOn foreign alive) (outcomesOn alive link io) s.tables) := by
  unfold Database.doLoadDevices
  rcases hquery : Database.runQuery (serverOn foreign alive) (outcomesOn alive link io) 0 s.tables
    .getDevices with ⟨t, reply⟩
  exact handles_query hs hquery (by decide) (List.cons_ne_nil _ _) (.inr ⟨_, rfl, rfl, .refl _⟩)

lemma handles_cleanSessions (hs : Finds alive s) :
    HandlesLike (PQDatabase.doCleanSessions foreign io) s
      (Database.doCleanSessions (serverOn foreign alive) (outcomesOn alive link io) s.tables) := by
  unfold Database.doCleanSessions
  rcases hquery : Database.runQuery (serverOn foreign alive) (outcomesOn alive link io) 0 s.tables
    .getSessions with ⟨t, reply⟩
  exact handles_query hs hquery (by decide) (List.cons_ne_nil _ _) (.inr ⟨_, rfl, rfl, .refl _⟩)

lemma handles_getDevices (hs : Finds alive s) :
    HandlesLike (PQDatabase.doGetDevices foreign io states rq) s
      (Database.doGetDevices (serverOn foreign alive) states (outcomesOn alive link io) s.tables rq) := by
  unfold PQDatabase.doGetDevices Database.doGetDevices theClient
  cases rq.client with
  | none => exact handles_throw rfl
  | some client =>
    dsimp only
    rcases hquery : Database.runQuery (serverOn foreign alive) (outcomesOn alive link io) 0 s.tables
      .getDevices with ⟨t, reply⟩
    exact handles_query hs hquery (by decide) (List.cons_ne_nil _ _) handles_sendList

lemma handles_getSessions (hs : Finds alive s) :
    HandlesLike (PQDatabase.doGetSessions foreign io rq) s
      (Database.doGetSessions (serverOn foreign alive) (outcomesOn alive link io) s.tables rq) := by
  unfold PQDatabase.doGetSessions Database.doGetSessions theClient check
  cases rq.client with
  | none => exact handles_throw rfl
  | some client =>
    cases rq.bulkData.castDeviceData with
    | error fault => exact handles_throw rfl
    | ok deviceData =>
      dsimp only
      rcases hquery : Database.runQuery (serverOn foreign alive) (outcomesOn alive link io) 0 s.tables
        (if deviceData.hash.isEmpty then .getSessions else .getSessionsOf deviceData.hash) with
        ⟨t, reply⟩
      have hcall : Query.Call.statements (if deviceData.hash.isEmpty then .getSessions
          else .getSessionsOf deviceData.hash) ≠ [] := by
        split <;> exact List.cons_ne_nil _ _
      exact handles_query hs hquery (by decide) hcall handles_sendList

lemma handles_endSession (hs : Finds alive s) :
    HandlesLike (PQDatabase.doEndSession foreign io rq) s
      (Database.doEndSession (serverOn foreign alive) (outcomesOn alive link io) s.tables rq) := by
  unfold PQDatabase.doEndSession Database.doEndSession argument
  cases rq.args.lookup .sessionHash with
  | none => exact handles_throw rfl
  | some sessionHash => exact handles_write (by decide) hs handles_quiet

lemma handles_addData (hs : Finds alive s) :
    HandlesLike (PQDatabase.doAddData foreign io rq) s
      (Database.doAddData (serverOn foreign alive) (outcomesOn alive link io) s.tables rq) := by
  unfold PQDatabase.doAddData Database.doAddData argument check
  cases rq.bulkData.castData with
  | error fault => exact handles_throw rfl
  | ok data =>
    cases rq.args.lookup .sessionHash with
    | none => exact handles_throw rfl
    | some sessionHash =>
      change HandlesLike (writeData foreign io data sessionHash) s _
      unfold writeData
      dsimp only
      cases Database.measurement data with
      | none => exact handles_quiet
      | some m => exact handles_write (by decide) hs handles_quiet

/-- What the insertion of `doAddDevice` gives after the removal of the old device. -/
def inserted (b : Backend) (io : DbIo) (call : Query.Call) (removed : Option TkmCollector.Reply)
    (t : Tables) : Tables × Option TkmCollector.Reply :=
  if b.type = .postgreSQL ∧ removed = none then (t, none) else Database.runQuery b io 2 t call

lemma handles_insert {call : Query.Call} {args : Option TkmCollector.Reply → Args}
    {loads : Option TkmCollector.Reply → List IDatabase.Request} (removed : Option TkmCollector.Reply)
    (hcall : call.statements ≠ []) (hs : Finds alive s) :
    HandlesLike (do
        let added ← (if removed = none then pure none else runTransaction foreign io 2 call)
        let o ← PQDatabase.answer rq (args added)
        return { o with database := loads added }) s
      (.ok (let (t, added) :=
          inserted (serverOn foreign alive) (outcomesOn alive link io) call removed s.tables
        { Database.answer t rq (args added) with database := loads added })) := by
  unfold inserted
  by_cases hremoved : removed = none
  · rw [if_pos hremoved, if_pos ⟨rfl, hremoved⟩]
    exact .inr ⟨s, rfl, rfl, .refl s⟩
  · rw [if_neg hremoved, if_neg fun h => hremoved h.2]
    rcases hquery : Database.runQuery (serverOn foreign alive) (outcomesOn alive link io) 2 s.tables
      call with ⟨t, reply⟩
    exact handles_query hs hquery (by decide) hcall (.inr ⟨_, rfl, rfl, .refl _⟩)

lemma handles_addDevice (hs : Finds alive s) :
    HandlesLike (PQDatabase.doAddDevice foreign io rq) s
      (Database.doAddDevice (serverOn foreign alive) (outcomesOn alive link io) s.tables rq) := by
  unfold PQDatabase.doAddDevice Database.doAddDevice theClient check
  cases rq.client with
  | none => exact handles_throw rfl
  | some client =>
    cases rq.bulkData.castDeviceData with
    | error fault => exact handles_throw rfl
    | ok deviceData =>
      dsimp only
      rcases hquery : Database.runQuery (serverOn foreign alive) (outcomesOn alive link io) 0 s.tables
        (.hasDevice deviceData.hash) with ⟨t, reply⟩
      dsimp only
      rw [found_on]
      have hs' : Finds alive (afterTransaction s alive t) := finds_afterTransaction hs t
      by_cases hreply : reply = none
      · rw [if_pos hreply]
        refine handles_query hs hquery (by decide) (List.cons_ne_nil _ _) ?_
        rw [if_pos hreply]
        exact handles_answer
      · rw [if_neg hreply]
        by_cases hfound : rq.args.count .forced = false ∧ Database.Reply.found .postgreSQL reply = true
        · rw [if_pos hfound]
          refine handles_query hs hquery (by decide) (List.cons_ne_nil _ _) ?_
          rw [if_neg hreply, if_pos hfound]
          exact handles_answer
        · rw [if_neg hfound]
          refine handles_query hs hquery (by decide) (List.cons_ne_nil _ _) ?_
          rw [if_neg hreply, if_neg hfound]
          by_cases hforced : Database.forced rq = true
          · rw [if_pos hforced, if_pos hforced]
            rcases hremoved : Database.runQuery (serverOn foreign alive) (outcomesOn alive link io) 1 t
              (.remDevice deviceData.hash) with ⟨t', removed⟩
            refine handles_query hs' hremoved (by decide) (List.cons_ne_nil _ _) ?_
            exact handles_insert removed (List.cons_ne_nil _ _) (finds_afterTransaction hs' t')
          · rw [if_neg hforced, if_neg hforced]
            exact handles_insert (some .done) (List.cons_ne_nil _ _) hs'

lemma handles_removeDevice (hs : Finds alive s) :
    HandlesLike (PQDatabase.doRemoveDevice foreign io rq) s
      (Database.doRemoveDevice (serverOn foreign alive) (outcomesOn alive link io) s.tables rq) := by
  unfold PQDatabase.doRemoveDevice Database.doRemoveDevice theClient check
  cases rq.client with
  | none => exact handles_throw rfl
  | some client =>
    cases rq.bulkData.castDeviceData with
    | error fault => exact handles_throw rfl
    | ok deviceData =>
      dsimp only
      rcases hquery : Database.runQuery (serverOn foreign alive) (outcomesOn alive link io) 0 s.tables
        (.hasDevice deviceData.hash) with ⟨t, reply⟩
      dsimp only
      rw [found_on]
      by_cases hreply : reply = none
      · rw [if_pos hreply]
        refine handles_query hs hquery (by decide) (List.cons_ne_nil _ _) ?_
        rw [if_pos hreply]
        exact handles_answer
      · rw [if_neg hreply]
        refine handles_query hs hquery (by decide) (List.cons_ne_nil _ _) ?_
        rw [if_neg hreply]
        rcases hremoved : Database.runQuery (serverOn foreign alive) (outcomesOn alive link io) 1 t
          (.remDevice deviceData.hash) with ⟨t', removed⟩
        exact handles_query (finds_afterTransaction hs t) hremoved (by decide) (List.cons_ne_nil _ _)
          handles_answer

lemma handles_remSession (hs : Finds alive s) :
    HandlesLike (PQDatabase.doRemSession foreign io rq) s
      (Database.doRemSession (serverOn foreign alive) (outcomesOn alive link io) s.tables rq) := by
  unfold PQDatabase.doRemSession Database.doRemSession theClient check
  cases rq.client with
  | none => exact handles_throw rfl
  | some client =>
    cases rq.bulkData.castSessionData with
    | error fault => exact handles_throw rfl
    | ok sessionData =>
      dsimp only
      rcases hquery : Database.runQuery (serverOn foreign alive) (outcomesOn alive link io) 0 s.tables
        (.hasSession sessionData.hash) with ⟨t, reply⟩
      dsimp only
      rw [found_on]
      by_cases hreply : reply = none
      · rw [if_pos hreply]
        refine handles_query hs hquery (by decide) (List.cons_ne_nil _ _) ?_
        rw [if_pos hreply]
        exact handles_answer
      · rw [if_neg hreply]
        by_cases hfound : Database.Reply.found .postgreSQL reply = false
        · rw [if_pos ⟨rfl, hfound⟩]
          refine handles_query hs hquery (by decide) (List.cons_ne_nil _ _) ?_
          rw [if_neg hreply, if_pos hfound]
          exact handles_answer
        · have hpresent : Database.Reply.found .postgreSQL reply = true := by simpa using hfound
          rw [if_neg fun h => hfound h.2, if_pos hpresent]
          refine handles_query hs hquery (by decide) (List.cons_ne_nil _ _) ?_
          rw [if_neg hreply, if_neg hfound]
          rcases hremoved : Database.runQuery (serverOn foreign alive) (outcomesOn alive link io) 1 t
            (.remSession sessionData.hash) with ⟨t', removed⟩
          exact handles_query (finds_afterTransaction hs t) hremoved (by decide)
            (List.cons_ne_nil _ _) handles_answer

lemma handles_addSession (hs : Finds alive s) :
    HandlesLike (PQDatabase.doAddSession foreign io rq) s
      (Database.doAddSession (serverOn foreign alive) (outcomesOn alive link io) s.tables rq) := by
  unfold PQDatabase.doAddSession Database.doAddSession argument check
  cases rq.bulkData.castSessionInfo with
  | error fault => exact handles_throw rfl
  | ok sessionInfo =>
    cases rq.args.lookup .deviceHash with
    | none => exact handles_throw rfl
    | some deviceHash =>
      dsimp only
      rcases hquery : Database.runQuery (serverOn foreign alive) (outcomesOn alive link io) 0 s.tables
        (.hasSession sessionInfo.hash) with ⟨t, reply⟩
      rw [found_on]
      refine handles_query hs hquery (by decide) (List.cons_ne_nil _ _) ?_
      have hs' : Finds alive (afterTransaction s alive t) := finds_afterTransaction hs t
      by_cases hfound : Database.Reply.found .postgreSQL reply = true
      · rw [if_pos hfound, if_pos hfound]
        apply handles_write (by decide) hs'
        exact handles_write (by decide) (finds_afterTransaction hs' _) handles_quiet
      · rw [if_neg hfound, if_neg hfound]
        exact handles_write (by decide) hs' handles_quiet

/-- What `InitDatabase` does once there is a connection. -/
def createAll (foreign : String → Tables → Tables × Option TkmCollector.Reply) (io : DbIo)
    (rq : IDatabase.Request) : Handler DbOutcome := do
  let _ ← (if Database.forced rq then runDropTables foreign io else pure ())
  let status ← runCreateTables foreign io
  PQDatabase.answer rq (((Args.copyRequestId rq.args).emplace .status
    (Database.statusFor status)).emplace .reason
    (if status then "Database init complete" else "Database init failed. Query error"))

/-- The same by the handler of the databases. -/
def createdAll (b : Backend) (io : DbIo) (t : Tables) (rq : IDatabase.Request) : DbOutcome :=
  let t := if Database.forced rq then Database.runDropTables b io 0 t else t
  let (t, status) := Database.runCreateTables b io 1 t
  Database.answer t rq (((Args.copyRequestId rq.args).emplace .status
    (Database.statusFor status)).emplace .reason
    (if status then "Database init complete" else "Database init failed. Query error"))

lemma runDropTables_on {t : Tables} :
    (onServer alive (fun t => (Database.runDropTables ⟨.postgreSQL, foreign⟩ io 0 t, ())) () t).1 =
      Database.runDropTables (serverOn foreign alive) (outcomesOn alive link io) 0 t := by
  cases alive with
  | true => rfl
  | false => rfl

lemma runCreateTables_on {t : Tables} :
    onServer alive (fun t => Database.runCreateTables ⟨.postgreSQL, foreign⟩ io 1 t) false t =
      Database.runCreateTables (serverOn foreign alive) (outcomesOn alive link io) 1 t := by
  cases alive with
  | true => rfl
  | false => rfl

lemma handles_create {args : Bool → Args} (hs : Finds alive s) :
    HandlesLike (runCreateTables foreign io >>= fun status => PQDatabase.answer rq (args status)) s
      (.ok (
        let (t, status) :=
          Database.runCreateTables (serverOn foreign alive) (outcomesOn alive link io) 1 s.tables
        Database.answer t rq (args status))) := by
  apply handles_transaction hs
  rw [runCreateTables_on]
  exact handles_answer

lemma handles_createAll (hs : Finds alive s) : HandlesLike (createAll foreign io rq) s
    (.ok (createdAll (serverOn foreign alive) (outcomesOn alive link io) s.tables rq)) := by
  unfold createAll createdAll
  by_cases hforced : Database.forced rq = true
  · rw [if_pos hforced, if_pos hforced]
    apply handles_transaction hs
    rw [runDropTables_on]
    exact handles_create (finds_afterTransaction hs _)
  · rw [if_neg hforced, if_neg hforced]
    exact handles_create hs

/-- What `is_open` and `reconnect` find. -/
def linkOf (s : PQDatabase) : Link :=
  match s.connection with
  | none => .closed
  | some c => if c.isOpen then .isOpen else if s.reachable then .reopened else .broken

/-- The state after `is_open` and `reconnect`. -/
def reopened (s : PQDatabase) : PQDatabase :=
  match s.connection with
  | none => s
  | some c =>
    if c.isOpen then s else { s with connection := if s.reachable then some .opened else none }

/-- The connection is there, and alive. -/
def isAlive (s : PQDatabase) : Bool := s.connection.any PQConnection.alive

lemma finds_isAlive (s : PQDatabase) : Finds (isAlive s) s := by
  intro c hc
  simp [isAlive, hc]

lemma linkOf_open (hc : s.connection = some c) (hopen : c.isOpen = true) : linkOf s = .isOpen := by
  simp [linkOf, hc, hopen]

lemma reopened_open (hc : s.connection = some c) (hopen : c.isOpen = true) : reopened s = s := by
  simp [reopened, hc, hopen]

lemma linkOf_closed (hc : s.connection = some c) (hopen : c.isOpen = false) :
    linkOf s = if s.reachable then .reopened else .broken := by
  simp [linkOf, hc, hopen]

lemma reopened_closed (hc : s.connection = some c) (hopen : c.isOpen = false) :
    reopened s = { s with connection := if s.reachable then some .opened else none } := by
  simp [reopened, hc, hopen]

lemma handles_initDatabase (s : PQDatabase) :
    HandlesOn (reopened s) (PQDatabase.doInitDatabase foreign io rq) s
      (Database.doInitDatabase (serverOn foreign (isAlive (reopened s)))
        (outcomesOn (isAlive (reopened s)) (linkOf s) io) s.tables rq) := by
  cases hc : s.connection with
  | none =>
    left
    refine ⟨hc, bind_error ?_⟩
    unfold getConnection
    rw [hc]
  | some c =>
    have hrest : PQDatabase.doInitDatabase foreign io rq s = _ := bind_ok (getConnection_some hc)
    unfold HandlesOn
    rw [hrest]
    cases hopen : c.isOpen with
    | true =>
      rw [reopened_open hc hopen, linkOf_open hc hopen]
      exact handles_createAll (finds_isAlive s)
    | false =>
      rw [if_neg (by simp)]
      cases hreachable : s.reachable with
      | true =>
        rw [bind_ok (reconnect_reachable hc hopen hreachable), linkOf_closed hc hopen,
          reopened_closed hc hopen, hreachable, if_pos rfl, if_pos rfl]
        -- the handler goes on in the state with the new connection
        have hcreated : HandlesLike (createAll foreign io rq) ⟨some .opened, true, s.tables, s.ran⟩
          (.ok (createdAll (serverOn foreign true) (outcomesOn true .reopened io) s.tables rq)) :=
          handles_createAll (finds_isAlive ⟨some .opened, true, s.tables, s.ran⟩)
        rcases hcreated with ⟨hnone, -⟩ | hcreated
        · cases hnone
        · exact .inr hcreated
      | false =>
        right
        rw [bind_error (reconnect_unreachable hc hopen hreachable), linkOf_closed hc hopen,
          reopened_closed hc hopen, hreachable]
        exact ⟨_, rfl, rfl, .refl _⟩

lemma handles_connect (s : PQDatabase) :
    HandlesOn (reopened s) doConnect s (Database.doConnect (serverOn foreign (isAlive (reopened s)))
      (outcomesOn (isAlive (reopened s)) (linkOf s) io) s.tables) := by
  cases hc : s.connection with
  | none =>
    left
    refine ⟨hc, bind_error ?_⟩
    unfold getConnection
    rw [hc]
  | some c =>
    have hrest : doConnect s = _ := bind_ok (getConnection_some hc)
    right
    rw [hrest]
    cases hopen : c.isOpen with
    | true =>
      rw [reopened_open hc hopen, linkOf_open hc hopen]
      exact ⟨s, rfl, rfl, .refl s⟩
    | false =>
      rw [if_neg (by simp)]
      cases hreachable : s.reachable with
      | true =>
        rw [bind_ok (reconnect_reachable hc hopen hreachable), linkOf_closed hc hopen,
          reopened_closed hc hopen, hreachable]
        exact ⟨_, rfl, rfl, .refl _⟩
      | false =>
        rw [bind_error (reconnect_unreachable hc hopen hreachable), linkOf_closed hc hopen,
          reopened_closed hc hopen, hreachable]
        exact ⟨_, rfl, rfl, .refl _⟩

end

/-- The state that the transactions of a request find: two handlers open the connection again. -/
def readied (s : PQDatabase) (action : IDatabase.Action) : PQDatabase :=
  match action with
  | .initDatabase | .connect => reopened s
  | _ => s

/-- The server that a request finds. -/
def serverFor (foreign : String → Tables → Tables × Option TkmCollector.Reply) (s : PQDatabase)
    (rq : IDatabase.Request) : Backend :=
  serverOn foreign (isAlive (readied s rq.action))

/-- The outcomes of the system calls for a request. -/
def outcomesFor (s : PQDatabase) (rq : IDatabase.Request) (io : DbIo) : DbIo :=
  outcomesOn (isAlive (readied s rq.action)) (linkOf s) io

/-- A request is handled as by the handlers of the databases, or the null pointer ends it. -/
theorem requestHandler_handles (foreign : String → Tables → Tables × Option TkmCollector.Reply)
    (states : String → Option Control.DeviceState) (io : DbIo) (rq : IDatabase.Request)
    (s : PQDatabase) :
    HandlesOn (readied s rq.action) (PQDatabase.requestHandler foreign io states rq) s
      (Database.requestHandler (serverFor foreign s rq) states (outcomesFor s rq io) s.tables rq) := by
  obtain ⟨client, action, args, bulkData⟩ := rq
  cases action with
  | checkDatabase => exact handles_quiet
  | disconnect => exact handles_quiet
  | connect => exact handles_connect s
  | initDatabase => exact handles_initDatabase s
  | loadDevices => exact handles_loadDevices (finds_isAlive s)
  | cleanSessions => exact handles_cleanSessions (finds_isAlive s)
  | getDevices => exact handles_getDevices (finds_isAlive s)
  | getSessions => exact handles_getSessions (finds_isAlive s)
  | addDevice => exact handles_addDevice (finds_isAlive s)
  | removeDevice => exact handles_removeDevice (finds_isAlive s)
  | addSession => exact handles_addSession (finds_isAlive s)
  | remSession => exact handles_remSession (finds_isAlive s)
  | endSession => exact handles_endSession (finds_isAlive s)
  | addData => exact handles_addData (finds_isAlive s)

/-- The handler does what `result` says, and leaves the connection `c`. -/
def AgreesOn (c : PQConnection) (m : Handler DbOutcome) (s : PQDatabase)
    (result : Except Fault DbOutcome) : Prop :=
  match result with
  | .ok o => ∃ s', m s = (.ok o, s') ∧ s'.tables = o.tables ∧ s'.connection = some c
  | .error fault => ∃ s', m s = (.error (.exception fault), s')

/-- On a connection that is alive a request is handled as by the handlers of the databases, and
the connection stays. -/
theorem requestHandler_alive (foreign : String → Tables → Tables × Option TkmCollector.Reply)
    (states : String → Option Control.DeviceState) (io : DbIo) (rq : IDatabase.Request)
    {s : PQDatabase} {c : PQConnection} (hc : s.connection = some c) (halive : c.alive = true)
    (hlink : io.link = .isOpen) :
    AgreesOn c (PQDatabase.requestHandler foreign io states rq) s
      (Database.requestHandler ⟨.postgreSQL, foreign⟩ states io s.tables rq) := by
  have hreopened : reopened s = s := reopened_open hc (c.isOpen_of_alive halive)
  have hready : readied s rq.action = s := by
    unfold readied
    split <;> first | exact hreopened | rfl
  have hserver : serverFor foreign s rq = ⟨.postgreSQL, foreign⟩ := by
    simp [serverFor, hready, isAlive, hc, halive, serverOn]
  have houtcomes : outcomesFor s rq io = io := by
    have hopen : linkOf s = .isOpen := linkOf_open hc (c.isOpen_of_alive halive)
    simp [outcomesFor, hready, isAlive, hc, halive, outcomesOn, hopen, ← hlink]
  have hnoticed : s.connection.map noticed = some c := by simp [hc, noticed, halive]
  have hhandles := requestHandler_handles foreign states io rq s
  rw [hready, hserver, houtcomes] at hhandles
  rcases hhandles with ⟨hnone, -⟩ | ⟨s', hrun, htables, hstays⟩
  · rw [hc] at hnone
    cases hnone
  · unfold AgreesOn
    cases hresult : Database.requestHandler ⟨.postgreSQL, foreign⟩ states io s.tables rq with
    | error fault =>
      rw [hresult] at hrun
      exact ⟨s', hrun⟩
    | ok o =>
      rw [hresult] at hrun htables
      refine ⟨s', hrun, htables, ?_⟩
      rcases hstays.connection with h | h
      · rw [h, hc]
      · rw [h, hnoticed]

end TkmCollector.Proofs
