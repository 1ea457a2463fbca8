import TkmCollector.Library.History
import TkmCollector.Library.Simulation
import TkmCollector.Proofs.OpenConnection

/-!
# The database over drops of its connection

A run of `PQDatabase`, with the server going away and coming back, is a run of the handlers of the
databases: a request finds either the server or no server at all, as far as its statements go. While
there is none nothing changes, and the clients are told so.
-/

namespace TkmCollector.Proofs

open PQDatabase Machine

/-- A request, and the server and the system calls that it finds. -/
structure Served where
  backend : Backend
  states : String → Option Control.DeviceState
  io : DbIo
  rq : IDatabase.Request

/-- The handlers of the databases on one request after the other. -/
def serveNext (s : Tables × List (Except Fault DbOutcome)) (i : Served) :
    Except Empty (Tables × List (Except Fault DbOutcome)) :=
  let result := Database.requestHandler i.backend i.states i.io s.1 i.rq
  .ok (tablesAfter s.1 result, s.2 ++ [result])

/-- What the handler of an event comes to. -/
def resultOf (foreign : String → Tables → Tables × Option TkmCollector.Reply) (s : PQDatabase) :
    PQDatabase.Event → Option (Except Crash DbOutcome)
  | .request states io rq => some (PQDatabase.requestHandler foreign io states rq s).1
  | .drop _ | .restore => none

/-- A run of the database, with the results of its handlers. -/
def recordNext (foreign : String → Tables → Tables × Option TkmCollector.Reply)
    (s : PQDatabase × List (Except Crash DbOutcome)) (e : PQDatabase.Event) :
    Except Empty (PQDatabase × List (Except Crash DbOutcome)) :=
  .ok (next foreign s.1 e, s.2 ++ (resultOf foreign s.1 e).toList)

/-- What the handlers of the databases can come to as well. -/
def handled : Except Crash DbOutcome → Option (Except Fault DbOutcome)
  | .ok o => some (.ok o)
  | .error (.exception fault) => some (.error fault)
  | .error .nullConnection => none

/-- The requests as the handlers of the databases get them. -/
def servedAs (foreign : String → Tables → Tables × Option TkmCollector.Reply)
    (s : PQDatabase × List (Except Crash DbOutcome)) : PQDatabase.Event → List Served
  | .request states io rq =>
    match (PQDatabase.requestHandler foreign io states rq s.1).1 with
    | .error .nullConnection => []
    | .ok _ | .error (.exception _) =>
      [⟨serverFor foreign s.1 rq, states, outcomesFor s.1 rq io, rq⟩]
  | .drop _ | .restore => []

/-- The tables, and the results of the handlers that had a connection. -/
def bookOf (s : PQDatabase × List (Except Crash DbOutcome)) :
    Tables × List (Except Fault DbOutcome) :=
  (s.1.tables, s.2.filterMap handled)

section

variable {foreign : String → Tables → Tables × Option TkmCollector.Reply}

lemma handled_mapError (result : Except Fault DbOutcome) :
    handled (result.mapError .exception) = some result := by
  cases result with
  | ok o => rfl
  | error fault => rfl

lemma servedAs_handled {s : PQDatabase × List (Except Crash DbOutcome)}
    {states : String → Option Control.DeviceState} {io : DbIo} {rq : IDatabase.Request}
    {result : Except Fault DbOutcome}
    (h : (PQDatabase.requestHandler foreign io states rq s.1).1 = result.mapError .exception) :
    servedAs foreign s (.request states io rq) =
      [⟨serverFor foreign s.1 rq, states, outcomesFor s.1 rq io, rq⟩] := by
  unfold servedAs
  dsimp only
  rw [h]
  cases result with
  | ok o => rfl
  | error fault => rfl

/-- A handler with a connection does one step of the databases, anything else none. -/
lemma record_simulates : Simulates (recordNext foreign) serveNext (fun _ => True) bookOf (servedAs foreign)
    (fun _ : Empty => none) where
  ok := by
    rintro s e s' - hstep
    rw [← Except.ok.inj hstep]
    cases e with
    | drop noticed => simp [servedAs, bookOf, next, resultOf]
    | restore => simp [servedAs, bookOf, next, resultOf]
    | request states io rq =>
      rcases requestHandler_handles foreign states io rq s.1 with
        ⟨-, hnull⟩ | ⟨s', hrun, htables, -⟩
      · simp [servedAs, bookOf, next, resultOf, hnull, handled]
      · have hresult : (PQDatabase.requestHandler foreign io states rq s.1).1 = _ :=
          congrArg Prod.fst hrun
        rw [servedAs_handled hresult]
        simp [bookOf, next, resultOf, hrun, handled_mapError, run, serveNext, htables]
  error := by
    intro s i e
    exact e.elim

/-- The connection is null only after `reconnect` has thrown, and so is every null pointer that a
handler dies of. -/
structure NullBehind (s : PQDatabase × List (Except Crash DbOutcome)) : Prop where
  broken : s.1.connection = none → .error (.exception .brokenConnection) ∈ s.2
  behind : History.Justified (fun before result => result = .error .nullConnection →
    .error (.exception .brokenConnection) ∈ before) s.2

lemma Stays.none {found s : PQDatabase} (h : Stays found s) (hs : s.connection = none) :
    found.connection = none := by
  rcases h.connection with hc | hc
  · rw [← hc, hs]
  · rw [hs] at hc
    exact Option.map_eq_none_iff.mp hc.symm

lemma broken_of_none {s : PQDatabase} {rq : IDatabase.Request} {io : DbIo}
    {states : String → Option Control.DeviceState} (hs : s.connection ≠ none)
    (hnone : (readied s rq.action).connection = none) :
    Database.requestHandler (serverFor foreign s rq) states (outcomesFor s rq io) s.tables rq =
      .error .brokenConnection := by
  obtain ⟨c, hc⟩ := Option.ne_none_iff_exists'.mp hs
  have hbroken : (reopened s).connection = none → linkOf s = .broken := by
    intro h
    cases hopen : c.isOpen with
    | true =>
      rw [reopened_open hc hopen] at h
      exact absurd h hs
    | false =>
      rw [reopened_closed hc hopen] at h
      rw [linkOf_closed hc hopen]
      cases hreachable : s.reachable with
      | true => simp [hreachable] at h
      | false => rfl
  obtain ⟨client, action, args, bulkData⟩ := rq
  cases action with
  | initDatabase =>
    change Database.doInitDatabase _ _ _ _ = _
    simp [Database.doInitDatabase, serverFor, serverOn, outcomesFor, outcomesOn, hbroken hnone]
  | connect =>
    change Database.doConnect _ _ _ = _
    simp [Database.doConnect, serverFor, serverOn, outcomesFor, outcomesOn, hbroken hnone]
  | _ => exact absurd hnone hs

lemma nullBehind_step : Preserves (recordNext foreign) (fun _ _ => True) NullBehind := by
  rintro s e s' ⟨hbroken, hbehind⟩ - hstep
  rw [← Except.ok.inj hstep]
  cases e with
  | drop noticed =>
    refine ⟨fun h => ?_, ?_⟩
    · have hnone : s.1.connection = none := by simpa [next] using h
      simpa [resultOf] using hbroken hnone
    · simpa [resultOf] using hbehind
  | restore =>
    refine ⟨fun h => ?_, ?_⟩
    · simpa [resultOf] using hbroken h
    · simpa [resultOf] using hbehind
  | request states io rq =>
    dsimp only [next, resultOf, Option.toList]
    rcases requestHandler_handles foreign states io rq s.1 with
      ⟨hnone, hnull⟩ | ⟨s', hrun, -, hstays⟩
    · rw [hnull]
      refine ⟨fun _ => List.mem_append_left _ (hbroken hnone), ?_⟩
      exact History.justified_concat.mpr ⟨hbehind, fun _ => hbroken hnone⟩
    · rw [hrun]
      constructor
      · intro h
        have hready := hstays.none h
        by_cases hs : s.1.connection = none
        · exact List.mem_append_left _ (hbroken hs)
        · rw [broken_of_none hs hready]
          exact List.mem_append_right _ (List.mem_singleton.mpr rfl)
      · refine History.justified_concat.mpr ⟨hbehind, fun h => ?_⟩
        cases hresult : Database.requestHandler (serverFor foreign s.1 rq) states
            (outcomesFor s.1 rq io) s.1.tables rq with
        | ok o =>
          rw [hresult] at h
          cases h
        | error fault =>
          rw [hresult] at h
          cases h

end

/-- Over any number of drops, a run of the database is a run of the handlers of the databases on the
requests as they find the server, with the same tables and results, but for the handlers that die
of the null pointer. These only come after a `reconnect` that threw. -/
theorem connection_refines (foreign : String → Tables → Tables × Option TkmCollector.Reply)
    (tables : Tables) (events : List PQDatabase.Event) :
    ∃ s results, run (recordNext foreign) (PQDatabase.start tables, []) events = .ok (s, results) ∧
      run serveNext (tables, [])
        (inputs (recordNext foreign) (servedAs foreign) (PQDatabase.start tables, []) events) =
        .ok (s.tables, results.filterMap handled) ∧
      History.Justified (fun before result => result = .error .nullConnection →
        .error (.exception .brokenConnection) ∈ before) results := by
  cases hrun : run (recordNext foreign) (PQDatabase.start tables, []) events with
  | error e => exact e.elim
  | ok s =>
    have hstart : NullBehind (PQDatabase.start tables, []) :=
      ⟨fun h => absurd h (by simp [PQDatabase.start]), History.justified_nil⟩
    have hend : NullBehind s := invariant_run nullBehind_step hstart (guarded_true _ _) hrun
    refine ⟨s.1, s.2, rfl, ?_, hend.behind⟩
    exact record_simulates.run_ok (fun _ _ _ _ _ _ => trivial) trivial hrun

/-- The handler answers its client with a status. -/
def AsksStatus (action : IDatabase.Action) : Prop :=
  match action with
  | .initDatabase | .getDevices | .addDevice | .removeDevice | .getSessions | .remSession => True
  | .checkDatabase | .connect | .disconnect | .loadDevices | .addSession | .endSession
  | .cleanSessions | .addData => False

/-- The handler opens a connection that it finds closed. -/
def Reopening (action : IDatabase.Action) : Prop :=
  match action with
  | .initDatabase | .connect => True
  | .checkDatabase | .disconnect | .loadDevices | .getDevices | .addDevice | .removeDevice
  | .getSessions | .addSession | .remSession | .endSession | .cleanSessions | .addData => False

/-- Nothing is changed, found or asked for, and the client that waits for a status gets `Error`. -/
structure Refuses (t : Tables) (rq : IDatabase.Request) (o : DbOutcome) : Prop where
  tables : o.tables = t
  database : o.database = []
  loaded : o.loaded = []
  lists : o.lists = []
  told : AsksStatus rq.action → ∃ args, o.dispatcher = [Database.sendStatus rq args] ∧
    args.lookup .status = some (valFor .statusError) ∧
    args.lookup .requestId = rq.args.lookup .requestId
  silent : ¬ AsksStatus rq.action → o.dispatcher = []

/-- The handler refuses the request. -/
def Refused (t : Tables) (rq : IDatabase.Request) (result : Except Fault DbOutcome) : Prop :=
  ∃ o, result = .ok o ∧ Refuses t rq o

section

variable {foreign : String → Tables → Tables × Option TkmCollector.Reply} {io : DbIo}
  {states : String → Option Control.DeviceState} {rq : IDatabase.Request} {t : Tables}
  {link : Link} {s : PQDatabase}

lemma refused_answer {args : Args} (haction : AsksStatus rq.action)
    (hstatus : args.lookup .status = some (valFor .statusError))
    (hid : args.lookup .requestId = rq.args.lookup .requestId) :
    Refused t rq (.ok (Database.answer t rq args)) :=
  ⟨_, rfl, rfl, rfl, rfl, rfl, fun _ => ⟨args, rfl, hstatus, hid⟩, fun h => absurd haction h⟩

lemma refused_quiet (haction : ¬ AsksStatus rq.action) :
    Refused t rq (.ok (Database.quiet t)) :=
  ⟨_, rfl, rfl, rfl, rfl, rfl, fun h => absurd h haction, fun _ => rfl⟩

lemma runQuery_lost (n : Nat) (call : Query.Call) (hn : (n, 0) ∈ [(0, 0), (1, 0), (2, 0)])
    (hcall : call.statements ≠ []) :
    Database.runQuery (serverOn foreign false) (outcomesOn false link io) n t call = (t, none) :=
  runQuery_on hn hcall

lemma refused_lost (hready : DatabaseReady rq) (hlink : Reopening rq.action → link = .isOpen) :
    Refused t rq (Database.requestHandler (serverOn foreign false) states
      (outcomesOn false link io) t rq) := by
  obtain ⟨client, action, args, bulkData⟩ := rq
  cases action with
  | checkDatabase | disconnect => exact refused_quiet id
  | connect =>
    obtain rfl : link = .isOpen := hlink trivial
    exact refused_quiet id
  | initDatabase =>
    obtain rfl : link = .isOpen := hlink trivial
    have hdrop : Database.runDropTables (serverOn foreign false) (outcomesOn false .isOpen io) 0 t = t :=
      runDropTables_on.symm
    change Refused t _ (.ok (createdAll (serverOn foreign false) (outcomesOn false .isOpen io) t
      ⟨client, .initDatabase, args, bulkData⟩))
    have hcreate : Database.runCreateTables (serverOn foreign false) (outcomesOn false .isOpen io) 1 t =
        (t, false) := rfl
    unfold createdAll
    rw [hdrop, ite_self]
    dsimp only
    rw [hcreate]
    exact refused_answer trivial (by simp [Database.statusFor]) (by simp)
  | loadDevices =>
    simp only [Database.requestHandler, Database.doLoadDevices]
    rw [runQuery_lost 0 .getDevices (by decide) (List.cons_ne_nil _ _)]
    exact refused_quiet id
  | cleanSessions =>
    simp only [Database.requestHandler, Database.doCleanSessions]
    rw [runQuery_lost 0 .getSessions (by decide) (List.cons_ne_nil _ _)]
    exact refused_quiet id
  | getDevices =>
    obtain ⟨client, rfl⟩ := Option.ne_none_iff_exists'.mp hready
    simp only [Database.requestHandler, Database.doGetDevices]
    rw [runQuery_lost 0 .getDevices (by decide) (List.cons_ne_nil _ _)]
    exact refused_answer trivial (by simp) (by simp)
  | getSessions =>
    obtain ⟨hclient, deviceData, rfl⟩ := hready
    obtain ⟨client, rfl⟩ := Option.ne_none_iff_exists'.mp hclient
    simp only [Database.requestHandler, Database.doGetSessions, BulkData.castDeviceData]
    have hcall : Query.Call.statements (if deviceData.hash.isEmpty then .getSessions
        else .getSessionsOf deviceData.hash) ≠ [] := by
      split <;> exact List.cons_ne_nil _ _
    rw [runQuery_lost 0 _ (by decide) hcall]
    exact refused_answer trivial (by simp) (by simp)
  | addDevice =>
    obtain ⟨hclient, deviceData, rfl⟩ := hready
    obtain ⟨client, rfl⟩ := Option.ne_none_iff_exists'.mp hclient
    simp only [Database.requestHandler, Database.doAddDevice, BulkData.castDeviceData]
    rw [runQuery_lost 0 (.hasDevice deviceData.hash) (by decide) (List.cons_ne_nil _ _)]
    exact refused_answer trivial (by simp) (by simp)
  | removeDevice =>
    obtain ⟨hclient, deviceData, rfl⟩ := hready
    obtain ⟨client, rfl⟩ := Option.ne_none_iff_exists'.mp hclient
    simp only [Database.requestHandler, Database.doRemoveDevice, BulkData.castDeviceData]
    rw [runQuery_lost 0 (.hasDevice deviceData.hash) (by decide) (List.cons_ne_nil _ _)]
    exact refused_answer trivial (by simp) (by simp)
  | remSession =>
    obtain ⟨hclient, sessionData, rfl⟩ := hready
    obtain ⟨client, rfl⟩ := Option.ne_none_iff_exists'.mp hclient
    simp only [Database.requestHandler, Database.doRemSession, BulkData.castSessionData]
    rw [runQuery_lost 0 (.hasSession sessionData.hash) (by decide) (List.cons_ne_nil _ _)]
    exact refused_answer trivial (by simp) (by simp)
  | addSession =>
    obtain ⟨⟨info, rfl⟩, hdevice⟩ := hready
    obtain ⟨deviceHash, hlookup⟩ := Option.isSome_iff_exists.mp hdevice
    simp only [Database.requestHandler, Database.doAddSession, BulkData.castSessionInfo, hlookup]
    rw [runQuery_lost 0 (.hasSession info.hash) (by decide) (List.cons_ne_nil _ _)]
    simp only [Database.Reply.found, Bool.false_eq_true, if_false]
    rw [runQuery_lost 2 (.addSession info deviceHash _) (by decide) (List.cons_ne_nil _ _)]
    exact refused_quiet id
  | endSession =>
    obtain ⟨sessionHash, hlookup⟩ := Option.isSome_iff_exists.mp hready
    simp only [Database.requestHandler, Database.doEndSession, hlookup]
    rw [runQuery_lost 0 (.endSession sessionHash _) (by decide) (List.cons_ne_nil _ _)]
    exact refused_quiet id
  | addData =>
    obtain ⟨⟨data, rfl⟩, hsession⟩ := hready
    obtain ⟨sessionHash, hlookup⟩ := Option.isSome_iff_exists.mp hsession
    simp only [Database.requestHandler, Database.doAddData, BulkData.castData, hlookup]
    cases Database.measurement data with
    | none => exact refused_quiet id
    | some m =>
      dsimp only
      rw [runQuery_on_tables (by decide)]
      exact refused_quiet id

/-- The request is one that its handler can take, and finds no connection that it would open. -/
def Unopened (s : PQDatabase) : PQDatabase.Event → Prop
  | .request _ _ rq => DatabaseReady rq ∧ (Reopening rq.action → ∀ c ∈ s.connection, c.isOpen = true)
  | .drop _ | .restore => True

/-- The tables stay, and a request is refused. -/
def StandsStill (foreign : String → Tables → Tables × Option TkmCollector.Reply) (s : PQDatabase)
    (e : PQDatabase.Event) (s' : PQDatabase) : Prop :=
  s'.tables = s.tables ∧
    match e with
    | .request states io rq =>
      ∃ o, (PQDatabase.requestHandler foreign io states rq s).1 = .ok o ∧ Refuses s.tables rq o
    | .drop _ | .restore => True

lemma readied_unopened (hopen : Reopening rq.action → ∀ c ∈ s.connection, c.isOpen = true) :
    readied s rq.action = s := by
  have hreopened : Reopening rq.action → reopened s = s := by
    intro h
    cases hc : s.connection with
    | none => simp [reopened, hc]
    | some c => exact reopened_open hc (hopen h c hc)
  cases haction : rq.action with
  | initDatabase | connect => exact hreopened (by simp [haction, Reopening])
  | _ => rfl

lemma outage_step {e : PQDatabase.Event} (hs : Serving false s) (hopen : Unopened s e) :
    StandsStill foreign s e (next foreign s e) ∧ Serving false (next foreign s e) := by
  obtain ⟨c, hc, hdead⟩ := hs
  cases e with
  | drop noticed => exact ⟨⟨rfl, trivial⟩, c.dropped noticed, by simp [next, hc], rfl⟩
  | restore => exact ⟨⟨rfl, trivial⟩, c, hc, hdead⟩
  | request states io rq =>
    obtain ⟨hready, hopen⟩ := hopen
    have hlost : isAlive s = false := by simp [isAlive, hc, hdead]
    have hlink : Reopening rq.action → linkOf s = .isOpen :=
      fun h => linkOf_open hc (hopen h c hc)
    have hrefused : Refused s.tables rq (Database.requestHandler (serverOn foreign false) states
        (outcomesOn false (linkOf s) io) s.tables rq) := refused_lost hready hlink
    obtain ⟨o, ho, hrefuses⟩ := hrefused
    have hhandles := requestHandler_handles foreign states io rq s
    unfold serverFor outcomesFor at hhandles
    rw [readied_unopened hopen, hlost, ho] at hhandles
    rcases hhandles with ⟨hnone, -⟩ | ⟨s', hrun, htables, hstays⟩
    · rw [hc] at hnone
      cases hnone
    · have hnext : next foreign s (.request states io rq) = s' := congrArg Prod.snd hrun
      rw [hnext]
      refine ⟨⟨by rw [htables]; exact hrefuses.tables, o, congrArg Prod.fst hrun, hrefuses⟩, ?_⟩
      rcases hstays.connection with h | h
      · exact ⟨c, by rw [h, hc], hdead⟩
      · exact ⟨noticed c, by simp [h, hc], by simp [hdead]⟩

end

/-- From the loss of a connection on nothing changes any more, and every client is told so, whether
or not the server comes back, as long as no `InitDatabase` or `Connect` finds the connection closed. -/
theorem outage_refuses (foreign : String → Tables → Tables × Option TkmCollector.Reply)
    {s : PQDatabase} (hs : s.connection ≠ none) (noticed : Bool) (events : List PQDatabase.Event)
    (hopen : Guarded (PQDatabase.step foreign) Unopened s (.drop noticed :: events)) :
    EachStep (PQDatabase.step foreign) (StandsStill foreign) s (.drop noticed :: events) := by
  obtain ⟨c, hc⟩ := Option.ne_none_iff_exists'.mp hs
  intro s' hstep
  obtain rfl := Except.ok.inj hstep
  refine ⟨⟨rfl, trivial⟩, ?_⟩
  have hlost : Serving false (next foreign s (.drop noticed)) :=
    ⟨c.dropped noticed, by simp [next, hc], rfl⟩
  refine eachStep_of_guarded ?_ ?_ hlost (hopen.2 _ rfl)
  · intro u e u' hu hunopened hnext
    rw [← Except.ok.inj hnext]
    exact (outage_step hu hunopened).2
  · intro u e u' hu hunopened hnext
    rw [← Except.ok.inj hnext]
    exact (outage_step hu hunopened).1

/-- A loss that nobody has noticed yet. `InitDatabase` fails on it, and the lists are not to be had
after the server came back either. -/
theorem outage_refuses_restored :
    EachStep (PQDatabase.step plainServer) (StandsStill plainServer)
      (PQDatabase.start ⟨[], [], [], 0, 0, []⟩)
      [.drop false, plainRequest .initDatabase, .restore, plainRequest .getDevices] := by
  refine outage_refuses plainServer (by simp [PQDatabase.start]) false _ ⟨trivial, ?_⟩
  rintro _ ⟨rfl⟩
  constructor
  · refine ⟨trivial, fun _ c hc => ?_⟩
    cases hc
    rfl
  · rintro _ ⟨rfl⟩
    refine ⟨trivial, ?_⟩
    rintro _ ⟨rfl⟩
    exact ⟨⟨by simp [DatabaseReady], fun h => h.elim⟩, fun _ _ => trivial⟩

end TkmCollector.Proofs
