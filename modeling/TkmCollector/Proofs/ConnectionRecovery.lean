import TkmCollector.PQDatabase
import TkmCollector.Proofs.QueueContents

/-!
# The connection to PostgreSQL over drops

Which requests are handled without a crash, and with their transactions on an open connection,
depends on what became of the connection since it was opened. `InitDatabase` opens a new one, the
other handlers take what they find.
-/

namespace TkmCollector.Proofs

open PQDatabase Machine Faulting

/-- The handler neither crashes nor throws, it leaves a connection, and with the server at hand
every transaction of it runs on an open one. -/
def RunsWell (m : Handler DbOutcome) (s : PQDatabase) : Prop :=
  ∃ o s', m s = (.ok o, s') ∧ s'.connection ≠ none ∧
    (s.reachable = true → ∃ new, s'.ran = s.ran ++ new ∧ ∀ alive ∈ new, alive = true)

/-- The request is handled well. -/
def Recovers (foreign : String → Tables → Tables × Option TkmCollector.Reply) (s : PQDatabase) :
    PQDatabase.Event → Prop
  | .request states io rq => RunsWell (PQDatabase.requestHandler foreign io states rq) s
  | .drop _ | .restore => True

/-- What the handler of the request needs of the connection `c` that it finds. -/
def WorksWith (c : PQConnection) (reachable : Bool) (rq : IDatabase.Request) : Prop :=
  match rq.action with
  | .checkDatabase | .disconnect => True
  | .connect => c.isOpen = false → reachable = true
  | .initDatabase => (c.isOpen = false → reachable = true) ∧
      (c.isOpen = true → reachable = true → c.alive = true)
  | .addData => (∃ data, rq.bulkData = .data data ∧ Database.measurement data = none) ∨
      (reachable = true → c.alive = true)
  | _ => reachable = true → c.alive = true

/-- The request carries what its handler takes for granted, and the connection is one that the
handler can work with. -/
def ServedRequest (s : PQDatabase) : PQDatabase.Event → Prop
  | .request _ _ rq => DatabaseReady rq ∧ ∀ c, s.connection = some c → WorksWith c s.reachable rq
  | .drop _ | .restore => True

/-- The connection is there, alive or not. -/
def Serving (alive : Bool) (s : PQDatabase) : Prop := ∃ c, s.connection = some c ∧ c.alive = alive

/-- Transactions ran on connections that were all alive, or all not. -/
def RanOn (alive : Bool) (s s' : PQDatabase) : Prop :=
  ∃ new, s'.ran = s.ran ++ new ∧ ∀ r ∈ new, r = alive

/-- At least one transaction ran. -/
def RanSomeOn (alive : Bool) (s s' : PQDatabase) : Prop :=
  ∃ new, s'.ran = s.ran ++ alive :: new ∧ ∀ r ∈ new, r = alive

lemma ranOn_refl (alive : Bool) (s : PQDatabase) : RanOn alive s s :=
  ⟨[], (List.append_nil _).symm, fun _ h => by cases h⟩

lemma ranOn_trans (alive : Bool) (s t u : PQDatabase) (hst : RanOn alive s t)
    (htu : RanOn alive t u) : RanOn alive s u := by
  obtain ⟨first, hfirst, hall⟩ := hst
  obtain ⟨second, hsecond, hall'⟩ := htu
  refine ⟨first ++ second, by rw [hsecond, hfirst, List.append_assoc], fun r hr => ?_⟩
  rcases List.mem_append.mp hr with h | h
  · exact hall r h
  · exact hall' r h

/-- The program only runs transactions: it completes on every connection that is there. -/
def Uses {α : Type} (m : Handler α) : Prop :=
  ∀ alive, Completes (Serving alive) (RanOn alive) m

section

variable {α β : Type} {m : Handler α} {f : α → Handler β}

lemma uses_pure (a : α) : Uses (pure a : Handler α) :=
  fun alive => completes_pure (ranOn_refl alive) a

lemma uses_get : Uses (Faulting.get : Handler PQDatabase) :=
  fun alive => completes_get (ranOn_refl alive)

lemma uses_bind (hm : Uses m) (hf : ∀ a, Uses (f a)) : Uses (m >>= f) :=
  fun alive => completes_bind (ranOn_trans alive) (hm alive) fun a => hf a alive

lemma uses_ite {c : Prop} [Decidable c] {n : Handler α} (hm : Uses m) (hn : Uses n) :
    Uses (if c then m else n) :=
  fun alive => completes_ite (hm alive) (hn alive)

lemma transaction_serving (run : Tables → Tables × α) (failed : α) {alive : Bool} {s : PQDatabase}
    (hs : Serving alive s) : ∃ a s', transaction run failed s = (.ok a, s') ∧ Serving alive s' ∧
      s'.ran = s.ran ++ [alive] := by
  obtain ⟨c, hc, halive⟩ := hs
  unfold transaction
  rw [hc]
  dsimp only
  cases alive with
  | true =>
    rw [if_pos halive]
    exact ⟨_, _, rfl, ⟨c, rfl, halive⟩, rfl⟩
  | false =>
    have hdead : ¬ c.alive = true := by simp [halive]
    rw [if_neg hdead]
    exact ⟨_, _, rfl, ⟨.lost, rfl, rfl⟩, rfl⟩

lemma uses_transaction (run : Tables → Tables × α) (failed : α) : Uses (transaction run failed) := by
  intro alive s hs
  obtain ⟨a, s', hrun, hserving, hran⟩ := transaction_serving run failed hs
  exact ⟨a, s', hrun, hserving, [alive], hran, by simp⟩

/-- A program that begins with a transaction. -/
structure Transactional (m : Handler α) : Prop where
  served : ∀ alive s, Serving alive s →
    ∃ a s', m s = (.ok a, s') ∧ Serving alive s' ∧ RanSomeOn alive s s'

lemma transactional_bind {run : Tables → Tables × α} {failed : α} (hf : ∀ a, Uses (f a)) :
    Transactional (transaction run failed >>= f) where
  served := by
    intro alive s hs
    obtain ⟨a, t, hrun, hserving, hran⟩ := transaction_serving run failed hs
    obtain ⟨b, u, hrest, hstill, new, hnew, hall⟩ := hf a alive t hserving
    refine ⟨b, u, by rw [bind_ok hrun, hrest], hstill, new, ?_, hall⟩
    rw [hnew, hran, List.append_assoc]
    rfl

/-- A program that never comes to an end without a crash. -/
def Crashes (m : Handler α) : Prop := ∀ s, ∃ e, (m s).1 = .error e

lemma crashes_raise_bind (fault : Fault) (f : α → Handler β) : Crashes (raise fault >>= f) :=
  fun _ => ⟨_, rfl⟩

/-- A program that begins with a transaction runs well on a connection that is alive when the
server can be reached. -/
lemma runsWell_transactional {m : Handler DbOutcome} (hm : Transactional m) {s : PQDatabase}
    {c : PQConnection} (hc : s.connection = some c) :
    RunsWell m s ↔ (s.reachable = true → c.alive = true) := by
  obtain ⟨o, t, hrun, hserving, new, hnew, hall⟩ := hm.served c.alive s ⟨c, hc, rfl⟩
  constructor
  · rintro ⟨o', s', hrun', -, hran⟩ hreachable
    obtain ⟨new', hnew', hall'⟩ := hran hreachable
    have hstate : t = s' := by
      rw [hrun] at hrun'
      exact (Prod.mk.inj hrun').2
    have hlists : new' = c.alive :: new := by
      rw [hstate, hnew'] at hnew
      exact List.append_cancel_left hnew
    exact hall' c.alive (by rw [hlists]; exact List.mem_cons_self ..)
  · intro halive
    obtain ⟨c', hc', -⟩ := hserving
    refine ⟨o, t, hrun, by simp [hc'], fun hreachable => ⟨_, hnew, fun r hr => ?_⟩⟩
    have hopen : c.alive = true := halive hreachable
    rcases List.mem_cons.mp hr with h | h
    · rw [h, hopen]
    · rw [hall r h, hopen]

lemma not_runsWell_crashes {m : Handler DbOutcome} (hm : Crashes m) {s : PQDatabase} :
    ¬ RunsWell m s := by
  rintro ⟨o, s', hrun, -⟩
  obtain ⟨e, he⟩ := hm s
  rw [hrun] at he
  cases he

end

section Handlers

variable {foreign : String → Tables → Tables × Option TkmCollector.Reply} {io : DbIo}
  {states : String → Option Control.DeviceState} {rq : IDatabase.Request} {s : PQDatabase}

lemma uses_quiet : Uses PQDatabase.quiet := uses_bind uses_get fun _ => uses_pure _

lemma uses_answer (args : Args) : Uses (PQDatabase.answer rq args) :=
  uses_bind uses_get fun _ => uses_pure _

lemma uses_sendList (client : ClientId) (reply : Option TkmCollector.Reply) (list : ControlList)
    (failure : String) : Uses (PQDatabase.sendList io rq client reply list failure) :=
  uses_bind uses_get fun _ => uses_pure _

lemma uses_runTransaction (n : Nat) (call : Query.Call) :
    Uses (runTransaction foreign io n call) := uses_transaction _ _

lemma theClient_bind {client : ClientId} {α : Type} (h : rq.client = some client)
    (f : ClientId → Handler α) : (theClient rq >>= f) = f client := by
  unfold theClient
  rw [h]
  rfl

lemma argument_bind {key : Arg} {α : Type} (h : rq.args.count key = true)
    (f : String → Handler α) : ∃ value, (argument rq key >>= f) = f value := by
  unfold Args.count at h
  obtain ⟨value, hvalue⟩ := Option.isSome_iff_exists.mp h
  refine ⟨value, ?_⟩
  unfold argument
  rw [hvalue]
  rfl

lemma transactional_loadDevices : Transactional (doLoadDevices foreign io) :=
  transactional_bind fun _ => uses_bind uses_quiet fun _ => uses_pure _

lemma transactional_cleanSessions : Transactional (doCleanSessions foreign io) :=
  transactional_bind fun _ => uses_bind uses_quiet fun _ => uses_pure _

lemma transactional_getDevices (hready : rq.client ≠ none) :
    Transactional (doGetDevices foreign io states rq) := by
  obtain ⟨client, hclient⟩ := Option.ne_none_iff_exists'.mp hready
  unfold doGetDevices
  rw [theClient_bind hclient]
  exact transactional_bind fun _ => uses_sendList _ _ _ _

lemma transactional_getSessions (hclient : rq.client ≠ none)
    (hbulk : ∃ m, rq.bulkData = .deviceData m) : Transactional (doGetSessions foreign io rq) := by
  obtain ⟨client, hclient⟩ := Option.ne_none_iff_exists'.mp hclient
  obtain ⟨m, hm⟩ := hbulk
  unfold doGetSessions
  rw [theClient_bind hclient, hm]
  exact transactional_bind fun _ => uses_sendList _ _ _ _

lemma transactional_addDevice (hclient : rq.client ≠ none)
    (hbulk : ∃ m, rq.bulkData = .deviceData m) : Transactional (doAddDevice foreign io rq) := by
  obtain ⟨client, hclient⟩ := Option.ne_none_iff_exists'.mp hclient
  obtain ⟨m, hm⟩ := hbulk
  unfold doAddDevice
  dsimp only
  rw [theClient_bind hclient, hm]
  apply transactional_bind
  intro reply
  apply uses_ite
  · exact uses_answer _
  · apply uses_ite
    · exact uses_answer _
    · apply uses_bind
      · exact uses_ite (uses_runTransaction _ _) (uses_pure _)
      · intro removed
        apply uses_bind
        · exact uses_ite (uses_pure _) (uses_runTransaction _ _)
        · intro added
          exact uses_bind (uses_answer _) fun _ => uses_pure _

lemma transactional_removeDevice (hclient : rq.client ≠ none)
    (hbulk : ∃ m, rq.bulkData = .deviceData m) : Transactional (doRemoveDevice foreign io rq) := by
  obtain ⟨client, hclient⟩ := Option.ne_none_iff_exists'.mp hclient
  obtain ⟨m, hm⟩ := hbulk
  unfold doRemoveDevice
  dsimp only
  rw [theClient_bind hclient, hm]
  apply transactional_bind
  intro reply
  apply uses_ite
  · exact uses_answer _
  · exact uses_bind (uses_runTransaction _ _) fun _ => uses_answer _

lemma transactional_remSession (hclient : rq.client ≠ none)
    (hbulk : ∃ m, rq.bulkData = .sessionData m) : Transactional (doRemSession foreign io rq) := by
  obtain ⟨client, hclient⟩ := Option.ne_none_iff_exists'.mp hclient
  obtain ⟨m, hm⟩ := hbulk
  unfold doRemSession
  dsimp only
  rw [theClient_bind hclient, hm]
  apply transactional_bind
  intro reply
  apply uses_ite
  · exact uses_answer _
  · apply uses_ite
    · exact uses_answer _
    · exact uses_bind (uses_runTransaction _ _) fun _ => uses_answer _

lemma transactional_addSession (hbulk : ∃ m, rq.bulkData = .sessionInfo m)
    (hdevice : rq.args.count .deviceHash = true) : Transactional (doAddSession foreign io rq) := by
  obtain ⟨m, hm⟩ := hbulk
  unfold doAddSession
  rw [hm]
  obtain ⟨deviceHash, hbind⟩ := argument_bind hdevice fun deviceHash => do
    let reply ← runTransaction foreign io 0 (.hasSession m.hash)
    let remove := runTransaction foreign io 1 (.remSession m.hash)
    let _ ← (if Database.Reply.found .postgreSQL reply then remove else pure none)
    let _ ← runTransaction foreign io 2 (.addSession m deviceHash io.now)
    PQDatabase.quiet
  change Transactional (argument rq .deviceHash >>= _)
  rw [hbind]
  apply transactional_bind
  intro reply
  apply uses_bind
  · exact uses_ite (uses_runTransaction _ _) (uses_pure _)
  · intro _
    exact uses_bind (uses_runTransaction _ _) fun _ => uses_quiet

lemma transactional_endSession (hsession : rq.args.count .sessionHash = true) :
    Transactional (doEndSession foreign io rq) := by
  unfold doEndSession
  obtain ⟨sessionHash, hbind⟩ := argument_bind hsession fun sessionHash => do
    let _ ← runTransaction foreign io 0 (.endSession sessionHash io.now)
    PQDatabase.quiet
  rw [hbind]
  exact transactional_bind fun _ => uses_quiet

lemma transactional_create (args : Args) : Transactional (do
    let _ ← (if Database.forced rq then runDropTables foreign io else pure ())
    let status ← runCreateTables foreign io
    PQDatabase.answer rq ((args.emplace .status (Database.statusFor status)).emplace .reason
      (if status then "Database init complete" else "Database init failed. Query error"))) := by
  have hcreate : Transactional (runCreateTables foreign io >>= fun status =>
      PQDatabase.answer rq ((args.emplace .status (Database.statusFor status)).emplace .reason
        (if status then "Database init complete" else "Database init failed. Query error"))) :=
    transactional_bind fun _ => uses_answer _
  by_cases hforced : Database.forced rq = true
  · rw [if_pos hforced]
    apply transactional_bind
    intro _
    exact uses_bind (uses_transaction _ _) fun _ => uses_answer _
  · rw [if_neg hforced]
    exact hcreate

lemma crashes_theClient {α : Type} (h : rq.client = none) (f : ClientId → Handler α) :
    Crashes (theClient rq >>= f) := by
  unfold theClient
  rw [h]
  exact crashes_raise_bind _ _

lemma crashes_argument {key : Arg} {α : Type} (h : rq.args.count key = false)
    (f : String → Handler α) : Crashes (argument rq key >>= f) := by
  have hnone : rq.args.lookup key = none := by simpa [Args.count] using h
  unfold argument
  rw [hnone]
  exact crashes_raise_bind _ _

lemma crashes_check {α β : Type} {result : Except Fault α} (h : ∀ a, result ≠ .ok a)
    (f : α → Handler β) : Crashes (check result >>= f) := by
  cases result with
  | error fault => exact crashes_raise_bind _ _
  | ok a => exact absurd rfl (h a)

lemma castDeviceData_ne {bulkData : BulkData} (h : ¬ ∃ m, bulkData = .deviceData m) (a) :
    bulkData.castDeviceData ≠ .ok a := by
  cases bulkData with
  | deviceData m => exact absurd ⟨m, rfl⟩ h
  | _ => simp [BulkData.castDeviceData]

lemma castSessionData_ne {bulkData : BulkData} (h : ¬ ∃ m, bulkData = .sessionData m) (a) :
    bulkData.castSessionData ≠ .ok a := by
  cases bulkData with
  | sessionData m => exact absurd ⟨m, rfl⟩ h
  | _ => simp [BulkData.castSessionData]

lemma castSessionInfo_ne {bulkData : BulkData} (h : ¬ ∃ m, bulkData = .sessionInfo m) (a) :
    bulkData.castSessionInfo ≠ .ok a := by
  cases bulkData with
  | sessionInfo m => exact absurd ⟨m, rfl⟩ h
  | _ => simp [BulkData.castSessionInfo]

lemma castData_ne {bulkData : BulkData} (h : ¬ ∃ m, bulkData = .data m) (a) :
    bulkData.castData ≠ .ok a := by
  cases bulkData with
  | data m => exact absurd ⟨m, rfl⟩ h
  | _ => simp [BulkData.castData]

/-- A handler that begins with a transaction on the requests it can take, and crashes on others. -/
lemma runsWell_iff {m : Handler DbOutcome} {ready : Prop} (hready : ready → Transactional m)
    (hunready : ¬ ready → Crashes m) {c : PQConnection} (hc : s.connection = some c) :
    RunsWell m s ↔ ready ∧ (s.reachable = true → c.alive = true) := by
  by_cases h : ready
  · rw [runsWell_transactional (hready h) hc]
    exact (and_iff_right h).symm
  · exact iff_of_false (not_runsWell_crashes (hunready h)) fun hand => h hand.1

lemma runsWell_iff_of_client {α : Type} {f : ClientId → α → Handler DbOutcome}
    {result : Except Fault α} {payload : Prop} (hpayload : ¬ payload → ∀ a, result ≠ .ok a)
    (hready : rq.client ≠ none → payload →
      Transactional (theClient rq >>= fun client => check result >>= f client)) {c : PQConnection}
    (hc : s.connection = some c) :
    RunsWell (theClient rq >>= fun client => check result >>= f client) s ↔
      (rq.client ≠ none ∧ payload) ∧ (s.reachable = true → c.alive = true) := by
  apply runsWell_iff _ _ hc
  · intro h
    exact hready h.1 h.2
  · intro h
    cases hclient : rq.client with
    | none => exact crashes_theClient hclient _
    | some client =>
      rw [theClient_bind hclient]
      apply crashes_check
      apply hpayload
      intro hp
      exact h ⟨by simp [hclient], hp⟩

lemma getConnection_some {c : PQConnection} (hc : s.connection = some c) :
    getConnection s = (.ok c, s) := by
  unfold getConnection
  rw [hc]

lemma reconnect_unreachable {c : PQConnection} (hc : s.connection = some c) (hopen : c.isOpen = false)
    (hreachable : s.reachable = false) :
    reconnect s = (.error (.exception .brokenConnection), { s with connection := none }) := by
  unfold reconnect
  rw [bind_ok (getConnection_some hc)]
  simp [hopen, hreachable]

lemma reconnect_reachable {c : PQConnection} (hc : s.connection = some c) (hopen : c.isOpen = false)
    (hreachable : s.reachable = true) :
    reconnect s = (.ok true, { s with connection := some .opened }) := by
  unfold reconnect
  rw [bind_ok (getConnection_some hc)]
  simp [hopen, hreachable]

lemma runsWell_congr {m n : Handler DbOutcome} {t : PQDatabase} (hrun : m s = n t)
    (hreachable : t.reachable = s.reachable) (hran : t.ran = s.ran) : RunsWell m s ↔ RunsWell n t := by
  unfold RunsWell
  rw [hrun, hreachable, hran]

lemma not_runsWell_throw {f : Bool → Handler DbOutcome} {c : PQConnection}
    (hc : s.connection = some c) (hopen : c.isOpen = false) (hreachable : s.reachable = false) :
    ¬ RunsWell (reconnect >>= f) s := by
  rintro ⟨o, s', hrun, -⟩
  rw [bind_error (reconnect_unreachable hc hopen hreachable)] at hrun
  cases hrun

lemma runsWell_initDatabase {c : PQConnection} (hc : s.connection = some c) :
    RunsWell (doInitDatabase foreign io rq) s ↔ (c.isOpen = false → s.reachable = true) ∧
      (c.isOpen = true → s.reachable = true → c.alive = true) := by
  have hcreate := @transactional_create foreign io rq (Args.copyRequestId rq.args)
  have hrest : doInitDatabase foreign io rq s = _ := bind_ok (getConnection_some hc)
  rw [runsWell_congr hrest rfl rfl]
  cases hopen : c.isOpen with
  | true =>
    rw [if_pos rfl]
    refine (runsWell_transactional hcreate hc).trans ?_
    simp
  | false =>
    rw [if_neg (by simp)]
    cases hreachable : s.reachable with
    | false =>
      apply iff_of_false
      · exact not_runsWell_throw hc hopen hreachable
      · simp
    | true =>
      rw [runsWell_congr (bind_ok (reconnect_reachable hc hopen hreachable)) rfl rfl]
      refine (runsWell_transactional hcreate rfl).trans ?_
      simp [PQConnection.opened]

lemma runsWell_quiet {c : PQConnection} (hc : s.connection = some c) : RunsWell PQDatabase.quiet s :=
  ⟨_, s, rfl, by simp [hc], fun _ => ⟨[], (List.append_nil _).symm, fun _ h => by cases h⟩⟩

lemma runsWell_connect {c : PQConnection} (hc : s.connection = some c) :
    RunsWell doConnect s ↔ (c.isOpen = false → s.reachable = true) := by
  have hrest : doConnect s = _ := bind_ok (getConnection_some hc)
  rw [runsWell_congr hrest rfl rfl]
  cases hopen : c.isOpen with
  | true =>
    rw [if_pos rfl]
    exact iff_of_true (runsWell_quiet hc) fun h => by cases h
  | false =>
    rw [if_neg (by simp)]
    cases hreachable : s.reachable with
    | false =>
      apply iff_of_false
      · exact not_runsWell_throw hc hopen hreachable
      · simp
    | true =>
      rw [runsWell_congr (bind_ok (reconnect_reachable hc hopen hreachable)) rfl rfl]
      exact iff_of_true (runsWell_quiet rfl) fun _ => rfl

lemma crashes_addSession
    (h : ¬ ((∃ m, rq.bulkData = .sessionInfo m) ∧ rq.args.count .deviceHash = true)) :
    Crashes (doAddSession foreign io rq) := by
  by_cases hbulk : ∃ m, rq.bulkData = .sessionInfo m
  · obtain ⟨m, hm⟩ := hbulk
    have hcount : rq.args.count .deviceHash = false := by
      rw [← Bool.not_eq_true]
      exact fun hcount => h ⟨⟨m, hm⟩, hcount⟩
    unfold doAddSession
    rw [hm]
    exact crashes_argument hcount _
  · exact crashes_check (castSessionInfo_ne hbulk) _

lemma runsWell_addData {c : PQConnection} (hc : s.connection = some c) :
    RunsWell (doAddData foreign io rq) s ↔
      ((∃ m, rq.bulkData = .data m) ∧ rq.args.count .sessionHash = true) ∧
        ((∃ data, rq.bulkData = .data data ∧ Database.measurement data = none) ∨
          (s.reachable = true → c.alive = true)) := by
  by_cases hdata : ∃ m, rq.bulkData = .data m
  · obtain ⟨data, hbulk⟩ := hdata
    cases hcount : rq.args.count .sessionHash with
    | false =>
      apply iff_of_false
      · apply not_runsWell_crashes
        unfold doAddData
        rw [hbulk]
        exact crashes_argument hcount _
      · rintro ⟨⟨-, hcontra⟩, -⟩
        cases hcontra
    | true =>
      obtain ⟨sessionHash, hbind⟩ := argument_bind hcount (writeData foreign io data)
      have hhandler : doAddData foreign io rq = writeData foreign io data sessionHash := by
        unfold doAddData
        rw [hbulk]
        exact hbind
      rw [hhandler]
      unfold writeData
      cases hm : Database.measurement data with
      | none =>
        exact iff_of_true (runsWell_quiet hc) ⟨⟨⟨data, hbulk⟩, rfl⟩, .inl ⟨data, hbulk, hm⟩⟩
      | some m =>
        refine (runsWell_transactional (transactional_bind fun _ => uses_quiet) hc).trans ?_
        constructor
        · intro h
          exact ⟨⟨⟨data, hbulk⟩, rfl⟩, .inr h⟩
        · rintro ⟨-, ⟨other, hother, hnone⟩ | h⟩
          · have hsame : data = other := BulkData.data.inj (hbulk.symm.trans hother)
            rw [← hsame, hm] at hnone
            cases hnone
          · exact h
  · apply iff_of_false
    · apply not_runsWell_crashes
      exact crashes_check (castData_ne hdata) _
    · intro h
      exact hdata h.1.1

/-- With a connection, the handler of a request runs well just when it can take the request and
work with the connection. -/
lemma runsWell_request {c : PQConnection} (hc : s.connection = some c) :
    RunsWell (PQDatabase.requestHandler foreign io states rq) s ↔
      DatabaseReady rq ∧ WorksWith c s.reachable rq := by
  obtain ⟨client, action, args, bulkData⟩ := rq
  cases action with
  | checkDatabase => exact iff_of_true (runsWell_quiet hc) ⟨trivial, trivial⟩
  | disconnect => exact iff_of_true (runsWell_quiet hc) ⟨trivial, trivial⟩
  | connect => exact (runsWell_connect hc).trans (and_iff_right trivial).symm
  | initDatabase => exact (runsWell_initDatabase hc).trans (and_iff_right trivial).symm
  | loadDevices =>
    exact (runsWell_transactional transactional_loadDevices hc).trans (and_iff_right trivial).symm
  | cleanSessions =>
    exact (runsWell_transactional transactional_cleanSessions hc).trans (and_iff_right trivial).symm
  | getDevices =>
    exact runsWell_iff transactional_getDevices (fun h => crashes_theClient (not_not.mp h) _) hc
  | getSessions => exact runsWell_iff_of_client castDeviceData_ne transactional_getSessions hc
  | addDevice => exact runsWell_iff_of_client castDeviceData_ne transactional_addDevice hc
  | removeDevice => exact runsWell_iff_of_client castDeviceData_ne transactional_removeDevice hc
  | remSession => exact runsWell_iff_of_client castSessionData_ne transactional_remSession hc
  | addSession =>
    exact runsWell_iff (fun h => transactional_addSession h.1 h.2) crashes_addSession hc
  | endSession =>
    exact runsWell_iff transactional_endSession
      (fun h => crashes_argument (Bool.eq_false_iff.mpr h) _) hc
  | addData => exact runsWell_addData hc

end Handlers

section Runs

variable {foreign : String → Tables → Tables × Option TkmCollector.Reply} {s : PQDatabase}

lemma recovers_iff_served (hs : s.connection ≠ none) (e : PQDatabase.Event) :
    Recovers foreign s e ↔ ServedRequest s e := by
  obtain ⟨c, hc⟩ := Option.ne_none_iff_exists'.mp hs
  cases e with
  | drop noticed => exact Iff.rfl
  | restore => exact Iff.rfl
  | request states io rq =>
    refine (runsWell_request hc).trans (and_congr_right fun _ => ?_)
    constructor
    · intro h c' hc'
      rw [← Option.some.inj (hc.symm.trans hc')]
      exact h
    · intro h
      exact h c hc

lemma connection_step :
    Preserves (PQDatabase.step foreign) ServedRequest fun s => s.connection ≠ none := by
  intro s e s' hs hserved h
  rw [← Except.ok.inj h]
  cases e with
  | drop noticed =>
    obtain ⟨c, hc⟩ := Option.ne_none_iff_exists'.mp hs
    simp [next, hc]
  | restore => exact hs
  | request states io rq =>
    have hwell : Recovers foreign s (.request states io rq) := (recovers_iff_served hs _).mpr hserved
    obtain ⟨o, t, hrun, hconnection, -⟩ := hwell
    change (PQDatabase.requestHandler foreign io states rq s).2.connection ≠ none
    rw [hrun]
    exact hconnection

end Runs

/-- In a run every request is handled without a crash, and with the server at hand on an open
connection, just when every request is one that its handler can take and finds a connection that
the handler can work with. -/
theorem connection_recovers (foreign : String → Tables → Tables × Option TkmCollector.Reply)
    (tables : Tables) (events : List PQDatabase.Event) :
    Guarded (PQDatabase.step foreign) (Recovers foreign) (PQDatabase.start tables) events ↔
      Guarded (PQDatabase.step foreign) ServedRequest (PQDatabase.start tables) events :=
  guarded_congr connection_step (fun _ e hs => recovers_iff_served hs e) (by simp [PQDatabase.start])

/-- A request without arguments or data, of client 7. -/
def plainRequest (action : IDatabase.Action) : PQDatabase.Event :=
  .request (fun _ => none) ⟨1, Nat.one_pos, [], true, .isOpen⟩ ⟨some 7, action, [], .int 0⟩

/-- A server that makes nothing of a text that is not a statement. -/
def plainServer : String → Tables → Tables × Option TkmCollector.Reply := fun _ t => (t, none)

/-- `InitDatabase` while the server is away ends in an exception, and after the server came back the
list of the devices is asked for on the connection that was closed. -/
theorem connection_lost :
    ¬ Guarded (PQDatabase.step plainServer) (Recovers plainServer)
        (PQDatabase.start ⟨[], [], [], 0, 0, []⟩) [.drop true, plainRequest .initDatabase] ∧
      ¬ Guarded (PQDatabase.step plainServer) (Recovers plainServer)
        (PQDatabase.start ⟨[], [], [], 0, 0, []⟩) [.drop true, .restore, plainRequest .getDevices] := by
  constructor
  · rintro ⟨-, h⟩
    obtain ⟨⟨o, s', hrun, -⟩, -⟩ := h _ rfl
    cases hrun
  · rintro ⟨-, h⟩
    obtain ⟨-, h⟩ := h _ rfl
    obtain ⟨⟨o, s', hrun, -, hran⟩, -⟩ := h _ rfl
    obtain ⟨new, hnew, hall⟩ := hran rfl
    have hstate := (Prod.mk.inj hrun).2
    rw [← hstate] at hnew
    have hlist : [false] = new := hnew
    have halive := hall false (by simp [← hlist])
    cases halive

end TkmCollector.Proofs
