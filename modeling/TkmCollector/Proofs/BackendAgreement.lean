import Mathlib.Data.List.TakeWhile
import TkmCollector.Proofs.DataBatches
import TkmCollector.Proofs.HashMatching
import TkmCollector.Proofs.QueuedOrders

/-!
# The two backends

SQLite and PostgreSQL have a handler each for every request. They differ when a statement fails,
in the rows that a deletion takes along, and in the ids of new rows.
-/

namespace TkmCollector.Proofs

open Database

/-- The same tables are there, with the same devices and sessions. -/
def SameStore (t t' : Tables) : Prop :=
  t.devices = t'.devices ∧ t.sessions = t'.sessions ∧ t.missing ⊆ t'.missing ∧ t'.missing ⊆ t.missing

instance (t t' : Tables) : Decidable (SameStore t t') :=
  inferInstanceAs (Decidable (_ ∧ _ ∧ (∀ name ∈ t.missing, _) ∧ ∀ name ∈ t'.missing, _))

/-- The same answers and requests are pushed and the same tables are left, or both handlers die of
the same fault. -/
def SameOutcome : Except Fault DbOutcome → Except Fault DbOutcome → Prop
  | .ok o, .ok o' => o.dispatcher = o'.dispatcher ∧ o.database = o'.database ∧
      SameStore o.tables o'.tables
  | .error fault, .error fault' => fault = fault'
  | _, _ => False

instance : (r r' : Except Fault DbOutcome) → Decidable (SameOutcome r r')
  | .ok o, .ok o' => inferInstanceAs (Decidable (o.dispatcher = o'.dispatcher ∧
      o.database = o'.database ∧ SameStore o.tables o'.tables))
  | .error fault, .error fault' => inferInstanceAs (Decidable (fault = fault'))
  | .ok _, .error _ | .error _, .ok _ => isFalse id

/-- The hashes by which a request picks rows. -/
def requestHashes (rq : IDatabase.Request) : List String :=
  match rq.action, rq.bulkData with
  | .addDevice, .deviceData deviceData | .removeDevice, .deviceData deviceData => [deviceData.hash]
  | .remSession, .sessionData sessionData => [sessionData.hash]
  | .addSession, .sessionInfo info => [info.hash, (rq.args.lookup .deviceHash).getD ""]
  | .endSession, _ => [(rq.args.lookup .sessionHash).getD ""]
  | _, _ => []

/-- The sequence of PostgreSQL stands at the largest id, which SQLite counts from. -/
def CountsAlike (ids : List Nat) (seq : Nat) : Prop := ids.foldr max 0 = seq

/-- No session belongs to a device with the hash. -/
def Sessionless (hash : String) (t : Tables) : Prop :=
  ∀ d ∈ t.devices, d.hash = hash → ∀ s ∈ t.sessions, s.device ≠ d.id

/-- When a `DROP` fails, the tables that were dropped before it were empty. -/
def DropsAlike (io : DbIo) (t : Tables) : Prop :=
  DropFails io 0 →
    ((0, 0) ∈ io.fails ∨ t.devices = []) ∧
      ((0, 0) ∈ io.fails ∨ (0, 1) ∈ io.fails ∨ t.sessions = [])

/-- When a `CREATE` fails, the tables that SQLite created before it are there for PostgreSQL too,
and the others that SQLite dropped were not there. -/
def CreatesAlike (io : DbIo) (t : Tables) (forced : Bool) : Prop :=
  CreateFails .sqlite3 io 1 →
    (∀ name ∈ createdNames .sqlite3 io 1, name ∉ t.missing ∧ (forced = true → DropFails io 0)) ∧
    (forced = true → DropFails io 0 → ∀ name ∈ droppedNames .sqlite3 io 0,
      name ∈ t.missing ∨ name ∈ createdNames .sqlite3 io 1)

/-- When the old device cannot be deleted, the new one cannot be inserted either; when it can, it
has no sessions. The id of the old one is not misread, and a new row gets the same id from both. -/
def AddsAlike (io : DbIo) (t : Tables) (rq : IDatabase.Request) (hash : String) : Prop :=
  (0, 0) ∉ io.fails →
    if forced rq then
      if (1, 0) ∈ io.fails then (2, 0) ∈ io.fails
      else Sessionless hash t ∧ ((2, 0) ∉ io.fails →
        CountsAlike ((t.devices.filter fun d => d.hash ≠ hash).map (·.id)) t.deviceSeq)
    else (rq.args.count .forced = false → ¬ Misread .sqlite3 (checkedDevice .sqlite3 hash t)) ∧
      ((rq.args.count .forced = true ∨ ∀ d ∈ t.devices, d.hash ≠ hash) → (2, 0) ∉ io.fails →
        CountsAlike (t.devices.map (·.id)) t.deviceSeq)

/-- The sessions that are left when those with the hash are to be deleted. -/
def sessionsKept (io : DbIo) (t : Tables) (hash : String) : List SessionRow :=
  if (0, 0) ∈ io.fails ∨ (1, 0) ∈ io.fails then t.sessions
  else t.sessions.filter fun s => s.hash ≠ hash

/-- The sessions that are to be deleted are not misread, at most one device has the hash, and a
new row gets the same id from both. -/
def OpensAlike (io : DbIo) (t : Tables) (deviceHash : String) (info : Monitor.SessionInfo) : Prop :=
  ((0, 0) ∉ io.fails → (1, 0) ∉ io.fails →
    ¬ Misread .sqlite3 (checkedSession .sqlite3 info.hash t)) ∧
  ((2, 0) ∉ io.fails →
    match t.devices.filter fun d => d.hash = deviceHash with
    | [] => True
    | [_] => CountsAlike ((sessionsKept io t info.hash).map (·.id)) t.sessionSeq
    | _ => False)

/-- Where the two backends agree on a request. -/
def AgreesWhen (io : DbIo) (t : Tables) (rq : IDatabase.Request) : Prop :=
  match rq.action, rq.client, rq.bulkData with
  | .initDatabase, _, _ => (forced rq = true → DropsAlike io t) ∧ CreatesAlike io t (forced rq)
  | .addDevice, some _, .deviceData deviceData => AddsAlike io t rq deviceData.hash
  | .removeDevice, some _, .deviceData deviceData =>
    (0, 0) ∉ io.fails → ¬ Misread .sqlite3 (checkedDevice .sqlite3 deviceData.hash t) ∧
      ((1, 0) ∉ io.fails → Sessionless deviceData.hash t)
  | .remSession, some _, .sessionData sessionData =>
    (0, 0) ∉ io.fails → ¬ Misread .sqlite3 (checkedSession .sqlite3 sessionData.hash t)
  | .addSession, _, .sessionInfo info =>
    ∀ deviceHash ∈ rq.args.lookup .deviceHash, OpensAlike io t deviceHash info
  | _, _, _ => True

section Agreement

variable {b b' : Backend} {io : DbIo} {t : Tables} {rq : IDatabase.Request}

@[simp] lemma sameOutcome_ok {o o' : DbOutcome} : SameOutcome (.ok o) (.ok o') ↔
    o.dispatcher = o'.dispatcher ∧ o.database = o'.database ∧ SameStore o.tables o'.tables := Iff.rfl

@[simp] lemma sameStore_iff {t t' : Tables} : SameStore t t' ↔ t.devices = t'.devices ∧
    t.sessions = t'.sessions ∧ t.missing ⊆ t'.missing ∧ t'.missing ⊆ t.missing := Iff.rfl

@[simp] lemma dropped_missing (type : DbType) (hash : String) (t : Tables) :
    (dropped type hash t).missing = t.missing := by
  cases type <;> rfl

@[simp] lemma removed_missing (type : DbType) (hash : String) (t : Tables) :
    (removed type hash t).missing = t.missing := rfl

@[simp] lemma added_missing (type : DbType) (deviceData : Control.DeviceData) (t : Tables) :
    (added type deviceData t).missing = t.missing := rfl

@[simp] lemma ended_missing (type : DbType) (hash : String) (now : Nat) (t : Tables) :
    (ended type hash now t).missing = t.missing := rfl

@[simp] lemma recorded_missing (type : DbType) (info : Monitor.SessionInfo) (now owner : Nat)
    (t : Tables) : (recorded type info now owner t).missing = t.missing := rfl

lemma emplace_of_count {args : Args} {key : Arg} {value : String} (h : args.count key = true) :
    args.emplace key value = args := if_pos h

/-! ### Tables -/

section Rows

variable {hash : String} (hequal : ∀ value, hashMatches .postgreSQL hash value = hashEquals hash value)

include hequal in
lemma hashMatches_equals (type : DbType) (value : String) :
    hashMatches type hash value = hashEquals hash value := by
  cases type with
  | sqlite3 => rfl
  | postgreSQL => exact hequal value

include hequal in
lemma dropped_sessions_iff :
    (dropped .sqlite3 hash t).sessions = (dropped .postgreSQL hash t).sessions ↔ Sessionless hash t := by
  have hpostgres : (dropped .postgreSQL hash t).sessions = t.sessions.filter fun s =>
      !t.devices.any fun d => hashEquals hash d.hash && d.id == s.device := by
    simp only [dropped, Tables.deleteDevices, Tables.deleteSessions, hequal]
  rw [hpostgres, eq_comm]
  refine List.filter_eq_self.trans ⟨?_, ?_⟩
  · intro h d hd hhash s hs howner
    have hkept := h s hs
    have hgone : (t.devices.any fun d => hashEquals hash d.hash && d.id == s.device) = true := by
      apply List.any_eq_true.mpr
      exact ⟨d, hd, by simp [hashEquals, hhash, howner]⟩
    rw [hgone] at hkept
    cases hkept
  · intro h s hs
    rw [Bool.not_eq_true', List.any_eq_false]
    intro d hd hmatch
    simp only [hashEquals, Bool.and_eq_true, decide_eq_true_eq, beq_iff_eq] at hmatch
    exact h d hd hmatch.1 s hs hmatch.2.symm

include hequal in
lemma dropped_devices_alike (type : DbType) :
    (dropped type hash t).devices = t.devices.filter fun d => d.hash ≠ hash := by
  rw [dropped_devices]
  simp [hashMatches_equals hequal, hashEquals]

include hequal in
lemma devicesWith_alike (type : DbType) :
    t.devicesWith (hashMatches type) hash = t.devices.filter fun d => d.hash = hash := by
  simp [Tables.devicesWith, hashMatches_equals hequal, hashEquals]

include hequal in
lemma sessionsWith_alike (type : DbType) :
    t.sessionsWith (hashMatches type) hash = t.sessions.filter fun s => s.hash = hash := by
  simp [Tables.sessionsWith, hashMatches_equals hequal, hashEquals]

include hequal in
lemma removed_sessions_alike (type : DbType) :
    (removed type hash t).sessions = t.sessions.filter fun s => s.hash ≠ hash := by
  simp [removed, Tables.deleteSessions, hashMatches_equals hequal, hashEquals]

include hequal in
lemma checkedDevice_alike (type : DbType) :
    checkedDevice type hash t = checkedDevice .sqlite3 hash t := by
  simp [checkedDevice, devicesWith_alike hequal]

include hequal in
lemma checkedSession_alike (type : DbType) :
    checkedSession type hash t = checkedSession .sqlite3 hash t := by
  simp [checkedSession, sessionsWith_alike hequal]

end Rows

lemma found_postgreSQL (id : Option Nat) : Reply.found .postgreSQL (some (.id id)) = id.isSome := by
  cases id <;> rfl

/-- SQLite finds the rows that PostgreSQL finds, up to an id that it misreads. -/
lemma found_sqlite3 {id : Option Nat} (h : ¬ Misread .sqlite3 id) :
    Reply.found .sqlite3 (some (.id id)) = Reply.found .postgreSQL (some (.id id)) := by
  cases hfound : Reply.found .postgreSQL (some (.id id)) with
  | false =>
    rw [found_id] at hfound ⊢
    exact .inl (hfound.resolve_right not_misread_postgreSQL)
  | true =>
    by_contra hmissed
    obtain rfl | hread := found_id.mp (eq_false_of_ne_true hmissed)
    · cases hfound
    · exact h hread

lemma found_misread {id : Option Nat} (h : Misread .sqlite3 id) :
    Reply.found .sqlite3 (some (.id id)) = false ∧ Reply.found .postgreSQL (some (.id id)) = true := by
  refine ⟨found_id.mpr (.inr h), ?_⟩
  rw [found_postgreSQL]
  have hread := h.2
  cases id with
  | none => cases hread
  | some id => rfl

@[simp] lemma removed_devices (type : DbType) (hash : String) (t : Tables) :
    (removed type hash t).devices = t.devices := rfl

@[simp] lemma added_sessions (type : DbType) (deviceData : Control.DeviceData) (t : Tables) :
    (added type deviceData t).sessions = t.sessions := rfl

lemma added_devices_iff {t t' : Tables} (deviceData : Control.DeviceData)
    (hdevices : t.devices = t'.devices) :
    (added .sqlite3 deviceData t).devices = (added .postgreSQL deviceData t').devices ↔
      CountsAlike (t'.devices.map (·.id)) t'.deviceSeq := by
  simp [added, newId, CountsAlike, hdevices]

lemma disagree_of_reason {o o' : DbOutcome} {args args' : Args}
    (ho : o.dispatcher = [sendStatus rq args]) (ho' : o'.dispatcher = [sendStatus rq args'])
    (h : args.lookup .reason ≠ args'.lookup .reason) : ¬ SameOutcome (.ok o) (.ok o') := by
  rintro ⟨hanswers, -⟩
  rw [ho, ho'] at hanswers
  have hargs : args = args' := congrArg TkmCollector.Request.args (List.singleton_inj.mp hanswers)
  exact h (by rw [hargs])

/-! ### The handlers -/

section Handlers

variable (hb : b.type = .sqlite3) (hb' : b'.type = .postgreSQL)

include hb hb' in
lemma addDevice_agrees {client : ClientId} {deviceData : Control.DeviceData}
    (hclient : rq.client = some client) (hbulk : rq.bulkData = .deviceData deviceData)
    (hhash : Plain deviceData.hash) (hname : Plain deviceData.name) (haddress : Plain deviceData.address)
    (hequal : ∀ value, hashMatches .postgreSQL deviceData.hash value = hashEquals deviceData.hash value) :
    SameOutcome (doAddDevice b io t rq) (doAddDevice b' io t rq) ↔
      AddsAlike io t rq deviceData.hash := by
  have hdevices : (dropped .sqlite3 deviceData.hash t).devices =
      (dropped .postgreSQL deviceData.hash t).devices := by
    rw [dropped_devices_alike hequal, dropped_devices_alike hequal]
  unfold doAddDevice AddsAlike
  simp only [hclient, hbulk, BulkData.castDeviceData, run_hasDevice hhash, run_remDevice hhash,
    run_addDevice hhash hname haddress, hb, hb']
  by_cases hcheck : (0, 0) ∈ io.fails
  · simp [hcheck]
  simp only [hcheck, if_false, reduceCtorEq, not_false_eq_true, forall_const]
  by_cases hforced : forced rq = true
  · have hcount : rq.args.count .forced = true := by
      have hlookup : rq.args.lookup .forced = some (valFor .true) := by simpa [forced] using hforced
      simp [Args.count, hlookup]
    by_cases hremove : (1, 0) ∈ io.fails
    · by_cases hinsert : (2, 0) ∈ io.fails
      · simp [hforced, hcount, hremove, hinsert, answer, quiet]
      · simp [hforced, hcount, hremove, hinsert, answer, quiet]
    · have hsessions := dropped_sessions_iff (t := t) hequal
      by_cases hinsert : (2, 0) ∈ io.fails
      · simp [hforced, hcount, hremove, hinsert, answer, quiet, hashMatches_equals hequal, hsessions]
      · have hids := added_devices_iff deviceData hdevices
        rw [dropped_devices_alike hequal, dropped_deviceSeq] at hids
        simp [hforced, hcount, hremove, hinsert, answer, quiet, hids, hsessions, and_comm]
  · have hids := added_devices_iff (t := t) deviceData rfl
    have hnone : (∀ d ∈ t.devices, d.hash ≠ deviceData.hash) ↔
        Reply.found .postgreSQL (some (.id (checkedDevice .sqlite3 deviceData.hash t))) = false := by
      rw [found_postgreSQL]
      simp [checkedDevice, devicesWith_alike hequal]
    rw [hnone, checkedDevice_alike hequal .postgreSQL]
    by_cases hread : Misread .sqlite3 (checkedDevice .sqlite3 deviceData.hash t)
    · obtain ⟨hsqlite, hpostgres⟩ := found_misread hread
      rw [hsqlite, hpostgres]
      cases hcount : rq.args.count .forced with
      | false =>
        -- SQLite goes on, PostgreSQL says that the device exists
        simp only [hforced, hread, not_true_eq_false, imp_false, false_and, iff_false,
          Bool.false_eq_true, and_false, and_true, if_false, if_true]
        apply disagree_of_reason rfl rfl
        split <;> simp
      | true =>
        by_cases hinsert : (2, 0) ∈ io.fails
        · simp [hforced, hinsert, answer, quiet]
        · simp [hforced, hinsert, answer, quiet, hids]
    · rw [found_sqlite3 hread]
      generalize Reply.found .postgreSQL
        (some (.id (checkedDevice .sqlite3 deviceData.hash t))) = found
      by_cases hexists : rq.args.count .forced = false ∧ found = true
      · simp [hforced, hexists, hread]
      · have hnew : rq.args.count .forced = true ∨ found = false := by
          rw [not_and_or] at hexists
          simpa using hexists
        rw [if_neg hexists, if_neg hexists]
        by_cases hinsert : (2, 0) ∈ io.fails
        · simp [hforced, hinsert, hread, answer, quiet]
        · simp [hforced, hinsert, hread, answer, quiet, hnew, hids]

include hb hb' in
lemma removeDevice_agrees {client : ClientId} {deviceData : Control.DeviceData}
    (hclient : rq.client = some client) (hbulk : rq.bulkData = .deviceData deviceData)
    (hhash : Plain deviceData.hash)
    (hequal : ∀ value, hashMatches .postgreSQL deviceData.hash value = hashEquals deviceData.hash value) :
    SameOutcome (doRemoveDevice b io t rq) (doRemoveDevice b' io t rq) ↔
      ((0, 0) ∉ io.fails → ¬ Misread .sqlite3 (checkedDevice .sqlite3 deviceData.hash t) ∧
        ((1, 0) ∉ io.fails → Sessionless deviceData.hash t)) := by
  have hsessions := dropped_sessions_iff (t := t) hequal
  unfold doRemoveDevice
  simp only [hclient, hbulk, BulkData.castDeviceData, run_hasDevice hhash, run_remDevice hhash, hb, hb',
    checkedDevice_alike hequal .postgreSQL]
  by_cases hcheck : (0, 0) ∈ io.fails
  · simp [hcheck]
  simp only [hcheck, if_false, reduceCtorEq, not_false_eq_true, forall_const]
  by_cases hread : Misread .sqlite3 (checkedDevice .sqlite3 deviceData.hash t)
  · obtain ⟨hsqlite, hpostgres⟩ := found_misread hread
    rw [hsqlite, hpostgres]
    simp only [hread, not_true_eq_false, false_and, iff_false]
    apply disagree_of_reason rfl rfl
    by_cases hremove : (1, 0) ∈ io.fails <;> simp [hremove]
  · rw [found_sqlite3 hread]
    by_cases hremove : (1, 0) ∈ io.fails
    · simp [hremove, hread, answer, quiet]
    · simp [hremove, hread, answer, quiet, hashMatches_equals hequal, hsessions]

include hb hb' in
/-- When there is no session, SQLite deletes none and keeps the first status. -/
lemma remSession_agrees {client : ClientId} {sessionData : Control.SessionData}
    (hclient : rq.client = some client) (hbulk : rq.bulkData = .sessionData sessionData)
    (hhash : Plain sessionData.hash)
    (hequal : ∀ value, hashMatches .postgreSQL sessionData.hash value = hashEquals sessionData.hash value) :
    SameOutcome (doRemSession b io t rq) (doRemSession b' io t rq) ↔
      ((0, 0) ∉ io.fails → ¬ Misread .sqlite3 (checkedSession .sqlite3 sessionData.hash t)) := by
  unfold doRemSession
  simp only [hclient, hbulk, BulkData.castSessionData, run_hasSession hhash, run_remSession hhash, hb, hb',
    checkedSession_alike hequal .postgreSQL]
  by_cases hcheck : (0, 0) ∈ io.fails
  · simp [hcheck]
  simp only [hcheck, if_false, reduceCtorEq, not_false_eq_true, forall_const, false_and, true_and]
  by_cases hread : Misread .sqlite3 (checkedSession .sqlite3 sessionData.hash t)
  · obtain ⟨hsqlite, hpostgres⟩ := found_misread hread
    rw [hsqlite, hpostgres]
    simp only [hread, not_true_eq_false, iff_false, if_true, Bool.false_eq_true, Bool.true_eq_false,
      if_false]
    apply disagree_of_reason rfl rfl
    by_cases hremove : (1, 0) ∈ io.fails <;> simp [hremove]
  rw [found_sqlite3 hread]
  refine iff_of_true ?_ hread
  have hfound : Reply.found .postgreSQL (some (.id (checkedSession .sqlite3 sessionData.hash t))) =
      false ↔ t.sessionsWith (hashMatches .sqlite3) sessionData.hash = [] := by
    rw [found_postgreSQL]
    simp [checkedSession]
  by_cases hnone : t.sessionsWith (hashMatches .sqlite3) sessionData.hash = []
  · have hgone : removed .sqlite3 sessionData.hash t = t := removed_of_unmatched hnone
    rw [hfound.mpr hnone, hgone]
    have hkept : ∀ reason status, (((((Args.copyRequestId rq.args).emplace .status
        (valFor .statusError)).emplace .reason "No such session").emplace .reason reason).emplace
          .status status) = (((Args.copyRequestId rq.args).emplace .status
            (valFor .statusError)).emplace .reason "No such session") := by
      intro reason status
      rw [emplace_of_count (by simp [Args.count]), emplace_of_count (by simp [Args.count])]
    by_cases hremove : (1, 0) ∈ io.fails
    · simp [hremove, hkept, answer, quiet]
    · simp [hremove, hkept, answer, quiet]
  · have hsome := mt hfound.mp hnone
    rw [Bool.not_eq_false] at hsome
    rw [hsome]
    by_cases hremove : (1, 0) ∈ io.fails
    · simp [hremove, answer, quiet]
    · simp [hremove, answer, quiet, removed_sessions_alike hequal]

lemma doAddSession_eq (b : Backend) (io : DbIo) (t : Tables) {info : Monitor.SessionInfo}
    {deviceHash : String} (hbulk : rq.bulkData = .sessionInfo info)
    (hargs : rq.args.lookup .deviceHash = some deviceHash)
    (hhash : Plain info.hash) (hname : Plain info.name) (hdevice : Plain deviceHash)
    (hequal : ∀ value, hashMatches .postgreSQL info.hash value = hashEquals info.hash value) :
    ∃ t₁, doAddSession b io t rq = .ok (quiet (if (2, 0) ∈ io.fails then t₁
        else match scalar b.type (deviceIds b.type deviceHash t₁) with
          | none => t₁
          | some owner => recorded b.type info io.now owner t₁)) ∧
      t₁.devices = t.devices ∧ t₁.sessionSeq = t.sessionSeq ∧ t₁.missing = t.missing ∧
      t₁.sessions = if Misread b.type (checkedSession b.type info.hash t) then t.sessions
        else sessionsKept io t info.hash := by
  unfold doAddSession sessionsKept
  simp only [hbulk, hargs, BulkData.castSessionInfo, run_hasSession hhash, run_remSession hhash,
    run_addSession hdevice hhash hname]
  have hkeeps : ∀ found : Bool, ∀ t', t' = (if found = true then (if (1, 0) ∈ io.fails then (t, none)
      else (removed b.type info.hash t, some Reply.done)).1 else t) →
      t'.devices = t.devices ∧ t'.sessionSeq = t.sessionSeq ∧ t'.missing = t.missing := by
    rintro found t' rfl
    split
    · split
      · exact ⟨rfl, rfl, rfl⟩
      · exact ⟨rfl, rfl, rfl⟩
    · exact ⟨rfl, rfl, rfl⟩
  obtain ⟨hdevices, hseq, hmissing⟩ := hkeeps _ _ rfl
  refine ⟨_, rfl, hdevices, hseq, hmissing, ?_⟩
  by_cases hcheck : (0, 0) ∈ io.fails
  · simp [hcheck, Reply.found]
  by_cases hremove : (1, 0) ∈ io.fails
  · simp [hremove]
  simp only [hcheck, hremove, if_false, or_self]
  cases hfound : Reply.found b.type (some (.id (checkedSession b.type info.hash t))) with
  | true =>
    have hread : ¬ Misread b.type (checkedSession b.type info.hash t) := by
      intro hread
      rw [found_id.mpr (.inr hread)] at hfound
      cases hfound
    rw [if_pos rfl, if_neg hread]
    exact removed_sessions_alike hequal b.type
  | false =>
    rw [if_neg Bool.false_ne_true]
    obtain hnone | hread := found_hasSession.mp hfound
    · have hall : ∀ s ∈ t.sessions, s.hash ≠ info.hash := by
        rw [sessionsWith_alike hequal] at hnone
        simpa [List.filter_eq_nil_iff] using hnone
      have hkept : (t.sessions.filter fun s => s.hash ≠ info.hash) = t.sessions :=
        List.filter_eq_self.mpr fun s hs => by simpa using hall s hs
      rw [hkept, ite_self]
    · rw [if_pos hread]

lemma sessionsKept_length {hash : String} (hcheck : (0, 0) ∉ io.fails) (hremove : (1, 0) ∉ io.fails)
    (hread : Misread .sqlite3 (checkedSession .sqlite3 hash t)) :
    (sessionsKept io t hash).length < t.sessions.length := by
  obtain ⟨row, hrow⟩ := List.exists_mem_of_ne_nil _ hread.matched_session
  obtain ⟨hrow, hmatch⟩ := List.mem_filter.mp hrow
  unfold sessionsKept
  rw [if_neg (not_or.mpr ⟨hcheck, hremove⟩)]
  apply List.length_filter_lt_length_iff_exists.mpr
  refine ⟨row, hrow, ?_⟩
  simpa [hashMatches, hashEquals] using hmatch

include hb hb' in
lemma addSession_agrees {info : Monitor.SessionInfo} {deviceHash : String}
    (hbulk : rq.bulkData = .sessionInfo info) (hargs : rq.args.lookup .deviceHash = some deviceHash)
    (hhash : Plain info.hash) (hname : Plain info.name) (hdevice : Plain deviceHash)
    (hequal : ∀ value, hashMatches .postgreSQL info.hash value = hashEquals info.hash value)
    (hequal' : ∀ value, hashMatches .postgreSQL deviceHash value = hashEquals deviceHash value) :
    SameOutcome (doAddSession b io t rq) (doAddSession b' io t rq) ↔ OpensAlike io t deviceHash info := by
  obtain ⟨t₁, h₁, hdevices₁, hseq₁, hmissing₁, hsessions₁⟩ :=
    doAddSession_eq b io t hbulk hargs hhash hname hdevice hequal
  obtain ⟨t₂, h₂, hdevices₂, hseq₂, hmissing₂, hsessions₂⟩ :=
    doAddSession_eq b' io t hbulk hargs hhash hname hdevice hequal
  rw [hb'] at hsessions₂
  rw [if_neg not_misread_postgreSQL] at hsessions₂
  rw [h₁, h₂]
  unfold OpensAlike
  by_cases hread : (0, 0) ∉ io.fails ∧ (1, 0) ∉ io.fails ∧
      Misread .sqlite3 (checkedSession .sqlite3 info.hash t)
  · -- SQLite keeps the old sessions
    obtain ⟨hcheck, hremove, hread⟩ := hread
    rw [hb, if_pos hread] at hsessions₁
    have hshorter := sessionsKept_length hcheck hremove hread
    rw [← hsessions₁, ← hsessions₂] at hshorter
    refine iff_of_false ?_ fun hagrees => hagrees.1 hcheck hremove hread
    rintro ⟨-, -, -, hsessions, -⟩
    have hlength := congrArg List.length hsessions
    by_cases hinsert : (2, 0) ∈ io.fails
    · simp only [hinsert, if_true, quiet] at hlength
      omega
    simp only [hinsert, if_false, quiet, hb, hb', deviceIds, devicesWith_alike hequal', hdevices₁,
      hdevices₂] at hlength
    generalize (t.devices.filter fun d => d.hash = deviceHash) = owners at hlength
    cases owners with
    | nil =>
      simp only [scalar, List.map_nil, List.head?_nil] at hlength
      omega
    | cons d others =>
      cases others with
      | nil =>
        simp [scalar, recorded] at hlength
        omega
      | cons =>
        simp [scalar, recorded] at hlength
        omega
  have hkept : t₁.sessions = sessionsKept io t info.hash := by
    rw [hsessions₁, hb]
    split
    · rename_i hmisread
      unfold sessionsKept
      rw [if_pos]
      by_contra hnot
      rw [not_or] at hnot
      exact hread ⟨hnot.1, hnot.2, hmisread⟩
    · rfl
  have hruns : (0, 0) ∉ io.fails → (1, 0) ∉ io.fails →
      ¬ Misread .sqlite3 (checkedSession .sqlite3 info.hash t) :=
    fun hcheck hremove hmisread => hread ⟨hcheck, hremove, hmisread⟩
  rw [and_iff_right hruns]
  by_cases hinsert : (2, 0) ∈ io.fails
  · simp [hinsert, quiet, hdevices₁, hdevices₂, hkept, hsessions₂, hmissing₁, hmissing₂]
  simp only [hinsert, if_false, not_false_eq_true, forall_const, sameOutcome_ok, quiet, true_and,
    hb, hb', deviceIds, devicesWith_alike hequal', hdevices₁, hdevices₂]
  generalize (t.devices.filter fun d => d.hash = deviceHash) = owners
  cases owners with
  | nil => simp [scalar, hdevices₁, hdevices₂, hkept, hsessions₂, hmissing₁, hmissing₂]
  | cons d others =>
    cases others with
    | nil =>
      simp [scalar, recorded, newSession, newId, CountsAlike, hdevices₁, hdevices₂, hkept,
        hsessions₂, hseq₁, hseq₂, hmissing₁, hmissing₂]
    | cons => simp [scalar, recorded, hdevices₁, hdevices₂, hkept, hsessions₂]

include hb hb' in
lemma endSession_agrees {hash : String} (hargs : rq.args.lookup .sessionHash = some hash)
    (hhash : Plain hash)
    (hequal : ∀ value, hashMatches .postgreSQL hash value = hashEquals hash value) :
    SameOutcome (doEndSession b io t rq) (doEndSession b' io t rq) := by
  unfold doEndSession
  simp only [hargs, run_endSession hhash, hb, hb']
  by_cases hfails : (0, 0) ∈ io.fails
  · simp [hfails]
  · simp [hfails, ended, quiet, hashMatches_equals hequal]

lemma cleanSessions_agrees : SameOutcome (doCleanSessions b io t) (doCleanSessions b' io t) := by
  simp [doCleanSessions, run_getSessions]

lemma range_droppedTables : List.range Query.droppedTables.length =
    0 :: 1 :: List.range' 2 (Query.droppedTables.length - 2) := rfl

lemma devices_dropped (n : Nat) :
    Query.devicesTableName ∈ droppedNames .sqlite3 io n ↔ (n, 0) ∉ io.fails := by
  unfold droppedNames
  rw [range_droppedTables, List.takeWhile_cons]
  by_cases h : (n, 0) ∈ io.fails
  · simp [h]
  · simp [h, Query.droppedTables]

lemma sessions_dropped (n : Nat) : Query.sessionsTableName ∈ droppedNames .sqlite3 io n ↔
    (n, 0) ∉ io.fails ∧ (n, 1) ∉ io.fails := by
  unfold droppedNames
  rw [range_droppedTables, List.takeWhile_cons, List.takeWhile_cons]
  by_cases h : (n, 0) ∈ io.fails
  · simp [h]
  · by_cases h' : (n, 1) ∈ io.fails
    · simp [h, h', Query.droppedTables, devicesTableName_ne.symm]
    · simp [h, h', Query.droppedTables]

lemma droppedNames_done {n : Nat} (h : ¬ DropFails io n) (type : DbType) :
    droppedNames type io n = Query.droppedTables := by
  have hlength := takeWhile_length_eq.mpr h
  unfold droppedNames
  cases type with
  | sqlite3 =>
    dsimp only
    rw [hlength, List.take_length]
  | postgreSQL => exact if_pos hlength

lemma droppedNames_postgreSQL {n : Nat} (h : DropFails io n) : droppedNames .postgreSQL io n = [] :=
  if_neg fun hlength => takeWhile_length_eq.mp hlength h

lemma createdNames_done {n : Nat} {type : DbType} (h : ¬ CreateFails type io n) :
    createdNames type io n = createdTables type := by
  have hlength : ((List.range (createdTables type).length).takeWhile fun k =>
      (n, k) ∉ io.fails).length = (createdTables type).length :=
    takeWhile_length_eq.mpr (by simpa [createdTables, CreateFails] using h)
  unfold createdNames
  cases type with
  | sqlite3 =>
    dsimp only
    rw [hlength, List.take_length]
  | postgreSQL => exact if_pos hlength

lemma createdNames_postgreSQL {n : Nat} (h : CreateFails .postgreSQL io n) :
    createdNames .postgreSQL io n = [] := by
  refine if_neg fun hlength => takeWhile_length_eq.mp hlength ?_
  simpa [createdTables, CreateFails] using h

lemma createdTables_alike : createdTables .postgreSQL = createdTables .sqlite3 := rfl

lemma mem_createdTables {name : String} : name ∈ createdTables .sqlite3 ↔ name ∈ Query.droppedTables := by
  have hperm : (createdTables .sqlite3).Perm Query.droppedTables := by decide
  exact hperm.mem_iff

lemma erased_agree :
    (erased (droppedNames .sqlite3 io 0) t).devices = (erased (droppedNames .postgreSQL io 0) t).devices ∧
      (erased (droppedNames .sqlite3 io 0) t).sessions =
        (erased (droppedNames .postgreSQL io 0) t).sessions ↔ DropsAlike io t := by
  unfold DropsAlike
  by_cases hfails : DropFails io 0
  · rw [droppedNames_postgreSQL hfails, forall_prop_of_true hfails]
    simp only [erased_devices, erased_sessions, devices_dropped, sessions_dropped,
      List.not_mem_nil, if_false]
    by_cases hdevices : (0, 0) ∈ io.fails
    · simp [hdevices]
    · by_cases hsessions : (0, 1) ∈ io.fails
      · simp [hdevices, hsessions, eq_comm]
      · simp [hdevices, hsessions, eq_comm]
  · rw [droppedNames_done hfails, droppedNames_done hfails]
    exact iff_of_true ⟨rfl, rfl⟩ fun h => absurd h hfails

lemma mem_rebuilt {type : DbType} {forced : Bool} {name : String} :
    name ∈ (created (createdNames type io 1)
        (if forced then erased (droppedNames type io 0) t else t)).missing ↔
      (forced = true ∧ name ∈ droppedNames type io 0 ∨ name ∈ t.missing) ∧
        name ∉ createdNames type io 1 := by
  rw [mem_created_missing]
  cases forced with
  | false => simp
  | true => simp [mem_erased_missing]

lemma rebuilt_agree {forced : Bool} :
    (∀ name, name ∈ (created (createdNames .sqlite3 io 1)
        (if forced then erased (droppedNames .sqlite3 io 0) t else t)).missing ↔
      name ∈ (created (createdNames .postgreSQL io 1)
        (if forced then erased (droppedNames .postgreSQL io 0) t else t)).missing) ↔
      CreatesAlike io t forced := by
  simp only [mem_rebuilt]
  unfold CreatesAlike
  by_cases hcreate : CreateFails .sqlite3 io 1
  · rw [createdNames_postgreSQL hcreate, forall_prop_of_true hcreate]
    cases forced with
    | false =>
      constructor
      · intro h
        exact ⟨fun name hname => ⟨fun hmissing => ((h name).mpr (by simpa using hmissing)).2 hname,
          by simp⟩, by simp⟩
      · rintro ⟨hthere, -⟩ name
        have hname := hthere name
        simp only [Bool.false_eq_true, false_and, false_or, List.not_mem_nil, not_false_eq_true,
          and_true]
        tauto
    | true =>
      by_cases hdrop : DropFails io 0
      · rw [droppedNames_postgreSQL hdrop]
        simp only [true_and, List.not_mem_nil, false_or, not_false_eq_true, and_true, hdrop,
          forall_const]
        constructor
        · intro h
          exact ⟨fun name hname hmissing => ((h name).mpr hmissing).2 hname,
            fun name hname => by have := h name; tauto⟩
        · rintro ⟨hthere, hgone⟩ name
          have h := hthere name
          have h' := hgone name
          tauto
      · -- everything was dropped, and PostgreSQL creates nothing
        rw [droppedNames_done hdrop, droppedNames_done hdrop]
        simp only [true_and, List.not_mem_nil, not_false_eq_true, and_true, hdrop, forall_const,
          imp_false, false_imp_iff, and_false]
        constructor
        · intro h name hname
          have hdropped : name ∈ Query.droppedTables :=
            mem_createdTables.mp (List.mem_of_mem_take hname)
          exact ((h name).mpr (.inl hdropped)).2 hname
        · intro hnone name
          have := hnone name
          tauto
  · have hcreate' : ¬ CreateFails .postgreSQL io 1 := hcreate
    rw [createdNames_done hcreate, createdNames_done hcreate', createdTables_alike]
    refine iff_of_true (fun name => ?_) fun h => absurd h hcreate
    rw [mem_createdTables]
    have hdropped : ∀ type, name ∈ droppedNames type io 0 → name ∈ Query.droppedTables := by
      intro type hname
      unfold droppedNames at hname
      cases type with
      | sqlite3 => exact List.mem_of_mem_take hname
      | postgreSQL => exact (List.mem_ite_nil_right.mp hname).2
    have hsqlite := hdropped .sqlite3
    have hpostgres := hdropped .postgreSQL
    tauto

include hb hb' in
lemma initDatabase_agrees (hlink : io.link = .isOpen) :
    SameOutcome (doInitDatabase b io t rq) (doInitDatabase b' io t rq) ↔
      (forced rq = true → DropsAlike io t) ∧ CreatesAlike io t (forced rq) := by
  have hup : ∀ type, LinkUp type io := fun _ _ => .inl hlink
  have hstatus : ∀ t t', (runCreateTables b io 1 t).2 = (runCreateTables b' io 1 t').2 := by
    intro t t'
    rw [Bool.eq_iff_iff, ← not_iff_not, Bool.not_eq_true, Bool.not_eq_true,
      runCreateTables_eq_false, runCreateTables_eq_false, hb, hb']
    exact Iff.rfl
  rw [doInitDatabase_up (hup b.type), doInitDatabase_up (hup b'.type), hb, hb', sameOutcome_ok]
  have hrows : SameStore
      (created (createdNames .sqlite3 io 1)
        (if forced rq = true then erased (droppedNames .sqlite3 io 0) t else t))
      (created (createdNames .postgreSQL io 1)
        (if forced rq = true then erased (droppedNames .postgreSQL io 0) t else t)) ↔
      (forced rq = true → DropsAlike io t) ∧ CreatesAlike io t (forced rq) := by
    rw [← rebuilt_agree, ← erased_agree]
    have hmissing : ∀ t t' : Tables, (∀ name, name ∈ t.missing ↔ name ∈ t'.missing) ↔
        t.missing ⊆ t'.missing ∧ t'.missing ⊆ t.missing :=
      fun t t' => ⟨fun h => ⟨fun name => (h name).mp, fun name => (h name).mpr⟩,
        fun h name => ⟨@h.1 name, @h.2 name⟩⟩
    rw [hmissing]
    cases forced rq with
    | false => simp [created, reshaped]
    | true => simp [created, reshaped, and_assoc]
  refine Iff.trans ?_ hrows
  simp only [answer, quiet, hstatus _ (if forced rq = true then
    erased (droppedNames .postgreSQL io 0) t else t), true_and]

end Handlers

end Agreement

/-- SQLite and PostgreSQL push the same answers and leave the same devices and sessions, in exactly
these cases, when hashes are compared for equality and the strings stay inside of their literals. -/
theorem backends_agree (b b' : Backend) (hb : b.type = .sqlite3) (hb' : b'.type = .postgreSQL)
    (states states' : String → Option Control.DeviceState) (io : DbIo) (t : Tables)
    (rq : IDatabase.Request) (haction : rq.action ∈ [.addDevice, .removeDevice, .addSession,
      .remSession, .endSession, .cleanSessions, .initDatabase])
    (hlink : io.link = .isOpen) (hplain : ∀ v ∈ requestStrings rq, Plain v)
    (hequal : ∀ hash ∈ requestHashes rq, ∀ value,
      hashMatches .postgreSQL hash value = hashEquals hash value) :
    SameOutcome (requestHandler b states io t rq) (requestHandler b' states' io t rq) ↔
      AgreesWhen io t rq := by
  unfold requestStrings at hplain
  unfold requestHashes at hequal
  unfold requestHandler AgreesWhen
  cases ha : rq.action with
  | initDatabase =>
    simp only
    exact initDatabase_agrees hb hb' hlink
  | cleanSessions => simpa using cleanSessions_agrees
  | endSession =>
    simp only [ha] at hplain hequal
    cases hargs : rq.args.lookup .sessionHash with
    | none => simp [doEndSession, hargs, SameOutcome]
    | some hash =>
      simp only [hargs, Option.getD_some, List.mem_singleton, forall_eq] at hplain hequal
      simpa using endSession_agrees hb hb' hargs hplain hequal
  | addDevice =>
    cases hclient : rq.client with
    | none => simp [doAddDevice, hclient, SameOutcome]
    | some client =>
      cases hbulk : rq.bulkData with
      | deviceData deviceData =>
        simp only [ha, hbulk, List.mem_cons, List.not_mem_nil, or_false, forall_eq_or_imp,
          forall_eq] at hplain hequal
        obtain ⟨hhash, hname, haddress⟩ := hplain
        exact addDevice_agrees hb hb' hclient hbulk hhash hname haddress hequal
      | _ => simp [doAddDevice, hclient, hbulk, BulkData.castDeviceData, SameOutcome]
  | removeDevice =>
    cases hclient : rq.client with
    | none => simp [doRemoveDevice, hclient, SameOutcome]
    | some client =>
      cases hbulk : rq.bulkData with
      | deviceData deviceData =>
        simp only [ha, hbulk, List.mem_singleton, forall_eq] at hplain hequal
        exact removeDevice_agrees hb hb' hclient hbulk hplain hequal
      | _ => simp [doRemoveDevice, hclient, hbulk, BulkData.castDeviceData, SameOutcome]
  | remSession =>
    cases hclient : rq.client with
    | none => simp [doRemSession, hclient, SameOutcome]
    | some client =>
      cases hbulk : rq.bulkData with
      | sessionData sessionData =>
        simp only [ha, hbulk, List.mem_singleton, forall_eq] at hplain hequal
        exact remSession_agrees hb hb' hclient hbulk hplain hequal
      | _ => simp [doRemSession, hclient, hbulk, BulkData.castSessionData, SameOutcome]
  | addSession =>
    cases hbulk : rq.bulkData with
    | sessionInfo info =>
      cases hargs : rq.args.lookup .deviceHash with
      | none => simp [doAddSession, hbulk, hargs, BulkData.castSessionInfo, SameOutcome]
      | some deviceHash =>
        simp only [ha, hbulk, hargs, Option.getD_some, List.mem_cons, List.not_mem_nil, or_false,
          forall_eq_or_imp, forall_eq] at hplain hequal
        obtain ⟨hhash, hname, hdevice⟩ := hplain
        simpa using addSession_agrees hb hb' hbulk hargs hhash hname hdevice hequal.1 hequal.2
    | _ => simp [doAddSession, hbulk, BulkData.castSessionInfo, SameOutcome]
  | _ => simp [ha] at haction

/-- A request of a client about the device with the hash. -/
def deviceRequest (action : IDatabase.Action) (forced : Bool) (hash : String) : IDatabase.Request where
  client := some 0
  action := action
  args := Order.clientArgs "1" forced
  bulkData := .deviceData { (default : Control.DeviceData) with hash := hash }

/-- A device is added whose hash is new. -/
theorem backends_agree_added :
    SameOutcome
      (requestHandler (plainBackend .sqlite3) (fun _ => none) (failing []) (tablesWith ["d"])
        (deviceRequest .addDevice false "e"))
      (requestHandler (plainBackend .postgreSQL) (fun _ => none) (failing []) (tablesWith ["d"])
        (deviceRequest .addDevice false "e")) := by
  apply (backends_agree (plainBackend .sqlite3) (plainBackend .postgreSQL) rfl rfl (fun _ => none)
    (fun _ => none) (failing []) (tablesWith ["d"]) (deviceRequest .addDevice false "e") (by decide) rfl
    (by decide) ?_).mpr
  · intro _
    refine ⟨fun _ => by decide, fun _ _ => rfl⟩
  · intro hash hhash
    rw [List.mem_singleton.mp hhash]
    exact hashMatches_literal (by decide)

/-- SQLite replaces a device that could not be deleted, and keeps the sessions of one that was. -/
theorem backends_disagree :
    ¬ SameOutcome
      (requestHandler (plainBackend .sqlite3) (fun _ => none) (failing [(1, 0)]) (tablesWith ["d"])
        (deviceRequest .addDevice true "d"))
      (requestHandler (plainBackend .postgreSQL) (fun _ => none) (failing [(1, 0)]) (tablesWith ["d"])
        (deviceRequest .addDevice true "d")) ∧
    ¬ SameOutcome
      (requestHandler (plainBackend .sqlite3) (fun _ => none) (failing []) (recordedWith ["d"])
        (deviceRequest .removeDevice false "d"))
      (requestHandler (plainBackend .postgreSQL) (fun _ => none) (failing []) (recordedWith ["d"])
        (deviceRequest .removeDevice false "d")) := by
  decide

end TkmCollector.Proofs
