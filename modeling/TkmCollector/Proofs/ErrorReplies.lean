import TkmCollector.Proofs.CollectorFrame
import TkmCollector.Proofs.Orders

namespace TkmCollector.Proofs

open Database

/-- The same tables are there, and they hold the same rows. -/
structure SameTables (t t' : Tables) : Prop where
  devices : t'.devices = t.devices
  sessions : t'.sessions = t.sessions
  data : t'.data = t.data
  missing : ∀ name, name ∈ t'.missing ↔ name ∈ t.missing

lemma SameTables.refl (t : Tables) : SameTables t t := ⟨rfl, rfl, rfl, fun _ => Iff.rfl⟩

instance (t t' : Tables) : Decidable (SameTables t t') :=
  decidable_of_iff (t'.devices = t.devices ∧ t'.sessions = t.sessions ∧ t'.data = t.data ∧
      (∀ name ∈ t'.missing, name ∈ t.missing) ∧ ∀ name ∈ t.missing, name ∈ t'.missing)
    ⟨fun ⟨h₁, h₂, h₃, h₄, h₅⟩ => ⟨h₁, h₂, h₃, fun name => ⟨h₄ name, h₅ name⟩⟩,
      fun h => ⟨h.devices, h.sessions, h.data, fun name => (h.missing name).mp,
        fun name => (h.missing name).mpr⟩⟩

/-- An order that is answered with `Error` has changed no table. -/
def ErrorMeansUnchanged (b : Backend) (t : Tables) (s : Service) : Prop :=
  ∀ states o, requestHandler b states s.io t s.order.request = .ok o →
    answered o = some (valFor .statusError) → SameTables t o.tables

/-- The table with the name holds no rows. -/
def Rowless (t : Tables) (name : String) : Prop :=
  if name = Query.devicesTableName then t.devices = []
  else if name = Query.sessionsTableName then t.sessions = []
  else ∀ row ∈ t.data, row.table ≠ name

/-- The tables that are created before a `CREATE` fails were there, and those that were dropped for
it held no rows, and were not there or are created again. -/
def NothingRebuilt (type : DbType) (t : Tables) (io : DbIo) (forced : Bool) : Prop :=
  (∀ name ∈ createdNames type io 1, name ∉ t.missing) ∧
  (forced = true → ∀ name ∈ droppedNames type io 0,
    Rowless t name ∧ (name ∈ t.missing ∨ name ∈ createdNames type io 1))

/-- Nothing that is deleted or dropped on the way to an error was there. -/
def NothingUndone (type : DbType) (t : Tables) (io : DbIo) : Order → Prop
  | .initDatabase _ forced => LinkUp type io → CreateFails type io 1 → NothingRebuilt type t io forced
  | .addDevice client id forced deviceData =>
    RunsPlain type t io (.addDevice client id forced deviceData) ∧
      (forced = true → (0, 0) ∉ io.fails → (1, 0) ∉ io.fails → (2, 0) ∈ io.fails →
        t.devicesWith (hashMatches type) deviceData.hash = [])
  | .removeDevice _ _ _ deviceData => Plain deviceData.hash ∧
      ((0, 0) ∉ io.fails → (1, 0) ∉ io.fails → ¬ Misread type (checkedDevice type deviceData.hash t))
  | .remSession _ _ _ sessionData => Plain sessionData.hash ∧
      ((0, 0) ∉ io.fails → (1, 0) ∉ io.fails → ¬ Misread type (checkedSession type sessionData.hash t))
  | .getSessions _ _ _ deviceData => Plain deviceData.hash
  | _ => True

section Unmatched

variable {type : DbType} {t : Tables} {hash : String}

lemma unmatched_of_dropped (h : (dropped type hash t).devices = t.devices) :
    t.devicesWith (hashMatches type) hash = [] := by
  rw [dropped_devices] at h
  apply List.filter_eq_nil_iff.mpr
  intro row hrow
  simpa using List.filter_eq_self.mp h row hrow

lemma unmatched_of_removed (h : (removed type hash t).sessions = t.sessions) :
    t.sessionsWith (hashMatches type) hash = [] := by
  apply List.filter_eq_nil_iff.mpr
  intro row hrow
  simpa using List.filter_eq_self.mp h row hrow

end Unmatched

lemma rowless_iff {names : List String} {t : Tables} :
    (erased names t).devices = t.devices ∧ (erased names t).sessions = t.sessions ∧
        (erased names t).data = t.data ↔ ∀ name ∈ names, Rowless t name := by
  rw [erased_devices, erased_sessions, erased_data]
  constructor
  · rintro ⟨hdevices, hsessions, hdata⟩ name hname
    unfold Rowless
    split
    · rename_i heq
      rw [if_pos (heq ▸ hname)] at hdevices
      exact hdevices.symm
    · rename_i hdev
      split
      · rename_i heq
        rw [if_pos (heq ▸ hname)] at hsessions
        exact hsessions.symm
      · rename_i hses
        intro row hrow heq
        have hkept := of_decide_eq_true (List.filter_eq_self.mp hdata row hrow)
        obtain hnot | hdev' | hses' := hkept
        · exact hnot (heq ▸ hname)
        · exact hdev (heq.symm.trans hdev')
        · exact hses (heq.symm.trans hses')
  · intro h
    refine ⟨?_, ?_, ?_⟩
    · split
      · rename_i hmem
        have hrows := h _ hmem
        rw [Rowless, if_pos rfl] at hrows
        exact hrows.symm
      · rfl
    · split
      · rename_i hmem
        have hrows := h _ hmem
        rw [Rowless, if_neg devicesTableName_ne.symm, if_pos rfl] at hrows
        exact hrows.symm
      · rfl
    · apply List.filter_eq_self.mpr
      intro row hrow
      rw [decide_eq_true_eq]
      by_cases hmem : row.table ∈ names
      · have hrows := h _ hmem
        unfold Rowless at hrows
        split at hrows
        · rename_i heq
          exact .inr (.inl heq)
        · split at hrows
          · rename_i heq
            exact .inr (.inr heq)
          · exact absurd rfl (hrows row hrow)
      · exact .inl hmem

lemma sameTables_created {names : List String} {t : Tables} :
    SameTables t (created names t) ↔ ∀ name ∈ names, name ∉ t.missing := by
  constructor
  · intro h name hname hmissing
    exact (mem_created_missing.mp ((h.missing name).mpr hmissing)).2 hname
  · intro h
    refine ⟨rfl, rfl, rfl, fun name => ?_⟩
    rw [mem_created_missing]
    exact ⟨fun hmem => hmem.1, fun hmem => ⟨hmem, fun hname => h name hname hmem⟩⟩

/-- Dropping and creating tables changes none when those that are dropped hold no rows, and the same
ones are there again. -/
lemma sameTables_rebuilt {names names' : List String} {t : Tables} :
    SameTables t (created names' (erased names t)) ↔
      (∀ name ∈ names', name ∉ t.missing) ∧
        ∀ name ∈ names, Rowless t name ∧ (name ∈ t.missing ∨ name ∈ names') := by
  have hthere : ∀ name, name ∈ (created names' (erased names t)).missing ↔
      (name ∈ names ∨ name ∈ t.missing) ∧ name ∉ names' := by
    intro name
    rw [mem_created_missing, mem_erased_missing]
  constructor
  · intro h
    refine ⟨fun name hname hmissing => ?_, fun name hname => ?_⟩
    · exact ((hthere name).mp ((h.missing name).mpr hmissing)).2 hname
    · refine ⟨rowless_iff.mp ⟨h.devices, h.sessions, h.data⟩ name hname, ?_⟩
      by_cases hcreated : name ∈ names'
      · exact .inr hcreated
      · exact .inl ((h.missing name).mp ((hthere name).mpr ⟨.inl hname, hcreated⟩))
  · rintro ⟨hcreated, hdropped⟩
    obtain ⟨hdevices, hsessions, hdata⟩ := rowless_iff.mpr fun name hname => (hdropped name hname).1
    refine ⟨hdevices, hsessions, hdata, fun name => ?_⟩
    rw [hthere]
    constructor
    · rintro ⟨hname | hmissing, hnot⟩
      · exact (hdropped name hname).2.resolve_right hnot
      · exact hmissing
    · exact fun hmissing => ⟨.inr hmissing, fun hname => hcreated name hname hmissing⟩

lemma nothingRebuilt_iff {type : DbType} {t : Tables} {io : DbIo} {forced : Bool} :
    NothingRebuilt type t io forced ↔ SameTables t (created (createdNames type io 1)
      (if forced then erased (droppedNames type io 0) t else t)) := by
  unfold NothingRebuilt
  cases forced with
  | true => simp only [if_true, forall_const, sameTables_rebuilt]
  | false => simp [sameTables_created]

/-- A server that takes a text with a broken literal for an `INSERT`, and fails after it. -/
def spoiled (t : Tables) : Tables := { t with devices := ⟨0, "", "", "", 0⟩ :: t.devices }

def spoiling (type : DbType) (t : Tables) : Backend := ⟨type, fun _ _ => (spoiled t, none)⟩

lemma not_sameTables_spoiled (t : Tables) : ¬ SameTables t (spoiled t) := by
  intro h
  have hlength : (spoiled t).devices.length = t.devices.length := by rw [h.devices]
  simp [spoiled] at hlength

@[simp] lemma spoiling_type (type : DbType) (t : Tables) : (spoiling type t).type = type := rfl

section Spoiling

variable {type : DbType} {t : Tables} {io : DbIo}

lemma runQuery_spoiling {call : Query.Call} {s : String} (hs : s ∈ call.strings) (hbad : ¬ Plain s)
    (n : Nat) (t' : Tables) :
    runQuery (spoiling type t) io n t' call = (spoiled t, none) := by
  unfold runQuery
  rw [if_neg (fun h => hbad (h s hs))]
  rfl

lemma false_of_spoiled {order : Order} {o : DbOutcome}
    (h : ErrorMeansUnchanged (spoiling type t) t ⟨order, io⟩)
    (ho : requestHandler (spoiling type t) (fun _ => none) io t order.request = .ok o)
    (htables : o.tables = spoiled t) (hstatus : answered o = some (valFor .statusError)) : False := by
  have hsame := h _ _ ho hstatus
  rw [htables] at hsame
  exact not_sameTables_spoiled t hsame

lemma plain_of_addDevice {client : ClientId} {id : String} {forced : Bool}
    {deviceData : Control.DeviceData}
    (h : ErrorMeansUnchanged (spoiling type t) t ⟨.addDevice client id forced deviceData, io⟩) :
    Plain deviceData.hash := by
  by_contra hbad
  have hmem : deviceData.hash ∈ (Query.Call.hasDevice deviceData.hash).strings := by
    simp [Query.Call.strings, Query.Call.statements, Statement.strings]
  apply false_of_spoiled h
  · simp only [requestHandler, Order.request, doAddDevice, BulkData.castDeviceData,
      runQuery_spoiling hmem hbad, if_true]
    rfl
  · rfl
  · simp

lemma plain_of_removeDevice {client : ClientId} {id : String} {forced : Bool}
    {deviceData : Control.DeviceData}
    (h : ErrorMeansUnchanged (spoiling type t) t ⟨.removeDevice client id forced deviceData, io⟩) :
    Plain deviceData.hash := by
  by_contra hbad
  have hmem : deviceData.hash ∈ (Query.Call.hasDevice deviceData.hash).strings := by
    simp [Query.Call.strings, Query.Call.statements, Statement.strings]
  apply false_of_spoiled h
  · simp only [requestHandler, Order.request, doRemoveDevice, BulkData.castDeviceData,
      runQuery_spoiling hmem hbad, if_true]
    rfl
  · rfl
  · simp

lemma plain_of_remSession {client : ClientId} {id : String} {forced : Bool}
    {sessionData : Control.SessionData}
    (h : ErrorMeansUnchanged (spoiling type t) t ⟨.remSession client id forced sessionData, io⟩) :
    Plain sessionData.hash := by
  by_contra hbad
  have hmem : sessionData.hash ∈ (Query.Call.hasSession sessionData.hash).strings := by
    simp [Query.Call.strings, Query.Call.statements, Statement.strings]
  apply false_of_spoiled h
  · simp only [requestHandler, Order.request, doRemSession, BulkData.castSessionData,
      runQuery_spoiling hmem hbad, if_true]
    rfl
  · rfl
  · simp

lemma plain_of_getSessions {client : ClientId} {id : String} {forced : Bool}
    {deviceData : Control.DeviceData}
    (h : ErrorMeansUnchanged (spoiling type t) t ⟨.getSessions client id forced deviceData, io⟩) :
    Plain deviceData.hash := by
  by_contra hbad
  have hne : deviceData.hash.isEmpty = false := by
    apply Bool.eq_false_iff.mpr
    intro hempty
    apply hbad
    rw [String.isEmpty_iff.mp hempty]
    decide
  have hmem : deviceData.hash ∈ (Query.Call.getSessionsOf deviceData.hash).strings := by
    simp [Query.Call.strings, Query.Call.statements, Statement.strings]
  apply false_of_spoiled h
  · simp only [requestHandler, Order.request, doGetSessions, BulkData.castDeviceData, hne,
      Bool.false_eq_true, if_false, runQuery_spoiling hmem hbad]
    rfl
  · rfl
  · simp [sendList]

lemma plain_of_insertsDevice {client : ClientId} {id : String} {forced : Bool}
    {deviceData : Control.DeviceData} (hhash : Plain deviceData.hash)
    (h : ErrorMeansUnchanged (spoiling type t) t ⟨.addDevice client id forced deviceData, io⟩)
    (hi : InsertsDevice type t io forced deviceData.hash) :
    Plain deviceData.name ∧ Plain deviceData.address := by
  by_contra hbad
  have hinsert : ∀ t', runQuery (spoiling type t) io 2 t' (.addDevice deviceData.hash deviceData.name
      deviceData.address deviceData.port) = (spoiled t, none) := by
    intro t'
    obtain hname | haddress := not_and_or.mp hbad
    · exact runQuery_spoiling (by simp [Query.Call.strings, Query.Call.statements, Statement.strings])
        hname 2 t'
    · exact runQuery_spoiling (by simp [Query.Call.strings, Query.Call.statements, Statement.strings])
        haddress 2 t'
  have ho : ∃ o, requestHandler (spoiling type t) (fun _ => none) io t
        (Order.addDevice client id forced deviceData).request = .ok o ∧
      o.tables = spoiled t ∧ answered o = some (valFor .statusError) := by
    change ∃ o, doAddDevice (spoiling type t) io t
      (Order.addDevice client id forced deviceData).request = .ok o ∧ _
    unfold doAddDevice
    rw [Order.forced_addDevice]
    simp only [Order.request, BulkData.castDeviceData, run_hasDevice hhash, run_remDevice hhash,
      if_neg hi.checked, reduceCtorEq, if_false, Order.count_forced_clientArgs, hinsert,
      spoiling_type]
    cases forced with
    | false =>
      have hnot := found_hasDevice.mpr (hi.unmatched rfl)
      simp [hnot, answer, quiet, answered, sendStatus, statusFor]
    | true =>
      have hgoes : ¬ (type = .postgreSQL ∧ (1, 0) ∈ io.fails) := by
        rintro ⟨htype, hfails⟩
        exact hi.removed rfl htype hfails
      by_cases hremove : (1, 0) ∈ io.fails
      · have htype : type ≠ .postgreSQL := fun htype => hgoes ⟨htype, hremove⟩
        simp [hremove, htype, answer, quiet, answered, sendStatus, statusFor]
      · simp [hremove, answer, quiet, answered, sendStatus, statusFor]
  obtain ⟨o, ho, htables, hstatus⟩ := ho
  exact false_of_spoiled h ho htables hstatus

end Spoiling

lemma unmatched_of_unchanged {b : Backend} {t : Tables} {io : DbIo} {client : ClientId} {id : String}
    {deviceData : Control.DeviceData} (hhash : Plain deviceData.hash) (hname : Plain deviceData.name)
    (haddress : Plain deviceData.address)
    (h : ErrorMeansUnchanged b t ⟨.addDevice client id true deviceData, io⟩)
    (hcheck : (0, 0) ∉ io.fails) (hremove : (1, 0) ∉ io.fails) (hinsert : (2, 0) ∈ io.fails) :
    t.devicesWith (hashMatches b.type) deviceData.hash = [] := by
  have ho : ∃ o, requestHandler b (fun _ => none) io t
        (Order.addDevice client id true deviceData).request = .ok o ∧
      o.tables = dropped b.type deviceData.hash t ∧ answered o = some (valFor .statusError) := by
    change ∃ o, doAddDevice b io t (Order.addDevice client id true deviceData).request = .ok o ∧ _
    unfold doAddDevice
    rw [Order.forced_addDevice]
    simp [Order.request, BulkData.castDeviceData, run_hasDevice hhash, run_remDevice hhash,
      run_addDevice hhash hname haddress, hcheck, hremove, hinsert, answer, quiet, answered,
      sendStatus, statusFor]
  obtain ⟨o, ho, htables, hstatus⟩ := ho
  have hsame := h _ _ ho hstatus
  rw [htables] at hsame
  exact unmatched_of_dropped hsame.devices

lemma read_of_removeDevice {b : Backend} {t : Tables} {io : DbIo} {client : ClientId} {id : String}
    {forced : Bool} {deviceData : Control.DeviceData} (hhash : Plain deviceData.hash)
    (h : ErrorMeansUnchanged b t ⟨.removeDevice client id forced deviceData, io⟩)
    (hcheck : (0, 0) ∉ io.fails) (hremove : (1, 0) ∉ io.fails) :
    ¬ Misread b.type (checkedDevice b.type deviceData.hash t) := by
  intro hread
  have ho : ∃ o, requestHandler b (fun _ => none) io t
        (Order.removeDevice client id forced deviceData).request = .ok o ∧
      o.tables = dropped b.type deviceData.hash t ∧ answered o = some (valFor .statusError) := by
    change ∃ o, doRemoveDevice b io t (Order.removeDevice client id forced deviceData).request = .ok o ∧ _
    unfold doRemoveDevice
    have hnot := found_hasDevice.mpr (.inr hread)
    simp [Order.request, BulkData.castDeviceData, run_hasDevice hhash, run_remDevice hhash, hcheck,
      hremove, hnot, answer, quiet, answered, sendStatus]
  obtain ⟨o, ho, htables, hstatus⟩ := ho
  have hsame := h _ _ ho hstatus
  rw [htables] at hsame
  exact hread.matched_device (unmatched_of_dropped hsame.devices)

lemma read_of_remSession {b : Backend} {t : Tables} {io : DbIo} {client : ClientId} {id : String}
    {forced : Bool} {sessionData : Control.SessionData} (hhash : Plain sessionData.hash)
    (h : ErrorMeansUnchanged b t ⟨.remSession client id forced sessionData, io⟩)
    (hcheck : (0, 0) ∉ io.fails) (hremove : (1, 0) ∉ io.fails) :
    ¬ Misread b.type (checkedSession b.type sessionData.hash t) := by
  intro hread
  have ho : ∃ o, requestHandler b (fun _ => none) io t
        (Order.remSession client id forced sessionData).request = .ok o ∧
      o.tables = removed b.type sessionData.hash t ∧ answered o = some (valFor .statusError) := by
    change ∃ o, doRemSession b io t (Order.remSession client id forced sessionData).request = .ok o ∧ _
    unfold doRemSession
    have hnot := found_hasSession.mpr (.inr hread)
    have htype : b.type ≠ .postgreSQL := by
      rw [hread.1]
      simp
    simp [Order.request, BulkData.castSessionData, run_hasSession hhash, run_remSession hhash, hcheck,
      hremove, hnot, htype, answer, quiet, answered, sendStatus]
  obtain ⟨o, ho, htables, hstatus⟩ := ho
  have hsame := h _ _ ho hstatus
  rw [htables] at hsame
  exact hread.matched_session (unmatched_of_removed hsame.sessions)

lemma nothingUndone_of_unchanged {type : DbType} {t : Tables} {s : Service}
    (h : ∀ foreign, ErrorMeansUnchanged ⟨type, foreign⟩ t s) : NothingUndone type t s.io s.order := by
  obtain ⟨order, io⟩ := s
  have hspoiling : ErrorMeansUnchanged (spoiling type t) t ⟨order, io⟩ := h _
  cases order with
  | initDatabase client forced =>
    intro hlink hcreate
    have haction : (Order.initDatabase client forced).request.action = .initDatabase := by
      cases client <;> rfl
    have hup : LinkUp (spoiling type t).type io := hlink
    have hfalse : ∀ t', (runCreateTables (spoiling type t) io 1 t').2 = false :=
      fun t' => (runCreateTables_eq_false t').mpr hcreate
    have ho : requestHandler (spoiling type t) (fun _ => none) io t
        (Order.initDatabase client forced).request = doInitDatabase (spoiling type t) io t
          (Order.initDatabase client forced).request := by
      unfold requestHandler
      rw [haction]
    rw [doInitDatabase_up hup, Order.forced_initDatabase] at ho
    simp only [hfalse] at ho
    exact nothingRebuilt_iff.mpr (hspoiling _ _ ho (by simp [statusFor]))
  | addDevice client id forced deviceData =>
    have hhash := plain_of_addDevice hspoiling
    refine ⟨⟨hhash, plain_of_insertsDevice hhash hspoiling⟩, ?_⟩
    rintro rfl hcheck hremove hinsert
    obtain ⟨hname, haddress⟩ := plain_of_insertsDevice hhash hspoiling
      ⟨hcheck, by simp, fun _ _ => hremove⟩
    exact unmatched_of_unchanged hhash hname haddress hspoiling hcheck hremove hinsert
  | removeDevice client id forced deviceData =>
    have hhash := plain_of_removeDevice hspoiling
    exact ⟨hhash, read_of_removeDevice hhash hspoiling⟩
  | getSessions client id forced deviceData => exact plain_of_getSessions hspoiling
  | remSession client id forced sessionData =>
    have hhash := plain_of_remSession hspoiling
    exact ⟨hhash, read_of_remSession hhash hspoiling⟩
  | _ => trivial

lemma answered_unasked {b : Backend} {states : String → Option Control.DeviceState} {io : DbIo}
    {t : Tables} {o : DbOutcome} {rq : IDatabase.Request}
    (hrq : rq.action = .addSession ∨ rq.action = .endSession ∨ rq.action = .addData)
    (ho : requestHandler b states io t rq = .ok o) : answered o = none := by
  have hquiet : ∃ t', o = quiet t' := by
    unfold requestHandler at ho
    obtain haction | haction | haction := hrq
    · simp only [haction, doAddSession] at ho
      split at ho
      · cases ho
      · cases ho
      · exact ⟨_, (Except.ok.inj ho).symm⟩
    · simp only [haction, doEndSession] at ho
      split at ho
      · cases ho
      · exact ⟨_, (Except.ok.inj ho).symm⟩
    · simp only [haction, doAddData] at ho
      split at ho
      · cases ho
      · cases ho
      · split at ho
        · exact ⟨_, (Except.ok.inj ho).symm⟩
        · exact ⟨_, (Except.ok.inj ho).symm⟩
  obtain ⟨t', rfl⟩ := hquiet
  rfl

lemma runsPlain_of_nothingUndone {b : Backend} {t : Tables} {s : Service}
    {states : String → Option Control.DeviceState} {o : DbOutcome}
    (h : NothingUndone b.type t s.io s.order)
    (ho : requestHandler b states s.io t s.order.request = .ok o)
    (herr : answered o = some (valFor .statusError)) : RunsPlain b.type t s.io s.order := by
  have hasked : ∀ rq : IDatabase.Request, s.order.request = rq →
      rq.action = .addSession ∨ rq.action = .endSession ∨ rq.action = .addData → False := by
    intro rq hrq haction
    rw [hrq] at ho
    rw [answered_unasked haction ho] at herr
    cases herr
  obtain ⟨order, io⟩ := s
  cases order with
  | addDevice client id forced deviceData => exact h.1
  | removeDevice client id forced deviceData =>
    intro v hv
    rw [List.mem_singleton.mp hv]
    exact h.1
  | getSessions client id forced deviceData =>
    intro v hv
    rw [List.mem_singleton.mp hv]
    exact h
  | remSession client id forced sessionData =>
    intro v hv
    rw [List.mem_singleton.mp hv]
    exact h.1
  | addSession deviceHash info => exact (hasked _ rfl (.inl rfl)).elim
  | endSession hash => exact (hasked _ rfl (.inr (.inl rfl))).elim
  | addData sessionHash data => exact (hasked _ rfl (.inr (.inr rfl))).elim
  | _ =>
    intro v hv
    simp [Order.strings] at hv

lemma unchanged_of_nothingUndone {b : Backend} {t : Tables} {s : Service}
    (h : NothingUndone b.type t s.io s.order) : ErrorMeansUnchanged b t s := by
  intro states o ho herr
  have heffect := requestHandler_effect (runsPlain_of_nothingUndone h ho herr) ho
  obtain ⟨order, io⟩ := s
  generalize answered o = status at heffect herr
  generalize o.tables = t' at heffect
  cases heffect with
  | same => exact .refl t
  | created client _ hlink hcreate => exact nothingRebuilt_iff.mp (h hlink (hcreate herr))
  | erased client _ hlink hcreate => exact nothingRebuilt_iff.mp (h hlink (hcreate herr))
  | left client id deviceData hcheck hremove hinsert =>
    rw [dropped_of_unmatched (h.2 rfl hcheck hremove hinsert)]
    exact .refl t
  | dropped client id forced deviceData _ hcheck hremove hstatus =>
    rw [dropped_of_unmatched ((hstatus herr).resolve_right (h.2 hcheck hremove))]
    exact .refl t
  | removed client id forced sessionData _ hcheck hremove hstatus =>
    rw [removed_of_unmatched ((hstatus herr).resolve_right (h.2 hcheck hremove))]
    exact .refl t
  | added | replaced => simp [valFor] at herr
  | cleared | opened | doubled | ended | stored => cases herr

/-- An `Error` reply means that no table has changed, whatever the server makes of a text with a
broken literal, exactly when nothing was there that is deleted or dropped on the way. -/
theorem error_means_unchanged (type : DbType) (t : Tables) (s : Service) :
    (∀ foreign, ErrorMeansUnchanged ⟨type, foreign⟩ t s) ↔ NothingUndone type t s.io s.order :=
  ⟨nothingUndone_of_unchanged, fun h _ => unchanged_of_nothingUndone h⟩

/-- A device is replaced by one that is refused. -/
def failedReplacement : Service :=
  ⟨.addDevice 0 "1" true { (default : Control.DeviceData) with hash := "d" }, failing [(2, 0)]⟩

/-- The tables are dropped and cannot be created again. -/
def failedCreation : Service := ⟨.initDatabase (some (0, "1")) true, failing [(1, 0)]⟩

/-- A device is removed whose id SQLite reads as -1. -/
def misreadRemoval : Service :=
  ⟨.removeDevice 0 "1" false { (default : Control.DeviceData) with hash := "d" }, failing []⟩

/-- The old device is gone though the new one is refused, all devices though the tables cannot be
created again, and a device though it is not found. -/
theorem error_changes_devices :
    (¬ ErrorMeansUnchanged (plainBackend .sqlite3) (tablesWith ["d"]) failedReplacement ∧
      ¬ ErrorMeansUnchanged (plainBackend .sqlite3) (tablesWith ["d"]) failedCreation ∧
      ¬ ErrorMeansUnchanged (plainBackend .sqlite3)
        { tablesWith [] with devices := [⟨4294967295, "d", "", "", 0⟩] } misreadRemoval) ∧
    ¬ ErrorMeansUnchanged (plainBackend .postgreSQL) (tablesWith ["d"]) failedReplacement ∧
      ¬ ErrorMeansUnchanged (plainBackend .postgreSQL) (tablesWith ["d"]) failedCreation := by
  refine ⟨⟨fun h => ?_, fun h => ?_, fun h => ?_⟩, fun h => ?_, fun h => ?_⟩
  · exact absurd (h (fun _ => none) _ rfl rfl) (by decide)
  · exact absurd (h (fun _ => none) _ rfl rfl) (by decide)
  · exact absurd (h (fun _ => none) _ rfl rfl) (by decide)
  · exact absurd (h (fun _ => none) _ rfl rfl) (by decide)
  · exact absurd (h (fun _ => none) _ rfl rfl) (by decide)

end TkmCollector.Proofs
