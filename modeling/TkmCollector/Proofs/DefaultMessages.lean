import TkmCollector.Proofs.DataBatches
import TkmCollector.Proofs.QueuedOrders
import TkmCollector.Proofs.WithoutRequest

/-!
# Default messages

No handler looks at the result of `UnpackTo`: a payload of another type is handled as the default
message. The request that carries it is handed on from queue to queue like every other. The file
says where the handlers that it comes to do nothing for it.
-/

namespace TkmCollector.Proofs

open Application Database Unwinding

/-! ### Payloads -/

/-- The payload of a measurement is the message that its `what` names, if it names one. -/
def DataFits (data : Monitor.Data) : Prop :=
  match data.what, data.payload with
  | .procEvent, .procEvent _ | .procAcct, .procAcct _ | .procInfo, .procInfo _
  | .contextInfo, .contextInfo _ | .sysProcStat, .sysProcStat _
  | .sysProcBuddyInfo, .sysProcBuddyInfo _ | .sysProcWireless, .sysProcWireless _
  | .sysProcMemInfo, .sysProcMemInfo _ | .sysProcPressure, .sysProcPressure _
  | .sysProcDiskStats, .sysProcDiskStats _ | .sysProcVMStat, .sysProcVMStat _
  | .other _, _ => True
  | _, _ => False

/-- The payload of a monitor's message is one that its type announces. -/
def MessageFits (m : Monitor.Message) : Prop :=
  match m.type, m.payload with
  | .setSession, .sessionInfo _ | .status, .status _ | .unknown, _ => True
  | .data, .data data => DataFits data
  | _, _ => False

/-- The payload of a client's request is one that its type announces, if it announces one. -/
def RequestFits (rq : Control.Request) : Prop :=
  match rq.type, rq.payload with
  | .requestSession, .sessionInfo _ | .removeSession, .sessionData _ => True
  | .getSessions, .deviceData _ | .addDevice, .deviceData _ | .removeDevice, .deviceData _
  | .connectDevice, .deviceData _ | .disconnectDevice, .deviceData _
  | .startCollecting, .deviceData _ | .stopCollecting, .deviceData _ => True
  | .initDatabase, _ | .quitCollector, _ | .getDevices, _ | .unknown, _ => True
  | _, _ => False

/-- The message is stored as one with the default message in it. -/
def BlankData (data : Monitor.Data) : Prop :=
  measurement data = measurement { data with payload := .other }

/-- What a payload that does not fit leaves in the queue of a device. -/
def BlankDevice (rq : IDevice.Request) : Prop :=
  match rq.action with
  | .setSession =>
    ∃ name, rq.bulkData = .sessionInfo { (default : Monitor.SessionInfo) with name := name }
  | .processData => ∃ data, rq.bulkData = .data data ∧ BlankData data
  | .status => rq.bulkData = .status default
  | .connect | .disconnect | .startCollecting | .stopCollecting => rq.bulkData = .deviceData default
  | .sendDescriptor | .requestSession | .startStream | .stopStream => False

/-- What it leaves in the dispatcher queue, with the answers to it. -/
def BlankDispatcher (rq : Dispatcher.Request) : Prop :=
  match rq.action with
  | .removeSession => rq.bulkData = .sessionData default
  | .getSessions | .addDevice | .removeDevice | .connectDevice | .disconnectDevice
  | .startCollecting | .stopCollecting => rq.bulkData = .deviceData default
  | .sendStatus => True
  | .initDatabase | .quitCollector | .getDevices | .quit => False

/-- What it leaves in the database queue. -/
def BlankDatabase (rq : IDatabase.Request) : Prop :=
  match rq.action with
  | .remSession => rq.bulkData = .sessionData default
  | .addDevice | .removeDevice | .getSessions => rq.bulkData = .deviceData default
  | .addData => ∃ hash data, rq = addDataRequest hash (.data data) ∧ BlankData data
  | .checkDatabase | .initDatabase | .connect | .disconnect | .getDevices | .loadDevices
  | .addSession | .endSession | .cleanSessions => False

def Blank : AnyRequest → Prop
  | .device rq => BlankDevice rq
  | .dispatcher rq => BlankDispatcher rq
  | .database rq => BlankDatabase rq

lemma blankData_of_not_fits {data : Monitor.Data} (h : ¬ DataFits data) : BlankData data := by
  obtain ⟨what, payload, system, monotonic, receive, origin⟩ := data
  unfold BlankData
  cases what <;> cases payload <;> first | rfl | exact absurd trivial h

lemma plain_blank {data : Monitor.Data} (h : BlankData data) : ∀ s ∈ dataStrings data, Plain s := by
  obtain ⟨what, payload, system, monotonic, receive, origin⟩ := data
  have hstrings : dataStrings ⟨what, payload, system, monotonic, receive, origin⟩ =
      dataStrings ⟨what, .other, system, monotonic, receive, origin⟩ := by
    unfold dataStrings
    rw [show measurement ⟨what, payload, system, monotonic, receive, origin⟩ = _ from h]
    rfl
  have hempty : ∀ s ∈ dataStrings ⟨what, .other, system, monotonic, receive, origin⟩, s = "" := by
    cases what <;> intro s hs
    all_goals first
      | (cases hs; done)
      | exact List.mem_singleton.mp hs
  intro s hs
  rw [hempty s (hstrings ▸ hs)]
  decide

/-! ### Where no handler acts -/

/-- The handler of a device with a default message has nothing to do. -/
def SparesDevice (d : MonitorDevice) (rq : IDevice.Request) : Prop :=
  match rq.action with
  | .connect => d.connection ≠ none
  | .disconnect => d.state = .disconnected ∨ d.loop.removing = true
  | .startCollecting => d.state ≠ .connected ∧ d.state ≠ .idle ∧ d.state ≠ .sessionSet
  | .stopCollecting => d.state ≠ .collecting
  | .processData | .status => True
  | .sendDescriptor | .requestSession | .setSession | .startStream | .stopStream => False

/-- The device without a hash is not replaced: the handler is turned down, or neither of its
queries does anything. -/
def SparesDevices (type : DbType) (io : DbIo) (t : Tables) (rq : IDatabase.Request) : Prop :=
  (0, 0) ∈ io.fails ∨
    rq.args.count .forced = false ∧ "" ∈ t.devices.map DeviceRow.hash ∧
      ¬ Misread type (checkedDevice type "" t) ∨
    ((2, 0) ∈ io.fails ∨ type = .postgreSQL ∧ forced rq = true ∧ (1, 0) ∈ io.fails) ∧
      (forced rq = false ∨ (1, 0) ∈ io.fails ∨ "" ∉ t.devices.map DeviceRow.hash)

/-- A message has no rows, or no session to store them for. -/
def SparesData (type : DbType) (io : DbIo) (t : Tables) (hash : String) (data : Monitor.Data) : Prop :=
  batch data = [] ∨
    Plain hash ∧ ((0, 0) ∈ io.fails ∨ scalar type (sessionIds type hash t) = none)

/-- The handler of the database with a default message has nothing to do. -/
def SparesTables (type : DbType) (io : DbIo) (t : Tables) (rq : IDatabase.Request) : Prop :=
  match rq.action, rq.bulkData with
  | .getSessions, _ => True
  | .remSession, _ =>
    (0, 0) ∈ io.fails ∨ (1, 0) ∈ io.fails ∨ "" ∉ t.sessions.map SessionRow.hash
  | .removeDevice, _ =>
    (0, 0) ∈ io.fails ∨ (1, 0) ∈ io.fails ∨ "" ∉ t.devices.map DeviceRow.hash
  | .addDevice, _ => SparesDevices type io t rq
  | .addData, .data data => ∀ hash ∈ rq.args.lookup .sessionHash, SparesData type io t hash data
  | _, _ => False

instance (d : MonitorDevice) (rq : IDevice.Request) : Decidable (SparesDevice d rq) := by
  unfold SparesDevice
  rcases rq.action with ⟨⟩ <;> infer_instance

instance (type : DbType) (io : DbIo) (t : Tables) (rq : IDatabase.Request) :
    Decidable (SparesDevices type io t rq) := by
  unfold SparesDevices
  infer_instance

instance (type : DbType) (io : DbIo) (t : Tables) (hash : String) (data : Monitor.Data) :
    Decidable (SparesData type io t hash data) := by
  unfold SparesData
  infer_instance

instance (type : DbType) (io : DbIo) (t : Tables) (rq : IDatabase.Request) :
    Decidable (SparesTables type io t rq) := by
  unfold SparesTables
  rcases rq.action with ⟨⟩ <;> rcases rq.bulkData with ⟨⟩ <;> infer_instance

section Handlers

variable {b : Backend} {io : DbIo} {t : Tables}

lemma hashMatches_empty (type : DbType) (value : String) :
    hashMatches type "" value = true ↔ value = "" := hashMatches_eq (by decide) value

lemma devicesWith_empty (type : DbType) :
    t.devicesWith (hashMatches type) "" = [] ↔ "" ∉ t.devices.map DeviceRow.hash := by
  unfold Tables.devicesWith
  rw [List.filter_eq_nil_iff, List.mem_map]
  simp [hashMatches_empty]

lemma sessionsWith_empty (type : DbType) :
    t.sessionsWith (hashMatches type) "" = [] ↔ "" ∉ t.sessions.map SessionRow.hash := by
  unfold Tables.sessionsWith
  rw [List.filter_eq_nil_iff, List.mem_map]
  simp [hashMatches_empty]

lemma dropped_empty (type : DbType) (h : "" ∉ t.devices.map DeviceRow.hash) :
    dropped type "" t = t := by
  have hnone : ∀ row ∈ t.devices, hashMatches type "" row.hash = false := by
    intro row hrow
    rw [Bool.eq_false_iff, ne_eq, hashMatches_empty]
    exact fun he => h (List.mem_map.mpr ⟨row, hrow, he⟩)
  have hdevices : t.devices.filter (fun row => !hashMatches type "" row.hash) = t.devices :=
    List.filter_eq_self.mpr fun row hrow => by simp [hnone row hrow]
  have howner : ∀ s : SessionRow,
      (t.devices.any fun d => hashMatches type "" d.hash && d.id == s.device) = false := by
    intro s
    rw [List.any_eq_false]
    intro d hd
    simp [hnone d hd]
  unfold dropped Tables.deleteDevices
  rw [hdevices]
  cases type with
  | sqlite3 => rfl
  | postgreSQL =>
    have hdata : (t.sessions.any fun _ => false) = false := List.any_eq_false.mpr (by simp)
    simp [Tables.deleteSessions, howner, hdata]

/-- What is left of the tables and the queues when the request of a client is answered. -/
def OnlyAnswers (t : Tables) (o : DbOutcome) : Prop :=
  o.tables = t ∧ o.database = [] ∧ o.loaded = [] ∧
    ∃ answer, o.dispatcher = [answer] ∧ answer.action = .sendStatus

lemma onlyAnswers_answer (t : Tables) (rq : IDatabase.Request) (args : Args) :
    OnlyAnswers t (answer t rq args) := ⟨rfl, rfl, rfl, _, rfl, rfl⟩

lemma removeDevice_spared {rq : IDatabase.Request} {o : DbOutcome}
    (hbulk : rq.bulkData = .deviceData default)
    (hspared : (0, 0) ∈ io.fails ∨ (1, 0) ∈ io.fails ∨ "" ∉ t.devices.map DeviceRow.hash)
    (ho : doRemoveDevice b io t rq = .ok o) : OnlyAnswers t o := by
  have hplain : Plain (default : Control.DeviceData).hash := by decide
  unfold doRemoveDevice at ho
  cases hclient : rq.client with
  | none => simp [hclient] at ho
  | some client =>
    simp only [hclient, hbulk, BulkData.castDeviceData, run_hasDevice hplain,
      run_remDevice hplain] at ho
    by_cases hfirst : (0, 0) ∈ io.fails
    · simp only [if_pos hfirst, if_true, Except.ok.injEq] at ho
      rw [← ho]
      exact onlyAnswers_answer t rq _
    · simp only [if_neg hfirst, reduceCtorEq, if_false, Except.ok.injEq] at ho
      rw [← ho]
      by_cases hsecond : (1, 0) ∈ io.fails
      · simp only [if_pos hsecond]
        exact onlyAnswers_answer t rq _
      · have hnone := (hspared.resolve_left hfirst).resolve_left hsecond
        have hdropped : dropped b.type (default : Control.DeviceData).hash t = t :=
          dropped_empty b.type hnone
        simp only [if_neg hsecond, hdropped]
        exact onlyAnswers_answer t rq _

lemma remSession_spared {rq : IDatabase.Request} {o : DbOutcome}
    (hbulk : rq.bulkData = .sessionData default)
    (hspared : (0, 0) ∈ io.fails ∨ (1, 0) ∈ io.fails ∨ "" ∉ t.sessions.map SessionRow.hash)
    (ho : doRemSession b io t rq = .ok o) : OnlyAnswers t o := by
  have hplain : Plain (default : Control.SessionData).hash := by decide
  unfold doRemSession at ho
  cases hclient : rq.client with
  | none => simp [hclient] at ho
  | some client =>
    simp only [hclient, hbulk, BulkData.castSessionData, run_hasSession hplain,
      run_remSession hplain] at ho
    by_cases hfirst : (0, 0) ∈ io.fails
    · simp only [if_pos hfirst, if_true, Except.ok.injEq] at ho
      rw [← ho]
      exact onlyAnswers_answer t rq _
    · simp only [if_neg hfirst, reduceCtorEq, if_false] at ho
      split at ho
      · rw [← Except.ok.inj ho]
        exact onlyAnswers_answer t rq _
      · rw [← Except.ok.inj ho]
        by_cases hsecond : (1, 0) ∈ io.fails
        · simp only [if_pos hsecond]
          exact onlyAnswers_answer t rq _
        · have hnone := (hspared.resolve_left hfirst).resolve_left hsecond
          have hremoved : removed b.type (default : Control.SessionData).hash t = t :=
            removed_of_unmatched ((sessionsWith_empty b.type).mpr hnone)
          simp only [if_neg hsecond, hremoved]
          exact onlyAnswers_answer t rq _

lemma found_empty (h : "" ∈ t.devices.map DeviceRow.hash)
    (hread : ¬ Misread b.type (checkedDevice b.type "" t)) :
    Reply.found b.type (some (.id (checkedDevice b.type "" t))) = true := by
  by_contra hfound
  obtain hnone | hmisread := found_hasDevice.mp (eq_false_of_ne_true hfound)
  · exact (devicesWith_empty b.type).mp hnone h
  · exact hread hmisread

lemma addDevice_spared {rq : IDatabase.Request} {o : DbOutcome}
    (hbulk : rq.bulkData = .deviceData default) (hspared : SparesDevices b.type io t rq)
    (ho : doAddDevice b io t rq = .ok o) : OnlyAnswers t o := by
  have hplain : Plain (default : Control.DeviceData).hash := by decide
  have hname : Plain (default : Control.DeviceData).name := by decide
  have haddress : Plain (default : Control.DeviceData).address := by decide
  unfold doAddDevice at ho
  cases hclient : rq.client with
  | none => simp [hclient] at ho
  | some client =>
    simp only [hclient, hbulk, BulkData.castDeviceData, run_hasDevice hplain, run_remDevice hplain,
      run_addDevice hplain hname haddress] at ho
    by_cases hfirst : (0, 0) ∈ io.fails
    · simp only [if_pos hfirst, if_true, Except.ok.injEq] at ho
      rw [← ho]
      exact onlyAnswers_answer t rq _
    · simp only [if_neg hfirst, reduceCtorEq, if_false] at ho
      split at ho
      · rw [← Except.ok.inj ho]
        exact onlyAnswers_answer t rq _
      · rename_i hgoes
        obtain ⟨hfails, hkept⟩ : ((2, 0) ∈ io.fails ∨ b.type = .postgreSQL ∧ forced rq = true ∧
            (1, 0) ∈ io.fails) ∧ (forced rq = false ∨ (1, 0) ∈ io.fails ∨
              "" ∉ t.devices.map DeviceRow.hash) := by
          obtain h | h := hspared.resolve_left hfirst
          · exact absurd ⟨h.1, found_empty h.2.1 h.2.2⟩ hgoes
          · exact h
        -- the old device, if there is one, stays
        have hremoved : (if forced rq = true then
            (if (1, 0) ∈ io.fails then (t, none)
              else (dropped b.type (default : Control.DeviceData).hash t, some TkmCollector.Reply.done))
            else (t, some TkmCollector.Reply.done)).1 = t := by
          cases hforced : forced rq with
          | false => rfl
          | true =>
            by_cases hsecond : (1, 0) ∈ io.fails
            · simp [hsecond]
            · have hnone := (hkept.resolve_left (by simp [hforced])).resolve_left hsecond
              have hdropped : dropped b.type (default : Control.DeviceData).hash t = t :=
                dropped_empty b.type hnone
              simp [hsecond, hdropped]
        generalize hpair : (if forced rq = true then
            (if (1, 0) ∈ io.fails then (t, none)
              else (dropped b.type (default : Control.DeviceData).hash t, some TkmCollector.Reply.done))
            else (t, some TkmCollector.Reply.done)) = pair at ho hremoved
        obtain ⟨t', removed⟩ := pair
        obtain rfl : t' = t := hremoved
        have hadded : (if b.type = .postgreSQL ∧ removed = none then
            (t', (none : Option TkmCollector.Reply))
            else if (2, 0) ∈ io.fails then (t', none)
            else (added b.type default t', some .done)) = (t', none) := by
          obtain hfails | ⟨htype, hforced, hsecond⟩ := hfails
          · simp [hfails]
          · have hnone : removed = none := by simpa [hforced, hsecond, eq_comm] using hpair
            simp [htype, hnone]
        simp only [hadded, Except.ok.injEq] at ho
        rw [← ho]
        exact ⟨rfl, rfl, rfl, _, rfl, rfl⟩

lemma getSessions_spared {rq : IDatabase.Request} {o : DbOutcome}
    (hbulk : rq.bulkData = .deviceData default) (ho : doGetSessions b io t rq = .ok o) :
    OnlyAnswers t o := by
  unfold doGetSessions at ho
  cases hclient : rq.client with
  | none => simp [hclient] at ho
  | some client =>
    have hempty : (default : Control.DeviceData).hash.isEmpty = true := by decide
    simp only [hclient, hbulk, BulkData.castDeviceData, hempty, if_true, run_getSessions] at ho
    rw [← Except.ok.inj ho]
    unfold sendList
    split
    · exact onlyAnswers_answer t rq _
    · exact ⟨rfl, rfl, rfl, _, rfl, rfl⟩

lemma addData_spared {hash : String} {data : Monitor.Data} {o : DbOutcome} (hblank : BlankData data)
    (hspared : SparesData b.type io t hash data)
    (ho : doAddData b io t (addDataRequest hash (.data data)) = .ok o) : o = quiet t := by
  have hplain : PlainBatch hash data := by
    intro hbatch
    exact ⟨(hspared.resolve_left hbatch).1, plain_blank hblank⟩
  obtain ⟨upTo, hle, hgood, hstop⟩ := exists_upTo io.fails 0 0 (batch data).length
  simp only [Nat.zero_add] at hgood hstop
  rw [doAddData_upTo hplain hle hgood hstop] at ho
  rw [← Except.ok.inj ho]
  cases howner : scalar b.type (sessionIds b.type hash t) with
  | none => rfl
  | some owner =>
    have hrows : (dataRows data owner).take upTo = [] := by
      obtain hbatch | ⟨-, hfails⟩ := hspared
      · simp [dataRows_eq, hbatch]
      · have hfirst : (0, 0) ∈ io.fails := hfails.resolve_right (by simp [howner])
        have hzero : upTo = 0 := by
          by_contra hne
          exact hgood 0 (by omega) hfirst
        rw [hzero]
        rfl
    simp [hrows]

/-- A default message that nothing is to be done for leaves the tables and the database queue. -/
lemma requestHandler_spared {states : String → Option Control.DeviceState} {rq : IDatabase.Request}
    {o : DbOutcome} (hblank : BlankDatabase rq) (hspared : SparesTables b.type io t rq)
    (ho : requestHandler b states io t rq = .ok o) :
    OnlyAnswers t o ∧ rq.action ≠ .addData ∨ o = quiet t ∧ rq.action = .addData := by
  unfold requestHandler at ho
  unfold BlankDatabase at hblank
  unfold SparesTables at hspared
  cases haction : rq.action with
  | getSessions =>
    simp only [haction] at ho hblank
    exact .inl ⟨getSessions_spared hblank ho, by simp⟩
  | addDevice =>
    simp only [haction] at ho hblank hspared
    exact .inl ⟨addDevice_spared hblank hspared ho, by simp⟩
  | removeDevice =>
    simp only [haction] at ho hblank hspared
    exact .inl ⟨removeDevice_spared hblank hspared ho, by simp⟩
  | remSession =>
    simp only [haction] at ho hblank hspared
    exact .inl ⟨remSession_spared hblank hspared ho, by simp⟩
  | addData =>
    simp only [haction] at ho hblank
    obtain ⟨hash, data, rfl, hdata⟩ := hblank
    exact .inr ⟨addData_spared hdata (hspared hash rfl) ho, rfl⟩
  | _ => simp [haction] at hblank

lemma device_spared {d : MonitorDevice} {rest : List IDevice.Request} {rq : IDevice.Request} {io : Io}
    {o : Outcome} (hblank : BlankDevice rq) (hspared : SparesDevice d rq)
    (ho : MonitorDevice.requestHandler (popped d rest) rq io = .ok o) :
    o.device = popped d rest ∧
      (rq.action = .status ∧ o.dispatcher = [] ∧ o.database = [] ∨
        (rq.action = .processData ∧ o.dispatcher = [] ∧
          ∃ request, o.database = [request] ∧ BlankDatabase request) ∨
        (rq.action ∈ [.connect, .disconnect, .startCollecting, .stopCollecting] ∧ o.database = [] ∧
          ∃ answer, o.dispatcher = [answer] ∧ answer.action = .sendStatus)) := by
  unfold MonitorDevice.requestHandler at ho
  unfold BlankDevice at hblank
  unfold SparesDevice at hspared
  cases haction : rq.action with
  | connect =>
    simp only [haction, MonitorDevice.doConnect, MonitorDevice.createConnection] at ho hspared
    cases hconnection : (popped d rest).connection with
    | none => exact absurd hconnection hspared
    | some c =>
      simp only [hconnection, Except.ok.injEq] at ho
      rw [← ho]
      exact ⟨rfl, .inr (.inr ⟨by simp, rfl, _, rfl, rfl⟩)⟩
  | disconnect =>
    simp only [haction, MonitorDevice.doDisconnect] at ho hspared
    split at ho
    · rename_i hstate
      cases hconnection : (popped d rest).connection with
      | none => simp [hconnection] at ho
      | some c =>
        simp only [hconnection, Except.ok.injEq] at ho
        have hremoving : d.loop.removing = true := hspared.resolve_left hstate
        have hloop : { d.loop with removing := true } = d.loop := by rw [← hremoving]
        have hkept : (popped d rest).remConnectionSource c = popped d rest := by
          rw [remConnectionSource_eq]
          simp [popped, hremoving, hloop]
        rw [← ho]
        exact ⟨hkept, .inr (.inr ⟨by simp, rfl, _, rfl, rfl⟩)⟩
    · rw [← Except.ok.inj ho]
      exact ⟨rfl, .inr (.inr ⟨by simp, rfl, _, rfl, rfl⟩)⟩
  | startCollecting =>
    simp only [haction, MonitorDevice.doStartCollecting] at ho hspared
    obtain ⟨hconnected, hidle, hset⟩ := hspared
    have hfirst : ¬ ((popped d rest).state = .connected ∨ (popped d rest).state = .idle) :=
      fun h => h.elim hconnected hidle
    have hsecond : (popped d rest).state ≠ .sessionSet := hset
    rw [if_neg hfirst, if_neg hsecond] at ho
    rw [← Except.ok.inj ho]
    exact ⟨rfl, .inr (.inr ⟨by simp, rfl, _, rfl, rfl⟩)⟩
  | stopCollecting =>
    simp only [haction, MonitorDevice.doStopCollecting] at ho hspared
    have hstate : (popped d rest).state ≠ .collecting := hspared
    rw [if_neg hstate] at ho
    rw [← Except.ok.inj ho]
    exact ⟨rfl, .inr (.inr ⟨by simp, rfl, _, rfl, rfl⟩)⟩
  | processData =>
    simp only [haction] at ho hblank
    obtain ⟨data, hbulk, hdata⟩ := hblank
    rw [← Except.ok.inj ho]
    refine ⟨rfl, .inr (.inl ⟨rfl, rfl, _, rfl, d.sessionData.hash, data, ?_, hdata⟩)⟩
    rw [hbulk]
    rfl
  | status =>
    simp only [haction, MonitorDevice.doStatus] at ho hblank
    rw [hblank] at ho
    rw [← Except.ok.inj ho]
    exact ⟨rfl, .inl ⟨rfl, rfl, rfl⟩⟩
  | _ => simp [haction] at hspared

end Handlers

/-! ### The request is handed on -/

/-- The request is gone, or it waits in a queue with a default message in it. -/
def Lingers (s : Application) (trace : Trace) : Prop :=
  trace = .gone ∨ ∃ rq, trace.request s = some rq ∧ Blank rq

section HandedOn

variable {b : Backend} {s s' s₀ : Application} {trace : Trace}

lemma Lingers.placed (h : Lingers s trace) : trace.Placed s :=
  h.imp_right fun ⟨rq, hrq, _⟩ => ⟨rq, hrq⟩

/-- Two applications have the same devices, tables and clients. -/
structure SameBase (s s' : Application) : Prop where
  devices : s'.collector.devices = s.collector.devices
  tables : s'.collector.tables = s.collector.tables
  clients : s'.clients = s.clients
  nextClient : s'.nextClient = s.nextClient

lemma bare_unchanged (h : SameBase s s') (hdispatcher : s'.dispatcher = s.dispatcher)
    (hqueue : s'.collector.queue = s.collector.queue) : bare .gone s' = bare .gone s := by
  apply bare_eq
  · rw [h.devices]
  · exact h.tables
  · rw [hqueue]
  · rw [hdispatcher]
  · exact h.clients
  · exact h.nextClient

lemma passed_dispatcher (entry : DispatcherEntry) (h : SameBase s s')
    (hdispatcher : s'.dispatcher = s.dispatcher ++ [entry])
    (hqueue : s'.collector.queue = s.collector.queue) (hblank : BlankDispatcher entry.request) :
    bare (.dispatcher s.dispatcher.length) s' = bare .gone s ∧
      Lingers s' (.dispatcher s.dispatcher.length) := by
  constructor
  · apply bare_eq
    · rw [h.devices]
      rfl
    · exact h.tables
    · rw [hqueue]
      rfl
    · rw [hdispatcher]
      exact congrArg (List.map bareDispatcher) (leaveOut_concat s.dispatcher entry)
    · exact h.clients
    · exact h.nextClient
  · exact .inr ⟨.dispatcher entry.request, by simp [Trace.request, hdispatcher], hblank⟩

lemma passed_database (entry : DbEntry) (h : SameBase s s') (hdispatcher : s'.dispatcher = s.dispatcher)
    (hqueue : s'.collector.queue = s.collector.queue ++ [entry])
    (hblank : BlankDatabase entry.request) :
    bare (.database s.collector.queue.length) s' = bare .gone s ∧
      Lingers s' (.database s.collector.queue.length) := by
  constructor
  · apply bare_eq
    · rw [h.devices]
      rfl
    · exact h.tables
    · rw [hqueue]
      exact congrArg (List.map bareEntry) (leaveOut_concat s.collector.queue entry)
    · rw [hdispatcher]
      rfl
    · exact h.clients
    · exact h.nextClient
  · exact .inr ⟨.database entry.request, by simp [Trace.request, hqueue], hblank⟩

lemma bareDevices_updates {devices : DeviceManager} {hash : String} {d d' : MonitorDevice}
    {trace' : Trace} (hhash : d.deviceData.hash = hash) (hhash' : d'.deviceData.hash = hash)
    (hother : ∀ k, k ≠ hash → trace.inDevice k = trace'.inDevice k)
    (hd : bareDevice (trace.inDevice hash) d = bareDevice (trace'.inDevice hash) d') :
    bareDevices trace (devices.update hash d) = bareDevices trace' (devices.update hash d') := by
  unfold bareDevices DeviceManager.update
  rw [List.map_map, List.map_map]
  apply List.map_congr_left
  intro entry _
  by_cases hk : entry.deviceData.hash = hash
  · simp only [Function.comp_apply, if_pos hk, hhash, hhash', hd]
  · simp only [Function.comp_apply, if_neg hk, hother _ hk]

lemma update_found {devices : DeviceManager} {hash : String} {d : MonitorDevice}
    (hdistinct : DistinctDevices devices) (hget : devices.getDevice hash = some d) :
    devices.update hash d = devices := by
  have hsame : ∀ entry ∈ devices, (if entry.deviceData.hash = hash then d else entry) = entry := by
    intro entry hentry
    by_cases hk : entry.deviceData.hash = hash
    · rw [if_pos hk]
      apply List.inj_on_of_nodup_map hdistinct (mem_of_getDevice hget) hentry
      rw [hk, getDevice_hash hget]
    · exact if_neg hk
  exact (List.map_congr_left hsame).trans (List.map_id' devices)

lemma bareDevices_update {devices : DeviceManager} {hash : String} {d d' : MonitorDevice}
    {trace' : Trace} (hdistinct : DistinctDevices devices) (hget : devices.getDevice hash = some d)
    (hhash : d'.deviceData.hash = hash) (hother : ∀ k, k ≠ hash → trace'.inDevice k = trace.inDevice k)
    (hd : bareDevice (trace'.inDevice hash) d' = bareDevice (trace.inDevice hash) d) :
    bareDevices trace' (devices.update hash d') = bareDevices trace devices := by
  rw [bareDevices_updates hhash (getDevice_hash hget) hother hd, update_found hdistinct hget]

lemma request_device {hash : String} {rq : AnyRequest}
    (h : (Trace.device hash 0).request s = some rq) :
    ∃ d x rest, s.collector.devices.getDevice hash = some d ∧ d.queue = x :: rest ∧
      rq = .device x := by
  obtain ⟨d, hget, x, hx, rfl⟩ : ∃ d, s.collector.devices.getDevice hash = some d ∧
      ∃ x, d.queue[0]? = some x ∧ AnyRequest.device x = rq := by
    simpa [Trace.request, Option.bind_eq_some_iff] using h
  obtain ⟨rest, hqueue⟩ := eq_cons_of_getElem?_zero hx
  exact ⟨d, x, rest, hget, hqueue, rfl⟩

lemma bare_popped {hash : String} {d : MonitorDevice} {x : IDevice.Request}
    {rest : List IDevice.Request} (hdistinct : DistinctDevices s.collector.devices)
    (hget : s.collector.devices.getDevice hash = some d) (hqueue : d.queue = x :: rest) :
    bare .gone { s with collector := { s.collector with
      devices := s.collector.devices.update hash (popped d rest) } } = bare (.device hash 0) s := by
  have hhash : d.deviceData.hash = hash := getDevice_hash hget
  apply bare_eq
  · apply bareDevices_update hdistinct hget
    · exact hhash
    · intro k hk
      simp [Trace.inDevice, hk.symm]
    · simp [bareDevice, popped, Trace.inDevice, hqueue, leaveOut]
  · rfl
  · rfl
  · rfl
  · rfl
  · rfl

lemma due_device {hash : String} {io : Io} {rq : AnyRequest}
    (hdistinct : DistinctDevices s.collector.devices)
    (hrq : (Trace.device hash 0).request s = some rq) (hblank : Blank rq)
    (hspared : ∀ x d, rq = .device x → s.collector.devices.getDevice hash = some d → SparesDevice d x)
    (hs : onCollector b s (.device hash (.queue io)) none = .ok s') :
    bare (Trace.handedOn s rq) s' = bare (.device hash 0) s ∧ Lingers s' (Trace.handedOn s rq) := by
  obtain ⟨d, x, rest, hget, hqueue, rfl⟩ := request_device hrq
  have hstep : d.step (.queue io) = MonitorDevice.requestHandler (popped d rest) x io := by
    rw [MonitorDevice.step, hqueue]
    rfl
  rw [onCollector_of_get hget, hstep] at hs
  cases ho : MonitorDevice.requestHandler (popped d rest) x io with
  | error fault => simp [ho] at hs
  | ok o =>
    rw [ho] at hs
    obtain rfl := Except.ok.inj hs
    obtain ⟨hdevice, hpushed⟩ := device_spared hblank (hspared x d rfl hget) ho
    rw [← bare_popped hdistinct hget hqueue]
    have hbase : SameBase { s with collector := { s.collector with
        devices := s.collector.devices.update hash (popped d rest) } } (afterDevice s hash o) :=
      ⟨by simp [afterDevice, hdevice], rfl, rfl, rfl⟩
    obtain ⟨haction, hdispatcher, hdatabase⟩ | ⟨haction, hdispatcher, request, hdatabase, hnext⟩ |
      ⟨haction, hdatabase, answer, hdispatcher, hanswer⟩ := hpushed
    · have hgone : Trace.handedOn s (.device x) = .gone := by simp [Trace.handedOn, haction]
      rw [hgone]
      refine ⟨bare_unchanged hbase ?_ ?_, .inl rfl⟩
      · simp [afterDevice, hdispatcher]
      · simp [afterDevice, hdatabase]
    · have hto : Trace.handedOn s (.device x) = .database s.collector.queue.length := by
        simp [Trace.handedOn, haction]
      rw [hto]
      apply passed_database ⟨request, some hash⟩ hbase
      · simp [afterDevice, hdispatcher]
      · simp [afterDevice, hdatabase]
      · exact hnext
    · have hto : Trace.handedOn s (.device x) = .dispatcher s.dispatcher.length := by
        simp only [List.mem_cons, List.not_mem_nil, or_false] at haction
        obtain haction | haction | haction | haction := haction <;> simp [Trace.handedOn, haction]
      rw [hto]
      apply passed_dispatcher ⟨answer, none⟩ hbase
      · simp [afterDevice, hdispatcher]
      · simp [afterDevice, hdatabase]
      · simp [BlankDispatcher, hanswer]

/-- The request goes to the device without a hash, or its client is told that there is none. -/
def Forwards (known : String → Bool) (o : Dispatcher.Outcome) : Prop :=
  if known "" then
    o.dispatcher = [] ∧ ∃ request, o.device = some ("", request) ∧ BlankDevice request
  else o.device = none ∧ ∃ answer, o.dispatcher = [answer] ∧ answer.action = .sendStatus

lemma blankDatabase_of_dispatched {rq : Dispatcher.Request} {action : Collector.ClientAction}
    (hblank : BlankDispatcher rq) (h : databaseAction rq.action = some action) :
    rq.action ∈ [.getSessions, .removeSession, .addDevice, .removeDevice] ∧
      BlankDatabase ⟨rq.client, action.toAction, rq.args, databaseBulk rq⟩ := by
  unfold BlankDispatcher at hblank
  unfold databaseBulk
  cases ha : rq.action with
  | getSessions | removeSession | addDevice | removeDevice =>
    rw [ha] at h hblank
    rw [← Option.some.inj h]
    exact ⟨by simp, hblank⟩
  | initDatabase | getDevices => simp [ha] at hblank
  | _ =>
    rw [ha] at h
    cases h

lemma blankDevice_of_dispatched {rq : Dispatcher.Request} {action : IDevice.Action}
    (hblank : BlankDispatcher rq) (h : deviceAction rq.action = some action) :
    rq.action ∈ [.connectDevice, .disconnectDevice, .startCollecting, .stopCollecting] ∧
      rq.bulkData = .deviceData default ∧ BlankDevice ⟨rq.client, action, rq.args, rq.bulkData⟩ := by
  unfold BlankDispatcher at hblank
  cases ha : rq.action with
  | connectDevice | disconnectDevice | startCollecting | stopCollecting =>
    rw [ha] at h hblank
    rw [← Option.some.inj h]
    exact ⟨by simp, hblank, hblank⟩
  | _ =>
    rw [ha] at h
    cases h

lemma dispatcher_hands {rq : Dispatcher.Request} {known : String → Bool} {o : Dispatcher.Outcome}
    (hblank : BlankDispatcher rq) (ho : Dispatcher.requestHandler known rq = .ok o) :
    rq.action = .sendStatus ∧ o.dispatcher = [] ∧ o.database = [] ∧ o.device = none ∨
      (rq.action ∈ [.getSessions, .removeSession, .addDevice, .removeDevice] ∧ o.dispatcher = [] ∧
        o.device = none ∧ ∃ request, o.database = [request] ∧ BlankDatabase request) ∨
      (rq.action ∈ [.connectDevice, .disconnectDevice, .startCollecting, .stopCollecting] ∧
        rq.bulkData = .deviceData default ∧ o.database = [] ∧ Forwards known o) := by
  cases requestHandler_dispatched ho with
  | database action ha =>
    obtain ⟨hmem, hnext⟩ := blankDatabase_of_dispatched hblank ha
    exact .inr (.inl ⟨hmem, rfl, rfl, _, rfl, hnext⟩)
  | device action deviceData ha hb hknown =>
    obtain ⟨hmem, hbulk, hnext⟩ := blankDevice_of_dispatched hblank ha
    rw [hbulk] at hb
    obtain rfl := Except.ok.inj hb
    have hforwards : known "" = true := hknown
    unfold Forwards
    rw [if_pos hforwards]
    exact .inr (.inr ⟨hmem, hbulk, rfl, rfl, _, rfl, hnext⟩)
  | unknown action deviceData ha hb hknown =>
    obtain ⟨hmem, hbulk, -⟩ := blankDevice_of_dispatched hblank ha
    rw [hbulk] at hb
    obtain rfl := Except.ok.inj hb
    have hanswers : known "" = false := hknown
    unfold Forwards
    rw [hanswers, if_neg (by simp)]
    exact .inr (.inr ⟨hmem, hbulk, rfl, rfl, _, rfl, rfl⟩)
  | quitting ha => simp [BlankDispatcher, ha] at hblank
  | unheard ha | answered _ _ ha => exact .inl ⟨ha, rfl, rfl, rfl⟩

lemma sameBase_deliver {o : Dispatcher.Outcome} {write : Bool} {served : Option Nat}
    (hdevice : o.device = none) : SameBase s (deliver s o write served) :=
  ⟨by simp [deliver, hdevice], rfl, rfl, rfl⟩

lemma passed_device {d : MonitorDevice} {o : Dispatcher.Outcome} {hash : String}
    {request : IDevice.Request} {write : Bool} {served : Option Nat}
    (hdistinct : DistinctDevices s.collector.devices)
    (hget : s.collector.devices.getDevice hash = some d) (hdispatcher : o.dispatcher = [])
    (hdatabase : o.database = []) (hdevice : o.device = some (hash, request))
    (hblank : BlankDevice request) :
    bare (.device hash d.queue.length) (deliver s o write served) = bare .gone s ∧
      Lingers (deliver s o write served) (.device hash d.queue.length) := by
  have hhash : (d.pushRequest request).deviceData.hash = hash := getDevice_hash (d := d) hget
  have hdevices : (deliver s o write served).collector.devices =
      s.collector.devices.update hash (d.pushRequest request) := by
    simp [deliver, hdevice, hget]
  constructor
  · apply bare_eq
    · rw [hdevices]
      apply bareDevices_update hdistinct hget hhash
      · intro k hk
        simp [Trace.inDevice, hk.symm]
      · simp [bareDevice, MonitorDevice.pushRequest, Trace.inDevice, leaveOut_concat]
    · rfl
    · simp [deliver, hdatabase, Trace.inDatabase]
    · simp [deliver, hdispatcher, Trace.inDispatcher]
    · rfl
    · rfl
  · refine .inr ⟨.device request, ?_, hblank⟩
    simp only [Trace.request, hdevices, getDevice_update_self hhash hget]
    simp [MonitorDevice.pushRequest]

/-- The dispatcher has handed the request on to the device without a hash, or answered it. -/
lemma passed_forwarded {entry : DispatcherEntry} {rest : List DispatcherEntry}
    {o : Dispatcher.Outcome} {write : Bool} {served : Option Nat}
    (hdistinct : DistinctDevices s.collector.devices) (hqueue : s.dispatcher = entry :: rest)
    (haction : entry.request.action ∈
      [.connectDevice, .disconnectDevice, .startCollecting, .stopCollecting])
    (hbulk : entry.request.bulkData = .deviceData default) (hdatabase : o.database = [])
    (hforwarded : Forwards s.known o) :
    bare (Trace.handedOn s (.dispatcher entry.request))
        (deliver { s with dispatcher := rest } o write served) =
      bare .gone { s with dispatcher := rest } ∧
    Lingers (deliver { s with dispatcher := rest } o write served)
      (Trace.handedOn s (.dispatcher entry.request)) := by
  have hcast : entry.request.bulkData.castDeviceData = .ok default := by rw [hbulk]; rfl
  have hhash : (default : Control.DeviceData).hash = "" := rfl
  simp only [List.mem_cons, List.not_mem_nil, or_false] at haction
  cases hget : s.collector.devices.getDevice "" with
  | none =>
    have hto : Trace.handedOn s (.dispatcher entry.request) = .dispatcher rest.length := by
      obtain haction | haction | haction | haction := haction <;>
        simp [Trace.handedOn, haction, hcast, hhash, hqueue, hget]
    have hknown : s.known "" = false := by simp [known, hget]
    rw [hto]
    rw [Forwards, hknown, if_neg (by simp)] at hforwarded
    obtain ⟨hdevice, answer, hdispatcher, hanswer⟩ := hforwarded
    apply passed_dispatcher (s := { s with dispatcher := rest }) ⟨answer, none⟩
      (sameBase_deliver hdevice)
    · simp [deliver, hdispatcher]
    · simp [deliver, hdatabase]
    · simp [BlankDispatcher, hanswer]
  | some d =>
    have hto : Trace.handedOn s (.dispatcher entry.request) = .device "" d.queue.length := by
      obtain haction | haction | haction | haction := haction <;>
        simp [Trace.handedOn, haction, hcast, hhash, hget]
    have hknown : s.known "" = true := by simp [known, hget]
    rw [hto]
    rw [Forwards, hknown, if_pos rfl] at hforwarded
    obtain ⟨hdispatcher, request, hdevice, hnext⟩ := hforwarded
    exact passed_device (s := { s with dispatcher := rest }) hdistinct hget hdispatcher hdatabase
      hdevice hnext

lemma due_dispatcher {write : Bool} {rq : AnyRequest}
    (hdistinct : DistinctDevices s.collector.devices)
    (hrq : (Trace.dispatcher 0).request s = some rq) (hblank : Blank rq)
    (hs : Application.step b s (.dispatcher write) = .ok s') :
    bare (Trace.handedOn s rq) s' = bare (.dispatcher 0) s ∧ Lingers s' (Trace.handedOn s rq) := by
  obtain ⟨entry, hentry, rfl⟩ : ∃ entry, s.dispatcher[0]? = some entry ∧
      AnyRequest.dispatcher entry.request = rq := by
    simpa [Trace.request] using hrq
  obtain ⟨rest, hqueue⟩ := eq_cons_of_getElem?_zero hentry
  rw [step_dispatcher_of_entry hqueue] at hs
  cases ho : Dispatcher.requestHandler s.known entry.request with
  | error stop => simp [ho] at hs
  | ok o =>
    rw [ho] at hs
    obtain rfl := Except.ok.inj hs
    have hleft : bare .gone { s with dispatcher := rest } = bare (.dispatcher 0) s := by
      apply bare_eq
      · rfl
      · rfl
      · rfl
      · simp [Trace.inDispatcher, hqueue, leaveOut]
      · rfl
      · rfl
    rw [← hleft]
    obtain ⟨haction, hdispatcher, hdatabase, hdevice⟩ |
      ⟨haction, hdispatcher, hdevice, request, hdatabase, hnext⟩ |
      ⟨haction, hbulk, hdatabase, hforwarded⟩ := dispatcher_hands hblank ho
    · have hgone : Trace.handedOn s (.dispatcher entry.request) = .gone := by
        simp [Trace.handedOn, haction]
      rw [hgone]
      refine ⟨bare_unchanged (sameBase_deliver hdevice) ?_ ?_, .inl rfl⟩
      · simp [deliver, hdispatcher]
      · simp [deliver, hdatabase]
    · have hto : Trace.handedOn s (.dispatcher entry.request) =
          .database s.collector.queue.length := by
        simp only [List.mem_cons, List.not_mem_nil, or_false] at haction
        obtain haction | haction | haction | haction := haction <;> simp [Trace.handedOn, haction]
      rw [hto]
      apply passed_database (s := { s with dispatcher := rest }) ⟨request, none⟩
        (sameBase_deliver hdevice)
      · simp [deliver, hdispatcher]
      · simp [deliver, hdatabase]
      · exact hnext
    · exact passed_forwarded hdistinct hqueue haction hbulk hdatabase hforwarded

lemma due_database {io : DbIo} {rq : AnyRequest} (hrq : (Trace.database 0).request s = some rq)
    (hblank : Blank rq)
    (hspared : ∀ x, rq = .database x → SparesTables b.type io s.collector.tables x)
    (hs : Application.step b s (.database io) = .ok s') :
    bare (Trace.handedOn s rq) s' = bare (.database 0) s ∧ Lingers s' (Trace.handedOn s rq) := by
  obtain ⟨entry, hentry, rfl⟩ : ∃ entry, s.collector.queue[0]? = some entry ∧
      AnyRequest.database entry.request = rq := by
    simpa [Trace.request] using hrq
  obtain ⟨rest, hqueue⟩ := eq_cons_of_getElem?_zero hentry
  obtain ⟨o, ho, rfl⟩ := step_database hqueue hs
  have hleft : bare .gone { s with collector := { s.collector with queue := rest } } =
      bare (.database 0) s := by
    apply bare_eq
    · rfl
    · rfl
    · simp [Trace.inDatabase, hqueue, leaveOut]
    · rfl
    · rfl
    · rfl
  rw [← hleft]
  obtain ⟨⟨htables, hdatabase, hloaded, answer, hdispatcher, hanswer⟩, haction⟩ | ⟨rfl, haction⟩ :=
    requestHandler_spared hblank (hspared _ rfl) ho
  · have hto : Trace.handedOn s (.database entry.request) = .dispatcher s.dispatcher.length := by
      have hkind : BlankDatabase entry.request := hblank
      unfold BlankDatabase at hkind
      cases hkinds : entry.request.action with
      | getSessions | addDevice | removeDevice | remSession => simp [Trace.handedOn, hkinds]
      | addData => exact absurd hkinds haction
      | _ => simp [hkinds] at hkind
    rw [hto]
    apply passed_dispatcher (s := { s with collector := { s.collector with queue := rest } })
      ⟨answer, some s.collector.handled.length⟩
    · exact ⟨by simp [afterDatabase, hloaded, DeviceManager.load], htables, rfl, rfl⟩
    · simp [afterDatabase, hdispatcher]
    · simp [afterDatabase, hdatabase]
    · simp [BlankDispatcher, hanswer]
  · have hgone : Trace.handedOn s (.database entry.request) = .gone := by
      simp [Trace.handedOn, haction]
    rw [hgone]
    refine ⟨bare_unchanged ⟨rfl, rfl, rfl, rfl⟩ ?_ ?_, .inl rfl⟩
    · simp [afterDatabase, quiet]
    · simp [afterDatabase, quiet]

end HandedOn

end TkmCollector.Proofs
