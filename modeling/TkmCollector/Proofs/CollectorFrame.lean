import TkmCollector.Collector
import TkmCollector.Proofs.DeviceFrame
import TkmCollector.Proofs.DatabaseFrame
import TkmCollector.Proofs.HashMatching

namespace TkmCollector.Proofs

open MonitorDevice SqlText LikePattern

lemma getDevice_hash {devices : DeviceManager} {k : String} {d : MonitorDevice}
    (h : devices.getDevice k = some d) : d.deviceData.hash = k := by
  simpa using List.find?_some h

lemma getDevice_update_self {devices : DeviceManager} {k : String} {d d' : MonitorDevice}
    (hd : d'.deviceData.hash = k) (h : devices.getDevice k = some d) :
    (devices.update k d').getDevice k = some d' := by
  unfold DeviceManager.getDevice DeviceManager.update at *
  have hp : ((fun entry : MonitorDevice => decide (entry.deviceData.hash = k)) ∘ fun entry =>
      if entry.deviceData.hash = k then d' else entry) =
      fun entry => decide (entry.deviceData.hash = k) := by
    funext entry
    by_cases he : entry.deviceData.hash = k <;> simp [he, hd]
  rw [← List.map_reverse, List.find?_map, hp, h]
  simpa using fun hne => absurd (by simpa using List.find?_some h) hne

lemma getDevice_update_ne {devices : DeviceManager} {k j : String} {d' : MonitorDevice}
    (hd : d'.deviceData.hash = k) (hj : j ≠ k) :
    (devices.update k d').getDevice j = devices.getDevice j := by
  unfold DeviceManager.getDevice DeviceManager.update
  have hp : ((fun entry : MonitorDevice => decide (entry.deviceData.hash = j)) ∘ fun entry =>
      if entry.deviceData.hash = k then d' else entry) =
      fun entry => decide (entry.deviceData.hash = j) := by
    funext entry
    by_cases he : entry.deviceData.hash = k
    · simp [he, hd]
    · simp [he]
  rw [← List.map_reverse, List.find?_map, hp]
  cases hfind : List.find? (fun entry => decide (entry.deviceData.hash = j)) devices.reverse with
  | none => rfl
  | some entry =>
    have he : entry.deviceData.hash = j := by simpa using List.find?_some hfind
    simp [he, hj]

lemma getDevice_append {devices : DeviceManager} {d : MonitorDevice} (k : String) :
    DeviceManager.getDevice (devices ++ [d]) k =
      if d.deviceData.hash = k then some d else devices.getDevice k := by
  unfold DeviceManager.getDevice
  rw [List.reverse_append, List.reverse_singleton, List.singleton_append, List.find?_cons]
  by_cases h : d.deviceData.hash = k <;> simp [h]

lemma addDevice_of_none {devices : DeviceManager} {d : MonitorDevice}
    (h : devices.getDevice d.deviceData.hash = none) : devices.addDevice d = devices ++ [d] := by
  have hnone : (devices.any fun entry => entry.deviceData.hash = d.deviceData.hash) = false := by
    rw [List.any_eq_false]
    intro entry hentry
    simpa using List.find?_eq_none.mp h entry (List.mem_reverse.mpr hentry)
  unfold DeviceManager.addDevice
  rw [hnone]
  rfl

/-- A device after loading was there before, or is a new one from the first row with its hash. -/
lemma getDevice_load_first {devices : DeviceManager} {rows : List Control.DeviceData} {k : String}
    {d : MonitorDevice} (h : (devices.load rows).getDevice k = some d) :
    devices.getDevice k = some d ∨ devices.getDevice k = none ∧
      ∃ row, rows.find? (fun row => row.hash = k) = some row ∧ d = loaded row := by
  induction rows generalizing devices with
  | nil => exact .inl h
  | cons row rows ih =>
    rw [DeviceManager.load] at h
    cases hget : devices.getDevice row.hash with
    | some d₀ =>
      rw [hget] at h
      obtain hold | ⟨hnone, row', hrow', hd⟩ := ih h
      · exact .inl hold
      · refine .inr ⟨hnone, row', ?_, hd⟩
        have hne : row.hash ≠ k := by
          rintro rfl
          rw [hget] at hnone
          cases hnone
        rw [List.find?_cons_of_neg (by simpa using hne)]
        exact hrow'
    | none =>
      rw [hget] at h
      by_cases hk : row.hash = k
      · subst hk
        have hadded : (devices.addDevice (loaded row)).getDevice row.hash = some (loaded row) := by
          rw [addDevice_of_none (d := loaded row) hget, getDevice_append]
          exact if_pos rfl
        obtain hold | ⟨hnone, -⟩ := ih h
        · refine .inr ⟨hget, row, List.find?_cons_of_pos (by simp), ?_⟩
          exact (Option.some.inj (hadded.symm.trans hold)).symm
        · rw [hadded] at hnone
          cases hnone
      · have hsame : (devices.addDevice (loaded row)).getDevice k = devices.getDevice k := by
          rw [addDevice_of_none (d := loaded row) hget, getDevice_append]
          exact if_neg hk
        obtain hold | ⟨hnone, row', hrow', hd⟩ := ih h
        · exact .inl (hsame.symm.trans hold)
        · refine .inr ⟨hsame.symm.trans hnone, row', ?_, hd⟩
          rw [List.find?_cons_of_neg (by simpa using hk)]
          exact hrow'

lemma getDevice_load {devices : DeviceManager} {rows : List Control.DeviceData} {k : String}
    {d : MonitorDevice} (h : (devices.load rows).getDevice k = some d) :
    devices.getDevice k = some d ∨ ∃ row ∈ rows, row.hash = k ∧ d = loaded row := by
  obtain hold | ⟨-, row, hrow, hd⟩ := getDevice_load_first h
  · exact .inl hold
  · exact .inr ⟨row, List.mem_of_find?_eq_some hrow, by simpa using List.find?_some hrow, hd⟩

lemma getDevice_load_of_some {devices : DeviceManager} {rows : List Control.DeviceData} {k : String}
    {d : MonitorDevice} (h : devices.getDevice k = some d) : (devices.load rows).getDevice k = some d := by
  induction rows generalizing devices with
  | nil => exact h
  | cons row rows ih =>
    rw [DeviceManager.load]
    cases hget : devices.getDevice row.hash with
    | some d₀ => exact ih h
    | none =>
      apply ih
      rw [addDevice_of_none (d := loaded row) hget, getDevice_append]
      have hne : (loaded row).deviceData.hash ≠ k := by
        intro hk
        have hnone : devices.getDevice k = none := hk ▸ hget
        rw [hnone] at h
        cases h
      rw [if_neg hne]
      exact h

def openEntry (k : String) (info : Monitor.SessionInfo) : DbEntry := ⟨addSessionRequest k info, some k⟩

def closeEntry (owner : Option String) (hash : String) : DbEntry := ⟨endSessionRequest hash, owner⟩

def storeEntry (k hash : String) (data : Monitor.Data) : DbEntry :=
  ⟨addDataRequest hash (.data data), some k⟩

def cleanEntry : DbEntry := Collector.startRequest .cleanSessions

/-- A client's request that drops no table, with plain strings. The hash of a device that is
added is a number in decimal digits when it comes from the control tool. -/
def Harmless (type : DbType) : Collector.ClientAction → Args → BulkData → Prop
  | .initDatabase, args, _ => args.lookup .forced ≠ some (valFor .true)
  | .getDevices, _, _ => True
  | .addDevice, args, .deviceData deviceData =>
    (args.lookup .forced = none ∨ args.lookup .forced = some (valFor .true)) ∧ Plain deviceData.hash ∧
      (type = .postgreSQL → Literal deviceData.hash) ∧ Plain deviceData.name ∧ Plain deviceData.address
  | .removeDevice, _, .deviceData deviceData | .getSessions, _, .deviceData deviceData =>
    Plain deviceData.hash
  | .remSession, _, .sessionData sessionData => Plain sessionData.hash
  | .addDevice, _, _ | .removeDevice, _, _ | .getSessions, _, _ | .remSession, _, _ => True

instance (type : DbType) : ∀ action args bulkData, Decidable (Harmless type action args bulkData)
  | .initDatabase, args, _ => inferInstanceAs (Decidable (args.lookup .forced ≠ some (valFor .true)))
  | .getDevices, _, _ => isTrue trivial
  | .addDevice, args, .deviceData deviceData => inferInstanceAs (Decidable
      ((args.lookup .forced = none ∨ args.lookup .forced = some (valFor .true)) ∧ Plain deviceData.hash ∧
        (type = .postgreSQL → Literal deviceData.hash) ∧ Plain deviceData.name ∧ Plain deviceData.address))
  | .removeDevice, _, .deviceData deviceData => inferInstanceAs (Decidable (Plain deviceData.hash))
  | .getSessions, _, .deviceData deviceData => inferInstanceAs (Decidable (Plain deviceData.hash))
  | .remSession, _, .sessionData sessionData => inferInstanceAs (Decidable (Plain sessionData.hash))
  | .addDevice, _, .int _ | .addDevice, _, .sessionInfo _ | .addDevice, _, .data _
  | .addDevice, _, .status _ | .addDevice, _, .sessionData _ => isTrue trivial
  | .removeDevice, _, .int _ | .removeDevice, _, .sessionInfo _ | .removeDevice, _, .data _
  | .removeDevice, _, .status _ | .removeDevice, _, .sessionData _ => isTrue trivial
  | .getSessions, _, .int _ | .getSessions, _, .sessionInfo _ | .getSessions, _, .data _
  | .getSessions, _, .status _ | .getSessions, _, .sessionData _ => isTrue trivial
  | .remSession, _, .int _ | .remSession, _, .sessionInfo _ | .remSession, _, .data _
  | .remSession, _, .status _ | .remSession, _, .deviceData _ => isTrue trivial

/-- The entries of a calm run. -/
inductive Queued (type : DbType) : DbEntry → Prop where
  | check : Queued type (Collector.startRequest .checkDatabase)
  | load : Queued type (Collector.startRequest .loadDevices)
  | clean : Queued type cleanEntry
  | client (action : Collector.ClientAction) (client : ClientId) (args : Args) (bulkData : BulkData)
      (h : Harmless type action args bulkData) :
      Queued type ⟨⟨some client, action.toAction, args, bulkData⟩, none⟩
  | closed (owner : Option String) (hash : String) (h : Plain hash) : Queued type (closeEntry owner hash)
  | opened (k : String) (info : Monitor.SessionInfo) (hk : Plain k) (hh : Plain info.hash)
      (hn : Plain info.name) : Queued type (openEntry k info)
  | stored (k hash : String) (data : Monitor.Data) (hh : Plain hash)
      (hd : ∀ s ∈ dataStrings data, Plain s) : Queued type (storeEntry k hash data)

lemma queued_opened {type : DbType} {k : String} {info : Monitor.SessionInfo}
    (h : Queued type (openEntry k info)) : Plain k ∧ Plain info.hash := by
  generalize he : openEntry k info = e at h
  cases h with
  | opened k' info' hk hh hn =>
    simp only [openEntry, addSessionRequest, DbEntry.mk.injEq, Request.mk.injEq, Option.some.injEq,
      BulkData.sessionInfo.injEq] at he
    obtain ⟨⟨-, -, -, rfl⟩, rfl⟩ := he
    exact ⟨hk, hh⟩
  | check | load | clean | client | closed | stored =>
    simp [openEntry, addSessionRequest, Collector.startRequest, cleanEntry, closeEntry,
      endSessionRequest, storeEntry, addDataRequest] at he

/-- Every entry that was pushed to the database queue, in the order of their pushes. -/
def journal (c : Collector) : List DbEntry := c.handled ++ c.queue

/-- Nothing waits in a queue. -/
def Drained (c : Collector) : Prop := c.queue = [] ∧ ∀ d ∈ c.devices, d.queue = []

instance (c : Collector) : Decidable (Drained c) := inferInstanceAs (Decidable (_ ∧ _))

/-- The strings of the message stay inside of their literals. -/
def PlainMessage (m : Monitor.Message) : Prop :=
  match m.type with
  | .setSession => Plain m.payload.unpackSessionInfo.hash
  | .data => ∀ s ∈ dataStrings m.payload.unpackData, Plain s
  | .status | .unknown => True

instance (m : Monitor.Message) : Decidable (PlainMessage m) := by
  unfold PlainMessage
  split <;> infer_instance

/-- Monitors send plain strings, no statement fails, and clients do not drop the database. -/
def Calm (type : DbType) : Collector.Event → Prop
  | .device _ (.connection _ input _) => ∀ envelope ∈ input, PlainMessage envelope.mesg
  | .device _ _ => True
  | .database io => io.fails = []
  | .request action _ args bulkData => Harmless type action args bulkData

instance (type : DbType) : (e : Collector.Event) → Decidable (Calm type e)
  | .device _ (.connection _ input _) =>
    inferInstanceAs (Decidable (∀ envelope ∈ input, PlainMessage envelope.mesg))
  | .device _ (.control _ _ _ _) | .device _ .finalize | .device _ (.queue _)
  | .device _ (.timer _) => isTrue trivial
  | .database io => inferInstanceAs (Decidable (io.fails = []))
  | .request action _ args bulkData => inferInstanceAs (Decidable (Harmless type action args bulkData))

/-- The devices of the table are told apart by their ids, and on PostgreSQL by their hashes. -/
structure Keyed (type : DbType) (t : Tables) : Prop where
  plain : ∀ row ∈ t.devices, Plain row.hash
  ids : (t.devices.map DeviceRow.id).Nodup
  literal : type = .postgreSQL → ∀ row ∈ t.devices, Literal row.hash
  hashes : type = .postgreSQL → (t.devices.map DeviceRow.hash).Nodup
  bound : type = .postgreSQL → ∀ row ∈ t.devices, row.id ≤ t.deviceSeq

/-- What earlier runs left in the database: keyed devices, and plain hashes of the sessions
that start-up ends. -/
structure CleanStart (type : DbType) (t : Tables) : Prop where
  keyed : Keyed type t
  sessions : ∀ row ∈ t.sessions, row.endTimestamp = 0 → Plain row.hash

instance (type : DbType) (t : Tables) : Decidable (Keyed type t) :=
  decidable_of_iff ((∀ row ∈ t.devices, Plain row.hash) ∧ (t.devices.map DeviceRow.id).Nodup ∧
      (type = .postgreSQL → ∀ row ∈ t.devices, Literal row.hash) ∧
      (type = .postgreSQL → (t.devices.map DeviceRow.hash).Nodup) ∧
      (type = .postgreSQL → ∀ row ∈ t.devices, row.id ≤ t.deviceSeq))
    ⟨fun ⟨h₁, h₂, h₃, h₄, h₅⟩ => ⟨h₁, h₂, h₃, h₄, h₅⟩,
      fun h => ⟨h.plain, h.ids, h.literal, h.hashes, h.bound⟩⟩

instance (type : DbType) (t : Tables) : Decidable (CleanStart type t) :=
  decidable_of_iff (Keyed type t ∧ ∀ row ∈ t.sessions, row.endTimestamp = 0 → Plain row.hash)
    ⟨fun ⟨h₁, h₂⟩ => ⟨h₁, h₂⟩, fun h => ⟨h.keyed, h.sessions⟩⟩

/-- A device whose queue holds what handlers expect. -/
structure Sound (k : String) (d : MonitorDevice) : Prop where
  hash : d.deviceData.hash = k
  key : Plain k
  attached : Attached d
  recorded : d.connection ≠ none → d.streams ≠ []
  plain : Plain d.sessionData.hash
  sessions : ∀ rq ∈ d.queue, rq.action = .setSession →
    ∃ info, rq = sessionRequest info ∧ Plain info.hash ∧ Plain info.name
  data : ∀ rq ∈ d.queue, rq.action = .processData →
    ∃ data, rq = dataRequest data ∧ ∀ s ∈ dataStrings data, Plain s

/-- What holds in every state of a calm run. -/
structure Base (b : Backend) (c : Collector) : Prop where
  keyed : Keyed b.type c.tables
  queued : ∀ e ∈ journal c, Queued b.type e
  clean : cleanEntry ∈ journal c
  sessions : ∀ row ∈ c.tables.sessions, row.endTimestamp = 0 → Plain row.hash
  sound : ∀ k d, c.devices.getDevice k = some d → Sound k d
  known : ∀ e ∈ journal c, ∀ k, e.device = some k → ∃ d, c.devices.getDevice k = some d

/-- An entry that is not about sessions or their data. -/
structure Unrelated (e : DbEntry) : Prop where
  clean : e ≠ cleanEntry
  close : ∀ owner hash, e ≠ closeEntry owner hash
  opens : ∀ k info, e ≠ openEntry k info
  store : ∀ k hash data, e ≠ storeEntry k hash data

/-- The hash of the devices that an entry deletes. -/
def droppedHash (e : DbEntry) : Option String :=
  match e.request.action, e.request.bulkData with
  | .removeDevice, .deviceData deviceData => some deviceData.hash
  | .addDevice, .deviceData deviceData =>
    if Database.forced e.request then some deviceData.hash else none
  | _, _ => none

/-- The hash by which an entry ends or deletes sessions. -/
def endedHash (e : DbEntry) : Option String :=
  match e.request.action, e.request.bulkData with
  | .endSession, _ => e.request.args.lookup .sessionHash
  | .remSession, .sessionData sessionData => some sessionData.hash
  | _, _ => none

/-- The hash of the session that an entry opens. -/
def openedHash (e : DbEntry) : Option String :=
  match e.request.action, e.request.bulkData with
  | .addSession, .sessionInfo info => some info.hash
  | _, _ => none

/-- What the event loop does in a calm run. -/
inductive Move (b : Backend) (c : Collector) : Collector.Event → Collector → Prop where
  | idle (e : Collector.Event) : Move b c e c
  | device (k : String) (e : MonitorDevice.Event) (d d' : MonitorDevice)
      (dbrq : List IDatabase.Request) (hget : c.devices.getDevice k = some d)
      (hd : Dispatch d e d' dbrq) :
      Move b c (.device k e) { c with
        devices := c.devices.update k d'
        queue := c.queue ++ dbrq.map fun rq => ⟨rq, some k⟩ }
  | request (action : Collector.ClientAction) (client : ClientId) (args : Args) (bulkData : BulkData)
      (h : Harmless b.type action args bulkData) :
      Move b c (.request action client args bulkData)
        { c with queue := c.queue ++ [⟨⟨some client, action.toAction, args, bulkData⟩, none⟩] }
  | passed (io : DbIo) (entry : DbEntry) (rest : List DbEntry) (rows : List DeviceRow)
      (missing : List String) (hq : c.queue = entry :: rest)
      (hrows : rows = [] ∨ rows = c.tables.devices) (hentry : Unrelated entry) :
      Move b c (.database io)
        ⟨c.devices.load (rows.map Database.DeviceRow.toData), reshaped missing c.tables, rest,
          c.handled ++ [entry]⟩
  | added (io : DbIo) (entry : DbEntry) (rest : List DbEntry) (deviceData : Control.DeviceData)
      (hq : c.queue = entry :: rest) (hentry : Unrelated entry) (hplain : Plain deviceData.hash)
      (hliteral : b.type = .postgreSQL → Literal deviceData.hash)
      (hnew : NotFound b.type deviceData.hash c.tables) :
      Move b c (.database io)
        ⟨c.devices, added b.type deviceData c.tables, rest ++ [Collector.startRequest .loadDevices],
          c.handled ++ [entry]⟩
  | dropped (io : DbIo) (entry : DbEntry) (rest : List DbEntry) (hash : String)
      (hq : c.queue = entry :: rest) (hentry : Unrelated entry) (hdropped : droppedHash entry = some hash)
      (hsome : c.tables.devicesWith (hashMatches b.type) hash ≠ []) :
      Move b c (.database io)
        ⟨c.devices, dropped b.type hash c.tables, rest, c.handled ++ [entry]⟩
  | replaced (io : DbIo) (entry : DbEntry) (rest : List DbEntry) (deviceData : Control.DeviceData)
      (hq : c.queue = entry :: rest) (hentry : Unrelated entry)
      (hdropped : droppedHash entry = some deviceData.hash)
      (hsome : c.tables.devicesWith (hashMatches b.type) deviceData.hash ≠ [])
      (hplain : Plain deviceData.hash) (hliteral : b.type = .postgreSQL → Literal deviceData.hash) :
      Move b c (.database io)
        ⟨c.devices, added b.type deviceData (dropped b.type deviceData.hash c.tables),
          rest ++ [Collector.startRequest .loadDevices], c.handled ++ [entry]⟩
  | removed (io : DbIo) (entry : DbEntry) (rest : List DbEntry) (hash : String)
      (hq : c.queue = entry :: rest) (hentry : Unrelated entry) (hdevice : entry.device = none)
      (hended : endedHash entry = some hash) :
      Move b c (.database io)
        ⟨c.devices, removed b.type hash c.tables, rest, c.handled ++ [entry]⟩
  | cleaned (io : DbIo) (rest : List DbEntry) (hq : c.queue = cleanEntry :: rest) :
      Move b c (.database io)
        ⟨c.devices, c.tables, rest ++ (c.tables.sessions.filter (·.endTimestamp = 0)).map
          fun row => closeEntry none row.hash, c.handled ++ [cleanEntry]⟩
  | closed (io : DbIo) (owner : Option String) (hash : String) (rest : List DbEntry)
      (hq : c.queue = closeEntry owner hash :: rest) :
      Move b c (.database io)
        ⟨c.devices, ended b.type hash io.now c.tables, rest, c.handled ++ [closeEntry owner hash]⟩
  | opened (io : DbIo) (k : String) (info : Monitor.SessionInfo) (rest : List DbEntry)
      (hq : c.queue = openEntry k info :: rest) :
      Move b c (.database io)
        ⟨c.devices, opened b.type k info io.now c.tables, rest, c.handled ++ [openEntry k info]⟩
  | stored (io : DbIo) (k hash : String) (data : Monitor.Data) (rest : List DbEntry)
      (hq : c.queue = storeEntry k hash data :: rest) :
      Move b c (.database io)
        ⟨c.devices, stored b.type hash data c.tables, rest, c.handled ++ [storeEntry k hash data]⟩

section Handlers

open Database Query

variable {b : Backend} {io : DbIo} {states : String → Option Control.DeviceState} {t : Tables}

lemma getDevices_calm (hio : io.fails = []) (n : Nat) :
    runQuery b io n t .getDevices = (t, some (.devices t.devices)) := by
  rw [runQuery_one hio (by simp [Call.strings, Call.statements, Statement.strings]) rfl]
  rfl

lemma getSessions_calm (hio : io.fails = []) (n : Nat) :
    runQuery b io n t .getSessions = (t, some (.sessions t.sessions)) := by
  rw [runQuery_one hio (by simp [Call.strings, Call.statements, Statement.strings]) rfl]
  rfl

lemma getSessionsOf_calm {hash : String} (hio : io.fails = []) (hplain : Plain hash) (n : Nat) :
    (runQuery b io n t (.getSessionsOf hash)).1 = t := by
  rw [runQuery_one hio (by simpa [Call.strings, Call.statements, Statement.strings] using hplain) rfl]
  simp only [Statement.exec, Statement.execWith]
  cases b.type with
  | sqlite3 =>
    dsimp only
    cases (t.devicesWith (hashMatches .sqlite3) hash).head? <;> rfl
  | postgreSQL => rfl

lemma sendList_quiet (t : Tables) (io : DbIo) (rq : IDatabase.Request) (client : ClientId)
    (reply : Option Reply) (list : ControlList) (failure : String) :
    (sendList t rq client io reply list failure).tables = t ∧
      (sendList t rq client io reply list failure).database = [] ∧
      (sendList t rq client io reply list failure).loaded = [] := by
  cases reply <;> exact ⟨rfl, rfl, rfl⟩

lemma hashMatches_eq {type : DbType} {hash : String} (h : Literal hash) (value : String) :
    hashMatches type hash value = true ↔ value = hash := by
  cases type with
  | sqlite3 => simp [hashMatches]
  | postgreSQL => exact like_literal h value

lemma doGetSessions_calm (hio : io.fails = []) {rq : IDatabase.Request}
    {deviceData : Control.DeviceData} (hbulk : rq.bulkData = .deviceData deviceData)
    (hplain : Plain deviceData.hash) {o : DbOutcome} (ho : doGetSessions b io t rq = .ok o) :
    o.tables = t ∧ o.database = [] ∧ o.loaded = [] := by
  unfold doGetSessions at ho
  cases hclient : rq.client with
  | none => simp [hclient] at ho
  | some client =>
    simp only [hclient, hbulk, BulkData.castDeviceData, Except.ok.injEq] at ho
    subst ho
    have htables : (runQuery b io 0 t (if deviceData.hash.isEmpty then .getSessions
        else .getSessionsOf deviceData.hash)).1 = t := by
      split
      · rw [getSessions_calm hio]
      · exact getSessionsOf_calm hio hplain 0
    obtain ⟨h1, h2, h3⟩ := sendList_quiet (runQuery b io 0 t
      (if deviceData.hash.isEmpty then .getSessions else .getSessionsOf deviceData.hash)).1
      io rq client _ _ "Failed to send session list"
    exact ⟨h1.trans htables, h2, h3⟩

/-- What a harmless request of a client does to the tables. -/
inductive ClientEffect (type : DbType) (t : Tables) (rq : IDatabase.Request) (o : DbOutcome) : Prop where
  | none (missing : List String) (htables : o.tables = reshaped missing t)
      (hdatabase : o.database = [])
  | added (deviceData : Control.DeviceData) (hplain : Plain deviceData.hash)
      (hliteral : type = .postgreSQL → Literal deviceData.hash) (hnew : NotFound type deviceData.hash t)
      (htables : o.tables = added type deviceData t)
      (hdatabase : o.database = [⟨.none, .loadDevices, [], .int 0⟩])
  | dropped (hash : String) (hdropped : droppedHash ⟨rq, .none⟩ = some hash)
      (hsome : t.devicesWith (hashMatches type) hash ≠ [])
      (htables : o.tables = dropped type hash t) (hdatabase : o.database = [])
  | replaced (deviceData : Control.DeviceData) (hdropped : droppedHash ⟨rq, .none⟩ = some deviceData.hash)
      (hsome : t.devicesWith (hashMatches type) deviceData.hash ≠ []) (hplain : Plain deviceData.hash)
      (hliteral : type = .postgreSQL → Literal deviceData.hash)
      (htables : o.tables = added type deviceData (dropped type deviceData.hash t))
      (hdatabase : o.database = [⟨.none, .loadDevices, [], .int 0⟩])
  | removed (hash : String) (hended : endedHash ⟨rq, .none⟩ = some hash)
      (htables : o.tables = removed type hash t) (hdatabase : o.database = [])

lemma addDevice_effect (hio : io.fails = []) {client : ClientId} {args : Args}
    {deviceData : Control.DeviceData} (h : Harmless b.type .addDevice args (.deviceData deviceData))
    {o : DbOutcome} (ho : doAddDevice b io t ⟨some client, .addDevice, args, .deviceData deviceData⟩ = .ok o) :
    o.loaded = [] ∧ ClientEffect b.type t ⟨some client, .addDevice, args, .deviceData deviceData⟩ o := by
  obtain ⟨hnone | hsome, hhash, hliteral, hname, haddress⟩ := h
  · have hforced : Args.count args .forced = false := by simp [Args.count, hnone]
    obtain ⟨hloaded, ⟨htables, hdatabase⟩ | ⟨hfound, htables, hdatabase⟩⟩ :=
      doAddDevice_calm hio rfl hforced hhash hname haddress ho
    · exact ⟨hloaded, .none t.missing htables hdatabase⟩
    · exact ⟨hloaded, .added deviceData hhash hliteral hfound htables hdatabase⟩
  · have hforced : forced ⟨some client, .addDevice, args, .deviceData deviceData⟩ = true :=
      decide_eq_true hsome
    obtain ⟨hloaded, htables, hdatabase⟩ :=
      doAddDevice_forced hio rfl hforced hhash hname haddress ho
    by_cases hnone : t.devicesWith (hashMatches b.type) deviceData.hash = []
    · rw [dropped_of_unmatched hnone] at htables
      exact ⟨hloaded, .added deviceData hhash hliteral (.inl hnone) htables hdatabase⟩
    · exact ⟨hloaded, .replaced deviceData (if_pos hforced) hnone hhash hliteral htables hdatabase⟩

lemma client_calm (hio : io.fails = []) {action : Collector.ClientAction} {client : ClientId}
    {args : Args} {bulkData : BulkData} (h : Harmless b.type action args bulkData) {o : DbOutcome}
    (ho : Database.requestHandler b states io t ⟨some client, action.toAction, args, bulkData⟩ = .ok o) :
    o.loaded = [] ∧ ClientEffect b.type t ⟨some client, action.toAction, args, bulkData⟩ o := by
  cases action with
  | initDatabase =>
    have ho' : doInitDatabase b io t ⟨some client, .initDatabase, args, bulkData⟩ = .ok o := ho
    obtain ⟨hloaded, hdatabase, missing, htables⟩ :=
      doInitDatabase_calm (by exact decide_eq_false h) ho'
    exact ⟨hloaded, .none missing htables hdatabase⟩
  | getDevices =>
    simp only [Database.requestHandler, Collector.ClientAction.toAction, doGetDevices, getDevices_calm hio,
      Except.ok.injEq] at ho
    subst ho
    obtain ⟨htables, hdatabase, hloaded⟩ := sendList_quiet t io _ client _ _
      "Failed to send device list"
    exact ⟨hloaded, .none t.missing htables hdatabase⟩
  | getSessions =>
    cases bulkData with
    | deviceData deviceData =>
      have ho' : doGetSessions b io t ⟨some client, .getSessions, args, .deviceData deviceData⟩ = .ok o :=
        ho
      obtain ⟨htables, hdatabase, hloaded⟩ := doGetSessions_calm hio rfl h ho'
      exact ⟨hloaded, .none t.missing htables hdatabase⟩
    | int | sessionInfo | data | status | sessionData =>
      simp [Database.requestHandler, Collector.ClientAction.toAction, doGetSessions,
        BulkData.castDeviceData] at ho
  | addDevice =>
    cases bulkData with
    | deviceData deviceData => exact addDevice_effect hio h ho
    | int | sessionInfo | data | status | sessionData =>
      simp [Database.requestHandler, Collector.ClientAction.toAction, doAddDevice,
        BulkData.castDeviceData] at ho
  | removeDevice =>
    cases bulkData with
    | deviceData deviceData =>
      have ho' : doRemoveDevice b io t ⟨some client, .removeDevice, args, .deviceData deviceData⟩ = .ok o :=
        ho
      obtain ⟨hloaded, hdatabase, htables⟩ := doRemoveDevice_calm hio rfl h ho'
      by_cases hnone : t.devicesWith (hashMatches b.type) deviceData.hash = []
      · rw [dropped_of_unmatched hnone] at htables
        exact ⟨hloaded, .none t.missing htables hdatabase⟩
      · exact ⟨hloaded, .dropped deviceData.hash rfl hnone htables hdatabase⟩
    | int | sessionInfo | data | status | sessionData =>
      simp [Database.requestHandler, Collector.ClientAction.toAction, doRemoveDevice,
        BulkData.castDeviceData] at ho
  | remSession =>
    cases bulkData with
    | sessionData sessionData =>
      have ho' : doRemSession b io t ⟨some client, .remSession, args, .sessionData sessionData⟩ = .ok o :=
        ho
      obtain ⟨hloaded, hdatabase, htables⟩ := doRemSession_calm hio rfl h ho'
      exact ⟨hloaded, .removed sessionData.hash rfl htables hdatabase⟩
    | int | sessionInfo | data | status | deviceData =>
      simp [Database.requestHandler, Collector.ClientAction.toAction, doRemSession,
        BulkData.castSessionData] at ho

end Handlers

lemma mem_journal_queue {c : Collector} {e : DbEntry} {rest : List DbEntry} (hq : c.queue = e :: rest) :
    e ∈ journal c := by
  unfold journal
  rw [hq]
  simp

lemma Base.handled {b : Backend} {c : Collector} (h : Base b c) : ∀ e ∈ c.handled, Queued b.type e :=
  fun e he => h.queued e (List.mem_append_left _ he)

lemma closeEntry_ne_cleanEntry (owner : Option String) (hash : String) :
    closeEntry owner hash ≠ cleanEntry := by
  simp [closeEntry, cleanEntry, Collector.startRequest, endSessionRequest]

lemma unrelated_client {rq : IDatabase.Request} {owner : Option String} (h : rq.client ≠ none) :
    Unrelated ⟨rq, owner⟩ := by
  refine ⟨?_, ?_, ?_, ?_⟩
  · rintro ⟨⟩
    exact h rfl
  · rintro _ _ ⟨⟩
    exact h rfl
  · rintro _ _ ⟨⟩
    exact h rfl
  · rintro _ _ _ ⟨⟩
    exact h rfl

lemma unrelated_start {action : IDatabase.Action} (h : action = .checkDatabase ∨ action = .loadDevices) :
    Unrelated (Collector.startRequest action) := by
  obtain rfl | rfl := h
  · refine ⟨?_, ?_, ?_, ?_⟩ <;> simp [cleanEntry, closeEntry, openEntry, storeEntry,
      Collector.startRequest, endSessionRequest, addSessionRequest, addDataRequest]
  · refine ⟨?_, ?_, ?_, ?_⟩ <;> simp [cleanEntry, closeEntry, openEntry, storeEntry,
      Collector.startRequest, endSessionRequest, addSessionRequest, addDataRequest]

lemma database_move {b : Backend} {c c' : Collector} {io : DbIo} (hb : Base b c)
    (hio : io.fails = []) (h : c.step b (.database io) = .ok c') : Move b c (.database io) c' := by
  unfold Collector.step at h
  cases hq : c.queue with
  | nil =>
    simp only [hq, Except.ok.injEq] at h
    subst h
    exact .idle _
  | cons entry rest =>
    simp only [hq] at h
    obtain ⟨rq, owner⟩ := entry
    cases hb.queued _ (mem_journal_queue hq) with
    | check =>
      simp only [Database.requestHandler, Except.ok.injEq] at h
      subst h
      simpa [Database.quiet] using
        Move.passed io _ rest [] c.tables.missing hq (.inl rfl) (unrelated_start (.inl rfl))
    | load =>
      simp only [Database.requestHandler, Database.doLoadDevices, getDevices_calm hio,
        Except.ok.injEq] at h
      subst h
      simpa [Database.quiet, Database.Reply.deviceList] using
        Move.passed io _ rest c.tables.devices c.tables.missing hq (.inr rfl) (unrelated_start (.inr rfl))
    | clean =>
      simp only [Database.requestHandler, Database.doCleanSessions, getSessions_calm hio,
        Except.ok.injEq] at h
      subst h
      have hended : (c.tables.sessions.map Database.SessionRow.toData).filter
          (fun session => session.ended = 0) =
          (c.tables.sessions.filter (·.endTimestamp = 0)).map Database.SessionRow.toData := by
        rw [List.filter_map]
        rfl
      simp only [Database.quiet, Database.Reply.sessionList, hended, DeviceManager.load, List.map_map]
      exact .cleaned io rest hq
    | client action client args bulkData hharmless =>
      have hentry : Unrelated ⟨⟨some client, action.toAction, args, bulkData⟩, none⟩ :=
        unrelated_client (by simp)
      split at h
      · cases h
      · rename_i o ho
        simp only [Except.ok.injEq] at h
        subst h
        obtain ⟨hloaded, heffect⟩ := client_calm hio hharmless ho
        rw [hloaded]
        cases heffect with
        | none missing htables hdatabase =>
          rw [htables, hdatabase]
          simpa using Move.passed io _ rest [] missing hq (.inl rfl) hentry
        | added deviceData hplain hliteral hnew htables hdatabase =>
          rw [htables, hdatabase]
          exact .added io _ rest deviceData hq hentry hplain hliteral hnew
        | dropped hash hdropped hsome htables hdatabase =>
          rw [htables, hdatabase]
          simp only [List.map_nil, List.append_nil, DeviceManager.load]
          exact .dropped io _ rest hash hq hentry hdropped hsome
        | replaced deviceData hdropped hsome hplain hliteral htables hdatabase =>
          rw [htables, hdatabase]
          exact .replaced io _ rest deviceData hq hentry hdropped hsome hplain hliteral
        | removed hash hended htables hdatabase =>
          rw [htables, hdatabase]
          simp only [List.map_nil, List.append_nil, DeviceManager.load]
          exact .removed io _ rest hash hq hentry rfl hended
    | closed owner hash hplain =>
      simp only [Database.requestHandler, endSessionRequest] at h
      rw [doEndSession_calm hio hplain (by rfl)] at h
      simp only [Except.ok.injEq] at h
      subst h
      simp only [Database.quiet, List.map_nil, List.append_nil, DeviceManager.load]
      exact .closed io owner hash rest hq
    | opened k info hk hh hn =>
      simp only [Database.requestHandler, addSessionRequest] at h
      rw [doAddSession_calm hio hk hh hn (by rfl) (by rfl)] at h
      simp only [Except.ok.injEq] at h
      subst h
      simp only [Database.quiet, List.map_nil, List.append_nil, DeviceManager.load]
      exact .opened io k info rest hq
    | stored k hash data hh hd =>
      simp only [Database.requestHandler, addDataRequest] at h
      rw [doAddData_calm hio hh hd (by rfl) (by rfl)] at h
      simp only [Except.ok.injEq] at h
      subst h
      simp only [Database.quiet, List.map_nil, List.append_nil, DeviceManager.load]
      exact .stored io k hash data rest hq

/-- Every calm dispatch that does not die is one of the listed moves. -/
theorem calm_move {b : Backend} {c c' : Collector} {e : Collector.Event} (hb : Base b c)
    (hcalm : Calm b.type e) (h : c.step b e = .ok c') : Move b c e c' := by
  cases e with
  | device k e =>
    unfold Collector.step at h
    cases hget : c.devices.getDevice k with
    | none =>
      simp only [hget, Except.ok.injEq] at h
      subst h
      exact .idle _
    | some d =>
      simp only [hget] at h
      split at h
      · cases h
      · rename_i o ho
        simp only [Except.ok.injEq] at h
        subst h
        exact .device k e d o.device o.database hget (step_dispatch ho)
  | database io => exact database_move hb hcalm h
  | request action client args bulkData =>
    unfold Collector.step at h
    simp only [Except.ok.injEq] at h
    subst h
    exact .request action client args bulkData hcalm

/-- A database in which a foreign text does nothing. -/
def plainBackend (type : DbType) : Backend := ⟨type, fun _ t => (t, none)⟩

/-- Tables with the given devices and no sessions. -/
def tablesWith (hashes : List String) : Tables where
  devices := hashes.zipIdx.map fun (hash, n) => ⟨n + 1, hash, "", "", 0⟩
  sessions := []
  data := []
  deviceSeq := hashes.length
  sessionSeq := 0

/-- A dispatch of the database queue in which every statement succeeds. -/
def databaseUp : Collector.Event := .database ⟨1, Nat.one_pos, [], true, .isOpen⟩

/-- The requests of start-up are handled. -/
def startUp : List Collector.Event := [databaseUp, databaseUp, databaseUp]

def onDevice (k : String) (events : List Event) : List Collector.Event := events.map (.device k)

/-- The monitor sends messages. -/
def received (input : List Envelope) : Event := .connection ⟨0, 0⟩ input .again

/-- A monitor sends counts of process events. -/
def dataEnvelope : Envelope :=
  ⟨.monitor, .data, .data { (default : Monitor.Data) with
    what := .procEvent
    payload := .procEvent default }⟩

/-- The monitor sends messages and closes the connection. -/
def receivedLast (input : List Envelope) : Event := .connection ⟨0, 0⟩ input .endOfFile

end TkmCollector.Proofs
