import Mathlib.Data.List.Nodup
import TkmCollector.Database

namespace TkmCollector.Proofs

open Query Database

/-! ### The effects -/

/-- `UPDATE` of the sessions with the hash. -/
def ended (type : DbType) (hash : String) (now : Nat) (t : Tables) : Tables :=
  { t with
    sessions := t.sessions.map fun row =>
      if hashMatches type hash row.hash then { row with endTimestamp := now } else row }

/-- `INSERT` of a device. -/
def added (type : DbType) (deviceData : Control.DeviceData) (t : Tables) : Tables :=
  { t with
    devices := t.devices ++ [⟨newId type (t.devices.map (·.id)) t.deviceSeq, deviceData.hash,
      deviceData.name, deviceData.address, deviceData.port⟩]
    deviceSeq := t.deviceSeq + 1 }

/-- `DELETE` of the devices with the hash. -/
def dropped (type : DbType) (hash : String) (t : Tables) : Tables :=
  t.deleteDevices type fun row => hashMatches type hash row.hash

/-- `DELETE` of the sessions with the hash. -/
def removed (type : DbType) (hash : String) (t : Tables) : Tables :=
  t.deleteSessions type fun row => hashMatches type hash row.hash

/-- The row of a new session. -/
def newSession (type : DbType) (info : Monitor.SessionInfo) (now owner : Nat) (t : Tables) :
    SessionRow where
  id := newId type (t.sessions.map (·.id)) t.sessionSeq
  name := info.name
  hash := info.hash
  coreCount := info.coreCount
  startTimestamp := now
  endTimestamp := 0
  device := owner

/-- The ids that the sub-select for a device finds. -/
def deviceIds (type : DbType) (deviceHash : String) (t : Tables) : List Nat :=
  (t.devicesWith (hashMatches type) deviceHash).map (·.id)

/-- The ids that the sub-select for an open session finds. -/
def sessionIds (type : DbType) (sessionHash : String) (t : Tables) : List Nat :=
  (t.openSessionsWith (hashMatches type) sessionHash).map (·.id)

/-- The id that the check for a device finds. -/
def checkedDevice (type : DbType) (hash : String) (t : Tables) : Option Nat :=
  (t.devicesWith (hashMatches type) hash).head?.map DeviceRow.id

/-- The id that the check for a session finds. -/
def checkedSession (type : DbType) (hash : String) (t : Tables) : Option Nat :=
  (t.sessionsWith (hashMatches type) hash).head?.map SessionRow.id

/-- SQLite reads the id that a check finds as the -1 of a row that is not there. -/
def Misread (type : DbType) (id : Option Nat) : Prop := type = .sqlite3 ∧ id.map castInt = some (-1)

instance (type : DbType) (id : Option Nat) : Decidable (Misread type id) :=
  inferInstanceAs (Decidable (_ ∧ _))

/-- The check for a device finds none with the hash. -/
def NotFound (type : DbType) (hash : String) (t : Tables) : Prop :=
  t.devicesWith (hashMatches type) hash = [] ∨ Misread type (checkedDevice type hash t)

/-- The sessions with the hash are deleted when the check for them finds one. -/
def vacated (type : DbType) (hash : String) (t : Tables) : Tables :=
  if Misread type (checkedSession type hash t) then t else removed type hash t

/-- The sessions with the hash are deleted and the new one is inserted, when its device is
found. -/
def opened (type : DbType) (deviceHash : String) (info : Monitor.SessionInfo) (now : Nat)
    (t : Tables) : Tables :=
  let t := vacated type info.hash t
  match scalar type (deviceIds type deviceHash t) with
  | none => t
  | some owner => { t with
      sessions := t.sessions ++ [newSession type info now owner t]
      sessionSeq := t.sessionSeq + 1 }

/-- Other tables are missing, and the rows are the same. -/
def reshaped (missing : List String) (t : Tables) : Tables := { t with missing := missing }

/-- The tables with the names are there. -/
def created (names : List String) (t : Tables) : Tables :=
  reshaped (t.missing.filter fun name => name ∉ names) t

/-- The tables that are created by a query of a handler. -/
def createdNames (type : DbType) (io : DbIo) (n : Nat) : List String :=
  let names := createdTables type
  let upTo := ((List.range names.length).takeWhile fun k => (n, k) ∉ io.fails).length
  match type with
  | .sqlite3 => names.take upTo
  | .postgreSQL => if upTo = names.length then names else []

/-- The rows of a `Data` message, for a session. -/
def dataRows (data : Monitor.Data) (owner : Nat) : List DataRow :=
  match measurement data with
  | none => []
  | some m => (m.inserts (timestamps data)).map fun i => ⟨i.table, i.columns, i.values, owner⟩

/-- The rows of a message are inserted, when an open session is found. -/
def stored (type : DbType) (sessionHash : String) (data : Monitor.Data) (t : Tables) : Tables :=
  match scalar type (sessionIds type sessionHash t) with
  | none => t
  | some owner => { t with data := t.data ++ dataRows data owner }

/-- The strings of a message that are written into its statements. -/
def dataStrings (data : Monitor.Data) : List String :=
  match measurement data with
  | none => []
  | some m => (m.inserts (timestamps data)).flatMap fun i => i.values.filterMap Statement.valueString

lemma dataStrings_eq {data data' : Monitor.Data} (hwhat : data'.what = data.what)
    (hpayload : data'.payload = data.payload) : dataStrings data' = dataStrings data := by
  have hm : measurement data' = measurement data := by
    unfold measurement
    rw [hwhat, hpayload]
  unfold dataStrings
  rw [hm]
  cases measurement data with
  | none => rfl
  | some m => cases m <;> simp only [Measurement.inserts, List.flatMap_map, List.flatMap_cons] <;> rfl

/-! ### The rows that an effect leaves -/

@[simp] lemma reshaped_self (t : Tables) : reshaped t.missing t = t := rfl

@[simp] lemma reshaped_devices (missing : List String) (t : Tables) :
    (reshaped missing t).devices = t.devices := rfl

@[simp] lemma reshaped_sessions (missing : List String) (t : Tables) :
    (reshaped missing t).sessions = t.sessions := rfl

@[simp] lemma vacated_devices (type : DbType) (hash : String) (t : Tables) :
    (vacated type hash t).devices = t.devices := by
  unfold vacated
  split <;> rfl

@[simp] lemma vacated_deviceSeq (type : DbType) (hash : String) (t : Tables) :
    (vacated type hash t).deviceSeq = t.deviceSeq := by
  unfold vacated
  split <;> rfl

@[simp] lemma deviceIds_vacated (type : DbType) (deviceHash hash : String) (t : Tables) :
    deviceIds type deviceHash (vacated type hash t) = deviceIds type deviceHash t := by
  unfold deviceIds Tables.devicesWith
  rw [vacated_devices]

lemma vacated_of_read {type : DbType} {hash : String} {t : Tables}
    (h : ¬ Misread type (checkedSession type hash t)) : vacated type hash t = removed type hash t :=
  if_neg h

@[simp] lemma opened_devices (type : DbType) (deviceHash : String) (info : Monitor.SessionInfo)
    (now : Nat) (t : Tables) : (opened type deviceHash info now t).devices = t.devices := by
  unfold opened
  dsimp only
  split <;> simp

@[simp] lemma opened_deviceSeq (type : DbType) (deviceHash : String) (info : Monitor.SessionInfo)
    (now : Nat) (t : Tables) : (opened type deviceHash info now t).deviceSeq = t.deviceSeq := by
  unfold opened
  dsimp only
  split <;> simp

@[simp] lemma stored_deviceSeq (type : DbType) (sessionHash : String) (data : Monitor.Data)
    (t : Tables) : (stored type sessionHash data t).deviceSeq = t.deviceSeq := by
  unfold stored
  split <;> rfl

@[simp] lemma stored_devices (type : DbType) (sessionHash : String) (data : Monitor.Data) (t : Tables) :
    (stored type sessionHash data t).devices = t.devices := by
  unfold stored
  split <;> rfl

@[simp] lemma stored_sessions (type : DbType) (sessionHash : String) (data : Monitor.Data)
    (t : Tables) : (stored type sessionHash data t).sessions = t.sessions := by
  unfold stored
  split <;> rfl

/-- A session that is open after an `UPDATE` was open before, and is not one of those. -/
lemma mem_ended {type : DbType} {hash : String} {now : Nat} {t : Tables} {row : SessionRow}
    (h : row ∈ (ended type hash now t).sessions) (hopen : row.endTimestamp = 0) (hnow : 0 < now) :
    row ∈ t.sessions ∧ hashMatches type hash row.hash = false := by
  obtain ⟨row', hrow', rfl⟩ := List.mem_map.mp h
  by_cases hmatch : hashMatches type hash row'.hash = true
  · rw [if_pos hmatch] at hopen
    dsimp only at hopen
    omega
  · rw [if_neg hmatch]
    exact ⟨hrow', by simpa using hmatch⟩

lemma mem_removed {type : DbType} {hash : String} {t : Tables} {row : SessionRow} :
    row ∈ (removed type hash t).sessions ↔
      row ∈ t.sessions ∧ hashMatches type hash row.hash = false := by
  simp [removed, Tables.deleteSessions]

lemma mem_vacated {type : DbType} {hash : String} {t : Tables} {row : SessionRow}
    (h : row ∈ (vacated type hash t).sessions) : row ∈ t.sessions ∧
      (hashMatches type hash row.hash = false ∨ Misread type (checkedSession type hash t)) := by
  unfold vacated at h
  split at h
  · rename_i hread
    exact ⟨h, .inr hread⟩
  · exact ⟨(mem_removed.mp h).1, .inl (mem_removed.mp h).2⟩

@[simp] lemma dropped_devices (type : DbType) (hash : String) (t : Tables) :
    (dropped type hash t).devices = t.devices.filter fun row => !hashMatches type hash row.hash := by
  cases type <;> rfl

@[simp] lemma dropped_deviceSeq (type : DbType) (hash : String) (t : Tables) :
    (dropped type hash t).deviceSeq = t.deviceSeq := by
  cases type <;> rfl

lemma mem_dropped {type : DbType} {hash : String} {t : Tables} {row : SessionRow}
    (h : row ∈ (dropped type hash t).sessions) : row ∈ t.sessions := by
  cases type with
  | sqlite3 => exact h
  | postgreSQL => exact List.mem_of_mem_filter h

lemma mem_of_scalar {type : DbType} {ids : List Nat} {id : Nat} (h : scalar type ids = some id) :
    id ∈ ids := by
  unfold scalar at h
  split at h
  · exact List.mem_of_mem_head? h
  · simp_all
  · cases h

lemma mem_opened {type : DbType} {deviceHash : String} {info : Monitor.SessionInfo} {now : Nat}
    {t : Tables} {row : SessionRow} (h : row ∈ (opened type deviceHash info now t).sessions) :
    row ∈ t.sessions ∧ (hashMatches type info.hash row.hash = false ∨
        Misread type (checkedSession type info.hash t)) ∨
      ∃ owner, scalar type (deviceIds type deviceHash t) = some owner ∧
        row = newSession type info now owner (vacated type info.hash t) := by
  unfold opened at h
  dsimp only at h
  rw [deviceIds_vacated] at h
  split at h
  · exact .inl (mem_vacated h)
  · rename_i owner hscalar
    obtain hold | hnew := List.mem_append.mp h
    · exact .inl (mem_vacated hold)
    · exact .inr ⟨owner, hscalar, List.mem_singleton.mp hnew⟩

lemma dataRows_session {data : Monitor.Data} {owner : Nat} {entry : DataRow}
    (h : entry ∈ dataRows data owner) : entry.session = owner := by
  unfold dataRows at h
  split at h
  · cases h
  · obtain ⟨i, -, rfl⟩ := List.mem_map.mp h
    rfl

/-! ### The ids of sessions -/

/-- The ids of the sessions are distinct, and the sequence of PostgreSQL is beyond them. -/
structure Numbered (type : DbType) (t : Tables) : Prop where
  distinct : (t.sessions.map SessionRow.id).Nodup
  bound : type = .postgreSQL → ∀ row ∈ t.sessions, row.id ≤ t.sessionSeq

instance (type : DbType) (t : Tables) : Decidable (Numbered type t) :=
  decidable_of_iff ((t.sessions.map SessionRow.id).Nodup ∧
      (type = .postgreSQL → ∀ row ∈ t.sessions, row.id ≤ t.sessionSeq))
    ⟨fun ⟨h₁, h₂⟩ => ⟨h₁, h₂⟩, fun h => ⟨h.distinct, h.bound⟩⟩

lemma le_foldr_max {ids : List Nat} {id : Nat} (h : id ∈ ids) : id ≤ ids.foldr max 0 := by
  induction ids with
  | nil => cases h
  | cons first rest ih =>
    rw [List.foldr_cons]
    obtain rfl | hrest := List.mem_cons.mp h
    · omega
    · have := ih hrest
      omega

lemma newId_not_mem {type : DbType} {ids : List Nat} {seq : Nat}
    (h : type = .postgreSQL → ∀ id ∈ ids, id ≤ seq) : newId type ids seq ∉ ids := by
  intro hmem
  cases type with
  | sqlite3 =>
    have := le_foldr_max hmem
    simp only [newId] at this
    omega
  | postgreSQL =>
    have := h rfl _ hmem
    simp only [newId] at this
    omega

lemma nodup_newId {type : DbType} {ids : List Nat} {seq : Nat} (h : ids.Nodup)
    (hbound : type = .postgreSQL → ∀ id ∈ ids, id ≤ seq) : (ids ++ [newId type ids seq]).Nodup := by
  rw [List.nodup_append]
  refine ⟨h, List.nodup_singleton _, ?_⟩
  rintro id hid _ hnew rfl
  rw [List.mem_singleton.mp hnew] at hid
  exact newId_not_mem hbound hid

lemma Numbered.joined {type : DbType} {t t' : Tables} {row : SessionRow} (h : Numbered type t)
    (hid : row.id = newId type (t.sessions.map SessionRow.id) t.sessionSeq)
    (hsessions : t'.sessions = t.sessions ++ [row]) (hseq : t'.sessionSeq = t.sessionSeq + 1) :
    Numbered type t' := by
  refine ⟨?_, fun htype row' hrow => ?_⟩
  · rw [hsessions, List.map_append, List.map_singleton, hid]
    apply nodup_newId h.distinct
    intro htype id hmem
    obtain ⟨old, hold, rfl⟩ := List.mem_map.mp hmem
    exact h.bound htype old hold
  · rw [hsessions] at hrow
    rw [hseq]
    obtain hold | hnew := List.mem_append.mp hrow
    · exact Nat.le_succ_of_le (h.bound htype row' hold)
    · rw [List.mem_singleton.mp hnew, hid, htype]
      exact Nat.le_refl _

lemma numbered_reshaped {type : DbType} {missing : List String} {t : Tables} (h : Numbered type t) :
    Numbered type (reshaped missing t) := ⟨h.distinct, h.bound⟩

lemma numbered_ended {type : DbType} {hash : String} {now : Nat} {t : Tables} (h : Numbered type t) :
    Numbered type (ended type hash now t) := by
  have hids : (ended type hash now t).sessions.map SessionRow.id = t.sessions.map SessionRow.id := by
    unfold ended
    rw [List.map_map]
    apply List.map_congr_left
    intro row _
    simp only [Function.comp_apply]
    split <;> rfl
  refine ⟨by rw [hids]; exact h.distinct, fun htype row hrow => ?_⟩
  have hmem : row.id ∈ t.sessions.map SessionRow.id := hids ▸ List.mem_map_of_mem hrow
  obtain ⟨row', hrow', hid⟩ := List.mem_map.mp hmem
  exact hid ▸ h.bound htype row' hrow'

lemma numbered_deleted {type : DbType} {gone : SessionRow → Bool} {t : Tables}
    (h : Numbered type t) : Numbered type (t.deleteSessions type gone) where
  distinct := h.distinct.sublist (List.filter_sublist.map _)
  bound htype row hrow := h.bound htype row (List.mem_of_mem_filter hrow)

lemma numbered_removed {type : DbType} {hash : String} {t : Tables} (h : Numbered type t) :
    Numbered type (removed type hash t) := numbered_deleted h

lemma numbered_vacated {type : DbType} {hash : String} {t : Tables} (h : Numbered type t) :
    Numbered type (vacated type hash t) := by
  unfold vacated
  split
  · exact h
  · exact numbered_removed h

lemma numbered_dropped {type : DbType} {hash : String} {t : Tables} (h : Numbered type t) :
    Numbered type (dropped type hash t) := by
  cases type with
  | sqlite3 => exact ⟨h.distinct, h.bound⟩
  | postgreSQL => exact numbered_deleted ⟨h.distinct, h.bound⟩

lemma numbered_opened {type : DbType} {deviceHash : String} {info : Monitor.SessionInfo} {now : Nat}
    {t : Tables} (h : Numbered type t) : Numbered type (opened type deviceHash info now t) := by
  have hr : Numbered type (vacated type info.hash t) := numbered_vacated h
  unfold opened
  dsimp only
  split
  · exact hr
  · exact hr.joined rfl rfl rfl

lemma numbered_stored {type : DbType} {sessionHash : String} {data : Monitor.Data} {t : Tables}
    (h : Numbered type t) : Numbered type (stored type sessionHash data t) := by
  unfold stored
  split
  · exact h
  · exact ⟨h.distinct, h.bound⟩

lemma not_cascaded {type : DbType} {gone : SessionRow → Bool} {t : Tables} {row : SessionRow}
    (h : Numbered type t) (hrow : row ∈ t.sessions) (hkeep : gone row = false) :
    (t.sessions.any fun s => gone s && s.id == row.id) = false := by
  rw [List.any_eq_false]
  intro s hs hcond
  simp only [Bool.and_eq_true, beq_iff_eq] at hcond
  obtain rfl : s = row := List.inj_on_of_nodup_map h.distinct hs hrow hcond.2
  rw [hkeep] at hcond
  cases hcond.1

lemma runQuery_one {b : Backend} {io : DbIo} {call : Call} {st : Statement} (hio : io.fails = [])
    (hplain : ∀ s ∈ call.strings, Plain s) (hst : call.statements = [st]) (n : Nat) (t : Tables) :
    runQuery b io n t call = match st.exec b.type t with
      | some (t', reply) => (t', some reply)
      | none => (t, none) := by
  unfold runQuery
  rw [if_pos hplain, hst, hio]
  cases hexec : st.exec b.type t with
  | none => cases htype : b.type <;> simp_all [execAll]
  | some r => cases htype : b.type <;> simp_all [execAll]

section Unmatched

variable {type : DbType} {t : Tables} {hash : String}

lemma deleteSessions_of_none {gone : SessionRow → Bool} (h : ∀ row ∈ t.sessions, gone row = false) :
    t.deleteSessions type gone = t := by
  have hsessions : (t.sessions.filter fun row => !gone row) = t.sessions := by
    apply List.filter_eq_self.mpr
    intro row hrow
    rw [h row hrow]
    rfl
  have hdata : (t.data.filter fun row => !t.sessions.any fun s => gone s && s.id == row.session) =
      t.data := by
    apply List.filter_eq_self.mpr
    intro row _
    have hany : (t.sessions.any fun s => gone s && s.id == row.session) = false := by
      apply List.any_eq_false.mpr
      intro s hs
      rw [h s hs]
      simp
    rw [hany]
    rfl
  unfold Tables.deleteSessions
  rw [hsessions]
  cases type with
  | sqlite3 => rfl
  | postgreSQL => rw [hdata]

lemma dropped_of_unmatched (h : t.devicesWith (hashMatches type) hash = []) :
    dropped type hash t = t := by
  have hnone : ∀ row ∈ t.devices, hashMatches type hash row.hash = false := by
    intro row hrow
    simpa using List.filter_eq_nil_iff.mp h row hrow
  have hdevices : (t.devices.filter fun row => !hashMatches type hash row.hash) = t.devices := by
    apply List.filter_eq_self.mpr
    intro row hrow
    rw [hnone row hrow]
    rfl
  unfold dropped Tables.deleteDevices
  rw [hdevices]
  cases type with
  | sqlite3 => rfl
  | postgreSQL =>
    apply deleteSessions_of_none
    intro s _
    apply List.any_eq_false.mpr
    intro row hrow
    simp [hnone row hrow]

lemma removed_of_unmatched (h : t.sessionsWith (hashMatches type) hash = []) :
    removed type hash t = t := by
  apply deleteSessions_of_none
  intro row hrow
  simpa using List.filter_eq_nil_iff.mp h row hrow

end Unmatched

/-- A check finds nothing when no row is there, and when SQLite reads the id of the row as -1. -/
lemma found_id {type : DbType} {id : Option Nat} :
    Reply.found type (some (.id id)) = false ↔ id = none ∨ Misread type id := by
  unfold Misread
  cases id with
  | none => simp [Reply.found]
  | some id => cases type <;> simp [Reply.found]

lemma found_hasDevice {type : DbType} {hash : String} {t : Tables} :
    Reply.found type (some (.id (checkedDevice type hash t))) = false ↔ NotFound type hash t := by
  rw [found_id]
  simp [checkedDevice, NotFound]

lemma found_hasSession {type : DbType} {hash : String} {t : Tables} :
    Reply.found type (some (.id (checkedSession type hash t))) = false ↔
      t.sessionsWith (hashMatches type) hash = [] ∨ Misread type (checkedSession type hash t) := by
  rw [found_id]
  simp [checkedSession]

lemma removed_of_found (type : DbType) (hash : String) (t : Tables) :
    (if Reply.found type (some (.id (checkedSession type hash t))) = true then removed type hash t
      else t) = vacated type hash t := by
  unfold vacated
  by_cases hread : Misread type (checkedSession type hash t)
  · rw [found_hasSession.mpr (.inr hread), if_pos hread]
    rfl
  · rw [if_neg hread]
    by_cases hnone : t.sessionsWith (hashMatches type) hash = []
    · rw [removed_of_unmatched hnone, ite_self]
    · have hfound := mt found_hasSession.mp (not_or.mpr ⟨hnone, hread⟩)
      rw [if_pos (by simpa using hfound)]

lemma not_misread_postgreSQL {id : Option Nat} : ¬ Misread .postgreSQL id := by
  simp [Misread]

lemma Misread.matched_device {type : DbType} {hash : String} {t : Tables}
    (h : Misread type (checkedDevice type hash t)) : t.devicesWith (hashMatches type) hash ≠ [] := by
  intro hnone
  simp [Misread, checkedDevice, hnone] at h

lemma Misread.matched_session {type : DbType} {hash : String} {t : Tables}
    (h : Misread type (checkedSession type hash t)) : t.sessionsWith (hashMatches type) hash ≠ [] := by
  intro hnone
  simp [Misread, checkedSession, hnone] at h

lemma doEndSession_calm {b : Backend} {io : DbIo} {t : Tables} {hash : String} (hio : io.fails = [])
    (hplain : Plain hash) {rq : IDatabase.Request} (hrq : rq.args.lookup .sessionHash = some hash) :
    doEndSession b io t rq = .ok (quiet (ended b.type hash io.now t)) := by
  unfold doEndSession
  rw [hrq]
  dsimp only
  rw [runQuery_one hio (by simpa [Call.strings, Call.statements, Statement.strings] using hplain) rfl]
  rfl

lemma hasSession_calm {b : Backend} {io : DbIo} {hash : String} (hio : io.fails = [])
    (hplain : Plain hash) (n : Nat) (t : Tables) :
    runQuery b io n t (.hasSession hash) =
      (t, some (.id (checkedSession b.type hash t))) := by
  rw [runQuery_one hio (by simpa [Call.strings, Call.statements, Statement.strings] using hplain) rfl]
  rfl

lemma remSession_calm {b : Backend} {io : DbIo} {hash : String} (hio : io.fails = [])
    (hplain : Plain hash) (n : Nat) (t : Tables) :
    runQuery b io n t (.remSession hash) = (removed b.type hash t, some .done) := by
  rw [runQuery_one hio (by simpa [Call.strings, Call.statements, Statement.strings] using hplain) rfl]
  rfl

lemma hasDevice_calm {b : Backend} {io : DbIo} {hash : String} (hio : io.fails = [])
    (hplain : Plain hash) (n : Nat) (t : Tables) :
    runQuery b io n t (.hasDevice hash) =
      (t, some (.id (checkedDevice b.type hash t))) := by
  rw [runQuery_one hio (by simpa [Call.strings, Call.statements, Statement.strings] using hplain) rfl]
  rfl

lemma addDevice_calm {b : Backend} {io : DbIo} {deviceData : Control.DeviceData} (hio : io.fails = [])
    (hhash : Plain deviceData.hash) (hname : Plain deviceData.name)
    (haddress : Plain deviceData.address) (n : Nat) (t : Tables) :
    runQuery b io n t (.addDevice deviceData.hash deviceData.name deviceData.address deviceData.port) =
      (added b.type deviceData t, some .done) := by
  have hstrings : ∀ s ∈ (Call.addDevice deviceData.hash deviceData.name deviceData.address
      deviceData.port).strings, Plain s := by
    simpa [Call.strings, Call.statements, Statement.strings] using ⟨hhash, hname, haddress⟩
  rw [runQuery_one hio hstrings rfl]
  rfl

lemma doAddDevice_calm {b : Backend} {io : DbIo} {t : Tables} {rq : IDatabase.Request}
    {deviceData : Control.DeviceData} {o : DbOutcome} (hio : io.fails = [])
    (hbulk : rq.bulkData = .deviceData deviceData) (hforced : rq.args.count .forced = false)
    (hhash : Plain deviceData.hash) (hname : Plain deviceData.name)
    (haddress : Plain deviceData.address) (ho : doAddDevice b io t rq = .ok o) :
    o.loaded = [] ∧ (o.tables = t ∧ o.database = [] ∨
      NotFound b.type deviceData.hash t ∧ o.tables = added b.type deviceData t ∧
        o.database = [⟨none, .loadDevices, [], .int 0⟩]) := by
  have hnot : forced rq = false := by
    have hnone : rq.args.lookup .forced = none := by simpa [Args.count] using hforced
    simp [forced, hnone]
  unfold doAddDevice at ho
  cases hclient : rq.client with
  | none => simp [hclient] at ho
  | some client =>
    simp only [hclient, hbulk, BulkData.castDeviceData, hasDevice_calm hio hhash, hforced, hnot] at ho
    cases hfound : Reply.found b.type (some (.id (checkedDevice b.type deviceData.hash t))) with
    | true =>
      simp [hfound, answer, quiet] at ho
      subst ho
      exact ⟨rfl, .inl ⟨rfl, rfl⟩⟩
    | false =>
      simp [hfound, answer, quiet, addDevice_calm hio hhash hname haddress] at ho
      subst ho
      exact ⟨rfl, .inr ⟨found_hasDevice.mp hfound, rfl, rfl⟩⟩

lemma remDevice_calm {b : Backend} {io : DbIo} {hash : String} (hio : io.fails = [])
    (hplain : Plain hash) (n : Nat) (t : Tables) :
    runQuery b io n t (.remDevice hash) = (dropped b.type hash t, some .done) := by
  rw [runQuery_one hio (by simpa [Call.strings, Call.statements, Statement.strings] using hplain) rfl]
  rfl

lemma doAddDevice_forced {b : Backend} {io : DbIo} {t : Tables} {rq : IDatabase.Request}
    {deviceData : Control.DeviceData} {o : DbOutcome} (hio : io.fails = [])
    (hbulk : rq.bulkData = .deviceData deviceData) (hforced : forced rq = true)
    (hhash : Plain deviceData.hash) (hname : Plain deviceData.name)
    (haddress : Plain deviceData.address) (ho : doAddDevice b io t rq = .ok o) :
    o.loaded = [] ∧ o.tables = added b.type deviceData (dropped b.type deviceData.hash t) ∧
      o.database = [⟨none, .loadDevices, [], .int 0⟩] := by
  have hcount : rq.args.count .forced = true := by
    have hsome : rq.args.lookup .forced = some (valFor .true) := by simpa [forced] using hforced
    simp [Args.count, hsome]
  unfold doAddDevice at ho
  cases hclient : rq.client with
  | none => simp [hclient] at ho
  | some client =>
    simp [hclient, hbulk, BulkData.castDeviceData, hasDevice_calm hio hhash, hforced, hcount,
      remDevice_calm hio hhash, addDevice_calm hio hhash hname haddress, answer, quiet] at ho
    subst ho
    exact ⟨rfl, rfl, rfl⟩

lemma doRemoveDevice_calm {b : Backend} {io : DbIo} {t : Tables} {rq : IDatabase.Request}
    {deviceData : Control.DeviceData} {o : DbOutcome} (hio : io.fails = [])
    (hbulk : rq.bulkData = .deviceData deviceData) (hhash : Plain deviceData.hash)
    (ho : doRemoveDevice b io t rq = .ok o) :
    o.loaded = [] ∧ o.database = [] ∧ o.tables = dropped b.type deviceData.hash t := by
  unfold doRemoveDevice at ho
  cases hclient : rq.client with
  | none => simp [hclient] at ho
  | some client =>
    simp [hclient, hbulk, BulkData.castDeviceData, hasDevice_calm hio hhash,
      remDevice_calm hio hhash, answer, quiet] at ho
    subst ho
    exact ⟨rfl, rfl, rfl⟩

lemma doRemSession_calm {b : Backend} {io : DbIo} {t : Tables} {rq : IDatabase.Request}
    {sessionData : Control.SessionData} {o : DbOutcome} (hio : io.fails = [])
    (hbulk : rq.bulkData = .sessionData sessionData) (hhash : Plain sessionData.hash)
    (ho : doRemSession b io t rq = .ok o) :
    o.loaded = [] ∧ o.database = [] ∧ o.tables = removed b.type sessionData.hash t := by
  unfold doRemSession at ho
  cases hclient : rq.client with
  | none => simp [hclient] at ho
  | some client =>
    simp only [hclient, hbulk, BulkData.castSessionData, hasSession_calm hio hhash,
      remSession_calm hio hhash] at ho
    by_cases hmissing : b.type = .postgreSQL ∧
        Reply.found b.type (some (.id (checkedSession b.type sessionData.hash t))) = false
    · rw [if_pos hmissing] at ho
      simp [answer, quiet] at ho
      subst ho
      obtain hnone | hread := found_hasSession.mp hmissing.2
      · exact ⟨rfl, rfl, (removed_of_unmatched hnone).symm⟩
      · rw [hmissing.1] at hread
        exact absurd hread not_misread_postgreSQL
    · rw [if_neg hmissing] at ho
      simp [answer, quiet] at ho
      subst ho
      exact ⟨rfl, rfl, rfl⟩

lemma foldl_createTable (names : List String) (t : Tables) : names.foldl createTable t = created names t := by
  induction names generalizing t with
  | nil => simp [created]
  | cons name names ih =>
    rw [List.foldl_cons, ih]
    simp only [created, createTable, reshaped, List.filter_filter, List.mem_cons, not_or]
    congr 1
    apply List.filter_congr
    intro other _
    rw [Bool.eq_iff_iff]
    simp [and_comm]

lemma runCreateTables_tables (b : Backend) (io : DbIo) (n : Nat) (t : Tables) :
    (runCreateTables b io n t).1 = created (createdNames b.type io n) t := by
  unfold runCreateTables createdNames
  simp only [foldl_createTable]
  cases b.type with
  | sqlite3 => rfl
  | postgreSQL =>
    dsimp only
    split
    · rfl
    · simp [created]

lemma doInitDatabase_calm {b : Backend} {io : DbIo} {t : Tables} {rq : IDatabase.Request}
    {o : DbOutcome} (hforced : forced rq = false) (ho : doInitDatabase b io t rq = .ok o) :
    o.loaded = [] ∧ o.database = [] ∧ ∃ missing, o.tables = reshaped missing t := by
  unfold doInitDatabase at ho
  rw [hforced] at ho
  have hcreated : ∃ missing, (runCreateTables b io 1 t).1 = reshaped missing t :=
    ⟨_, runCreateTables_tables b io 1 t⟩
  cases htype : b.type with
  | sqlite3 =>
    simp only [htype, Except.ok.injEq] at ho
    subst ho
    exact ⟨rfl, rfl, hcreated⟩
  | postgreSQL =>
    cases hlink : io.link with
    | isOpen | reopened =>
      simp only [htype, hlink, Except.ok.injEq] at ho
      subst ho
      exact ⟨rfl, rfl, hcreated⟩
    | closed =>
      simp only [htype, hlink, Except.ok.injEq] at ho
      subst ho
      exact ⟨rfl, rfl, t.missing, rfl⟩
    | broken => simp [htype, hlink] at ho

lemma addSession_calm {b : Backend} {io : DbIo} {deviceHash : String} {info : Monitor.SessionInfo}
    (hio : io.fails = []) (hdevice : Plain deviceHash) (hhash : Plain info.hash)
    (hname : Plain info.name) (n : Nat) (t : Tables) :
    (runQuery b io n t (.addSession info deviceHash io.now)).1 =
      match scalar b.type (deviceIds b.type deviceHash t) with
      | none => t
      | some owner => { t with
          sessions := t.sessions ++ [newSession b.type info io.now owner t]
          sessionSeq := t.sessionSeq + 1 } := by
  have hstrings : ∀ s ∈ (Call.addSession info deviceHash io.now).strings, Plain s := by
    simpa [Call.strings, Call.statements, Statement.strings] using ⟨hhash, hname, hdevice⟩
  rw [runQuery_one hio hstrings rfl]
  simp only [Statement.exec, Statement.execWith, deviceIds]
  cases scalar b.type ((t.devicesWith (hashMatches b.type) deviceHash).map (·.id)) with
  | none => rfl
  | some owner => rfl

lemma doAddSession_calm {b : Backend} {io : DbIo} {t : Tables} {deviceHash : String}
    {info : Monitor.SessionInfo} (hio : io.fails = []) (hdevice : Plain deviceHash)
    (hhash : Plain info.hash) (hname : Plain info.name) {rq : IDatabase.Request}
    (hargs : rq.args.lookup .deviceHash = some deviceHash) (hbulk : rq.bulkData = .sessionInfo info) :
    doAddSession b io t rq = .ok (quiet (opened b.type deviceHash info io.now t)) := by
  unfold doAddSession
  simp only [hbulk, hargs, BulkData.castSessionInfo, hasSession_calm hio hhash,
    remSession_calm hio hhash, removed_of_found, addSession_calm hio hdevice hhash hname]
  rfl

lemma exec_insertData (type : DbType) (i : Insert) (sessionHash : String) (t : Tables) :
    (Statement.insertData i sessionHash).exec type t =
      (scalar type (sessionIds type sessionHash t)).map fun owner =>
        ({ t with data := t.data ++ [⟨i.table, i.columns, i.values, owner⟩] }, .done) := by
  have hids : (t.openSessionsWith (hashMatches type) sessionHash).map (·.id) =
      sessionIds type sessionHash t := rfl
  simp only [Statement.exec, Statement.execWith]
  rw [hids]
  cases scalar type (sessionIds type sessionHash t) <;> rfl

/-- The `INSERT`s of a message find the same session, since none of them changes one. -/
lemma execAll_insertData (type : DbType) (n : Nat) (sessionHash : String) (inserts : List Insert)
    (k : Nat) (t : Tables) (reply : Reply) :
    (execAll type [] n k t reply (inserts.map (.insertData · sessionHash))) =
      match scalar type (sessionIds type sessionHash t) with
      | none => if inserts = [] then (t, some reply) else (t, none)
      | some owner =>
        ({ t with data := t.data ++ inserts.map fun i => ⟨i.table, i.columns, i.values, owner⟩ },
          if inserts = [] then some reply else some .done) := by
  induction inserts generalizing k t reply with
  | nil => cases scalar type (sessionIds type sessionHash t) <;> simp [execAll]
  | cons i inserts ih =>
    cases hscalar : scalar type (sessionIds type sessionHash t) with
    | none =>
      simp [execAll, exec_insertData, hscalar]
    | some owner =>
      have hsame : sessionIds type sessionHash
          { t with data := t.data ++ [⟨i.table, i.columns, i.values, owner⟩] } =
          sessionIds type sessionHash t := rfl
      simp only [List.map_cons, execAll, List.not_mem_nil, if_false, exec_insertData, hscalar,
        Option.map_some]
      rw [ih, hsame, hscalar]
      simp

lemma doAddData_calm {b : Backend} {io : DbIo} {t : Tables} {sessionHash : String}
    {data : Monitor.Data} (hio : io.fails = []) (hhash : Plain sessionHash)
    (hdata : ∀ s ∈ dataStrings data, Plain s) {rq : IDatabase.Request}
    (hargs : rq.args.lookup .sessionHash = some sessionHash) (hbulk : rq.bulkData = .data data) :
    doAddData b io t rq = .ok (quiet (stored b.type sessionHash data t)) := by
  unfold doAddData
  simp only [hbulk, hargs, BulkData.castData]
  unfold stored dataRows
  cases hm : measurement data with
  | none => cases scalar b.type (sessionIds b.type sessionHash t) <;> simp
  | some m =>
    have hstrings : ∀ s ∈ (Call.addData sessionHash m (timestamps data)).strings, Plain s := by
      intro s hs
      obtain ⟨st, hst, hs⟩ := List.mem_flatMap.mp hs
      obtain ⟨i, hi, rfl⟩ := List.mem_map.mp hst
      obtain hvalue | hsession := List.mem_append.mp hs
      · apply hdata
        simp only [dataStrings, hm]
        exact List.mem_flatMap.mpr ⟨i, hi, hvalue⟩
      · obtain rfl := List.mem_singleton.mp hsession
        exact hhash
    simp only [runQuery]
    rw [if_pos hstrings, hio]
    simp only [Call.statements, execAll_insertData]
    cases htype : b.type <;>
      cases hscalar : scalar b.type (sessionIds b.type sessionHash t) <;>
      by_cases hnil : m.inserts (timestamps data) = [] <;> simp_all

end TkmCollector.Proofs
