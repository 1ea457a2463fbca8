import TkmCollector.Library.References
import TkmCollector.Proofs.CollectorFrame
import TkmCollector.Proofs.Orders

namespace TkmCollector.Proofs

open References Database

/-- Every session names a device, and every row of data a session. -/
structure Intact (t : Tables) : Prop where
  sessions : References.Linked DeviceRow.id SessionRow.device t.devices t.sessions
  data : References.Linked SessionRow.id DataRow.session t.sessions t.data

/-- The check of a handler and the `DELETE` after it go through. -/
def DeletesRun (io : DbIo) : Prop := (0, 0) ∉ io.fails ∧ (1, 0) ∉ io.fails

instance (io : DbIo) : Decidable (DeletesRun io) := inferInstanceAs (Decidable (_ ∧ _))

/-- The devices that a request deletes. -/
def deletedDevices (t : Tables) (s : Service) : List DeviceRow :=
  match s.order with
  | .addDevice _ _ true deviceData | .removeDevice _ _ _ deviceData =>
    if DeletesRun s.io then t.devicesWith (hashMatches .sqlite3) deviceData.hash else []
  | .initDatabase _ true =>
    if Query.devicesTableName ∈ droppedNames .sqlite3 s.io 0 then t.devices else []
  | _ => []

/-- The sessions that a request deletes. -/
def deletedSessions (t : Tables) (s : Service) : List SessionRow :=
  match s.order with
  | .remSession _ _ _ sessionData =>
    if DeletesRun s.io then t.sessionsWith (hashMatches .sqlite3) sessionData.hash else []
  | .addSession _ info =>
    if DeletesRun s.io ∧ ¬ Misread .sqlite3 (checkedSession .sqlite3 info.hash t) then
      t.sessionsWith (hashMatches .sqlite3) info.hash
    else []
  | .initDatabase _ true =>
    if Query.sessionsTableName ∈ droppedNames .sqlite3 s.io 0 then t.sessions else []
  | _ => []

/-- The rows of data that a request deletes. -/
def deletedData (t : Tables) (s : Service) : List DataRow :=
  match s.order with
  | .initDatabase _ true =>
    t.data.filter fun row => row ∉ (erased (droppedNames .sqlite3 s.io 0) t).data
  | _ => []

/-- The session has not changed, but for its end. -/
def SameSession (row row' : SessionRow) : Prop :=
  { row with endTimestamp := row'.endTimestamp } = row'

/-- The request recorded the session for the device that it names. -/
def RecordedNow (s : Service) (t' : Tables) (row : SessionRow) : Prop :=
  ∃ deviceHash info, s.order = .addSession deviceHash info ∧ row.hash = info.hash ∧
    ∃ d ∈ t'.devices, d.id = row.device ∧ d.hash = deviceHash

/-- The request stored the row under the session that it names. -/
def StoredNow (s : Service) (t' : Tables) (row : DataRow) : Prop :=
  ∃ sessionHash data, s.order = .addData sessionHash data ∧
    ∃ r ∈ t'.sessions, r.id = row.session ∧ r.hash = sessionHash ∧ r.endTimestamp = 0

/-- A session that was there names the device that it named before, and a row of data the
session. New rows name what they are recorded for, and none names a row that was deleted. -/
structure KeepsReferences (t : Tables) (s : Service) (t' : Tables) : Prop where
  sessions : ∀ row ∈ t'.sessions, (∃ old ∈ t.sessions, SameSession old row ∧
    ∃ d ∈ t.devices, d.id = row.device ∧ d ∈ t'.devices) ∨ RecordedNow s t' row
  data : ∀ row ∈ t'.data, (row ∈ t.data ∧ ∃ old ∈ t.sessions, old.id = row.session ∧
    ∃ r ∈ t'.sessions, SameSession old r) ∨ StoredNow s t' row
  devicesGone : ∀ d ∈ deletedDevices t s, ∀ row ∈ t'.sessions, row.device ≠ d.id
  sessionsGone : ∀ r ∈ deletedSessions t s, ∀ row ∈ t'.data, row.session ≠ r.id

/-- The strings stay inside of their literals, and a request that deletes a device or a session
deletes the rows that name it as well. -/
def ReferenceGuard (t : Tables) (s : Service) : Prop :=
  (∀ v ∈ s.order.strings, Plain v) ∧
    Cascades DeviceRow.id SessionRow.device t.sessions (deletedDevices t s) (deletedSessions t s) ∧
    Cascades SessionRow.id DataRow.session t.data (deletedSessions t s) (deletedData t s)

instance (t : Tables) (s : Service) : Decidable (ReferenceGuard t s) :=
  inferInstanceAs (Decidable (_ ∧ (∀ _ ∈ _, ∀ _ ∈ _, _ → _) ∧ (∀ _ ∈ _, ∀ _ ∈ _, _ → _)))

lemma SameSession.refl (row : SessionRow) : SameSession row row := rfl

lemma SameSession.id {row row' : SessionRow} (h : SameSession row row') : row.id = row'.id := by
  rw [← h]

lemma SameSession.device {row row' : SessionRow} (h : SameSession row row') :
    row.device = row'.device := by
  rw [← h]

/-- What a request deletes is what is listed, and what it adds is new. -/
structure Changes (t : Tables) (s : Service) (t' : Tables) : Prop where
  sessions : Step Eq SameSession (RecordedNow s t') t.devices t.sessions (deletedDevices t s)
    (deletedSessions t s) t'.devices t'.sessions
  data : Step SameSession Eq (StoredNow s t') t.sessions t.data (deletedSessions t s)
    (deletedData t s) t'.sessions t'.data
  deviceIds : (t.devices.map DeviceRow.id).Nodup → (t'.devices.map DeviceRow.id).Nodup
  sessionIds : (t.sessions.map SessionRow.id).Nodup → (t'.sessions.map SessionRow.id).Nodup

lemma deletedDevices_recorded {t t' : Tables} {s : Service} {row : SessionRow}
    (h : RecordedNow s t' row) : deletedDevices t s = [] := by
  obtain ⟨deviceHash, info, horder, -⟩ := h
  unfold deletedDevices
  rw [horder]

lemma deletedSessions_stored {t t' : Tables} {s : Service} {row : DataRow} (h : StoredNow s t' row) :
    deletedSessions t s = [] := by
  obtain ⟨sessionHash, data, horder, -⟩ := h
  unfold deletedSessions
  rw [horder]

lemma Changes.keepsReferences {t t' : Tables} {s : Service} (h : Changes t s t') (hintact : Intact t)
    (hguard : ReferenceGuard t s) : KeepsReferences t s t' := by
  obtain ⟨-, hdevices, hsessions⟩ := hguard
  constructor
  · intro row hrow
    obtain ⟨old, hold, hsame, d, hd, hkey, d', hd', rfl⟩ | hnew :=
      h.sessions.kept hintact.sessions hdevices (fun _ _ => SameSession.device) row hrow
    · exact .inl ⟨old, hold, hsame, d, hd, hkey, hd'⟩
    · exact .inr hnew
  · intro row hrow
    obtain ⟨row, hold, rfl, old, hmem, hkey, hstays⟩ | hnew :=
      h.data.kept hintact.data hsessions (fun _ _ heq => by rw [heq]) row hrow
    · exact .inl ⟨hold, old, hmem, hkey, hstays⟩
    · exact .inr hnew
  · apply h.sessions.abandoned hdevices (fun _ _ => SameSession.device)
    intro row hnew d hd
    rw [deletedDevices_recorded hnew] at hd
    cases hd
  · apply h.data.abandoned hsessions (fun _ _ heq => by rw [heq])
    intro row hnew r hr
    rw [deletedSessions_stored hnew] at hr
    cases hr

lemma Changes.intact {t t' : Tables} {s : Service} (h : Changes t s t') (hintact : Intact t)
    (hguard : ReferenceGuard t s) : Intact t' := by
  obtain ⟨-, hdevices, hsessions⟩ := hguard
  constructor
  · apply h.sessions.linked hintact.sessions hdevices (fun _ _ => SameSession.device)
      (fun _ _ heq => by rw [heq]) (h.deviceIds hintact.sessions.distinct)
    rintro row - ⟨-, -, -, -, d, hd, hkey, -⟩
    exact ⟨d, hd, hkey⟩
  · apply h.data.linked hintact.data hsessions (fun _ _ heq => by rw [heq]) (fun _ _ => SameSession.id)
      (h.sessionIds hintact.data.distinct)
    rintro row - ⟨-, -, -, r, hr, hkey, -⟩
    exact ⟨r, hr, hkey⟩

section Effects

variable {t t' : Tables} {s : Service}

lemma deleted_of_nothing (h : DeletesNothing .sqlite3 t s.io s.order) :
    deletedDevices t s = [] ∧ deletedSessions t s = [] ∧ deletedData t s = [] := by
  obtain ⟨order, io⟩ := s
  have hfails : (0, 0) ∈ io.fails ∨ (1, 0) ∈ io.fails → ¬ DeletesRun io := by
    rintro (hfail | hfail) ⟨hcheck, hremove⟩
    · exact hcheck hfail
    · exact hremove hfail
  cases order with
  | initDatabase client forced =>
    cases forced with
    | false => exact ⟨rfl, rfl, rfl⟩
    | true => exact absurd (fun htype => by cases htype) h
  | addDevice client id forced deviceData =>
    cases forced with
    | false => exact ⟨rfl, rfl, rfl⟩
    | true => exact ⟨if_neg (hfails h), rfl, rfl⟩
  | removeDevice client id forced deviceData => exact ⟨if_neg (hfails h), rfl, rfl⟩
  | addSession deviceHash info =>
    refine ⟨rfl, if_neg ?_, rfl⟩
    rintro ⟨hrun, hread⟩
    obtain hfail | hfail | hmisread := h
    · exact hrun.1 hfail
    · exact hrun.2 hfail
    · exact hread hmisread
  | remSession client id forced sessionData =>
    refine ⟨rfl, ?_, rfl⟩
    change (if DeletesRun io then t.sessionsWith (hashMatches .sqlite3) sessionData.hash else []) = []
    obtain hfail | hfail | hnone := h
    · exact if_neg (hfails (.inl hfail))
    · exact if_neg (hfails (.inr hfail))
    · rw [hnone, ite_self]
  | _ => exact ⟨rfl, rfl, rfl⟩

lemma changes_devices (hsessions : t'.sessions = t.sessions) (hdata : t'.data = t.data)
    (hdeleted : deletedSessions t s = [] ∧ deletedData t s = [])
    (hstay : ∀ d ∈ t.devices, d ∉ deletedDevices t s → d ∈ t'.devices)
    (hids : (t.devices.map DeviceRow.id).Nodup → (t'.devices.map DeviceRow.id).Nodup) :
    Changes t s t' where
  sessions := by
    rw [hsessions, hdeleted.1]
    exact ⟨fun d hd hkept => ⟨d, hstay d hd hkept, rfl⟩,
      fun row hrow => .inl ⟨row, hrow, by simp, .refl row⟩⟩
  data := by
    rw [hsessions, hdata, hdeleted.1, hdeleted.2]
    exact ⟨fun row hrow _ => ⟨row, hrow, .refl row⟩, fun row hrow => .inl ⟨row, hrow, by simp, rfl⟩⟩
  deviceIds := hids
  sessionIds h := by rwa [hsessions]

lemma changes_sessions (hdevices : t'.devices = t.devices) (hdata : t'.data = t.data)
    (hdeleted : deletedData t s = [])
    (hstay : ∀ row ∈ t.sessions, row ∉ deletedSessions t s → ∃ row' ∈ t'.sessions, SameSession row row')
    (horigin : ∀ row' ∈ t'.sessions, (∃ row ∈ t.sessions, row ∉ deletedSessions t s ∧
      SameSession row row') ∨ RecordedNow s t' row')
    (hids : (t.sessions.map SessionRow.id).Nodup → (t'.sessions.map SessionRow.id).Nodup) :
    Changes t s t' where
  sessions := by
    rw [hdevices]
    exact ⟨fun d hd _ => ⟨d, hd, rfl⟩, horigin⟩
  data := by
    rw [hdata, hdeleted]
    exact ⟨hstay, fun row hrow => .inl ⟨row, hrow, by simp, rfl⟩⟩
  deviceIds h := by rwa [hdevices]
  sessionIds := hids

lemma mem_dropped_devices {hash : String} {d : DeviceRow} (hd : d ∈ t.devices)
    (hkept : d ∉ t.devicesWith (hashMatches .sqlite3) hash) :
    d ∈ (dropped .sqlite3 hash t).devices := by
  rw [dropped_devices, List.mem_filter]
  refine ⟨hd, ?_⟩
  cases hmatch : hashMatches .sqlite3 hash d.hash with
  | false => rfl
  | true => exact absurd (List.mem_filter.mpr ⟨hd, hmatch⟩) hkept

lemma dropped_ids {type : DbType} {hash : String} (h : (t.devices.map DeviceRow.id).Nodup) :
    ((dropped type hash t).devices.map DeviceRow.id).Nodup := by
  rw [dropped_devices]
  exact h.sublist (List.filter_sublist.map _)

lemma added_ids {deviceData : Control.DeviceData} (h : (t.devices.map DeviceRow.id).Nodup) :
    ((added .sqlite3 deviceData t).devices.map DeviceRow.id).Nodup := by
  have hdevices : (added .sqlite3 deviceData t).devices.map DeviceRow.id =
      t.devices.map DeviceRow.id ++ [newId .sqlite3 (t.devices.map DeviceRow.id) t.deviceSeq] := by
    simp [added]
  rw [hdevices]
  exact nodup_newId h fun htype => by cases htype

lemma recorded_ids {info : Monitor.SessionInfo} {now owner : Nat}
    (h : (t.sessions.map SessionRow.id).Nodup) :
    ((recorded .sqlite3 info now owner t).sessions.map SessionRow.id).Nodup := by
  have hsessions : (recorded .sqlite3 info now owner t).sessions.map SessionRow.id =
      t.sessions.map SessionRow.id ++ [newId .sqlite3 (t.sessions.map SessionRow.id) t.sessionSeq] := by
    simp [recorded, newSession]
  rw [hsessions]
  exact nodup_newId h fun htype => by cases htype

lemma device_of_scalar {deviceHash : String} {owner : Nat}
    (h : scalar .sqlite3 (deviceIds .sqlite3 deviceHash t) = some owner) :
    ∃ d ∈ t.devices, d.id = owner ∧ d.hash = deviceHash := by
  obtain ⟨d, hd, hid⟩ := List.mem_map.mp (mem_of_scalar h)
  obtain ⟨hmem, hhash⟩ := List.mem_filter.mp hd
  exact ⟨d, hmem, hid, by simpa [hashMatches] using hhash⟩

lemma session_of_scalar {sessionHash : String} {owner : Nat}
    (h : scalar .sqlite3 (sessionIds .sqlite3 sessionHash t) = some owner) :
    ∃ r ∈ t.sessions, r.id = owner ∧ r.hash = sessionHash ∧ r.endTimestamp = 0 := by
  obtain ⟨r, hr, hid⟩ := List.mem_map.mp (mem_of_scalar h)
  obtain ⟨hmem, hopen⟩ := List.mem_filter.mp hr
  simp only [hashMatches, Bool.and_eq_true, decide_eq_true_eq, beq_iff_eq] at hopen
  exact ⟨r, hmem, hid, hopen.1, hopen.2⟩

lemma mem_removed_iff {hash : String} {row : SessionRow} :
    row ∈ (removed .sqlite3 hash t).sessions ↔
      row ∈ t.sessions ∧ row ∉ t.sessionsWith (hashMatches .sqlite3) hash := by
  rw [mem_removed]
  unfold Tables.sessionsWith
  rw [List.mem_filter]
  cases hmatch : hashMatches .sqlite3 hash row.hash <;> simp

lemma removed_ids {hash : String} (h : (t.sessions.map SessionRow.id).Nodup) :
    ((removed .sqlite3 hash t).sessions.map SessionRow.id).Nodup :=
  h.sublist (List.filter_sublist.map _)

lemma changes_base {base : Tables} (hdevices : base.devices = t.devices) (hdata : base.data = t.data)
    (hdeleted : deletedData t s = [])
    (hbase : ∀ row, row ∈ base.sessions ↔ row ∈ t.sessions ∧ row ∉ deletedSessions t s)
    (hids : (t.sessions.map SessionRow.id).Nodup → (base.sessions.map SessionRow.id).Nodup) :
    Changes t s base := by
  apply changes_sessions hdevices hdata hdeleted
  · intro row hrow hkept
    exact ⟨row, (hbase row).mpr ⟨hrow, hkept⟩, .refl row⟩
  · intro row hrow
    obtain ⟨hmem, hkept⟩ := (hbase row).mp hrow
    exact .inl ⟨row, hmem, hkept, .refl row⟩
  · exact hids

lemma changes_recorded {base : Tables} {deviceHash : String} {info : Monitor.SessionInfo} {owner : Nat}
    (horder : s.order = .addSession deviceHash info) (hdevices : base.devices = t.devices)
    (hdata : base.data = t.data)
    (hbase : ∀ row, row ∈ base.sessions ↔ row ∈ t.sessions ∧ row ∉ deletedSessions t s)
    (hids : (t.sessions.map SessionRow.id).Nodup → (base.sessions.map SessionRow.id).Nodup)
    (howner : scalar .sqlite3 (deviceIds .sqlite3 deviceHash t) = some owner) :
    Changes t s (recorded .sqlite3 info s.io.now owner base) := by
  have hdeleted : deletedData t s = [] := by
    unfold deletedData
    rw [horder]
  apply changes_sessions
  · exact hdevices
  · exact hdata
  · exact hdeleted
  · intro row hrow hkept
    exact ⟨row, List.mem_append_left _ ((hbase row).mpr ⟨hrow, hkept⟩), .refl row⟩
  · intro row hrow
    obtain hold | hnew := List.mem_append.mp hrow
    · obtain ⟨hmem, hkept⟩ := (hbase row).mp hold
      exact .inl ⟨row, hmem, hkept, .refl row⟩
    · right
      rw [List.mem_singleton.mp hnew]
      obtain ⟨d, hd, hid, hhash⟩ := device_of_scalar howner
      refine ⟨deviceHash, info, horder, rfl, d, ?_, hid, hhash⟩
      change d ∈ base.devices
      rwa [hdevices]
  · intro h
    exact recorded_ids (hids h)

lemma changes_ended {hash : String} {now : Nat} (horder : s.order = .endSession hash) :
    Changes t s (ended .sqlite3 hash now t) := by
  have hdeleted : deletedSessions t s = [] ∧ deletedData t s = [] := by
    unfold deletedSessions deletedData
    rw [horder]
    exact ⟨rfl, rfl⟩
  have hsame : ∀ row : SessionRow, SameSession row
      (if hashMatches .sqlite3 hash row.hash then { row with endTimestamp := now } else row) := by
    intro row
    split
    · rfl
    · exact .refl row
  apply changes_sessions
  · rfl
  · rfl
  · exact hdeleted.2
  · intro row hrow _
    exact ⟨_, List.mem_map_of_mem hrow, hsame row⟩
  · intro row' hrow'
    obtain ⟨row, hrow, rfl⟩ := List.mem_map.mp hrow'
    refine .inl ⟨row, hrow, ?_, hsame row⟩
    rw [hdeleted.1]
    simp
  · intro h
    have hnumbered : Numbered .sqlite3 t := ⟨h, fun htype => by cases htype⟩
    exact (numbered_ended hnumbered).distinct

lemma changes_stored {sessionHash : String} {data : Monitor.Data} {owner upTo : Nat}
    (horder : s.order = .addData sessionHash data)
    (howner : scalar .sqlite3 (sessionIds .sqlite3 sessionHash t) = some owner) :
    Changes t s { t with data := t.data ++ (dataRows data owner).take upTo } := by
  have hdeleted : deletedSessions t s = [] ∧ deletedData t s = [] := by
    unfold deletedSessions deletedData
    rw [horder]
    exact ⟨rfl, rfl⟩
  constructor
  · rw [hdeleted.1]
    exact ⟨fun d hd _ => ⟨d, hd, rfl⟩, fun row hrow => .inl ⟨row, hrow, by simp, .refl row⟩⟩
  · rw [hdeleted.1, hdeleted.2]
    refine ⟨fun row hrow _ => ⟨row, hrow, .refl row⟩, fun row hrow => ?_⟩
    obtain hold | hnew := List.mem_append.mp hrow
    · exact .inl ⟨row, hold, by simp, rfl⟩
    · right
      obtain ⟨r, hr, hid, hhash, hopen⟩ := session_of_scalar howner
      have hsession := dataRows_session (List.mem_of_mem_take hnew)
      exact ⟨sessionHash, data, horder, r, hr, by rw [hid, hsession], hhash, hopen⟩
  · exact id
  · exact id

lemma changes_erased {client : Option (ClientId × String)}
    (horder : s.order = .initDatabase client true) :
    Changes t s (erased (droppedNames .sqlite3 s.io 0) t) := by
  have hdevices : deletedDevices t s =
      if Query.devicesTableName ∈ droppedNames .sqlite3 s.io 0 then t.devices else [] := by
    unfold deletedDevices
    rw [horder]
  have hsessions : deletedSessions t s =
      if Query.sessionsTableName ∈ droppedNames .sqlite3 s.io 0 then t.sessions else [] := by
    unfold deletedSessions
    rw [horder]
  have hdata : deletedData t s =
      t.data.filter fun row => row ∉ (erased (droppedNames .sqlite3 s.io 0) t).data := by
    unfold deletedData
    rw [horder]
  have horigin : ∀ row ∈ (erased (droppedNames .sqlite3 s.io 0) t).sessions,
      row ∈ t.sessions ∧ row ∉ deletedSessions t s := by
    intro row hrow
    rw [erased_sessions] at hrow
    rw [hsessions]
    split at hrow
    · cases hrow
    · rename_i hkept
      rw [if_neg hkept]
      exact ⟨hrow, by simp⟩
  have hstays : ∀ row ∈ t.sessions, row ∉ deletedSessions t s →
      row ∈ (erased (droppedNames .sqlite3 s.io 0) t).sessions := by
    intro row hrow hkept
    rw [hsessions] at hkept
    rw [erased_sessions]
    split at hkept
    · exact absurd hrow hkept
    · rename_i hnot
      rw [if_neg hnot]
      exact hrow
  constructor
  · refine ⟨fun d hd hkept => ⟨d, ?_, rfl⟩, fun row hrow => ?_⟩
    · rw [hdevices] at hkept
      rw [erased_devices]
      split at hkept
      · exact absurd hd hkept
      · rename_i hnot
        rw [if_neg hnot]
        exact hd
    · obtain ⟨hmem, hkept⟩ := horigin row hrow
      exact .inl ⟨row, hmem, hkept, .refl row⟩
  · refine ⟨fun row hrow hkept => ⟨row, hstays row hrow hkept, .refl row⟩, fun row hrow => ?_⟩
    refine .inl ⟨row, (mem_erased_data.mp hrow).1, ?_, rfl⟩
    rw [hdata]
    simp [hrow]
  · intro h
    rw [erased_devices]
    split
    · exact List.nodup_nil
    · exact h
  · intro h
    rw [erased_sessions]
    split
    · exact List.nodup_nil
    · exact h

end Effects

/-- A request on SQLite deletes what is listed and adds what is new. -/
lemma changes_of_effect {t t' : Tables} {s : Service} {status : Option String}
    (h : Effect .sqlite3 t s.io s.order t' status) : Changes t s t' := by
  obtain ⟨order, io⟩ := s
  cases h with
  | same _ _ hsame =>
    obtain ⟨-, hdeleted⟩ := deleted_of_nothing hsame
    exact changes_devices rfl rfl hdeleted (fun d hd _ => hd) id
  | created client => exact changes_devices rfl rfl ⟨rfl, rfl⟩ (fun d hd _ => hd) id
  | erased client =>
    have herased : Changes t ⟨.initDatabase client true, io⟩ (erased (droppedNames .sqlite3 io 0) t) :=
      changes_erased rfl
    exact ⟨herased.sessions, herased.data, herased.deviceIds, herased.sessionIds⟩
  | added client id forced deviceData =>
    apply changes_devices
    · rfl
    · rfl
    · cases forced <;> exact ⟨rfl, rfl⟩
    · exact fun d hd _ => List.mem_append_left _ hd
    · exact added_ids
  | replaced client id deviceData hcheck hremove =>
    apply changes_devices
    · rfl
    · rfl
    · exact ⟨rfl, rfl⟩
    · intro d hd hkept
      have hdeleted : deletedDevices t ⟨.addDevice client id true deviceData, io⟩ =
          t.devicesWith (hashMatches .sqlite3) deviceData.hash := if_pos ⟨hcheck, hremove⟩
      rw [hdeleted] at hkept
      exact List.mem_append_left _ (mem_dropped_devices hd hkept)
    · exact fun h => added_ids (dropped_ids h)
  | left client id deviceData hcheck hremove =>
    apply changes_devices
    · rfl
    · rfl
    · exact ⟨rfl, rfl⟩
    · intro d hd hkept
      have hdeleted : deletedDevices t ⟨.addDevice client id true deviceData, io⟩ =
          t.devicesWith (hashMatches .sqlite3) deviceData.hash := if_pos ⟨hcheck, hremove⟩
      rw [hdeleted] at hkept
      exact mem_dropped_devices hd hkept
    · exact dropped_ids
  | dropped client id forced deviceData status hcheck hremove =>
    apply changes_devices
    · rfl
    · rfl
    · exact ⟨rfl, rfl⟩
    · intro d hd hkept
      have hdeleted : deletedDevices t ⟨.removeDevice client id forced deviceData, io⟩ =
          t.devicesWith (hashMatches .sqlite3) deviceData.hash := if_pos ⟨hcheck, hremove⟩
      rw [hdeleted] at hkept
      exact mem_dropped_devices hd hkept
    · exact dropped_ids
  | removed client id forced sessionData status hcheck hremove =>
    have hdeleted : deletedSessions t ⟨.remSession client id forced sessionData, io⟩ =
        t.sessionsWith (hashMatches .sqlite3) sessionData.hash := if_pos ⟨hcheck, hremove⟩
    apply changes_base
    · rfl
    · rfl
    · rfl
    · intro row
      rw [hdeleted, mem_removed_iff]
    · exact removed_ids
  | cleared deviceHash info hcheck hremove hread =>
    have hdeleted : deletedSessions t ⟨.addSession deviceHash info, io⟩ =
        t.sessionsWith (hashMatches .sqlite3) info.hash := if_pos ⟨⟨hcheck, hremove⟩, hread⟩
    apply changes_base
    · rfl
    · rfl
    · rfl
    · intro row
      rw [hdeleted, mem_removed_iff]
    · exact removed_ids
  | opened deviceHash info owner howner hcheck hremove hread =>
    have hdeleted : deletedSessions t ⟨.addSession deviceHash info, io⟩ =
        t.sessionsWith (hashMatches .sqlite3) info.hash := if_pos ⟨⟨hcheck, hremove⟩, hread⟩
    have hbase : ∀ row, row ∈ (removed .sqlite3 info.hash t).sessions ↔
        row ∈ t.sessions ∧ row ∉ deletedSessions t ⟨.addSession deviceHash info, io⟩ := by
      intro row
      rw [hdeleted, mem_removed_iff]
    exact changes_recorded rfl rfl rfl hbase removed_ids howner
  | doubled deviceHash info owner howner hfails hinsert =>
    have hdeleted : deletedSessions t ⟨.addSession deviceHash info, io⟩ = [] := by
      apply if_neg
      rintro ⟨⟨hcheck, hremove⟩, hread⟩
      obtain hfail | hfail | hmisread := hfails
      · exact hcheck hfail
      · exact hremove hfail
      · exact hread hmisread
    have hbase : ∀ row, row ∈ t.sessions ↔
        row ∈ t.sessions ∧ row ∉ deletedSessions t ⟨.addSession deviceHash info, io⟩ := by
      intro row
      rw [hdeleted]
      simp
    exact changes_recorded rfl rfl rfl hbase (fun h => h) howner
  | ended hash => exact changes_ended rfl
  | stored sessionHash data owner upTo howner => exact changes_stored rfl howner

lemma changes_of_serve {foreign : String → Tables → Tables × Option TkmCollector.Reply} {t t' : Tables}
    {s : Service} (hguard : ReferenceGuard t s) (h : serve ⟨.sqlite3, foreign⟩ t s = .ok t') :
    Changes t s t' := by
  obtain ⟨status, heffect⟩ := serve_effect hguard.1 h
  exact changes_of_effect heffect

/-- Rows keep their references in a run in which every request that deletes a row deletes the rows
that name it as well. -/
theorem references_kept (foreign : String → Tables → Tables × Option TkmCollector.Reply) (t₀ : Tables)
    (services : List Service) (h₀ : Intact t₀)
    (h : Machine.Guarded (serve ⟨.sqlite3, foreign⟩) ReferenceGuard t₀ services) :
    Machine.Throughout (serve ⟨.sqlite3, foreign⟩) Intact t₀ services ∧
      Machine.EachStep (serve ⟨.sqlite3, foreign⟩) KeepsReferences t₀ services := by
  have hstep : Machine.Preserves (serve ⟨.sqlite3, foreign⟩) ReferenceGuard Intact := by
    intro t s t' hintact hguard hserve
    exact (changes_of_serve hguard hserve).intact hintact hguard
  constructor
  · exact Machine.throughout_of_guarded hstep h₀ h
  · apply Machine.eachStep_of_guarded hstep _ h₀ h
    intro t s t' hintact hguard hserve
    exact (changes_of_serve hguard hserve).keepsReferences hintact hguard

instance (t : Tables) : Decidable (Intact t) :=
  decidable_of_iff (((t.devices.map DeviceRow.id).Nodup ∧
      ∀ row ∈ t.sessions, ∃ d ∈ t.devices, d.id = row.device) ∧
      (t.sessions.map SessionRow.id).Nodup ∧ ∀ row ∈ t.data, ∃ r ∈ t.sessions, r.id = row.session)
    ⟨fun ⟨⟨h₁, h₂⟩, h₃, h₄⟩ => ⟨⟨h₁, h₂⟩, h₃, h₄⟩,
      fun h => ⟨⟨h.sessions.distinct, h.sessions.named⟩, h.data.distinct, h.data.named⟩⟩

/-- The client's requests of the runs below, for the device `d` and the session `s`. -/
def dataOfDevice (hash : String) : Control.DeviceData := { (default : Control.DeviceData) with hash := hash }

def dataOfSession (hash : String) : Control.SessionData :=
  { (default : Control.SessionData) with hash := hash }

def infoOfSession (hash : String) : Monitor.SessionInfo :=
  { (default : Monitor.SessionInfo) with hash := hash }

def procEvents : Monitor.Data :=
  { (default : Monitor.Data) with what := .procEvent, payload := .procEvent default }

/-- A device without sessions is removed, and another one records a session, which is removed
before any data come. -/
theorem references_kept_removed :
    Machine.Throughout (serve (plainBackend .sqlite3)) Intact (tablesWith ["c", "d"])
        [⟨.removeDevice 0 "1" false (dataOfDevice "c"), failing []⟩,
          ⟨.addSession "d" (infoOfSession "r"), failing []⟩,
          ⟨.remSession 0 "2" false (dataOfSession "r"), failing []⟩,
          ⟨.addSession "d" (infoOfSession "s"), failing []⟩,
          ⟨.addData "s" procEvents, failing []⟩] ∧
      Machine.EachStep (serve (plainBackend .sqlite3)) KeepsReferences (tablesWith ["c", "d"])
        [⟨.removeDevice 0 "1" false (dataOfDevice "c"), failing []⟩,
          ⟨.addSession "d" (infoOfSession "r"), failing []⟩,
          ⟨.remSession 0 "2" false (dataOfSession "r"), failing []⟩,
          ⟨.addSession "d" (infoOfSession "s"), failing []⟩,
          ⟨.addData "s" procEvents, failing []⟩] :=
  references_kept _ _ _ (by decide) (by decide)

/-- The session of a removed device names no device, and later the device that gets the id. The
data of a removed session end up with the session that gets its id. -/
theorem references_lost :
    (∃ t, Machine.run (serve (plainBackend .sqlite3)) (tablesWith ["d"])
        [⟨.addSession "d" (infoOfSession "s"), failing []⟩,
          ⟨.removeDevice 0 "1" false (dataOfDevice "d"), failing []⟩] = .ok t ∧ ¬ Intact t) ∧
      (∃ t, Machine.run (serve (plainBackend .sqlite3)) (tablesWith ["d"])
        [⟨.addSession "d" (infoOfSession "s"), failing []⟩,
          ⟨.removeDevice 0 "1" false (dataOfDevice "d"), failing []⟩,
          ⟨.addDevice 0 "2" false (dataOfDevice "e"), failing []⟩] = .ok t ∧
        (t.sessions.map SessionRow.device = [1] ∧ t.devices.map (fun d => (d.id, d.hash)) = [(1, "e")])) ∧
      ∃ t, Machine.run (serve (plainBackend .sqlite3)) (tablesWith ["d"])
        [⟨.addSession "d" (infoOfSession "s"), failing []⟩,
          ⟨.addData "s" procEvents, failing []⟩,
          ⟨.remSession 0 "1" false (dataOfSession "s"), failing []⟩,
          ⟨.addSession "d" (infoOfSession "r"), failing []⟩] = .ok t ∧
        (t.data.map DataRow.session = [1] ∧ t.sessions.map (fun r => (r.id, r.hash)) = [(1, "r")]) :=
  ⟨⟨_, rfl, by decide⟩, ⟨_, rfl, by decide⟩, ⟨_, rfl, by decide⟩⟩

end TkmCollector.Proofs
