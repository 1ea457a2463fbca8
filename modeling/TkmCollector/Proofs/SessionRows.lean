import TkmCollector.Proofs.CalmRuns

namespace TkmCollector.Proofs

/-- The entry ends or replaces the sessions with the hash. -/
def Closes (type : DbType) (e : DbEntry) (hash : String) : Prop :=
  (∃ owner hash', e = closeEntry owner hash' ∧ hashMatches type hash' hash = true) ∨
    ∃ k info, e = openEntry k info ∧ hashMatches type info.hash hash = true

lemma closeEntry_inj {owner owner' : Option String} {hash hash' : String} :
    closeEntry owner hash = closeEntry owner' hash' ↔ owner = owner' ∧ hash = hash' := by
  simp only [closeEntry, endSessionRequest, Args.emplace, Args.count, DbEntry.mk.injEq,
    Request.mk.injEq]
  simp only [List.lookup_nil, Option.isSome_none, Bool.false_eq_true, if_false, List.nil_append,
    List.cons.injEq, Prod.mk.injEq, true_and, and_true]
  exact and_comm

lemma openEntry_inj {k k' : String} {info info' : Monitor.SessionInfo} :
    openEntry k info = openEntry k' info' ↔ k = k' ∧ info = info' := by
  constructor
  · intro h
    simp only [openEntry, addSessionRequest, DbEntry.mk.injEq, Request.mk.injEq, Option.some.injEq,
      BulkData.sessionInfo.injEq] at h
    exact ⟨h.2, h.1.2.2.2⟩
  · rintro ⟨rfl, rfl⟩
    rfl

@[simp] lemma closes_closeEntry {type : DbType} {owner : Option String} {hash hash' : String} :
    Closes type (closeEntry owner hash) hash' ↔ hashMatches type hash hash' = true := by
  unfold Closes
  constructor
  · rintro (⟨owner', g, he, hmatch⟩ | ⟨k, info, he, -⟩)
    · obtain ⟨-, rfl⟩ := closeEntry_inj.mp he
      exact hmatch
    · simp [closeEntry, endSessionRequest, openEntry, addSessionRequest] at he
  · intro hmatch
    exact .inl ⟨owner, hash, rfl, hmatch⟩

@[simp] lemma closes_openEntry {type : DbType} {k : String} {info : Monitor.SessionInfo}
    {hash : String} :
    Closes type (openEntry k info) hash ↔ hashMatches type info.hash hash = true := by
  unfold Closes
  constructor
  · rintro (⟨owner, g, he, -⟩ | ⟨k', info', he, hmatch⟩)
    · simp [closeEntry, endSessionRequest, openEntry, addSessionRequest] at he
    · obtain ⟨-, rfl⟩ := openEntry_inj.mp he
      exact hmatch
  · intro hmatch
    exact .inr ⟨k, info, rfl, hmatch⟩

lemma not_closes {type : DbType} {e : DbEntry} {hash : String}
    (hclose : ∀ owner hash', e ≠ closeEntry owner hash') (hopen : ∀ k info, e ≠ openEntry k info) :
    ¬ Closes type e hash := by
  rintro (⟨owner, g, he, -⟩ | ⟨k, info, he, -⟩)
  · exact hclose owner g he
  · exact hopen k info he

lemma not_closes_cleanEntry {type : DbType} {hash : String} : ¬ Closes type cleanEntry hash :=
  not_closes (fun owner g he => closeEntry_ne_cleanEntry owner g he.symm)
    (by simp [cleanEntry, Collector.startRequest, openEntry])

lemma not_closes_storeEntry {type : DbType} {k hash hash' : String} {data : Monitor.Data} :
    ¬ Closes type (storeEntry k hash data) hash' :=
  not_closes (by simp [storeEntry, addDataRequest, closeEntry, endSessionRequest])
    (by simp [storeEntry, addDataRequest, openEntry, addSessionRequest])

/-- The session was opened for a device, and nothing that was handled later closes it. -/
def OpenedBy (type : DbType) (c : Collector) (row : SessionRow) : Prop :=
  ∃ before k info after, c.handled = before ++ openEntry k info :: after ∧ row.hash = info.hash ∧
    (∃ device, Foremost type c.tables device ∧ device.hash = k ∧ row.device = device.id) ∧
    ∀ e ∈ after, ¬ Closes type e row.hash

/-- The session was open at start, and nothing that was handled closes it. Once the open
sessions were listed, the request that ends it is on its way. -/
structure LeftOver (type : DbType) (t₀ : Tables) (c : Collector) (row : SessionRow) : Prop where
  mem : row ∈ t₀.sessions
  untouched : ∀ e ∈ c.handled, ¬ Closes type e row.hash
  listed : cleanEntry ∈ c.handled → closeEntry none row.hash ∈ journal c

/-- Every open session has one of the two origins. -/
def OpenRows (type : DbType) (t₀ : Tables) (c : Collector) : Prop :=
  ∀ row ∈ c.tables.sessions, row.endTimestamp = 0 →
    OpenedBy type c row ∨ LeftOver type t₀ c row

lemma openRows_start (type : DbType) (t₀ : Tables) : OpenRows type t₀ (Collector.start t₀) := by
  intro row hrow _
  exact .inr ⟨hrow, by simp [Collector.start], by simp [Collector.start]⟩

section Moves

variable {b : Backend} {t₀ : Tables} {c c' : Collector} {e : Collector.Event}

lemma origin_handled {row : SessionRow} {entry : DbEntry}
    (h : OpenedBy b.type c row ∨ LeftOver b.type t₀ c row)
    (hhandled : c'.handled = c.handled ++ [entry]) {new : List DbEntry}
    (hjournal : journal c' = journal c ++ new)
    (hdevices : ∀ {device}, Foremost b.type c.tables device → Foremost b.type c'.tables device)
    (hentry : ¬ Closes b.type entry row.hash)
    (hclean : entry = cleanEntry → closeEntry none row.hash ∈ new) :
    OpenedBy b.type c' row ∨ LeftOver b.type t₀ c' row := by
  obtain ⟨before, k, info, after, hsplit, hhash, ⟨device, hdevice, hk, hid⟩, hafter⟩ | hleft := h
  · refine .inl ⟨before, k, info, after ++ [entry], ?_, hhash, ⟨device, hdevices hdevice, hk, hid⟩, ?_⟩
    · rw [hhandled, hsplit]
      simp
    · intro e he
      obtain hold | hnew := List.mem_append.mp he
      · exact hafter e hold
      · obtain rfl := List.mem_singleton.mp hnew
        exact hentry
  · refine .inr ⟨hleft.mem, ?_, ?_⟩
    · rw [hhandled]
      intro e he
      obtain hold | hnew := List.mem_append.mp he
      · exact hleft.untouched e hold
      · obtain rfl := List.mem_singleton.mp hnew
        exact hentry
    · rw [hhandled]
      intro hmem
      rw [hjournal]
      obtain hold | hnew := List.mem_append.mp hmem
      · exact List.mem_append_left _ (hleft.listed hold)
      · exact List.mem_append_right _ (hclean (List.mem_singleton.mp hnew).symm)

lemma openRows_pushed (h : OpenRows b.type t₀ c) (htables : c'.tables = c.tables)
    (hhandled : c'.handled = c.handled) {new : List DbEntry} (hjournal : journal c' = journal c ++ new) :
    OpenRows b.type t₀ c' := by
  intro row hrow hopen
  rw [htables] at hrow
  obtain hold | hleft := h row hrow hopen
  · unfold OpenedBy
    rw [hhandled, htables]
    exact .inl hold
  · refine .inr ⟨hleft.mem, hhandled ▸ hleft.untouched, fun hc => ?_⟩
    rw [hjournal]
    exact List.mem_append_left _ (hleft.listed (hhandled ▸ hc))

/-- The device of an entry that opens a session is one of those that were loaded. -/
lemma opened_device (hb : Base b c) {k : String} (hl : Listed b.type c k) {info : Monitor.SessionInfo}
    (hmem : openEntry k info ∈ journal c) : ∃ device, Foremost b.type c.tables device ∧ device.hash = k := by
  obtain ⟨d, hget⟩ := hb.known _ hmem k rfl
  obtain ⟨row, hrow, hk, -⟩ := hl d hget
  exact ⟨row, hrow, hk⟩

theorem openRows_move (hb : Base b c) (hl : ∀ k, Listed b.type c k) (hkeep : KeepsDevices b.type c e)
    (hread : ReadsSession b.type c e) (hmove : Move b c e c') (h : OpenRows b.type t₀ c) :
    OpenRows b.type t₀ c' := by
  have hdevices : ∀ {device : DeviceRow}, Foremost b.type c.tables device →
      Foremost b.type c'.tables device := foremost_mono hb hkeep hmove
  cases hmove with
  | idle => exact h
  | device k ev d d' dbrq hget hd => exact openRows_pushed h rfl rfl (journal_device c _ _)
  | request action client args bulkData =>
    exact openRows_pushed h rfl rfl (List.append_assoc ..).symm
  | passed io entry rest rows missing hq hrows hentry =>
    intro row hrow hzero
    exact origin_handled (h row hrow hzero) rfl (journal_served hq _ _) hdevices
      (not_closes hentry.close hentry.opens) fun he => absurd he hentry.clean
  | added io entry rest deviceData hq hentry =>
    intro row hrow hzero
    exact origin_handled (h row hrow hzero) rfl (journal_database hq _ _ _) hdevices
      (not_closes hentry.close hentry.opens) fun he => absurd he hentry.clean
  | dropped io entry rest hash hq hentry hdropped hsome =>
    exact absurd (hkeep.unmatched hq hdropped) hsome
  | replaced io entry rest deviceData hq hentry hdropped hsome =>
    exact absurd (hkeep.unmatched hq hdropped) hsome
  | removed io entry rest hash hq hentry =>
    intro row hrow hzero
    exact origin_handled (h row (mem_removed.mp hrow).1 hzero) rfl (journal_served hq _ _) hdevices
      (not_closes hentry.close hentry.opens) fun he => absurd he hentry.clean
  | cleaned io rest hq =>
    intro row hrow hzero
    refine origin_handled (h row hrow hzero) rfl (journal_database hq _ _ _) hdevices
      not_closes_cleanEntry fun _ => ?_
    exact List.mem_map.mpr ⟨row, List.mem_filter.mpr ⟨hrow, by simpa using hzero⟩, rfl⟩
  | closed io owner hash rest hq =>
    intro row hrow hzero
    obtain ⟨hold, hmatch⟩ := mem_ended hrow hzero io.now_pos
    exact origin_handled (h row hold hzero) rfl (journal_served hq _ _) hdevices (by simp [hmatch])
      fun he => absurd he (closeEntry_ne_cleanEntry owner hash)
  | opened io k info rest hq =>
    intro row hrow hzero
    obtain ⟨hold, hmatch⟩ | ⟨owner, howner, rfl⟩ := mem_opened hrow
    · have hmatch := hmatch.resolve_right (hread.read hq)
      refine origin_handled (h row hold hzero) rfl (journal_served hq _ _) hdevices (by simp [hmatch]) ?_
      intro he
      simp [openEntry, addSessionRequest, cleanEntry, Collector.startRequest] at he
    · obtain ⟨device, hdevice, rfl⟩ := opened_device hb (hl k) (mem_journal_queue hq)
      rw [hdevice.found] at howner
      exact .inl ⟨c.handled, device.hash, info, [], rfl, rfl,
        ⟨device, hdevices hdevice, rfl, (Option.some.inj howner).symm⟩, by simp⟩
  | stored io k hash data rest hq =>
    intro row hrow hzero
    rw [stored_sessions] at hrow
    refine origin_handled (h row hrow hzero) rfl (journal_served hq _ _) hdevices
      not_closes_storeEntry ?_
    intro he
    simp [storeEntry, addDataRequest, cleanEntry, Collector.startRequest] at he

end Moves

end TkmCollector.Proofs
