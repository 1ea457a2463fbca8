import TkmCollector.Proofs.CollectorFrame

namespace TkmCollector.Proofs

open MonitorDevice SqlText

/-! ### Plain strings -/

lemma plain_append {s s' : String} : Plain (s ++ s') ↔ Plain s ∧ Plain s' := by
  unfold Plain
  rw [quoteFree_append, String.toList_append, List.mem_append]
  tauto

lemma plain_nat (n : Nat) : Plain (toString n) := by
  refine ⟨quoteFree_nat n, ?_⟩
  intro hmem
  have hdigits : '\x00' ∈ Nat.toDigits 10 n := by
    rw [← Nat.toList_repr]
    exact hmem
  have hdigit := Nat.isDigit_of_mem_toDigits (by decide) (by decide) hdigits
  exact absurd hdigit (by decide)

lemma plain_sessionName (clock : Clock) : Plain (sessionName clock) := by
  unfold sessionName
  rw [plain_append, plain_append, plain_append]
  exact ⟨⟨⟨by decide, plain_nat clock.pid⟩, by decide⟩, plain_nat clock.now⟩

section Device

variable {k : String} {d d' : MonitorDevice}

/-- The data of a device that stays, and requests that no handler of messages reads. -/
lemma Sound.keep (h : Sound k d) (ha : Attached d') (hhash : d'.deviceData.hash = d.deviceData.hash)
    (hsession : d'.sessionData.hash = d.sessionData.hash)
    (hrecorded : d'.connection ≠ none → d'.streams ≠ [])
    (hq : ∀ rq ∈ d'.queue, rq ∈ d.queue ∨ rq.action ≠ .setSession ∧ rq.action ≠ .processData) :
    Sound k d' where
  hash := hhash.trans h.hash
  key := h.key
  attached := ha
  recorded := hrecorded
  plain := by
    rw [hsession]
    exact h.plain
  sessions rq hrq haction := by
    obtain hold | hnew := hq rq hrq
    · exact h.sessions rq hold haction
    · exact absurd haction hnew.1
  data rq hrq haction := by
    obtain hold | hnew := hq rq hrq
    · exact h.data rq hold haction
    · exact absurd haction hnew.2

lemma record_streams_ne_nil (item : StreamItem) (h : d.streams ≠ []) :
    (d.record item).streams ≠ [] := by
  unfold record
  split
  · exact h
  · simp

lemma Sound.accept (h : Sound k d) (item : StreamItem) (rq : IDevice.Request)
    (hsession : rq.action = .setSession →
      ∃ info, rq = sessionRequest info ∧ Plain info.hash ∧ Plain info.name)
    (hdata : rq.action = .processData →
      ∃ data, rq = dataRequest data ∧ ∀ s ∈ dataStrings data, Plain s) :
    Sound k ((d.record item).pushRequest rq) := by
  obtain ⟨streams, he⟩ := record_eq d item
  have hne : d.streams ≠ [] → streams ≠ [] := by
    intro hd
    have hrecord := record_streams_ne_nil item hd
    rwa [he] at hrecord
  rw [he]
  refine ⟨h.hash, h.key, h.attached, fun hc => hne (h.recorded hc), h.plain, ?_, ?_⟩
  · intro r hr ha
    obtain hold | hnew := List.mem_append.mp hr
    · exact h.sessions r hold ha
    · obtain rfl := List.mem_singleton.mp hnew
      exact hsession ha
  · intro r hr ha
    obtain hold | hnew := List.mem_append.mp hr
    · exact h.data r hold ha
    · obtain rfl := List.mem_singleton.mp hnew
      exact hdata ha

lemma sound_read (h : Sound k d) {clock : Clock} {input : List Envelope} {last : ReadStatus}
    (hinput : ∀ envelope ∈ input, PlainMessage envelope.mesg) :
    Sound k (readEnvelopes clock last d input).1 := by
  obtain ⟨rest, hsound, -⟩ := readEnvelopes_induct clock last d input
    (P := fun d input => Sound k d ∧ ∀ envelope ∈ input, PlainMessage envelope.mesg)
    (fun d envelope rest hP => ⟨hP.1, fun e he => hP.2 e (List.mem_cons_of_mem envelope he)⟩)
    (fun d payload rest hP => by
      have hplain : Plain payload.unpackSessionInfo.hash := hP.2 _ List.mem_cons_self
      refine ⟨hP.1.accept _ _ (fun _ => ⟨_, rfl, hplain, plain_sessionName clock⟩)
        (fun ha => by simp [sessionRequest] at ha), ?_⟩
      exact fun e he => hP.2 e (List.mem_cons_of_mem _ he))
    (fun d payload rest hP => by
      have hplain : ∀ s ∈ dataStrings payload.unpackData, Plain s := hP.2 _ List.mem_cons_self
      have hstrings : dataStrings (acceptedData clock d payload) = dataStrings payload.unpackData :=
        dataStrings_eq rfl rfl
      refine ⟨hP.1.accept _ _ (fun ha => by simp [dataRequest] at ha)
        (fun _ => ⟨_, rfl, by rw [hstrings]; exact hplain⟩), ?_⟩
      exact fun e he => hP.2 e (List.mem_cons_of_mem _ he))
    (fun d status rest hP => by
      refine ⟨hP.1.keep hP.1.attached rfl rfl hP.1.recorded ?_, hP.2⟩
      intro rq hrq
      obtain hold | hnew := List.mem_append.mp hrq
      · exact .inl hold
      · obtain rfl := List.mem_singleton.mp hnew
        simp [statusRequest])
    ⟨h, hinput⟩
  exact hsound

lemma sound_dispatch {type : DbType} {e : Event} {dbrq : List IDatabase.Request} (h : Sound k d)
    (hcalm : Calm type (.device k e)) (hd : Dispatch d e d' dbrq) : Sound k d' := by
  have hatt : Attached d' := attached_step h.attached hd
  cases hd with
  | idle => exact h
  | control action client args data =>
    refine h.keep hatt rfl rfl h.recorded ?_
    intro rq hrq
    obtain hold | hnew := List.mem_append.mp hrq
    · exact .inl hold
    · obtain rfl := List.mem_singleton.mp hnew
      cases action <;> simp [ControlAction.toAction]
  | read clock input last d₁ keep hc hr hacc hread =>
    have hsound : Sound k d₁ := by
      rw [hread]
      exact sound_read h hcalm
    cases keep
    · exact hsound.keep hatt rfl rfl hsound.recorded fun rq hrq => .inl hrq
    · exact hsound
  | finalize hc hr =>
    rw [finalize_fst] at hatt ⊢
    exact h.keep hatt rfl rfl (fun hn => absurd rfl hn) fun rq hrq => .inl hrq
  | dropped io rq rest hq =>
    exact h.keep hatt rfl rfl h.recorded fun r hr => .inl (mem_of_popped hq hr)
  | connectFailed io rq rest hq ha hc =>
    rw [connectFailed_fst] at hatt ⊢
    exact h.keep hatt rfl rfl (fun hn => absurd rfl hn) fun r hr => .inl (mem_of_popped hq hr)
  | connected io rq rest hq ha hc =>
    refine h.keep hatt rfl rfl (by simp [pushRequest, enableConnection, connecting]) ?_
    intro r hr
    obtain hold | hnew := List.mem_append.mp hr
    · exact .inl (mem_of_popped hq hold)
    · obtain rfl := List.mem_singleton.mp hnew
      simp
  | descriptorSent io rq rest hq ha hc =>
    exact h.keep hatt rfl rfl h.recorded fun r hr => .inl (mem_of_popped hq hr)
  | sessionSet io rq rest info hq ha hb =>
    obtain ⟨info', rfl, hplain, -⟩ := h.sessions rq (by simp [hq]) ha
    obtain rfl : info' = info := by simpa [sessionRequest] using hb
    refine ⟨h.hash, h.key, hatt, h.recorded, hplain, ?_, ?_⟩
    · intro r hr haction
      obtain hold | hnew := List.mem_append.mp hr
      · exact h.sessions r (mem_of_popped hq hold) haction
      · obtain rfl := List.mem_singleton.mp hnew
        simp [internalRequest] at haction
    · intro r hr haction
      obtain hold | hnew := List.mem_append.mp hr
      · exact h.data r (mem_of_popped hq hold) haction
      · obtain rfl := List.mem_singleton.mp hnew
        simp [internalRequest] at haction
  | disconnecting io rq rest c hq ha hc hs =>
    rw [remConnectionSource_eq] at hatt ⊢
    exact h.keep hatt rfl rfl h.recorded fun r hr => .inl (mem_of_popped hq hr)
  | streamStarted io rq rest hq ha =>
    exact h.keep hatt rfl rfl h.recorded fun r hr => .inl (mem_of_popped hq hr)
  | streamStopped io rq rest hq ha =>
    rw [stopUpdateLanes_eq] at hatt ⊢
    exact h.keep hatt rfl rfl h.recorded fun r hr => .inl (mem_of_popped hq hr)
  | requested io rq rest action hq ha hs =>
    refine h.keep hatt rfl rfl h.recorded ?_
    intro r hr
    obtain hold | hnew := List.mem_append.mp hr
    · exact .inl (mem_of_popped hq hold)
    · obtain rfl := List.mem_singleton.mp hnew
      obtain ⟨rfl, -⟩ | ⟨rfl, -⟩ | ⟨rfl, -⟩ := hs <;> simp [internalRequest]
  | dataProcessed io rq rest hq =>
    exact h.keep hatt rfl rfl h.recorded fun r hr => .inl (mem_of_popped hq hr)

lemma dispatch_id {e : Event} {dbrq : List IDatabase.Request} (hd : Dispatch d e d' dbrq) :
    d'.deviceData.id = d.deviceData.id := by
  cases hd with
  | read clock input last d₁ keep hc hr hacc =>
    obtain ⟨added, streams, rfl, -⟩ := accepts_eq hacc
    cases keep <;> rfl
  | finalize => rw [finalize_fst]
  | connectFailed => rw [connectFailed_fst]
  | disconnecting =>
    rw [remConnectionSource_eq]
    rfl
  | streamStopped =>
    rw [stopUpdateLanes_eq]
    rfl
  | _ => rfl

lemma dispatch_queued {type : DbType} {e : Event} {dbrq : List IDatabase.Request} (h : Sound k d)
    (hd : Dispatch d e d' dbrq) : ∀ rq ∈ dbrq, Queued type ⟨rq, some k⟩ := by
  cases dispatch_database hd with
  | nothing => simp
  | ended =>
    simp only [List.mem_singleton, forall_eq]
    exact .closed (some k) d.sessionData.hash h.plain
  | opened io rq rest info hq ha hb =>
    obtain ⟨info', rfl, hplain, hname⟩ := h.sessions rq (by simp [hq]) ha
    obtain rfl : info' = info := by simpa [sessionRequest] using hb
    simp only [List.mem_singleton, forall_eq]
    rw [h.hash]
    exact .opened k info' h.key hplain hname
  | stored io rq rest hq ha =>
    obtain ⟨data, rfl, hplain⟩ := h.data rq (by simp [hq]) ha
    simp only [List.mem_singleton, forall_eq]
    exact .stored k d.sessionData.hash data h.plain hplain

end Device

/-! ### The table of devices -/

lemma NotFound.none {hash : String} {t : Tables} (h : NotFound .postgreSQL hash t) :
    t.devicesWith (hashMatches .postgreSQL) hash = [] :=
  h.resolve_right not_misread_postgreSQL

lemma nodup_added {type : DbType} {t : Tables} (deviceData : Control.DeviceData)
    (hids : (t.devices.map DeviceRow.id).Nodup)
    (hbound : type = .postgreSQL → ∀ row ∈ t.devices, row.id ≤ t.deviceSeq) :
    ((added type deviceData t).devices.map DeviceRow.id).Nodup := by
  simp only [added, List.map_append, List.map_cons, List.map_nil]
  apply nodup_newId hids
  intro htype id hid
  obtain ⟨row, hrow, rfl⟩ := List.mem_map.mp hid
  exact hbound htype row hrow

lemma mem_added {type : DbType} {t : Tables} {deviceData : Control.DeviceData} {row : DeviceRow}
    (h : row ∈ (added type deviceData t).devices) : row ∈ t.devices ∨
      row = ⟨newId type (t.devices.map (·.id)) t.deviceSeq, deviceData.hash, deviceData.name,
        deviceData.address, deviceData.port⟩ := by
  simpa [added] using h

lemma keyed_added {type : DbType} {t : Tables} {deviceData : Control.DeviceData} (h : Keyed type t)
    (hplain : Plain deviceData.hash)
    (hliteral : type = .postgreSQL → LikePattern.Literal deviceData.hash)
    (hnew : NotFound type deviceData.hash t) : Keyed type (added type deviceData t) := by
  refine ⟨?_, nodup_added deviceData h.ids h.bound, ?_, ?_, ?_⟩
  · intro row hrow
    obtain hold | rfl := mem_added hrow
    · exact h.plain row hold
    · exact hplain
  · intro htype row hrow
    obtain hold | rfl := mem_added hrow
    · exact h.literal htype row hold
    · exact hliteral htype
  · intro htype
    simp only [added, List.map_append, List.map_cons, List.map_nil]
    rw [List.nodup_append]
    refine ⟨h.hashes htype, by simp, ?_⟩
    rintro hash hhash _ hnewhash rfl
    obtain ⟨row, hrow, rfl⟩ := List.mem_map.mp hhash
    subst htype
    refine List.filter_eq_nil_iff.mp hnew.none row hrow ?_
    exact (hashMatches_eq (hliteral rfl) row.hash).mpr (List.mem_singleton.mp hnewhash)
  · intro htype row hrow
    obtain hold | rfl := mem_added hrow
    · exact Nat.le_succ_of_le (h.bound htype row hold)
    · simp [htype, newId, added]

lemma keyed_dropped {type : DbType} {hash : String} {t : Tables} (h : Keyed type t) :
    Keyed type (dropped type hash t) := by
  constructor
  · intro row hrow
    rw [dropped_devices] at hrow
    exact h.plain row (List.mem_of_mem_filter hrow)
  · rw [dropped_devices]
    exact h.ids.sublist (List.filter_sublist.map _)
  · intro htype row hrow
    rw [dropped_devices] at hrow
    exact h.literal htype row (List.mem_of_mem_filter hrow)
  · intro htype
    rw [dropped_devices]
    exact (h.hashes htype).sublist (List.filter_sublist.map _)
  · intro htype row hrow
    rw [dropped_devices] at hrow
    rw [dropped_deviceSeq]
    exact h.bound htype row (List.mem_of_mem_filter hrow)

lemma dropped_self (type : DbType) (hash : String) (t : Tables) :
    NotFound type hash (dropped type hash t) := by
  left
  unfold Tables.devicesWith
  rw [dropped_devices, List.filter_filter, List.filter_eq_nil_iff]
  simp

/-- The device is the one that the sub-select for its hash finds. -/
structure Foremost (type : DbType) (t : Tables) (device : DeviceRow) : Prop where
  mem : device ∈ t.devices
  found : scalar type (deviceIds type device.hash t) = some device.id

section Foremost

variable {type : DbType} {t : Tables} {device other : DeviceRow}

lemma Foremost.unique (h : Foremost type t device) (h' : Foremost type t other)
    (hids : (t.devices.map DeviceRow.id).Nodup) (heq : device.hash = other.hash) : device = other := by
  have hfound := h.found
  rw [heq, h'.found] at hfound
  exact List.inj_on_of_nodup_map hids h.mem h'.mem (Option.some.inj hfound).symm

lemma filter_hash_eq {devices : List DeviceRow} (h : (devices.map DeviceRow.hash).Nodup)
    {device : DeviceRow} (hdevice : device ∈ devices) :
    devices.filter (fun row => decide (row.hash = device.hash)) = [device] := by
  induction devices with
  | nil => cases hdevice
  | cons row devices ih =>
    rw [List.map_cons, List.nodup_cons] at h
    obtain rfl | hdevice := List.mem_cons.mp hdevice
    · have hrest : devices.filter (fun row => decide (row.hash = device.hash)) = [] := by
        rw [List.filter_eq_nil_iff]
        intro row hrow heq
        exact h.1 (List.mem_map.mpr ⟨row, hrow, by simpa using heq⟩)
      rw [List.filter_cons_of_pos (by simp), hrest]
    · have hne : row.hash ≠ device.hash := by
        intro heq
        exact h.1 (heq ▸ List.mem_map_of_mem hdevice)
      rw [List.filter_cons_of_neg (by simpa using hne)]
      exact ih h.2 hdevice

lemma foremost_of_first {hash : String} (h : t.devices.find? (fun row => row.hash = hash) = some device)
    (hkeyed : Keyed type t) : Foremost type t device := by
  have hmem := List.mem_of_find?_eq_some h
  have hhash : device.hash = hash := by simpa using List.find?_some h
  refine ⟨hmem, ?_⟩
  subst hhash
  cases type with
  | sqlite3 =>
    have hhead : (t.devicesWith (hashMatches .sqlite3) device.hash).head? = some device := by
      unfold Tables.devicesWith
      rw [List.head?_filter]
      simpa [hashMatches] using h
    simp only [scalar, deviceIds, List.head?_map, hhead, Option.map_some]
  | postgreSQL =>
    have hone : t.devicesWith (hashMatches .postgreSQL) device.hash = [device] := by
      have hmatch : ∀ row ∈ t.devices,
          hashMatches .postgreSQL device.hash row.hash = decide (row.hash = device.hash) := by
        intro row _
        rw [Bool.eq_iff_iff, decide_eq_true_eq]
        exact hashMatches_eq (hkeyed.literal rfl device hmem) row.hash
      unfold Tables.devicesWith
      rw [List.filter_congr hmatch]
      exact filter_hash_eq (hkeyed.hashes rfl) hmem
    simp [scalar, deviceIds, hone]

lemma Foremost.congr {t' : Tables} (h : Foremost type t device) (hdevices : t'.devices = t.devices) :
    Foremost type t' device := by
  refine ⟨hdevices ▸ h.mem, ?_⟩
  have hids : deviceIds type device.hash t' = deviceIds type device.hash t := by
    unfold deviceIds Tables.devicesWith
    rw [hdevices]
  rw [hids]
  exact h.found

lemma Keyed.apart {deviceData : Control.DeviceData} (h : Keyed type (added type deviceData t))
    (hmem : device ∈ t.devices) (htype : type = .postgreSQL) :
    hashMatches type device.hash deviceData.hash = false := by
  have hliteral := h.literal htype device (List.mem_append_left _ hmem)
  have hhashes := h.hashes htype
  simp only [added, List.map_append, List.map_cons, List.map_nil, List.nodup_append] at hhashes
  have hne := hhashes.2.2 device.hash (List.mem_map_of_mem hmem) deviceData.hash (by simp)
  rw [Bool.eq_false_iff]
  exact fun hmatch => hne ((hashMatches_eq hliteral _).mp hmatch).symm

lemma Foremost.of_added {deviceData : Control.DeviceData} (h : Foremost type t device)
    (hkeyed : Keyed type (added type deviceData t)) :
    Foremost type (added type deviceData t) device := by
  refine ⟨List.mem_append_left _ h.mem, ?_⟩
  have hfound := h.found
  have hids : deviceIds type device.hash (added type deviceData t) = deviceIds type device.hash t ++
      if hashMatches type device.hash deviceData.hash then
        [newId type (t.devices.map (·.id)) t.deviceSeq] else [] := by
    unfold deviceIds Tables.devicesWith added
    rw [List.filter_append, List.map_append]
    congr 1
    by_cases hmatch : hashMatches type device.hash deviceData.hash = true <;> simp [hmatch]
  rw [hids]
  cases type with
  | sqlite3 =>
    simp only [scalar] at hfound ⊢
    rw [List.head?_append, hfound, Option.some_or]
  | postgreSQL =>
    rw [hkeyed.apart h.mem rfl, if_neg Bool.false_ne_true, List.append_nil]
    exact hfound

lemma Foremost.of_dropped {hash : String} (h : Foremost type t device)
    (hne : hashMatches type hash device.hash = false)
    (hkeyed : Keyed type t) : Foremost type (dropped type hash t) device := by
  have hmem : device ∈ (dropped type hash t).devices := by
    rw [dropped_devices, List.mem_filter]
    exact ⟨h.mem, by simp [hne]⟩
  refine ⟨hmem, ?_⟩
  have hsame : ∀ row ∈ t.devices, hashMatches type device.hash row.hash = true →
      row.hash = device.hash := by
    intro row hrow hmatch
    cases type with
    | sqlite3 => simpa [hashMatches] using hmatch
    | postgreSQL => exact (hashMatches_eq (hkeyed.literal rfl device h.mem) row.hash).mp hmatch
  have hids : deviceIds type device.hash (dropped type hash t) = deviceIds type device.hash t := by
    unfold deviceIds Tables.devicesWith
    rw [dropped_devices, List.filter_filter]
    congr 1
    apply List.filter_congr
    intro row hrow
    cases hmatch : hashMatches type device.hash row.hash with
    | false => rfl
    | true => rw [hsame row hrow hmatch, hne]; rfl
  rw [hids]
  exact h.found

end Foremost

/-! ### The collector -/

section Collector

variable {b : Backend} {t₀ : Tables} {c c' : Collector} {e : Collector.Event}

lemma base_start (h : CleanStart b.type t₀) : Base b (Collector.start t₀) where
  keyed := h.keyed
  queued e he := by
    simp only [journal, Collector.start, List.nil_append, List.mem_cons, List.not_mem_nil,
      or_false] at he
    obtain rfl | rfl | rfl := he
    · exact .check
    · exact .load
    · exact .clean
  clean := by simp [journal, Collector.start, cleanEntry]
  sessions := h.sessions
  sound k d hget := by simp [Collector.start, DeviceManager.getDevice] at hget
  known e he k hk := by
    simp only [journal, Collector.start, List.nil_append, List.mem_cons, List.not_mem_nil,
      or_false] at he
    obtain rfl | rfl | rfl := he <;> simp [Collector.startRequest] at hk

lemma journal_device (c : Collector) (devices : DeviceManager) (new : List DbEntry) :
    journal { c with devices := devices, queue := c.queue ++ new } = journal c ++ new := by
  simp [journal]

/-- The head of the database queue moves from one part of the journal to the other. -/
lemma journal_database {entry : DbEntry} {rest : List DbEntry} (hq : c.queue = entry :: rest)
    (devices : DeviceManager) (tables : Tables) (new : List DbEntry) :
    journal ⟨devices, tables, rest ++ new, c.handled ++ [entry]⟩ = journal c ++ new := by
  simp [journal, hq]

lemma journal_served {entry : DbEntry} {rest : List DbEntry} (hq : c.queue = entry :: rest)
    (devices : DeviceManager) (tables : Tables) :
    journal ⟨devices, tables, rest, c.handled ++ [entry]⟩ = journal c ++ [] := by
  simp [journal, hq]

lemma sound_loaded {rows table : List DeviceRow} (hplain : ∀ row ∈ table, Plain row.hash)
    (hrows : rows = [] ∨ rows = table) {k : String} {d : MonitorDevice}
    (h : ∃ row ∈ rows.map Database.DeviceRow.toData, row.hash = k ∧ d = loaded row) : Sound k d := by
  obtain ⟨data, hdata, rfl, rfl⟩ := h
  obtain ⟨row, hrow, rfl⟩ := List.mem_map.mp hdata
  have hmem : row ∈ table := by
    obtain rfl | rfl := hrows
    · cases hrow
    · exact hrow
  exact ⟨rfl, hplain row hmem, rfl, fun hn => absurd rfl hn, (by decide : Plain ""),
    by simp [loaded], by simp [loaded]⟩

lemma base_device (hb : Base b c) {k : String} {ev : Event} (hcalm : Calm b.type (.device k ev))
    {d d' : MonitorDevice} {dbrq : List IDatabase.Request}
    (hget : c.devices.getDevice k = some d) (hd : Dispatch d ev d' dbrq) :
    Base b { c with
      devices := c.devices.update k d'
      queue := c.queue ++ dbrq.map fun rq => ⟨rq, some k⟩ } := by
  have hsound := hb.sound k d hget
  have hsound' := sound_dispatch hsound hcalm hd
  have hself := getDevice_update_self hsound'.hash hget
  refine ⟨hb.keyed, ?_, ?_, hb.sessions, ?_, ?_⟩
  · rw [journal_device]
    intro e he
    obtain hold | hnew := List.mem_append.mp he
    · exact hb.queued e hold
    · obtain ⟨rq, hrq, rfl⟩ := List.mem_map.mp hnew
      exact dispatch_queued hsound hd rq hrq
  · rw [journal_device]
    exact List.mem_append_left _ hb.clean
  · intro j dj hj
    by_cases hjk : j = k
    · subst hjk
      obtain rfl : d' = dj := Option.some.inj (hself.symm.trans hj)
      exact hsound'
    · exact hb.sound j dj ((getDevice_update_ne hsound'.hash hjk).symm.trans hj)
  · rw [journal_device]
    intro e he j hj
    by_cases hjk : j = k
    · subst hjk
      exact ⟨d', hself⟩
    · obtain hold | hnew := List.mem_append.mp he
      · obtain ⟨dj, hdj⟩ := hb.known e hold j hj
        exact ⟨dj, (getDevice_update_ne hsound'.hash hjk).trans hdj⟩
      · obtain ⟨rq, hrq, rfl⟩ := List.mem_map.mp hnew
        exact absurd (Option.some.inj hj).symm hjk

lemma base_tables (hb : Base b c) {tables : Tables} {queue handled new : List DbEntry}
    (hjournal : journal ⟨c.devices, tables, queue, handled⟩ = journal c ++ new)
    (hnew : ∀ e ∈ new, Queued b.type e ∧ e.device = none) (hkeyed : Keyed b.type tables)
    (hsessions : ∀ row ∈ tables.sessions, row.endTimestamp = 0 → Plain row.hash) :
    Base b ⟨c.devices, tables, queue, handled⟩ where
  keyed := hkeyed
  queued e he := by
    rw [hjournal] at he
    obtain hold | he := List.mem_append.mp he
    · exact hb.queued e hold
    · exact (hnew e he).1
  clean := by
    rw [hjournal]
    exact List.mem_append_left _ hb.clean
  sessions := hsessions
  sound k d hget := hb.sound k d hget
  known e he k hk := by
    rw [hjournal] at he
    obtain hold | he := List.mem_append.mp he
    · exact hb.known e hold k hk
    · rw [(hnew e he).2] at hk
      cases hk

lemma Keyed.congr {type : DbType} {t t' : Tables} (h : Keyed type t) (hdevices : t'.devices = t.devices)
    (hseq : t'.deviceSeq = t.deviceSeq) : Keyed type t' := by
  constructor
  · exact hdevices ▸ h.plain
  · exact hdevices ▸ h.ids
  · exact hdevices ▸ h.literal
  · exact hdevices ▸ h.hashes
  · rw [hdevices, hseq]
    exact h.bound

lemma base_served (hb : Base b c) {tables : Tables} {queue handled : List DbEntry}
    (hjournal : journal ⟨c.devices, tables, queue, handled⟩ = journal c ++ [])
    (hdevices : tables.devices = c.tables.devices) (hseq : tables.deviceSeq = c.tables.deviceSeq)
    (hsessions : ∀ row ∈ tables.sessions, row.endTimestamp = 0 → Plain row.hash) :
    Base b ⟨c.devices, tables, queue, handled⟩ :=
  base_tables hb hjournal (by simp) (hb.keyed.congr hdevices hseq) hsessions

/-- A calm move keeps the base invariant. -/
theorem base_move (hb : Base b c) (hcalm : Calm b.type e) (hmove : Move b c e c') : Base b c' := by
  cases hmove with
  | idle => exact hb
  | device k e d d' dbrq hget hd => exact base_device hb hcalm hget hd
  | request action client args bulkData h =>
    refine base_tables hb (List.append_assoc ..).symm ?_ hb.keyed hb.sessions
    intro e he
    obtain rfl := List.mem_singleton.mp he
    exact ⟨.client action client args bulkData h, rfl⟩
  | passed io entry rest rows missing hq hrows =>
    have hjournal := journal_served hq (c.devices.load (rows.map Database.DeviceRow.toData))
      (reshaped missing c.tables)
    rw [List.append_nil] at hjournal
    refine ⟨hb.keyed.congr rfl rfl, by rw [hjournal]; exact hb.queued, by rw [hjournal]; exact hb.clean,
      hb.sessions, ?_, ?_⟩
    · intro k d hget
      obtain hold | hnew := getDevice_load hget
      · exact hb.sound k d hold
      · exact sound_loaded hb.keyed.plain hrows hnew
    · rw [hjournal]
      intro e he k hk
      obtain ⟨d, hd⟩ := hb.known e he k hk
      exact ⟨d, getDevice_load_of_some hd⟩
  | added io entry rest deviceData hq hentry hplain hliteral hnew =>
    refine base_tables hb (journal_database hq _ _ _) ?_ (keyed_added hb.keyed hplain hliteral hnew)
      hb.sessions
    intro e he
    obtain rfl := List.mem_singleton.mp he
    exact ⟨.load, rfl⟩
  | dropped io entry rest hash hq =>
    refine base_tables hb (journal_served hq _ _) (by simp) (keyed_dropped hb.keyed) ?_
    exact fun row hrow hopen => hb.sessions row (mem_dropped hrow) hopen
  | replaced io entry rest deviceData hq hentry hdropped hsome hplain hliteral =>
    have hkeyed := keyed_added (keyed_dropped hb.keyed) hplain hliteral (dropped_self ..)
    refine base_tables hb (journal_database hq _ _ _) ?_ hkeyed ?_
    · intro e he
      obtain rfl := List.mem_singleton.mp he
      exact ⟨.load, rfl⟩
    · exact fun row hrow hopen => hb.sessions row (mem_dropped hrow) hopen
  | removed io entry rest hash hq =>
    refine base_served hb (journal_served hq _ _) rfl rfl ?_
    exact fun row hrow hopen => hb.sessions row (mem_removed.mp hrow).1 hopen
  | cleaned io rest hq =>
    refine base_tables hb (journal_database hq _ _ _) ?_ hb.keyed hb.sessions
    intro e he
    obtain ⟨row, hrow, rfl⟩ := List.mem_map.mp he
    obtain ⟨hmem, hopen⟩ := List.mem_filter.mp hrow
    exact ⟨.closed none row.hash (hb.sessions row hmem (by simpa using hopen)), rfl⟩
  | closed io owner hash rest hq =>
    refine base_served hb (journal_served hq _ _) rfl rfl ?_
    exact fun row hrow hopen => hb.sessions row (mem_ended hrow hopen io.now_pos).1 hopen
  | opened io k info rest hq =>
    refine base_served hb (journal_served hq _ _) (opened_devices ..) (opened_deviceSeq ..) ?_
    intro row hrow hopen
    obtain ⟨hold, -⟩ | ⟨owner, -, rfl⟩ := mem_opened hrow
    · exact hb.sessions row hold hopen
    · exact (queued_opened (hb.queued _ (mem_journal_queue hq))).2
  | stored io k hash data rest hq =>
    refine base_served hb (journal_served hq _ _) (stored_devices ..) (stored_deviceSeq ..) ?_
    rw [stored_sessions]
    exact hb.sessions

/-- The entry that is handled does not delete the device. -/
def KeepsDevice (type : DbType) (k : String) (c : Collector) : Collector.Event → Prop
  | .database _ => ∀ e ∈ c.queue.head?, ∀ hash ∈ droppedHash e, hashMatches type hash k = false
  | .device _ _ | .request _ _ _ _ => True

/-- The entry that is handled deletes no device. -/
def KeepsDevices (type : DbType) (c : Collector) : Collector.Event → Prop
  | .database _ => ∀ e ∈ c.queue.head?, ∀ hash ∈ droppedHash e,
      c.tables.devicesWith (hashMatches type) hash = []
  | .device _ _ | .request _ _ _ _ => True

instance (type : DbType) (k : String) (c : Collector) :
    (e : Collector.Event) → Decidable (KeepsDevice type k c e)
  | .database _ => inferInstanceAs
      (Decidable (∀ e ∈ c.queue.head?, ∀ hash ∈ droppedHash e, hashMatches type hash k = false))
  | .device _ _ | .request _ _ _ _ => isTrue trivial

instance (type : DbType) (c : Collector) : (e : Collector.Event) → Decidable (KeepsDevices type c e)
  | .database _ => inferInstanceAs (Decidable (∀ e ∈ c.queue.head?, ∀ hash ∈ droppedHash e,
      c.tables.devicesWith (hashMatches type) hash = []))
  | .device _ _ | .request _ _ _ _ => isTrue trivial

lemma KeepsDevices.unmatched {type : DbType} {c : Collector} {io : DbIo} {entry : DbEntry}
    {rest : List DbEntry} {hash : String} (h : KeepsDevices type c (.database io))
    (hq : c.queue = entry :: rest) (hdropped : droppedHash entry = some hash) :
    c.tables.devicesWith (hashMatches type) hash = [] :=
  h entry (by simp [hq]) hash hdropped

/-- The check of an `AddSession` that is handled does not read the id of its row as -1. -/
def ReadsSession (type : DbType) (c : Collector) : Collector.Event → Prop
  | .database _ => ∀ e ∈ c.queue.head?, ∀ hash ∈ openedHash e,
      ¬ Misread type (checkedSession type hash c.tables)
  | .device _ _ | .request _ _ _ _ => True

instance (type : DbType) (c : Collector) : (e : Collector.Event) → Decidable (ReadsSession type c e)
  | .database _ => inferInstanceAs (Decidable (∀ e ∈ c.queue.head?, ∀ hash ∈ openedHash e,
      ¬ Misread type (checkedSession type hash c.tables)))
  | .device _ _ | .request _ _ _ _ => isTrue trivial

lemma ReadsSession.read {type : DbType} {c : Collector} {io : DbIo} {k : String}
    {info : Monitor.SessionInfo} {rest : List DbEntry} (h : ReadsSession type c (.database io))
    (hq : c.queue = openEntry k info :: rest) : ¬ Misread type (checkedSession type info.hash c.tables) :=
  h _ (by rw [hq]; rfl) info.hash rfl

/-- The device has the row that the sub-select for it finds. -/
def Listed (type : DbType) (c : Collector) (k : String) : Prop :=
  ∀ d, c.devices.getDevice k = some d →
    ∃ row, Foremost type c.tables row ∧ row.hash = k ∧ d.deviceData.id = row.id

lemma foremost_kept {k : String} (hb : Base b c) (hkeep : KeepsDevice b.type k c e)
    (hmove : Move b c e c') {device : DeviceRow} (hdevice : Foremost b.type c.tables device)
    (hk : device.hash = k) : Foremost b.type c'.tables device := by
  have hunmatched : ∀ {io : DbIo} {entry : DbEntry} {rest : List DbEntry} {hash : String},
      e = .database io → c.queue = entry :: rest → droppedHash entry = some hash →
      hashMatches b.type hash device.hash = false := by
    rintro io entry rest hash rfl hq hhash
    rw [hk]
    exact hkeep entry (by simp [hq]) hash hhash
  cases hmove with
  | idle | device | request | passed | removed | cleaned | closed => exact hdevice.congr rfl
  | added io entry rest deviceData hq hentry hplain hliteral hnew =>
    exact hdevice.of_added (keyed_added hb.keyed hplain hliteral hnew)
  | dropped io entry rest hash hq hentry hhash =>
    exact hdevice.of_dropped (hunmatched rfl hq hhash) hb.keyed
  | replaced io entry rest deviceData hq hentry hhash hsome hplain hliteral =>
    have hkeyed := keyed_added (keyed_dropped hb.keyed) hplain hliteral (dropped_self ..)
    exact (hdevice.of_dropped (hunmatched rfl hq hhash) hb.keyed).of_added hkeyed
  | opened => exact hdevice.congr (opened_devices ..)
  | stored => exact hdevice.congr (stored_devices ..)

lemma KeepsDevices.keeps (h : KeepsDevices b.type c e) {device : DeviceRow}
    (hdevice : device ∈ c.tables.devices) : KeepsDevice b.type device.hash c e := by
  cases e with
  | database io =>
    intro entry hentry hash hhash
    simpa using List.filter_eq_nil_iff.mp (h entry hentry hash hhash) device hdevice
  | device | request => trivial

lemma foremost_mono (hb : Base b c) (hkeep : KeepsDevices b.type c e) (hmove : Move b c e c')
    {device : DeviceRow} (hdevice : Foremost b.type c.tables device) : Foremost b.type c'.tables device :=
  foremost_kept hb (hkeep.keeps hdevice.mem) hmove hdevice rfl

lemma listed_start (type : DbType) (t₀ : Tables) (k : String) : Listed type (Collector.start t₀) k := by
  intro d hget
  simp [Collector.start, DeviceManager.getDevice] at hget

/-- A device that is not deleted keeps its row. -/
theorem listed_move {k : String} (hb : Base b c) (hcalm : Calm b.type e)
    (hkeep : ∀ device ∈ c.tables.devices, device.hash = k → KeepsDevice b.type k c e)
    (hmove : Move b c e c') (h : Listed b.type c k) : Listed b.type c' k := by
  have hsame : ∀ {d d' : MonitorDevice}, c.devices.getDevice k = some d →
      d'.deviceData.id = d.deviceData.id →
      ∃ row, Foremost b.type c'.tables row ∧ row.hash = k ∧ d'.deviceData.id = row.id := by
    intro d d' hget hid
    obtain ⟨row, hrow, hk, hrowid⟩ := h d hget
    exact ⟨row, foremost_kept hb (hkeep row hrow.mem hk) hmove hrow hk, hk, hid.trans hrowid⟩
  intro d' hget'
  cases hmove with
  | idle | request | added | dropped | replaced | removed | cleaned | closed | opened | stored =>
    exact hsame hget' rfl
  | device j ev d₀ d₁ dbrq hget hd =>
    have hhash := (sound_dispatch (hb.sound j d₀ hget) hcalm hd).hash
    by_cases hkj : k = j
    · subst hkj
      obtain rfl := Option.some.inj ((getDevice_update_self hhash hget).symm.trans hget')
      exact hsame hget (dispatch_id hd)
    · exact hsame ((getDevice_update_ne hhash hkj).symm.trans hget') rfl
  | passed io entry rest rows missing hq hrows =>
    obtain hold | ⟨-, data, hdata, rfl⟩ := getDevice_load_first hget'
    · exact hsame hold rfl
    · obtain rfl | rfl := hrows
      · cases hdata
      · rw [List.find?_map] at hdata
        obtain ⟨row, hrow, rfl⟩ := Option.map_eq_some_iff.mp hdata
        have hfirst : c.tables.devices.find? (fun row => row.hash = k) = some row := hrow
        exact ⟨row, (foremost_of_first hfirst hb.keyed).congr rfl,
          by simpa using List.find?_some hfirst, rfl⟩

lemma numbered_move {type : DbType} (hmove : Move b c e c') (htype : b.type = type)
    (h : Numbered type c.tables) : Numbered type c'.tables := by
  subst htype
  cases hmove with
  | idle | device | request | cleaned => exact h
  | passed => exact numbered_reshaped h
  | added => exact ⟨h.distinct, h.bound⟩
  | dropped => exact numbered_dropped h
  | replaced io entry rest deviceData =>
    have hd : Numbered b.type (dropped b.type deviceData.hash c.tables) := numbered_dropped h
    exact ⟨hd.distinct, hd.bound⟩
  | removed => exact numbered_removed h
  | closed => exact numbered_ended h
  | opened => exact numbered_opened h
  | stored => exact numbered_stored h

end Collector

end TkmCollector.Proofs
