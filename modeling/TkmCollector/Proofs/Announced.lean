import TkmCollector.Proofs.ChannelFrame

namespace TkmCollector.Proofs

open MonitorDevice

/-- The hashes of the sessions that were announced on the connections, the oldest first. -/
def announced (streams : List (List StreamItem)) : List String :=
  streams.reverse.flatten.filterMap StreamItem.announces

/-- The hashes that were announced to a device. -/
def announcedOf (c : Collector) (k : String) : List String :=
  match c.devices.getDevice k with
  | some d => announced d.streams
  | none => []

/-- The hashes of the `SetSession` messages of an input. -/
def sentHashes (input : List Envelope) : List String :=
  input.filterMap fun envelope =>
    if envelope.origin = .monitor ∧ envelope.mesg.type = .setSession then
      some envelope.mesg.payload.unpackSessionInfo.hash
    else none

/-- The hashes that an event brings for a device. -/
def sentBy (k : String) : Collector.Event → List String
  | .device j (.connection _ input _) => if j = k then sentHashes input else []
  | .device _ (.control _ _ _ _) | .device _ .finalize | .device _ (.queue _) | .device _ (.timer _)
  | .database _ | .request _ _ _ _ => []

/-- What an event announces, with the device it is announced to. -/
def sent : Collector.Event → List (String × String)
  | .device k (.connection _ input _) => (sentHashes input).map fun hash => (k, hash)
  | .device _ (.control _ _ _ _) | .device _ .finalize | .device _ (.queue _) | .device _ (.timer _)
  | .database _ | .request _ _ _ _ => []

lemma mem_sentBy {k hash : String} {e : Collector.Event} : hash ∈ sentBy k e ↔ (k, hash) ∈ sent e := by
  cases e with
  | device j ev =>
    cases ev with
    | connection clock input last =>
      by_cases h : j = k <;> simp [sentBy, sent, h]
    | control | finalize | queue | timer => simp [sentBy, sent]
  | database | request => simp [sentBy, sent]

lemma sent_device {k k' hash hash' : String} {e : Collector.Event} (h : (k, hash) ∈ sent e)
    (h' : (k', hash') ∈ sent e) : k = k' := by
  cases e with
  | device j ev =>
    cases ev with
    | connection clock input last =>
      simp only [sent, List.mem_map, Prod.mk.injEq] at h h'
      obtain ⟨_, _, rfl, -⟩ := h
      obtain ⟨_, _, rfl, -⟩ := h'
      rfl
    | control | finalize | queue | timer => cases h
  | database | request => cases h

@[simp] lemma announced_connect (streams : List (List StreamItem)) :
    announced ([] :: streams) = announced streams := by
  simp [announced]

lemma announcedOf_some {c : Collector} {k : String} {d : MonitorDevice}
    (h : c.devices.getDevice k = some d) : announcedOf c k = announced d.streams := by
  unfold announcedOf
  rw [h]

lemma announced_record {d : MonitorDevice} (item : StreamItem) (hne : d.streams ≠ []) :
    announced (d.record item).streams = announced d.streams ++ (StreamItem.announces item).toList := by
  unfold record
  cases hs : d.streams with
  | nil => exact absurd hs hne
  | cons stream older => cases h : StreamItem.announces item <;> simp [announced, h]

lemma sentHashes_tail (envelope : Envelope) (rest : List Envelope) :
    (sentHashes rest).Sublist (sentHashes (envelope :: rest)) :=
  (List.sublist_cons_self envelope rest).filterMap _

lemma announced_read {d : MonitorDevice} (hne : d.streams ≠ []) (clock : Clock) (last : ReadStatus)
    (input : List Envelope) :
    ∃ taken, taken.Sublist (sentHashes input) ∧
      announced (readEnvelopes clock last d input).1.streams = announced d.streams ++ taken := by
  obtain ⟨rest, -, taken, htaken, hann⟩ := readEnvelopes_induct clock last d input
    (P := fun d' rest => d'.streams ≠ [] ∧ ∃ taken,
      (taken ++ sentHashes rest).Sublist (sentHashes input) ∧
      announced d'.streams = announced d.streams ++ taken)
    (fun d' envelope rest ⟨hne', taken, hsent, hann⟩ =>
      ⟨hne', taken, ((sentHashes_tail envelope rest).append_left taken).trans hsent, hann⟩)
    (fun d' payload rest ⟨hne', taken, hsent, hann⟩ => by
      refine ⟨record_streams_ne_nil _ hne', taken ++ [payload.unpackSessionInfo.hash], ?_, ?_⟩
      · simpa [sentHashes] using hsent
      · change announced (d'.record _).streams = _
        rw [announced_record _ hne', hann, List.append_assoc]
        rfl)
    (fun d' payload rest ⟨hne', taken, hsent, hann⟩ => by
      refine ⟨record_streams_ne_nil _ hne', taken, ?_, ?_⟩
      · simpa [sentHashes] using hsent
      · change announced (d'.record _).streams = _
        rw [announced_record _ hne', hann]
        exact List.append_nil _)
    (fun d' status rest hP => hP)
    ⟨hne, [], List.Sublist.refl _, (List.append_nil _).symm⟩
  exact ⟨taken, (List.sublist_append_left taken _).trans htaken, hann⟩

section Moves

variable {b : Backend} {c c' : Collector} {k : String} {d d' : MonitorDevice}

lemma announced_dispatch {e : Event} {dbrq : List IDatabase.Request} (hs : Sound k d)
    (hd : Dispatch d e d' dbrq) :
    ∃ taken, taken.Sublist (sentBy k (.device k e)) ∧
      announced d'.streams = announced d.streams ++ taken := by
  have hsame : d'.streams = d.streams ∨ d'.streams = [] :: d.streams →
      ∃ taken, taken.Sublist (sentBy k (.device k e)) ∧
        announced d'.streams = announced d.streams ++ taken := by
    rintro (h | h)
    · exact ⟨[], List.nil_sublist _, by rw [h, List.append_nil]⟩
    · exact ⟨[], List.nil_sublist _, by rw [h, announced_connect, List.append_nil]⟩
  cases hd with
  | idle | control | dropped | descriptorSent | sessionSet | streamStarted | requested
  | dataProcessed => exact hsame (.inl rfl)
  | read clock input last d₁ keep hc hr hacc hread =>
    obtain ⟨taken, htaken, hann⟩ :=
      announced_read (hs.recorded (hs.attached ▸ hc)) clock last input
    refine ⟨taken, by simpa [sentBy] using htaken, ?_⟩
    rw [← hread] at hann
    cases keep
    · exact hann
    · exact hann
  | finalize hc hr =>
    rw [finalize_fst] at hsame ⊢
    exact hsame (.inl rfl)
  | connectFailed io rq rest hq ha hc =>
    rw [connectFailed_fst] at hsame ⊢
    exact hsame (.inr rfl)
  | connected io rq rest hq ha hc => exact hsame (.inr rfl)
  | disconnecting io rq rest conn hq ha hc hs =>
    rw [remConnectionSource_eq] at hsame ⊢
    exact hsame (.inl rfl)
  | streamStopped io rq rest hq ha =>
    rw [stopUpdateLanes_eq] at hsame ⊢
    exact hsame (.inl rfl)

/-- A move announces to a device what it brings for the device. -/
theorem announced_move {e : Collector.Event} (hb : Base b c) (hcalm : Calm b.type e)
    (hmove : Move b c e c') (k : String) :
    ∃ taken, taken.Sublist (sentBy k e) ∧ announcedOf c' k = announcedOf c k ++ taken := by
  have hsame : c'.devices.getDevice k = c.devices.getDevice k →
      ∃ taken, taken.Sublist (sentBy k e) ∧ announcedOf c' k = announcedOf c k ++ taken := by
    intro h
    refine ⟨[], List.nil_sublist _, ?_⟩
    unfold announcedOf
    rw [h, List.append_nil]
  cases hmove with
  | idle | request | added | dropped | replaced | removed | cleaned | closed | opened | stored =>
    exact hsame rfl
  | device j ev d₀ d₁ dbrq hget hd =>
    have hhash := (sound_dispatch (hb.sound j d₀ hget) hcalm hd).hash
    by_cases hkj : k = j
    · subst hkj
      obtain ⟨taken, htaken, hann⟩ := announced_dispatch (hb.sound k d₀ hget) hd
      refine ⟨taken, htaken, ?_⟩
      rw [announcedOf_some (getDevice_update_self hhash hget), announcedOf_some hget, hann]
    · exact hsame (getDevice_update_ne hhash hkj)
  | passed io entry rest rows missing hq hrows =>
    cases hget : c.devices.getDevice k with
    | some d => exact hsame ((getDevice_load_of_some hget).trans hget.symm)
    | none =>
      refine ⟨[], List.nil_sublist _, ?_⟩
      unfold announcedOf
      rw [hget]
      cases hload : (c.devices.load (rows.map Database.DeviceRow.toData)).getDevice k with
      | none => rfl
      | some d =>
        obtain hold | ⟨row, -, -, rfl⟩ := getDevice_load hload
        · rw [hget] at hold
          cases hold
        · rfl

lemma announced_row {type : DbType} (hl : Listed type c k) {hash : String}
    (h : hash ∈ announcedOf c k) : ∃ device, Foremost type c.tables device ∧ device.hash = k := by
  cases hget : c.devices.getDevice k with
  | none => simp [announcedOf, hget] at h
  | some d =>
    obtain ⟨row, hrow, hk, -⟩ := hl d hget
    exact ⟨row, hrow, hk⟩

lemma opened_announced (hch : Channels Conserved c) (hb : Base b c) {info : Monitor.SessionInfo}
    (hmem : openEntry k info ∈ journal c) : info.hash ∈ announcedOf c k := by
  obtain ⟨d, hget⟩ := hb.known _ hmem k rfl
  have hpushed : .opened info ∈ (channel c k d).pushed := (mem_pushedBy hb.queued).mpr hmem
  have hitem : .session info ∈ (channel c k d).items := by
    rw [(hch k d hget).items]
    exact List.mem_append_left _ (mem_carried_session.mpr hpushed)
  rw [announcedOf_some hget]
  exact List.mem_filterMap.mpr ⟨_, hitem, rfl⟩

lemma closed_announced (hch : Channels Conserved c) (hb : Base b c) {hash : String}
    (hmem : closeEntry (some k) hash ∈ journal c) : hash ∈ announcedOf c k := by
  obtain ⟨d, hget⟩ := hb.known _ hmem k rfl
  have hpushed : .closed hash ∈ (channel c k d).pushed := (mem_pushedBy hb.queued).mpr hmem
  obtain ⟨-, info, hinfo, rfl⟩ := (hch k d hget).closed hpushed
  exact opened_announced hch hb ((mem_pushedBy hb.queued).mp hinfo)

/-- A device stores data for sessions that were announced to it, or for none. -/
lemma stored_announced (hch : Channels Conserved c) (hb : Base b c) {hash : String}
    {data : Monitor.Data} (hmem : storeEntry k hash data ∈ journal c) :
    hash = "" ∨ hash ∈ announcedOf c k := by
  obtain ⟨d, hget⟩ := hb.known _ hmem k rfl
  have hpushed : .stored hash data ∈ (channel c k d).pushed := (mem_pushedBy hb.queued).mpr hmem
  obtain ⟨pre, post, hsplit⟩ := List.append_of_mem hpushed
  obtain rfl : hash = current pre := (hch k d hget).pushes _ _ _ hsplit
  by_cases hempty : current pre = ""
  · exact .inl hempty
  · obtain ⟨info, hinfo, heq⟩ := opened_current hempty
    have hmem' : .opened info ∈ (channel c k d).pushed := by
      rw [hsplit]
      exact List.mem_append_left _ hinfo
    rw [← heq]
    exact .inr (opened_announced hch hb ((mem_pushedBy hb.queued).mp hmem'))

end Moves

/-- The hash matches itself only. -/
def Exact (type : DbType) (hash : String) : Prop := type = .postgreSQL → LikePattern.Literal hash

instance (type : DbType) (hash : String) : Decidable (Exact type hash) :=
  inferInstanceAs (Decidable (_ → _))

lemma hashMatches_exact {type : DbType} {hash : String} (h : Exact type hash) (value : String) :
    hashMatches type hash value = true ↔ value = hash := by
  cases type with
  | sqlite3 => simp [hashMatches]
  | postgreSQL => exact LikePattern.like_literal (h rfl) value

/-- Monitors announce hashes that match themselves only, and that no monitor announced
before. -/
def FreshHashes (type : DbType) (c : Collector) (e : Collector.Event) : Prop :=
  ((sent e).map Prod.snd).Nodup ∧
    ∀ p ∈ sent e, Exact type p.2 ∧ ∀ d ∈ c.devices, p.2 ∉ announced d.streams

instance (type : DbType) (c : Collector) (e : Collector.Event) : Decidable (FreshHashes type c e) :=
  inferInstanceAs (Decidable (_ ∧ _))

/-- Every announced hash belongs to one device, was announced once and matches itself
only. -/
structure Fresh (type : DbType) (c : Collector) : Prop where
  exact : ∀ k, ∀ hash ∈ announcedOf c k, Exact type hash
  owner : ∀ k k' hash, hash ∈ announcedOf c k → hash ∈ announcedOf c k' → k = k'
  once : ∀ k, (announcedOf c k).Nodup

lemma fresh_start (type : DbType) (t₀ : Tables) : Fresh type (Collector.start t₀) := by
  constructor <;> simp [announcedOf, Collector.start, DeviceManager.getDevice]

section Fresh

variable {b : Backend} {c c' : Collector} {e : Collector.Event}

lemma announcedOf_cases (hb : Base b c) (hcalm : Calm b.type e) (hmove : Move b c e c') {k hash : String}
    (h : hash ∈ announcedOf c' k) : hash ∈ announcedOf c k ∨ (k, hash) ∈ sent e := by
  obtain ⟨taken, htaken, hann⟩ := announced_move hb hcalm hmove k
  rw [hann] at h
  obtain hold | hnew := List.mem_append.mp h
  · exact .inl hold
  · exact .inr (mem_sentBy.mp (htaken.subset hnew))

lemma announcedOf_mono (hb : Base b c) (hcalm : Calm b.type e) (hmove : Move b c e c') {k hash : String}
    (h : hash ∈ announcedOf c k) : hash ∈ announcedOf c' k := by
  obtain ⟨taken, -, hann⟩ := announced_move hb hcalm hmove k
  rw [hann]
  exact List.mem_append_left _ h

lemma announced_entry {k hash : String} (h : hash ∈ announcedOf c k) :
    ∃ d ∈ c.devices, d.deviceData.hash = k ∧ hash ∈ announced d.streams := by
  cases hget : c.devices.getDevice k with
  | none => simp [announcedOf, hget] at h
  | some d =>
    rw [announcedOf_some hget] at h
    exact ⟨d, List.mem_reverse.mp (List.mem_of_find?_eq_some hget), getDevice_hash hget, h⟩

lemma sentBy_sublist (k : String) (e : Collector.Event) :
    (sentBy k e).Sublist ((sent e).map Prod.snd) := by
  cases e with
  | device j ev =>
    cases ev with
    | connection clock input last => by_cases h : j = k <;> simp [sentBy, sent, h, Function.comp_def]
    | control | finalize | queue | timer => simp [sentBy, sent]
  | database | request => simp [sentBy, sent]

lemma fresh_move (hb : Base b c) (hcalm : Calm b.type e) (hfresh : FreshHashes b.type c e)
    (hmove : Move b c e c') (h : Fresh b.type c) : Fresh b.type c' where
  exact k hash hmem := by
    obtain hold | hnew := announcedOf_cases hb hcalm hmove hmem
    · exact h.exact k hash hold
    · exact (hfresh.2 _ hnew).1
  owner k k' hash hmem hmem' := by
    obtain hold | hnew := announcedOf_cases hb hcalm hmove hmem
    · obtain hold' | hnew' := announcedOf_cases hb hcalm hmove hmem'
      · exact h.owner k k' hash hold hold'
      · obtain ⟨d, hd, -, hann⟩ := announced_entry hold
        exact absurd hann ((hfresh.2 _ hnew').2 d hd)
    · obtain hold' | hnew' := announcedOf_cases hb hcalm hmove hmem'
      · obtain ⟨d, hd, -, hann⟩ := announced_entry hold'
        exact absurd hann ((hfresh.2 _ hnew).2 d hd)
      · exact sent_device hnew hnew'
  once k := by
    obtain ⟨taken, htaken, hann⟩ := announced_move hb hcalm hmove k
    rw [hann, List.nodup_append]
    refine ⟨h.once k, (hfresh.1.sublist (sentBy_sublist k e)).sublist htaken, ?_⟩
    rintro hash hold _ hnew rfl
    obtain ⟨d, hd, -, hmem⟩ := announced_entry hold
    exact (hfresh.2 _ (mem_sentBy.mp (htaken.subset hnew))).2 d hd hmem

end Fresh

end TkmCollector.Proofs
