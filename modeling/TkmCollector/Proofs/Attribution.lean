import TkmCollector.Proofs.Announced
import TkmCollector.Proofs.SessionRows

namespace TkmCollector.Proofs

open MonitorDevice History

/-- No `SetSession` waits. -/
def Settled (ch : Channel) : Prop := ∀ item ∈ ch.waiting, StreamItem.announces item = none

instance (ch : Channel) : Decidable (Settled ch) := inferInstanceAs (Decidable (∀ item ∈ ch.waiting, _))

/-- Hashes are fresh and not empty, a connection is lost when no `SetSession` waits, and the id of
a row that a session replaces is read. -/
def AttributionGuard (b : Backend) (c : Collector) (e : Collector.Event) : Prop :=
  Calm b.type e ∧ KeepsDevices b.type c e ∧ ReadsSession b.type c e ∧
    Respects Settled (fun _ _ => True) c e ∧ FreshHashes b.type c e ∧ ∀ p ∈ sent e, p.2 ≠ ""

instance (b : Backend) (c : Collector) (e : Collector.Event) : Decidable (AttributionGuard b c e) :=
  inferInstanceAs (Decidable (_ ∧ _ ∧ _ ∧ _ ∧ _ ∧ _))

/-- Every session with the hash was ended after it was opened. -/
def Dead (pushed : List Push) (hash : String) : Prop :=
  History.Answered (fun p post => ∀ info, p = .opened info → info.hash = hash → .closed hash ∈ post) pushed

/-- Data that belong to no session find the session of the device ended. -/
structure Attributed (ch : Channel) : Prop where
  idle : ch.up = false ∨ ch.session = none → Settled ch ∧ Dead ch.pushed ch.hash
  waiting : Justified (fun pre item => ∀ data, item = .data data → data.origin = none →
    (∀ other ∈ pre, StreamItem.announces other = none) ∧ Dead ch.pushed ch.hash) ch.waiting
  stored : Justified (fun pre p => ∀ hash data, p = .stored hash data → data.origin = none →
    Dead pre hash) ch.pushed

/-- The empty hash was not announced. -/
def Named (ch : Channel) : Prop := "" ∉ announced ch.streams

lemma Dead.push {pushed : List Push} {hash : String} (h : Dead pushed hash) {p : Push}
    (hp : ∀ info, p ≠ .opened info) : Dead (pushed ++ [p]) hash := by
  refine h.concat ?_ ?_
  · intro q post hq info heq hinfo
    exact List.mem_append_left _ (hq info heq hinfo)
  · intro info heq
    exact absurd heq (hp info)

lemma Dead.closing {ch : Channel} {hash : String} (h : Dead ch.pushed hash) :
    Dead (ch.pushed ++ ch.closing) hash := by
  unfold Channel.closing
  split
  · rw [List.append_nil]
    exact h
  · exact h.push (by simp)

lemma dead_closing {ch : Channel} (hc : Conserved ch) (hn : Named ch) :
    Dead (ch.pushed ++ ch.closing) ch.hash := by
  unfold Channel.closing
  by_cases hempty : ch.hash = ""
  · rw [if_pos hempty, List.append_nil, hempty]
    intro pre p post hsplit info heq hinfo
    have hmem : .opened info ∈ ch.pushed := by
      rw [hsplit, heq]
      simp
    have hitem : .session info ∈ ch.items := by
      rw [hc.items]
      exact List.mem_append_left _ (mem_carried_session.mpr hmem)
    have hann : "" ∈ announced ch.streams :=
      List.mem_filterMap.mpr ⟨.session info, hitem, congrArg some hinfo⟩
    exact absurd hann hn
  · rw [if_neg hempty]
    intro pre p post hsplit info heq hinfo
    obtain ⟨-, rfl, -⟩ | ⟨rest, rfl, -⟩ := concat_eq_split.mp hsplit
    · cases heq
    · simp

lemma attributed_start : Attributed Channel.start where
  idle _ := ⟨by simp [Settled, Channel.start], answered_nil⟩
  waiting := justified_nil
  stored := justified_nil

lemma stored_push {pushed : List Push}
    (h : Justified (fun pre p => ∀ hash data, p = .stored hash data → data.origin = none →
      Dead pre hash) pushed) {p : Push} (hp : ∀ hash data, p ≠ .stored hash data) :
    Justified (fun pre p => ∀ hash data, p = .stored hash data → data.origin = none →
      Dead pre hash) (pushed ++ [p]) :=
  justified_concat.mpr ⟨h, fun hash data heq => absurd heq (hp hash data)⟩

lemma stored_closing {ch : Channel} (h : Attributed ch) :
    Justified (fun pre p => ∀ hash data, p = .stored hash data → data.origin = none →
      Dead pre hash) (ch.pushed ++ ch.closing) := by
  unfold Channel.closing
  split
  · rw [List.append_nil]
    exact h.stored
  · exact stored_push h.stored (by simp)

lemma attributed_step {ch ch' : Channel} (hc : Conserved ch) (hn : Named ch) (h : Attributed ch)
    (hstep : Channel.Step Settled (fun _ _ => True) ch ch') : Attributed ch' := by
  cases hstep with
  | resume => exact ⟨h.idle, h.waiting, h.stored⟩
  | accept item stream older hup hs ho =>
    have hsession : ch.session = lastSession stream := by simp [Channel.session, hs]
    refine ⟨?_, ?_, h.stored⟩
    · rintro (hdown | hnone)
      · simp [hup] at hdown
      · have hnone : lastSession (stream ++ [item]) = none := hnone
        cases item with
        | session info => simp at hnone
        | data data =>
          rw [lastSession_data] at hnone
          obtain ⟨hsettled, hdead⟩ := h.idle (.inr (hsession.trans hnone))
          refine ⟨?_, hdead⟩
          intro other hother
          obtain hold | hnew := List.mem_append.mp hother
          · exact hsettled other hold
          · obtain rfl := List.mem_singleton.mp hnew
            rfl
    · rw [justified_concat]
      refine ⟨h.waiting, ?_⟩
      rintro data rfl horigin
      have hnone : ch.session = none := hsession.trans ((ho data rfl).symm.trans horigin)
      exact h.idle (.inr hnone)
  | connect hup =>
    obtain hidle := h.idle (.inl hup)
    exact ⟨fun _ => hidle, h.waiting, h.stored⟩
  | fail hup hends =>
    obtain ⟨hsettled, hdead⟩ := h.idle (.inl hup)
    refine ⟨fun _ => ⟨hsettled, hdead.closing⟩, ?_, stored_closing h⟩
    refine h.waiting.mono fun pre item _ hitem data heq horigin => ?_
    obtain ⟨hpre, hd⟩ := hitem data heq horigin
    exact ⟨hpre, hd.closing⟩
  | lose hup hends =>
    refine ⟨fun _ => ⟨hends, dead_closing hc hn⟩, ?_, stored_closing h⟩
    refine h.waiting.mono fun pre item _ hitem data heq horigin => ?_
    obtain ⟨hpre, hd⟩ := hitem data heq horigin
    exact ⟨hpre, hd.closing⟩
  | setSession info rest hw hsets =>
    -- data without a session do not stand behind a `SetSession`
    have hwaiting := h.waiting
    rw [hw, justified_cons] at hwaiting
    refine ⟨?_, ?_, stored_push h.stored (by simp)⟩
    · intro hidle
      obtain ⟨hsettled, -⟩ := h.idle hidle
      have hnone := hsettled (.session info) (by rw [hw]; exact List.mem_cons_self)
      cases hnone
    · refine hwaiting.2.mono fun pre item _ hitem data heq horigin => ?_
      obtain ⟨hpre, -⟩ := hitem data heq horigin
      have hnone := hpre (.session info) List.mem_cons_self
      cases hnone
  | processData data rest hw =>
    have hwaiting := h.waiting
    rw [hw, justified_cons] at hwaiting
    refine ⟨?_, ?_, ?_⟩
    · intro hidle
      obtain ⟨hsettled, hdead⟩ := h.idle hidle
      refine ⟨fun other hother => hsettled other ?_, hdead.push (by simp)⟩
      rw [hw]
      exact List.mem_cons_of_mem _ hother
    · refine hwaiting.2.mono fun pre item _ hitem data' heq horigin => ?_
      obtain ⟨hpre, hdead⟩ := hitem data' heq horigin
      exact ⟨fun other hother => hpre other (List.mem_cons_of_mem _ hother), hdead.push (by simp)⟩
    · rw [justified_concat]
      refine ⟨h.stored, ?_⟩
      intro hash data' heq horigin
      obtain ⟨rfl, rfl⟩ := Push.stored.inj heq
      exact (hwaiting.1 data rfl horigin).2

lemma named_of_step {ends : Channel → Prop} {sets : Channel → Monitor.SessionInfo → Prop}
    {ch ch' : Channel} (hstep : Channel.Step ends sets ch ch') (h : Named ch') : Named ch := by
  intro hmem
  apply h
  cases hstep with
  | resume | lose | setSession | processData => exact hmem
  | accept item stream older hup hs ho =>
    simp only [announced, hs, List.reverse_cons, List.flatten_append, List.filterMap_append,
      List.mem_append, List.flatten_cons] at hmem ⊢
    tauto
  | connect | fail => simpa using hmem

structure AttributionInvariant (b : Backend) (t₀ : Tables) (c : Collector) : Prop where
  base : Base b c
  listed : ∀ k, Listed b.type c k
  channels : Channels (fun ch => Conserved ch ∧ (Named ch → Attributed ch)) c
  rows : OpenRows b.type t₀ c
  fresh : Fresh b.type c
  named : ∀ k, "" ∉ announcedOf c k

lemma attributionInvariant_preserves (b : Backend) (t₀ : Tables) :
    Machine.Preserves (Collector.step b) (AttributionGuard b) (AttributionInvariant b t₀) := by
  intro c e c' hinv ⟨hcalm, hkeep, hread, hrespects, hfresh, hnamed⟩ hstep
  have hmove := calm_move hinv.base hcalm hstep
  refine ⟨base_move hinv.base hcalm hmove,
    fun k => listed_move hinv.base hcalm (fun _ hdevice hk => hk ▸ hkeep.keeps hdevice) hmove
      (hinv.listed k), ?_,
    openRows_move hinv.base hinv.listed hkeep hread hmove hinv.rows,
    fresh_move hinv.base hcalm hfresh hmove hinv.fresh, ?_⟩
  · refine channels_move hinv.base hcalm hmove hrespects ⟨conserved_start, fun _ => attributed_start⟩
      ?_ hinv.channels
    intro ch ch' ⟨hc, ha⟩ hs
    refine ⟨conserved_step hc hs, fun hn => ?_⟩
    have hn₀ := named_of_step hs hn
    exact attributed_step hc hn₀ (ha hn₀) hs
  · intro k hmem
    obtain hold | hnew := announcedOf_cases hinv.base hcalm hmove hmem
    · exact hinv.named k hold
    · exact hnamed _ hnew rfl

lemma attributionInvariant_start {b : Backend} {t₀ : Tables} (h : CleanStart b.type t₀) :
    AttributionInvariant b t₀ (Collector.start t₀) where
  base := base_start h
  listed := listed_start b.type t₀
  channels k d hget := by simp [Collector.start, DeviceManager.getDevice] at hget
  rows := openRows_start b.type t₀
  fresh := fresh_start b.type t₀
  named k := by simp [announcedOf, Collector.start, DeviceManager.getDevice]

/-- An executed `AddData` inserts nothing, or its rows under the session that was opened for
the last `SetSession` in front of the message on its connection. -/
def StoresOwn (c : Collector) (e : Collector.Event) (c' : Collector) : Prop :=
  ∀ io entry rest data, e = .database io → c.queue = entry :: rest →
    entry.request.action = .addData → entry.request.bulkData = .data data →
    c'.tables.data = c.tables.data ∨
    ∃ row ∈ c.tables.sessions, ∃ k info, entry.device = some k ∧ openEntry k info ∈ c.handled ∧
      data.origin = some info.hash ∧ row.hash = info.hash ∧
      (∃ device ∈ c.tables.devices, device.hash = k ∧ row.device = device.id) ∧
      c'.tables.data = c.tables.data ++ dataRows data row.id

section Steps

variable {b : Backend} {t₀ : Tables} {c c' : Collector}

lemma pushed_before {k : String} {p : Push} {rest : List DbEntry}
    (hq : c.queue = pushEntry k p :: rest) :
    pushedBy k (journal c) = pushedBy k c.handled ++ p :: pushedBy k rest := by
  unfold journal
  rw [hq, pushedBy_split]

lemma stored_hash (hinv : AttributionInvariant b t₀ c) {k hash : String} {data : Monitor.Data}
    {rest : List DbEntry} (hq : c.queue = storeEntry k hash data :: rest) {row : SessionRow}
    (hmatch : hashMatches b.type hash row.hash = true) : row.hash = hash := by
  have hchannels : Channels Conserved c := fun k d hget => (hinv.channels k d hget).1
  obtain rfl | hann := stored_announced hchannels hinv.base (mem_journal_queue hq)
  · exact (hashMatches_exact (fun _ => by decide) row.hash).mp hmatch
  · exact (hashMatches_exact (hinv.fresh.exact k hash hann) row.hash).mp hmatch

/-- The session that data are stored for was opened by no other device. -/
lemma stored_opener (hinv : AttributionInvariant b t₀ c) {k k' hash : String} {data : Monitor.Data}
    {rest : List DbEntry} (hq : c.queue = storeEntry k hash data :: rest) {info : Monitor.SessionInfo}
    (hinfo : openEntry k' info ∈ c.handled) (heq : info.hash = hash) : k' = k := by
  have hchannels : Channels Conserved c := fun k d hget => (hinv.channels k d hget).1
  have hann' := opened_announced hchannels hinv.base (List.mem_append_left _ hinfo)
  rw [heq] at hann'
  obtain rfl | hann := stored_announced hchannels hinv.base (mem_journal_queue hq)
  · exact absurd hann' (hinv.named k')
  · exact hinv.fresh.owner k' k hash hann' hann

lemma stored_own (hinv : AttributionInvariant b t₀ c) {k hash hash' : String} {data : Monitor.Data}
    {rest : List DbEntry} (hq : c.queue = storeEntry k hash data :: rest) {row : SessionRow}
    (hrow : row ∈ c.tables.sessions) (hzero : row.endTimestamp = 0)
    (hmatch : hashMatches b.type hash row.hash = true) (horigin : data.origin = some hash') :
    ∃ info, openEntry k info ∈ c.handled ∧ hash' = info.hash ∧ row.hash = info.hash ∧
      ∃ device ∈ c.tables.devices, device.hash = k ∧ row.device = device.id := by
  obtain ⟨d, hget⟩ := hinv.base.known _ (mem_journal_queue hq) k rfl
  obtain ⟨rfl, info, hinfo, heq⟩ := (hinv.channels k d hget).1.stored (pushed_before hq) horigin
  have hentry : openEntry k info ∈ c.handled := (mem_pushedBy hinv.base.handled).mp hinfo
  have hhash := stored_hash hinv hq hmatch
  refine ⟨info, hentry, heq.symm, hhash.trans heq.symm, ?_⟩
  obtain ⟨before, k', info', after, hsplit, hhash', ⟨device, hdevice, hk, hid⟩, -⟩ | hleft :=
    hinv.rows row hrow hzero
  · have hmem' : openEntry k' info' ∈ c.handled := by
      rw [hsplit]
      simp
    obtain rfl := stored_opener hinv hq hmem' (hhash'.symm.trans hhash)
    exact ⟨device, hdevice.mem, hk, hid⟩
  · have hcloses : Closes b.type (openEntry k info) row.hash := by
      rw [closes_openEntry, heq]
      exact hmatch
    exact absurd hcloses (hleft.untouched _ hentry)

lemma stored_none (hinv : AttributionInvariant b t₀ c)
    (hstart : ∀ row ∈ t₀.sessions, row.endTimestamp = 0 → row.hash ≠ "") {k hash : String}
    {data : Monitor.Data} {rest : List DbEntry} (hq : c.queue = storeEntry k hash data :: rest)
    {row : SessionRow} (hrow : row ∈ c.tables.sessions) (hzero : row.endTimestamp = 0)
    (hmatch : hashMatches b.type hash row.hash = true) : data.origin ≠ none := by
  intro horigin
  obtain ⟨d, hget⟩ := hinv.base.known _ (mem_journal_queue hq) k rfl
  obtain ⟨hc, ha⟩ := hinv.channels k d hget
  have hnamed : Named (channel c k d) := by
    have hnot := hinv.named k
    rwa [announcedOf_some hget] at hnot
  have hpushed : (channel c k d).pushed =
      pushedBy k c.handled ++ .stored hash data :: pushedBy k rest := pushed_before hq
  have hhash := stored_hash hinv hq hmatch
  obtain ⟨before, k', info', after, hsplit, hhash', -, hafter⟩ | hleft := hinv.rows row hrow hzero
  · -- the row was opened by the device, so it was ended before
    have hmem' : openEntry k' info' ∈ c.handled := by
      rw [hsplit]
      simp
    obtain rfl := stored_opener hinv hq hmem' (hhash'.symm.trans hhash)
    have hsplit' : pushedBy k' c.handled =
        pushedBy k' before ++ .opened info' :: pushedBy k' after := by
      rw [hsplit]
      exact pushedBy_split k' (.opened info') before after
    have hdead : Dead (pushedBy k' c.handled) hash :=
      (ha hnamed).stored _ _ _ hpushed hash data rfl horigin
    have hclosed := hdead _ _ _ hsplit' info' rfl (hhash'.symm.trans hhash)
    have hqueued' : ∀ e ∈ after, Queued b.type e := fun e he =>
      hinv.base.handled e (by rw [hsplit]; simp [he])
    exact hafter _ ((mem_pushedBy hqueued').mp hclosed) (closes_closeEntry.mpr hmatch)
  · -- the row was there at start, so the session that the device opened last replaced it
    have hne : hash ≠ "" := hhash ▸ hstart row hleft.mem hzero
    have hcurrent : hash = current (pushedBy k c.handled) := hc.pushes _ _ _ hpushed
    obtain ⟨info, hinfo, heq⟩ := opened_current (hcurrent ▸ hne)
    have hcloses : Closes b.type (openEntry k info) row.hash := by
      rw [closes_openEntry, heq, ← hcurrent]
      exact hmatch
    exact hleft.untouched _ ((mem_pushedBy hinv.base.handled).mp hinfo) hcloses

lemma storesOwn_step {e : Collector.Event} (hinv : AttributionInvariant b t₀ c)
    (hstart : ∀ row ∈ t₀.sessions, row.endTimestamp = 0 → row.hash ≠ "") (hcalm : Calm b.type e)
    (hkeep : KeepsDevices b.type c e) (hstep : c.step b e = .ok c') : StoresOwn c e c' := by
  have hmove := calm_move hinv.base hcalm hstep
  rintro io entry rest data rfl hq haction hbulk
  cases hmove with
  | idle | passed | added | cleaned | closed => exact .inl rfl
  | dropped _ entry' rest' hash hq' hentry hdropped hsome =>
    exact absurd (hkeep.unmatched hq' hdropped) hsome
  | replaced _ entry' rest' deviceData hq' hentry hdropped hsome =>
    exact absurd (hkeep.unmatched hq' hdropped) hsome
  | opened _ k info rest' hq' =>
    obtain ⟨rfl, rfl⟩ := List.cons.inj (hq.symm.trans hq')
    cases haction
  | removed _ entry' rest' hash hq' hentry hdevice hended =>
    obtain ⟨rfl, rfl⟩ := List.cons.inj (hq.symm.trans hq')
    simp [endedHash, haction] at hended
  | stored _ k hash data' rest' hq' =>
    obtain ⟨rfl, rfl⟩ := List.cons.inj (hq.symm.trans hq')
    obtain rfl : data' = data := BulkData.data.inj hbulk
    change (stored b.type hash data' c.tables).data = _ ∨ _
    unfold stored
    cases hscalar : scalar b.type (sessionIds b.type hash c.tables) with
    | none => exact .inl rfl
    | some owner =>
      obtain ⟨row, hrow, rfl⟩ := List.mem_map.mp (mem_of_scalar hscalar)
      obtain ⟨hmem, hcond⟩ := List.mem_filter.mp hrow
      simp only [Bool.and_eq_true, beq_iff_eq] at hcond
      have hsome := stored_none hinv hstart hq hmem hcond.2 hcond.1
      obtain ⟨hash', horigin⟩ := Option.ne_none_iff_exists'.mp hsome
      obtain ⟨info, hinfo, rfl, hhash, hdevice⟩ := stored_own hinv hq hmem hcond.2 hcond.1 horigin
      exact .inr ⟨row, hmem, k, info, rfl, hinfo, horigin, hhash, hdevice, rfl⟩

end Steps

/-- In a run in which no connection is lost while a `SetSession` waits, data are stored
under the session they belong to, or not at all. -/
theorem data_attribution (b : Backend) (t₀ : Tables) (events : List Collector.Event)
    (hstart : CleanStart b.type t₀)
    (hnamed : ∀ row ∈ t₀.sessions, row.endTimestamp = 0 → row.hash ≠ "")
    (h : Machine.Guarded (Collector.step b) (AttributionGuard b) (Collector.start t₀) events) :
    Machine.EachStep (Collector.step b) StoresOwn (Collector.start t₀) events :=
  Machine.eachStep_of_guarded (attributionInvariant_preserves b t₀)
    (fun _ _ _ hinv hg hstep => storesOwn_step hinv hnamed hg.1 hg.2.1 hstep)
    (attributionInvariant_start hstart) h

/-- Data of two connections, some of them in front of the announcement of a session. -/
theorem data_attribution_reconnect :
    Machine.EachStep (Collector.step (plainBackend .sqlite3)) StoresOwn
      (Collector.start (tablesWith ["d"]))
      (startUp ++ onDevice "d" (connectionUp ++ [received [sessionEnvelope "s", dataEnvelope],
        queueUp, queueUp, queueUp, receivedLast [], .finalize] ++ connectionUp ++
        [received [dataEnvelope, sessionEnvelope "t", dataEnvelope], queueUp, queueUp, queueUp]) ++
        List.replicate 7 databaseUp) :=
  data_attribution _ _ _ (by decide) (by decide) (by decide)

/-- A `SetSession` that waits when the connection is lost takes the data of the next
connection, which come before any `SetSession` of their own. -/
theorem data_misattributed :
    ∃ c c', Machine.run (Collector.step (plainBackend .sqlite3)) (Collector.start (tablesWith ["d"]))
        (startUp ++ onDevice "d" (connectionUp ++ [receivedLast [sessionEnvelope "s"], .finalize,
          connectRequest, queueUp, queueUp, received [dataEnvelope], queueUp, queueUp, queueUp]) ++
          [databaseUp]) = .ok c ∧
      c.step (plainBackend .sqlite3) databaseUp = .ok c' ∧ ¬ StoresOwn c databaseUp c' := by
  refine ⟨_, _, rfl, rfl, ?_⟩
  intro h
  obtain hsame | ⟨row, hrow, k, info, -, -, horigin, -⟩ := h _ _ _ _ rfl rfl rfl rfl
  · revert hsame
    decide
  · cases horigin

end TkmCollector.Proofs
