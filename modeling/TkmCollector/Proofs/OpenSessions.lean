import Mathlib.Data.List.Nodup
import TkmCollector.Proofs.ChannelFrame
import TkmCollector.Proofs.SessionRows

namespace TkmCollector.Proofs

open MonitorDevice History

/-- The session that a device opened last, unless it was ended. -/
def ongoing (pushed : List Push) : Option String :=
  pushed.foldl (fun session p => match p with
    | .opened info => some info.hash
    | .closed _ => none
    | .stored _ _ => session) none

/-- The session that goes on can be ended: a device ends none with the empty hash. -/
def Endable (ch : Channel) : Prop := ongoing ch.pushed ≠ some ""

/-- The new session can be found by its hash, and no other one goes on. -/
def Replaces (type : DbType) (ch : Channel) (info : Monitor.SessionInfo) : Prop :=
  hashMatches type info.hash info.hash = true ∧ ∀ hash ∈ ongoing ch.pushed, hash = info.hash

instance (ch : Channel) : Decidable (Endable ch) := inferInstanceAs (Decidable (_ ≠ _))

instance (type : DbType) (ch : Channel) (info : Monitor.SessionInfo) :
    Decidable (Replaces type ch info) :=
  inferInstanceAs (Decidable (_ ∧ ∀ hash ∈ ongoing ch.pushed, hash = info.hash))

/-- A session is set only in place of itself, or when none goes on; its hash matches itself,
it is not empty when the connection is lost, and the id of the row that it replaces is read. -/
def SessionGuard (b : Backend) (c : Collector) (e : Collector.Event) : Prop :=
  Calm b.type e ∧ KeepsDevices b.type c e ∧ ReadsSession b.type c e ∧
    Respects Endable (Replaces b.type) c e

instance (b : Backend) (c : Collector) (e : Collector.Event) : Decidable (SessionGuard b c e) :=
  inferInstanceAs (Decidable (_ ∧ _ ∧ _ ∧ _))

/-- The push ends or replaces the session with the hash. -/
def Ends (p : Push) (hash : String) : Prop :=
  p = .closed hash ∨ ∃ info, p = .opened info ∧ info.hash = hash

structure Current (type : DbType) (ch : Channel) : Prop where
  hash : ∀ hash, ongoing ch.pushed = some hash → ch.hash = hash ∧ ch.lost = false
  ended : History.Answered (fun p post => ∀ info, p = .opened info →
    ongoing ch.pushed = some info.hash ∨ ∃ q ∈ post, Ends q info.hash) ch.pushed
  found : ∀ info, .opened info ∈ ch.pushed → hashMatches type info.hash info.hash = true

@[simp] lemma ongoing_opened (pushed : List Push) (info : Monitor.SessionInfo) :
    ongoing (pushed ++ [.opened info]) = some info.hash := by
  simp [ongoing]

@[simp] lemma ongoing_closed (pushed : List Push) (hash : String) :
    ongoing (pushed ++ [.closed hash]) = none := by
  simp [ongoing]

@[simp] lemma ongoing_stored (pushed : List Push) (hash : String) (data : Monitor.Data) :
    ongoing (pushed ++ [.stored hash data]) = ongoing pushed := by
  simp [ongoing]

lemma current_start (type : DbType) : Current type Channel.start where
  hash := by simp [ongoing, Channel.start]
  ended := answered_nil
  found := by simp [Channel.start]

lemma current_loss {type : DbType} {ch : Channel} (h : Current type ch) (hends : Endable ch) :
    ongoing (ch.pushed ++ ch.closing) = none ∧
      History.Answered (fun p post => ∀ info, p = .opened info →
        ongoing (ch.pushed ++ ch.closing) = some info.hash ∨ ∃ q ∈ post, Ends q info.hash)
        (ch.pushed ++ ch.closing) := by
  unfold Channel.closing
  by_cases hempty : ch.hash = ""
  · have hnone : ongoing ch.pushed = none := by
      cases hgo : ongoing ch.pushed with
      | none => rfl
      | some hash =>
        have hhash := (h.hash hash hgo).1
        exact absurd (hgo.trans (congrArg some (hhash.symm.trans hempty))) hends
    rw [if_pos hempty, List.append_nil]
    exact ⟨hnone, h.ended⟩
  · rw [if_neg hempty]
    refine ⟨ongoing_closed _ _, h.ended.concat ?_ (by simp)⟩
    intro p post hp info heq
    obtain hgo | ⟨q, hq, hends⟩ := hp info heq
    · refine .inr ⟨.closed ch.hash, by simp, .inl ?_⟩
      rw [(h.hash _ hgo).1]
    · exact .inr ⟨q, List.mem_append_left _ hq, hends⟩

lemma mem_closing_opened {ch : Channel} {info : Monitor.SessionInfo}
    (h : .opened info ∈ ch.pushed ++ ch.closing) : .opened info ∈ ch.pushed := by
  unfold Channel.closing at h
  split at h <;> simpa using h

theorem current_step {type : DbType} {ch ch' : Channel} (h : Current type ch)
    (hstep : Channel.Step Endable (Replaces type) ch ch') : Current type ch' := by
  cases hstep with
  | resume => exact ⟨fun hash hgo => ⟨(h.hash hash hgo).1, rfl⟩, h.ended, h.found⟩
  | accept => exact ⟨h.hash, h.ended, h.found⟩
  | connect => exact ⟨h.hash, h.ended, h.found⟩
  | fail hup hends =>
    obtain ⟨hnone, hended⟩ := current_loss h hends
    exact ⟨fun hash hgo => by simp [hnone] at hgo, hended,
      fun info hinfo => h.found info (mem_closing_opened hinfo)⟩
  | lose hup hends =>
    obtain ⟨hnone, hended⟩ := current_loss h hends
    exact ⟨fun hash hgo => by simp [hnone] at hgo, hended,
      fun info hinfo => h.found info (mem_closing_opened hinfo)⟩
  | setSession info rest hw hsets =>
    refine ⟨?_, ?_, ?_⟩
    · intro hash hgo
      rw [ongoing_opened] at hgo
      exact ⟨Option.some.inj hgo, rfl⟩
    · refine h.ended.concat ?_ ?_
      · intro p post hp info' heq
        obtain hgo | ⟨q, hq, hends⟩ := hp info' heq
        · exact .inr ⟨.opened info, by simp, .inr ⟨info, rfl, (hsets.2 _ hgo).symm⟩⟩
        · exact .inr ⟨q, List.mem_append_left _ hq, hends⟩
      · intro info' heq
        obtain rfl : info = info' := Push.opened.inj heq
        exact .inl (ongoing_opened ch.pushed info)
    · intro info' hinfo
      obtain hold | hnew := List.mem_append.mp hinfo
      · exact h.found info' hold
      · obtain rfl : info' = info := by simpa using hnew
        exact hsets.1
  | processData data rest hw =>
    refine ⟨?_, ?_, ?_⟩
    · rw [ongoing_stored]
      exact h.hash
    · refine h.ended.concat ?_ (by simp)
      intro p post hp info heq
      rw [ongoing_stored]
      obtain hgo | ⟨q, hq, hends⟩ := hp info heq
      · exact .inl hgo
      · exact .inr ⟨q, List.mem_append_left _ hq, hends⟩
    · intro info hinfo
      exact h.found info (by simpa using hinfo)

/-- The number of open sessions with a hash. -/
def openCount (t : Tables) (hash : String) : Nat :=
  t.sessions.countP fun row => row.hash = hash && row.endTimestamp == 0

/-- A hash that was opened has at most one open row. -/
def SingleRows (c : Collector) : Prop :=
  ∀ k info, openEntry k info ∈ c.handled → openCount c.tables info.hash ≤ 1

lemma openCount_ended {type : DbType} {hash hash' : String} {now : Nat} {t : Tables} (hnow : 0 < now) :
    openCount (ended type hash now t) hash' ≤ openCount t hash' := by
  unfold openCount ended
  rw [List.countP_map]
  apply List.countP_mono_left
  intro row _ hrow
  by_cases hmatch : hashMatches type hash row.hash = true
  · simp only [Function.comp_apply, if_pos hmatch, Bool.and_eq_true, beq_iff_eq] at hrow
    omega
  · simpa [hmatch] using hrow

lemma openCount_removed {type : DbType} {hash hash' : String} {t : Tables} :
    openCount (removed type hash t) hash' ≤ openCount t hash' := by
  unfold openCount
  exact List.Sublist.countP_le List.filter_sublist

lemma openCount_removed_self {type : DbType} {hash : String} {t : Tables}
    (h : hashMatches type hash hash = true) : openCount (removed type hash t) hash = 0 := by
  unfold openCount
  rw [List.countP_eq_zero]
  intro row hrow hmatch
  have hunmatched := (mem_removed.mp hrow).2
  simp only [Bool.and_eq_true, decide_eq_true_eq] at hmatch
  rw [hmatch.1, h] at hunmatched
  cases hunmatched

lemma openCount_opened {type : DbType} {info : Monitor.SessionInfo}
    (h : hashMatches type info.hash info.hash = true) (k : String) (now : Nat) (t : Tables)
    (hread : ¬ Misread type (checkedSession type info.hash t)) (hash : String) :
    openCount (opened type k info now t) hash ≤ if hash = info.hash then 1 else openCount t hash := by
  have hold : openCount (removed type info.hash t) hash ≤ openCount t hash := openCount_removed
  have hself := openCount_removed_self (t := t) h
  by_cases heq : hash = info.hash
  · subst heq
    rw [if_pos rfl]
    unfold opened
    dsimp only
    rw [vacated_of_read hread]
    split
    · omega
    · simp only [openCount, List.countP_append] at hself ⊢
      rw [hself]
      simp [newSession]
  · rw [if_neg heq]
    unfold opened
    dsimp only
    rw [vacated_of_read hread]
    split
    · exact hold
    · simpa [openCount, List.countP_append, newSession, Ne.symm heq] using hold

section Moves

variable {b : Backend} {c c' : Collector} {e : Collector.Event}

lemma opened_found (hb : Base b c) (hch : Channels (Current b.type) c) {k : String}
    {info : Monitor.SessionInfo} (hmem : openEntry k info ∈ journal c) :
    hashMatches b.type info.hash info.hash = true := by
  obtain ⟨d, hget⟩ := hb.known _ hmem k rfl
  exact (hch k d hget).found info ((mem_pushedBy hb.queued).mpr hmem)

lemma singleRows_move (hb : Base b c) (hkeep : KeepsDevices b.type c e)
    (hread : ReadsSession b.type c e) (hch : Channels (Current b.type) c)
    (hmove : Move b c e c') (h : SingleRows c) : SingleRows c' := by
  have hhandled : ∀ {entry : DbEntry} {k : String} {info : Monitor.SessionInfo},
      (∀ k info, entry ≠ openEntry k info) → openEntry k info ∈ c.handled ++ [entry] →
      openEntry k info ∈ c.handled := by
    intro entry k info hne hmem
    obtain hold | hnew := List.mem_append.mp hmem
    · exact hold
    · exact absurd (List.mem_singleton.mp hnew).symm (hne k info)
  cases hmove with
  | idle | device | request => exact h
  | passed io entry rest rows missing hq hrows hentry =>
    exact fun k info hmem => h k info (hhandled hentry.opens hmem)
  | added io entry rest deviceData hq hentry =>
    exact fun k info hmem => h k info (hhandled hentry.opens hmem)
  | dropped io entry rest hash hq hentry hdropped hsome =>
    exact absurd (hkeep.unmatched hq hdropped) hsome
  | replaced io entry rest deviceData hq hentry hdropped hsome =>
    exact absurd (hkeep.unmatched hq hdropped) hsome
  | removed io entry rest hash hq hentry =>
    exact fun k info hmem => openCount_removed.trans (h k info (hhandled hentry.opens hmem))
  | cleaned io rest hq =>
    refine fun k info hmem => h k info (hhandled ?_ hmem)
    simp [cleanEntry, Collector.startRequest, openEntry]
  | closed io owner hash rest hq =>
    intro k info hmem
    refine (openCount_ended io.now_pos).trans (h k info (hhandled ?_ hmem))
    simp [closeEntry, endSessionRequest, openEntry, addSessionRequest]
  | opened io k info rest hq =>
    intro k' info' hmem
    have hcount := openCount_opened (opened_found hb hch (mem_journal_queue hq)) k io.now c.tables
      (hread.read hq) info'.hash
    by_cases heq : info'.hash = info.hash
    · rw [if_pos heq] at hcount
      exact hcount
    · rw [if_neg heq] at hcount
      obtain hold | hnew := List.mem_append.mp hmem
      · exact hcount.trans (h k' info' hold)
      · obtain ⟨-, rfl⟩ := openEntry_inj.mp (List.mem_singleton.mp hnew)
        exact absurd rfl heq
  | stored io k hash data rest hq =>
    intro k' info hmem
    unfold openCount
    rw [stored_sessions]
    refine h k' info (hhandled ?_ hmem)
    simp [storeEntry, addDataRequest, openEntry, addSessionRequest]

end Moves

/-- The open sessions of a device. -/
def openSessions (t : Tables) (d : MonitorDevice) : List SessionRow :=
  t.sessions.filter fun row => row.device = d.deviceData.id ∧ row.endTimestamp = 0

structure OneOpenSession (t : Tables) (d : MonitorDevice) : Prop where
  one : (openSessions t d).length ≤ 1
  hash : ∀ row ∈ openSessions t d, row.hash = d.sessionData.hash
  lost : d.state = .disconnected → openSessions t d = []

def NoneLeftOpen (c : Collector) : Prop :=
  Drained c → ∀ k d, c.devices.getDevice k = some d → OneOpenSession c.tables d

/-- What the sessions that were open at start need: that cleaning them finds them. -/
def Cleanable (type : DbType) (t : Tables) : Prop :=
  ∀ row ∈ t.sessions, row.endTimestamp = 0 → hashMatches type row.hash row.hash = true

instance (type : DbType) (t : Tables) : Decidable (Cleanable type t) :=
  inferInstanceAs (Decidable (∀ row ∈ t.sessions, _))

structure SessionInvariant (b : Backend) (t₀ : Tables) (c : Collector) : Prop where
  base : Base b c
  listed : ∀ k, Listed b.type c k
  channels : Channels (Current b.type) c
  rows : OpenRows b.type t₀ c
  single : SingleRows c

lemma sessionInvariant_preserves (b : Backend) (t₀ : Tables) :
    Machine.Preserves (Collector.step b) (SessionGuard b) (SessionInvariant b t₀) := by
  intro c e c' hinv ⟨hcalm, hkeep, hread, hrespects⟩ hstep
  have hmove := calm_move hinv.base hcalm hstep
  exact ⟨base_move hinv.base hcalm hmove,
    fun k => listed_move hinv.base hcalm (fun _ hdevice hk => hk ▸ hkeep.keeps hdevice) hmove
      (hinv.listed k),
    channels_move hinv.base hcalm hmove hrespects (current_start b.type) (fun _ _ => current_step)
      hinv.channels,
    openRows_move hinv.base hinv.listed hkeep hread hmove hinv.rows,
    singleRows_move hinv.base hkeep hread hinv.channels hmove hinv.single⟩

lemma sessionInvariant_start {b : Backend} {t₀ : Tables} (h : CleanStart b.type t₀) :
    SessionInvariant b t₀ (Collector.start t₀) where
  base := base_start h
  listed := listed_start b.type t₀
  channels k d hget := by simp [Collector.start, DeviceManager.getDevice] at hget
  rows := openRows_start b.type t₀
  single k info hmem := by simp [Collector.start] at hmem

section Drained

variable {b : Backend} {t₀ : Tables} {c : Collector}

lemma owner_eq {k k' : String} {d : MonitorDevice} {row : SessionRow} (hb : Base b c)
    (hl : Listed b.type c k) (hget : c.devices.getDevice k = some d)
    (hrow : (row.device : Int) = d.deviceData.id)
    (hdevice : ∃ device, Foremost b.type c.tables device ∧ device.hash = k' ∧ row.device = device.id) :
    k' = k := by
  obtain ⟨device, hmem, rfl, hid⟩ := hdevice
  obtain ⟨device', hmem', rfl, hid'⟩ := hl d hget
  have hids : device.id = device'.id := by omega
  rw [List.inj_on_of_nodup_map hb.keyed.ids hmem.mem hmem'.mem hids]

/-- Once the database queue is drained, an open session is the one its device is in. -/
lemma open_current (hinv : SessionInvariant b t₀ c) (hclean : Cleanable b.type t₀)
    (hq : c.queue = []) {k : String} {d : MonitorDevice} (hget : c.devices.getDevice k = some d)
    {row : SessionRow} (hrow : row ∈ openSessions c.tables d) :
    row.hash = d.sessionData.hash ∧ d.state ≠ .disconnected ∧
      ∃ info, openEntry k info ∈ c.handled ∧ info.hash = row.hash := by
  have hjournal : journal c = c.handled := by simp [journal, hq]
  obtain ⟨hmem₀, hcond⟩ := List.mem_filter.mp hrow
  obtain ⟨hdevice, hzero⟩ : (row.device : Int) = d.deviceData.id ∧ row.endTimestamp = 0 := by
    simpa using hcond
  obtain ⟨before, k', info, after, hsplit, hhash, howner, hafter⟩ | hleft :=
    hinv.rows row hmem₀ hzero
  · obtain rfl := owner_eq hinv.base (hinv.listed k) hget hdevice howner
    have hcurrent := hinv.channels k' d hget
    have hpushed : (channel c k' d).pushed = pushedBy k' before ++ .opened info :: pushedBy k' after := by
      change pushedBy k' (journal c) = _
      rw [hjournal, hsplit]
      exact pushedBy_split k' (.opened info) before after
    obtain hgo | ⟨p, hp, hends⟩ := hcurrent.ended _ _ _ hpushed info rfl
    · obtain ⟨hsession, hlost⟩ := hcurrent.hash _ hgo
      refine ⟨hhash.trans hsession.symm, ?_, info, by rw [hsplit]; simp, hhash.symm⟩
      intro hdis
      simp [channel, view, hdis] at hlost
    · have hafter' : ∀ e ∈ after, Queued b.type e := by
        intro e he
        apply hinv.base.queued
        rw [hjournal, hsplit]
        simp [he]
      have hmem : openEntry k' info ∈ journal c := by
        rw [hjournal, hsplit]
        simp
      have hfound := opened_found hinv.base hinv.channels hmem
      refine absurd ?_ (hafter _ ((mem_pushedBy hafter').mp hp))
      rw [hhash]
      obtain rfl | ⟨info', rfl, heq⟩ := hends
      · exact closes_closeEntry.mpr hfound
      · exact closes_openEntry.mpr (heq ▸ hfound)
  · have hlisted := hleft.listed (hjournal ▸ hinv.base.clean)
    rw [hjournal] at hlisted
    exact absurd (closes_closeEntry.mpr (hclean row hleft.mem hzero)) (hleft.untouched _ hlisted)

lemma noneLeftOpen (hinv : SessionInvariant b t₀ c) (hclean : Cleanable b.type t₀) :
    NoneLeftOpen c := by
  intro hdrained k d hget
  have hcurrent := fun row (hrow : row ∈ openSessions c.tables d) =>
    open_current hinv hclean hdrained.1 hget hrow
  refine ⟨?_, fun row hrow => (hcurrent row hrow).1, ?_⟩
  · cases hopen : openSessions c.tables d with
    | nil => simp
    | cons row rest =>
      obtain ⟨hhash, -, info, hinfo, heq⟩ := hcurrent row (by simp [hopen])
      have hcount := hinv.single k info hinfo
      rw [← hopen, openSessions, ← List.countP_eq_length_filter]
      refine le_trans (List.countP_mono_left ?_) hcount
      intro row' hrow' hcond
      obtain ⟨hhash', -⟩ := hcurrent row' (List.mem_filter.mpr ⟨hrow', hcond⟩)
      have hzero : row'.endTimestamp = 0 := (of_decide_eq_true hcond).2
      simp [hhash', heq, hhash, hzero]
  · intro hdis
    rw [List.eq_nil_iff_forall_not_mem]
    exact fun row hrow => (hcurrent row hrow).2.1 hdis

end Drained

/-- In a run whose steps respect the guard, no session is left open when the queues are
drained. -/
theorem none_left_open (b : Backend) (t₀ : Tables) (events : List Collector.Event)
    (hstart : CleanStart b.type t₀) (hclean : Cleanable b.type t₀)
    (h : Machine.Guarded (Collector.step b) (SessionGuard b) (Collector.start t₀) events) :
    Machine.Throughout (Collector.step b) NoneLeftOpen (Collector.start t₀) events :=
  (Machine.throughout_of_guarded (sessionInvariant_preserves b t₀) (sessionInvariant_start hstart)
    h).mono fun _ hinv => noneLeftOpen hinv hclean

/-- A session goes on until the connection is lost, and a second connection sets another. -/
theorem none_left_open_reconnect :
    Machine.Throughout (Collector.step (plainBackend .sqlite3)) NoneLeftOpen
      (Collector.start (tablesWith ["d"]))
      (startUp ++ onDevice "d" (connectionUp ++ [received [sessionEnvelope "s"], queueUp, queueUp,
        receivedLast [], .finalize] ++ connectionUp ++ [received [sessionEnvelope "t"], queueUp]) ++
        [databaseUp, databaseUp, databaseUp]) :=
  none_left_open _ _ _ (by decide) (by decide) (by decide)

/-- A monitor that sets two sessions on one connection leaves the first one open. -/
theorem session_left_open :
    ∃ c, Machine.run (Collector.step (plainBackend .sqlite3)) (Collector.start (tablesWith ["d"]))
        (startUp ++ onDevice "d" (connectionUp ++ [received [sessionEnvelope "s", sessionEnvelope "t"],
          queueUp, queueUp, queueUp, queueUp]) ++ [databaseUp, databaseUp]) = .ok c ∧
      ¬ NoneLeftOpen c := by
  refine ⟨_, rfl, ?_⟩
  intro h
  obtain ⟨hone, -, -⟩ := h (by decide) "d" _ rfl
  revert hone
  decide

end TkmCollector.Proofs
