import TkmCollector.Proofs.OpenSessions

/-!
# The sessions of a device do not overlap

Start and end times are read from the clock when the database gets to a request, which may be long
after the device made it. Still, as long as no session is left open, the sessions that are recorded
for one device follow one another in the table and in time.
-/

namespace TkmCollector.Proofs

open History

/-- The first session was over when the second one began. -/
def OverBefore (row later : SessionRow) : Prop :=
  row.endTimestamp ≠ 0 ∧ row.endTimestamp ≤ later.startTimestamp

/-- The sessions of each device are recorded one after the other, and none ends before it began. -/
structure OneByOne (sessions : List SessionRow) : Prop where
  apart : sessions.Pairwise fun row later => row.device = later.device → OverBefore row later
  forward : ∀ row ∈ sessions, row.endTimestamp ≠ 0 → row.startTimestamp ≤ row.endTimestamp

/-- A session with the hash is the last one of its device. -/
def EndsLast (type : DbType) (hash : String) (sessions : List SessionRow) : Prop :=
  sessions.Pairwise fun row later => hashMatches type hash row.hash = true → row.device ≠ later.device

instance (sessions : List SessionRow) : Decidable (OneByOne sessions) :=
  decidable_of_iff
    ((sessions.Pairwise fun row later => row.device = later.device →
        row.endTimestamp ≠ 0 ∧ row.endTimestamp ≤ later.startTimestamp) ∧
      ∀ row ∈ sessions, row.endTimestamp ≠ 0 → row.startTimestamp ≤ row.endTimestamp)
    ⟨fun ⟨hapart, hforward⟩ => ⟨hapart, hforward⟩, fun h => ⟨h.apart, h.forward⟩⟩

instance (type : DbType) (hash : String) (sessions : List SessionRow) :
    Decidable (EndsLast type hash sessions) :=
  inferInstanceAs (Decidable (List.Pairwise _ _))

lemma OneByOne.sublist {sessions sessions' : List SessionRow} (h : OneByOne sessions)
    (hsub : sessions'.Sublist sessions) : OneByOne sessions' :=
  ⟨h.apart.sublist hsub, fun row hrow => h.forward row (hsub.subset hrow)⟩

lemma OneByOne.concat {sessions : List SessionRow} (h : OneByOne sessions) {new : SessionRow}
    (hopen : new.endTimestamp = 0)
    (hover : ∀ row ∈ sessions, row.device = new.device → OverBefore row new) :
    OneByOne (sessions ++ [new]) := by
  refine ⟨?_, ?_⟩
  · rw [List.pairwise_append]
    refine ⟨h.apart, List.pairwise_singleton _ _, ?_⟩
    intro row hrow later hlater
    rw [List.mem_singleton.mp hlater]
    exact hover row hrow
  · intro row hrow
    obtain hold | hnew := List.mem_append.mp hrow
    · exact h.forward row hold
    · rw [List.mem_singleton.mp hnew]
      exact fun hne => absurd hopen hne

lemma OneByOne.ended {type : DbType} {hash : String} {now : Nat} {t : Tables}
    (h : OneByOne t.sessions) (hlast : EndsLast type hash t.sessions)
    (hclock : ∀ row ∈ t.sessions, row.startTimestamp ≤ now) :
    OneByOne (ended type hash now t).sessions := by
  refine ⟨?_, ?_⟩
  · refine List.pairwise_map.mpr (List.Pairwise.imp₂ ?_ h.apart hlast)
    intro row later hover hends hsame
    have hdevices : row.device = later.device := by
      split at hsame <;> split at hsame <;> exact hsame
    have hnot : ¬ hashMatches type hash row.hash = true := fun hmatch => hends hmatch hdevices
    rw [if_neg hnot]
    obtain ⟨hne, hle⟩ := hover hdevices
    refine ⟨hne, ?_⟩
    split <;> exact hle
  · intro row hrow hne
    obtain ⟨old, hold, rfl⟩ := List.mem_map.mp hrow
    split
    · exact hclock old hold
    · rename_i hnot
      rw [if_neg hnot] at hne
      exact h.forward old hold hne

/-- While a session goes on, it is ended or replaced by itself before another one is opened. -/
def InTurn (pre : List Push) : Push → Prop
  | .opened info => ∀ hash ∈ ongoing pre, hash = info.hash
  | .closed hash => ∀ hash' ∈ ongoing pre, hash' = hash
  | .stored _ _ => True

lemma inTurn_step {type : DbType} {ch ch' : Channel} (hcurrent : Current type ch)
    (h : Justified InTurn ch.pushed) (hstep : Channel.Step Endable (Replaces type) ch ch') :
    Justified InTurn ch'.pushed := by
  have hclosing : Justified InTurn (ch.pushed ++ ch.closing) := by
    unfold Channel.closing
    split
    · simpa using h
    · refine justified_concat.mpr ⟨h, ?_⟩
      exact fun hash hgo => (hcurrent.hash hash hgo).1.symm
  cases hstep with
  | resume | accept | connect => exact h
  | fail => exact hclosing
  | lose => exact hclosing
  | setSession info rest hw hsets => exact justified_concat.mpr ⟨h, hsets.2⟩
  | processData => exact justified_concat.mpr ⟨h, trivial⟩

lemma ongoing_kept {pre mid : List Push} {hash : String} (h : Justified InTurn (pre ++ mid))
    (hpre : ongoing pre = some hash) (hmid : ∀ p ∈ mid, ¬ Ends p hash) :
    ongoing (pre ++ mid) = some hash := by
  induction mid using List.reverseRecOn with
  | nil => simpa using hpre
  | append_singleton mid p ih =>
    rw [← List.append_assoc] at h ⊢
    obtain ⟨hbefore, hturn⟩ := justified_concat.mp h
    have hgo := ih hbefore fun q hq => hmid q (List.mem_append_left _ hq)
    have hnot := hmid p (List.mem_append_right _ (List.mem_singleton_self p))
    cases p with
    | opened info => exact absurd (.inr ⟨info, rfl, (hturn hash hgo).symm⟩) hnot
    | closed hash' => exact absurd (.inl (congrArg Push.closed (hturn hash hgo).symm)) hnot
    | stored => rw [ongoing_stored, hgo]

lemma hash_of_next {pre mid post : List Push} {info info' : Monitor.SessionInfo}
    (h : Justified InTurn (pre ++ .opened info' :: mid ++ .opened info :: post))
    (hmid : ∀ p ∈ mid, ¬ Ends p info'.hash) : info'.hash = info.hash := by
  have hturn : InTurn (pre ++ [.opened info'] ++ mid) (.opened info) :=
    h _ _ post (by simp)
  have hfirst : Justified InTurn (pre ++ [.opened info'] ++ mid) := by
    intro before p after heq
    refine h before p (after ++ .opened info :: post) ?_
    rw [show pre ++ .opened info' :: mid = pre ++ [.opened info'] ++ mid by simp, heq]
    simp
  exact hturn _ (ongoing_kept hfirst (ongoing_opened pre info') hmid)

/-- When a session is recorded, those that an earlier run left open for its device have ended. -/
def CleanedUp (t₀ t : Tables) (entry : DbEntry) : Prop :=
  ∀ device ∈ t.devices, entry.device = some device.hash →
    ∀ row ∈ t.sessions, row ∈ t₀.sessions ∧ row.device = device.id → row.endTimestamp ≠ 0

/-- When sessions are ended, no later ones are recorded for their devices. -/
def EndsLatest (type : DbType) (t : Tables) (entry : DbEntry) : Prop :=
  ∀ hash ∈ endedHash entry, EndsLast type hash t.sessions

/-- The clock has not been set back behind a time in the table, and the sessions that a request
records or ends are the last ones of their devices. -/
def ClockGuard (type : DbType) (t₀ : Tables) (c : Collector) : Collector.Event → Prop
  | .database io =>
    (∀ row ∈ c.tables.sessions, row.startTimestamp ≤ io.now ∧ row.endTimestamp ≤ io.now) ∧
      ∀ entry ∈ c.queue.head?,
        (entry.request.action = .addSession → CleanedUp t₀ c.tables entry) ∧
        (entry.request.action = .endSession → EndsLatest type c.tables entry)
  | .device _ _ | .request _ _ _ _ => True

instance (t₀ t : Tables) (entry : DbEntry) : Decidable (CleanedUp t₀ t entry) :=
  inferInstanceAs (Decidable (∀ device ∈ t.devices, entry.device = some device.hash →
    ∀ row ∈ t.sessions, row ∈ t₀.sessions ∧ row.device = device.id → row.endTimestamp ≠ 0))

instance (type : DbType) (t : Tables) (entry : DbEntry) : Decidable (EndsLatest type t entry) :=
  inferInstanceAs (Decidable (∀ hash ∈ endedHash entry, EndsLast type hash t.sessions))

instance (type : DbType) (t₀ : Tables) (c : Collector) :
    (e : Collector.Event) → Decidable (ClockGuard type t₀ c e)
  | .database io => inferInstanceAs (Decidable
      ((∀ row ∈ c.tables.sessions, row.startTimestamp ≤ io.now ∧ row.endTimestamp ≤ io.now) ∧
        ∀ entry ∈ c.queue.head?,
          (entry.request.action = .addSession → CleanedUp t₀ c.tables entry) ∧
          (entry.request.action = .endSession → EndsLatest type c.tables entry)))
  | .device _ _ | .request _ _ _ _ => isTrue trivial

/-- No session is left open, and the clock is right. -/
def TimelineGuard (b : Backend) (t₀ : Tables) (c : Collector) (e : Collector.Event) : Prop :=
  SessionGuard b c e ∧ ClockGuard b.type t₀ c e

instance (b : Backend) (t₀ : Tables) (c : Collector) (e : Collector.Event) :
    Decidable (TimelineGuard b t₀ c e) :=
  inferInstanceAs (Decidable (_ ∧ _))

structure TimelineInvariant (b : Backend) (t₀ : Tables) (c : Collector) : Prop where
  sessions : SessionInvariant b t₀ c
  turns : Channels (fun ch => Current b.type ch ∧ Justified InTurn ch.pushed) c
  rows : OneByOne c.tables.sessions

section Moves

variable {b : Backend} {t₀ : Tables} {c c' : Collector} {e : Collector.Event}

/-- When a session is recorded, the others of its device are over, but for those that it replaces. -/
lemma over_when_opened (hinv : TimelineInvariant b t₀ c) {k : String} {info : Monitor.SessionInfo}
    {rest : List DbEntry} (hq : c.queue = openEntry k info :: rest) {device : DeviceRow}
    (hdevice : device ∈ c.tables.devices) (hk : device.hash = k)
    (hleft : ∀ row ∈ c.tables.sessions, row ∈ t₀.sessions → row.device = device.id →
      row.endTimestamp ≠ 0) {row : SessionRow} (hrow : row ∈ c.tables.sessions)
    (hapart : hashMatches b.type info.hash row.hash = false) (howner : row.device = device.id) :
    row.endTimestamp ≠ 0 := by
  have hbase := hinv.sessions.base
  intro hopen
  obtain ⟨before, k', info', after, hsplit, hhash, ⟨device', hdevice', hk', hid⟩, hafter⟩ | hleftOver :=
    hinv.sessions.rows row hrow hopen
  · -- the open session is one of this run, and nothing between the two has ended it
    obtain rfl : device' = device :=
      List.inj_on_of_nodup_map hbase.keyed.ids hdevice'.mem hdevice (hid.symm.trans howner)
    obtain rfl : k' = k := hk'.symm.trans hk
    obtain ⟨d, hget⟩ := hbase.known _ (mem_journal_queue hq) k' rfl
    have hjournal : journal c = before ++ openEntry k' info' :: after ++ openEntry k' info :: rest := by
      rw [journal, hsplit, hq]
    have hturns : Justified InTurn (pushedBy k' (journal c)) := (hinv.turns k' d hget).2
    have hpushed : pushedBy k' (journal c) = pushedBy k' before ++ .opened info' :: pushedBy k' after ++
        .opened info :: pushedBy k' rest := by
      rw [hjournal]
      change pushedBy k' (_ ++ pushEntry k' (.opened info) :: rest) = _
      rw [pushedBy_split]
      change pushedBy k' (before ++ pushEntry k' (.opened info') :: after) ++ _ = _
      rw [pushedBy_split]
    have hmem : openEntry k' info' ∈ journal c := by
      rw [hjournal]
      simp
    have hfound := opened_found hbase hinv.sessions.channels hmem
    have hqueued : ∀ e ∈ after, Queued b.type e := by
      intro e he
      apply hbase.queued
      rw [hjournal]
      simp [he]
    have hmid : ∀ p ∈ pushedBy k' after, ¬ Ends p info'.hash := by
      intro p hp hends
      have hnot := hafter _ ((mem_pushedBy hqueued).mp hp)
      rw [hhash] at hnot
      obtain rfl | ⟨info'', rfl, heq⟩ := hends
      · exact hnot (closes_closeEntry.mpr hfound)
      · exact hnot (closes_openEntry.mpr (heq ▸ hfound))
    rw [hpushed] at hturns
    have hsame := hash_of_next hturns hmid
    rw [hhash, ← hsame, hfound] at hapart
    cases hapart
  · exact hleft row hrow hleftOver.mem howner hopen

lemma oneByOne_opened (hinv : TimelineInvariant b t₀ c) {k : String} {info : Monitor.SessionInfo}
    {rest : List DbEntry} {io : DbIo} (hq : c.queue = openEntry k info :: rest)
    (hread : ReadsSession b.type c (.database io)) (hclock : ClockGuard b.type t₀ c (.database io)) :
    OneByOne (opened b.type k info io.now c.tables).sessions := by
  have hbase := hinv.sessions.base
  have hremoved : OneByOne (removed b.type info.hash c.tables).sessions :=
    hinv.rows.sublist List.filter_sublist
  unfold opened
  dsimp only
  rw [deviceIds_vacated, vacated_of_read (hread.read hq)]
  split
  · exact hremoved
  · rename_i owner hscalar
    obtain ⟨device, hdevice, hk⟩ := opened_device hbase (hinv.sessions.listed k) (mem_journal_queue hq)
    have howner : owner = device.id := by
      rw [← hk, hdevice.found] at hscalar
      exact (Option.some.inj hscalar).symm
    obtain ⟨hcleaned, -⟩ := hclock.2 (openEntry k info) (by rw [hq]; rfl)
    refine hremoved.concat rfl fun row hrow hsame => ?_
    obtain ⟨hold, hapart⟩ := mem_removed.mp hrow
    refine ⟨?_, (hclock.1 row hold).2⟩
    exact over_when_opened hinv hq hdevice.mem hk (fun row hrow hleft howner =>
      hcleaned rfl device hdevice.mem (congrArg some hk.symm) row hrow ⟨hleft, howner⟩) hold hapart
      (hsame.trans howner)

lemma oneByOne_move (hinv : TimelineInvariant b t₀ c) (hkeep : KeepsDevices b.type c e)
    (hread : ReadsSession b.type c e) (hclock : ClockGuard b.type t₀ c e) (hmove : Move b c e c') :
    OneByOne c'.tables.sessions := by
  cases hmove with
  | idle | device | request | passed | added | cleaned => exact hinv.rows
  | dropped io entry rest hash hq hentry hdropped hsome =>
    exact absurd (hkeep.unmatched hq hdropped) hsome
  | replaced io entry rest deviceData hq hentry hdropped hsome =>
    exact absurd (hkeep.unmatched hq hdropped) hsome
  | removed => exact hinv.rows.sublist List.filter_sublist
  | closed io owner hash rest hq =>
    obtain ⟨-, hlast⟩ := hclock.2 (closeEntry owner hash) (by rw [hq]; rfl)
    exact hinv.rows.ended (hlast rfl hash rfl) fun row hrow => (hclock.1 row hrow).1
  | opened io k info rest hq => exact oneByOne_opened hinv hq hread hclock
  | stored =>
    rw [stored_sessions]
    exact hinv.rows

end Moves

lemma timelineInvariant_preserves (b : Backend) (t₀ : Tables) :
    Machine.Preserves (Collector.step b) (TimelineGuard b t₀) (TimelineInvariant b t₀) := by
  intro c e c' hinv ⟨hsession, hclock⟩ hstep
  have hmove := calm_move hinv.sessions.base hsession.1 hstep
  refine ⟨sessionInvariant_preserves b t₀ c e c' hinv.sessions hsession hstep, ?_,
    oneByOne_move hinv hsession.2.1 hsession.2.2.1 hclock hmove⟩
  exact channels_move hinv.sessions.base hsession.1 hmove hsession.2.2.2
    ⟨current_start b.type, justified_nil⟩
    (fun _ _ h hstep => ⟨current_step h.1 hstep, inTurn_step h.1 h.2 hstep⟩) hinv.turns

/-- In a run that leaves no session open and whose clock is right, the sessions of each device are,
in every state and with what earlier runs recorded, one after the other: each was over when the
next one began. -/
theorem sessions_one_by_one (b : Backend) (t₀ : Tables) (events : List Collector.Event)
    (hstart : CleanStart b.type t₀) (hrows : OneByOne t₀.sessions)
    (h : Machine.Guarded (Collector.step b) (TimelineGuard b t₀) (Collector.start t₀) events) :
    Machine.Throughout (Collector.step b) (fun c => OneByOne c.tables.sessions) (Collector.start t₀)
      events := by
  refine (Machine.throughout_of_guarded (timelineInvariant_preserves b t₀) ?_ h).mono
    fun c hinv => hinv.rows
  refine ⟨sessionInvariant_start hstart, ?_, hrows⟩
  intro k d hget
  simp [Collector.start, DeviceManager.getDevice] at hget

/-- A device is connected twice, and the database gets to its requests late. -/
theorem sessions_one_by_one_late :
    let late (now : Nat) (h : 0 < now) : Collector.Event := .database ⟨now, h, [], true, .isOpen⟩
    let events := startUp ++ onDevice "d" (connectionUp ++ [received [sessionEnvelope "s"], queueUp,
      queueUp, receivedLast [], .finalize] ++ connectionUp ++ [received [sessionEnvelope "t"], queueUp]) ++
      [late 5 (by decide), late 8 (by decide), late 9 (by decide)]
    CleanStart .sqlite3 (tablesWith ["d"]) ∧ OneByOne (tablesWith ["d"]).sessions ∧
      Machine.Guarded (Collector.step (plainBackend .sqlite3))
        (TimelineGuard (plainBackend .sqlite3) (tablesWith ["d"])) (Collector.start (tablesWith ["d"]))
        events ∧
      (∃ c, Machine.run (Collector.step (plainBackend .sqlite3)) (Collector.start (tablesWith ["d"])) events =
        .ok c ∧ c.tables.sessions.map (fun row => (row.startTimestamp, row.endTimestamp)) =
          [(5, 8), (9, 0)]) ∧
      Machine.Throughout (Collector.step (plainBackend .sqlite3)) (fun c => OneByOne c.tables.sessions)
        (Collector.start (tablesWith ["d"])) events := by
  intro late events
  have hstart : CleanStart .sqlite3 (tablesWith ["d"]) := by decide
  have hrows : OneByOne (tablesWith ["d"]).sessions := by decide
  have hguard : Machine.Guarded (Collector.step (plainBackend .sqlite3))
      (TimelineGuard (plainBackend .sqlite3) (tablesWith ["d"])) (Collector.start (tablesWith ["d"]))
      events := by decide
  exact ⟨hstart, hrows, hguard, ⟨_, rfl, by decide⟩,
    sessions_one_by_one (plainBackend .sqlite3) _ events hstart hrows hguard⟩

end TkmCollector.Proofs
