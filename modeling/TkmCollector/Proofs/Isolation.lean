import Mathlib.Data.List.Nodup
import TkmCollector.Proofs.Announced
import TkmCollector.Proofs.SessionRows

/-!
# Isolation between devices

The requests of a device leave the sessions of all others alone, with their data. The
statements name sessions by their hashes only, so this takes that the hashes that are
announced to different devices do not match each other.
-/

namespace TkmCollector.Proofs

open MonitorDevice

/-- The hash can be told apart from the empty one, from the hashes of other devices, and
from those that other devices have left in the tables at start. -/
def Apart (type : DbType) (t₀ : Tables) (c : Collector) (k hash : String) : Prop :=
  hashMatches type "" hash = false ∧
  (∀ d ∈ c.devices, d.deviceData.hash ≠ k → ∀ hash' ∈ announced d.streams,
    hashMatches type hash hash' = false ∧ hashMatches type hash' hash = false) ∧
  ∀ device ∈ c.tables.devices, device.hash = k → ∀ row ∈ t₀.sessions, row.device ≠ device.id →
    hashMatches type hash row.hash = false

instance (type : DbType) (t₀ : Tables) (c : Collector) (k hash : String) :
    Decidable (Apart type t₀ c k hash) := inferInstanceAs (Decidable (_ ∧ _ ∧ _))

/-- Monitors only announce hashes that can be told apart, and devices stay. -/
def IsolationGuard (b : Backend) (t₀ : Tables) (c : Collector) (e : Collector.Event) : Prop :=
  Calm b.type e ∧ KeepsDevices b.type c e ∧ ∀ p ∈ sent e, Apart b.type t₀ c p.1 p.2

instance (b : Backend) (t₀ : Tables) (c : Collector) (e : Collector.Event) :
    Decidable (IsolationGuard b t₀ c e) := inferInstanceAs (Decidable (_ ∧ _ ∧ _))

/-- The tables at start: ids are distinct, and no session has a hash that the empty one
matches. -/
structure SeparateStart (type : DbType) (t₀ : Tables) : Prop where
  numbered : Numbered type t₀
  named : ∀ row ∈ t₀.sessions, hashMatches type "" row.hash = false

instance (type : DbType) (t₀ : Tables) : Decidable (SeparateStart type t₀) :=
  decidable_of_iff (Numbered type t₀ ∧ ∀ row ∈ t₀.sessions, hashMatches type "" row.hash = false)
    ⟨fun ⟨h₁, h₂⟩ => ⟨h₁, h₂⟩, fun h => ⟨h.numbered, h.named⟩⟩

section Hashes

variable (type : DbType) (t₀ : Tables) (c : Collector)

/-- The hashes of two devices do not match each other. -/
structure ApartHashes : Prop where
  empty : ∀ k, ∀ hash ∈ announcedOf c k, hashMatches type "" hash = false
  devices : ∀ k k', k ≠ k' → ∀ hash ∈ announcedOf c k, ∀ hash' ∈ announcedOf c k',
    hashMatches type hash hash' = false
  rows : ∀ device, Foremost type c.tables device → ∀ hash ∈ announcedOf c device.hash,
    ∀ row ∈ t₀.sessions, row.device ≠ device.id → hashMatches type hash row.hash = false

/-- A session was there at start, or its hash was announced to its device. -/
def OwnedRows : Prop :=
  ∀ row ∈ c.tables.sessions,
    (∃ row₀ ∈ t₀.sessions, row₀.hash = row.hash ∧ row₀.device = row.device) ∨
    ∃ device, Foremost type c.tables device ∧ row.device = device.id ∧
      row.hash ∈ announcedOf c device.hash

end Hashes

structure IsolationInvariant (b : Backend) (t₀ : Tables) (c : Collector) : Prop where
  base : Base b c
  listed : ∀ k, Listed b.type c k
  channels : Channels Conserved c
  named : ∀ row ∈ t₀.sessions, hashMatches b.type "" row.hash = false
  apart : ApartHashes b.type t₀ c
  owned : OwnedRows b.type t₀ c
  numbered : Numbered b.type c.tables

section Moves

variable {b : Backend} {t₀ : Tables} {c c' : Collector} {e : Collector.Event}

lemma tables_of_sent (hmove : Move b c e c') {p : String × String} (h : p ∈ sent e) :
    c'.tables = c.tables := by
  cases hmove with
  | idle | device | request => rfl
  | passed | added | dropped | replaced | removed | cleaned | closed | opened | stored => cases h

lemma apart_announced {type : DbType} {k k' hash hash' : String} (h : Apart type t₀ c k hash)
    (hne : k' ≠ k) (hmem : hash' ∈ announcedOf c k') :
    hashMatches type hash hash' = false ∧ hashMatches type hash' hash = false := by
  obtain ⟨d, hd, hk, hann⟩ := announced_entry hmem
  exact h.2.1 d hd (hk ▸ hne) hash' hann

lemma apartHashes_move (hb : Base b c) (hl : ∀ k, Listed b.type c k) (hg : IsolationGuard b t₀ c e)
    (hmove : Move b c e c') (h : ApartHashes b.type t₀ c) : ApartHashes b.type t₀ c' where
  empty k hash hmem := by
    obtain hold | hnew := announcedOf_cases hb hg.1 hmove hmem
    · exact h.empty k hash hold
    · exact (hg.2.2 _ hnew).1
  devices k k' hne hash hmem hash' hmem' := by
    obtain hold | hnew := announcedOf_cases hb hg.1 hmove hmem
    · obtain hold' | hnew' := announcedOf_cases hb hg.1 hmove hmem'
      · exact h.devices k k' hne hash hold hash' hold'
      · exact (apart_announced (hg.2.2 _ hnew') hne hold).2
    · obtain hold' | hnew' := announcedOf_cases hb hg.1 hmove hmem'
      · exact (apart_announced (hg.2.2 _ hnew) hne.symm hold').1
      · exact absurd (sent_device hnew hnew') hne
  rows device hdevice hash hmem row hrow hne := by
    obtain hold | hnew := announcedOf_cases hb hg.1 hmove hmem
    · obtain ⟨device', hdevice', heq⟩ := announced_row (hl _) hold
      have hkeyed := (base_move hb hg.1 hmove).keyed
      obtain rfl := (foremost_mono hb hg.2.1 hmove hdevice').unique hdevice hkeyed.ids heq
      exact h.rows device' hdevice' hash hold row hrow hne
    · rw [tables_of_sent hmove hnew] at hdevice
      exact (hg.2.2 _ hnew).2.2 device hdevice.mem rfl row hrow hne

lemma OwnedRows.keep {row row' : SessionRow} (hb : Base b c) (hcalm : Calm b.type e)
    (hkeep : KeepsDevices b.type c e) (hmove : Move b c e c') (h : OwnedRows b.type t₀ c) (hrow : row ∈ c.tables.sessions)
    (hhash : row'.hash = row.hash) (hdevice : row'.device = row.device) :
    (∃ row₀ ∈ t₀.sessions, row₀.hash = row'.hash ∧ row₀.device = row'.device) ∨
      ∃ device, Foremost b.type c'.tables device ∧ row'.device = device.id ∧
        row'.hash ∈ announcedOf c' device.hash := by
  rw [hhash, hdevice]
  obtain hstart | ⟨device, hmem, hid, hann⟩ := h row hrow
  · exact .inl hstart
  · exact .inr ⟨device, foremost_mono hb hkeep hmove hmem, hid, announcedOf_mono hb hcalm hmove hann⟩

lemma ownedRows_move (hb : Base b c) (hl : ∀ k, Listed b.type c k) (hch : Channels Conserved c)
    (hcalm : Calm b.type e) (hkeep : KeepsDevices b.type c e) (hmove : Move b c e c')
    (h : OwnedRows b.type t₀ c) : OwnedRows b.type t₀ c' := by
  have hmono := fun row (hrow : row ∈ c.tables.sessions) => h.keep hb hcalm hkeep hmove hrow rfl rfl
  cases hmove with
  | idle | device | request | passed | added | cleaned => exact hmono
  | dropped io entry rest hash hq hentry hdropped hsome =>
    exact absurd (hkeep.unmatched hq hdropped) hsome
  | replaced io entry rest deviceData hq hentry hdropped hsome =>
    exact absurd (hkeep.unmatched hq hdropped) hsome
  | removed => exact fun row hrow => hmono row (mem_removed.mp hrow).1
  | closed io owner hash rest hq =>
    intro row hrow
    obtain ⟨row', hrow', rfl⟩ := List.mem_map.mp hrow
    refine h.keep hb hcalm hkeep (.closed io owner hash rest hq) hrow' ?_ ?_
    · split <;> rfl
    · split <;> rfl
  | opened io k info rest hq =>
    intro row hrow
    obtain ⟨hold, -⟩ | ⟨owner, howner, rfl⟩ := mem_opened hrow
    · exact hmono row hold
    · obtain ⟨device, hdevice, rfl⟩ := opened_device hb (hl k) (mem_journal_queue hq)
      rw [hdevice.found] at howner
      refine .inr ⟨device, hdevice.congr (opened_devices ..), (Option.some.inj howner).symm, ?_⟩
      exact announcedOf_mono hb hcalm (.opened io device.hash info rest hq)
        (opened_announced hch hb (mem_journal_queue hq))
  | stored io k hash data rest hq =>
    intro row hrow
    rw [stored_sessions] at hrow
    exact hmono row hrow

end Moves

lemma isolationInvariant_preserves (b : Backend) (t₀ : Tables) :
    Machine.Preserves (Collector.step b) (IsolationGuard b t₀) (IsolationInvariant b t₀) := by
  intro c e c' hinv hg hstep
  have hmove := calm_move hinv.base hg.1 hstep
  have hrespects : Respects (fun _ => True) (fun _ _ => True) c e := by
    cases e <;> simp [Respects, RespectsAt]
  exact ⟨base_move hinv.base hg.1 hmove,
    fun k => listed_move hinv.base hg.1 (fun _ hdevice hk => hk ▸ hg.2.1.keeps hdevice) hmove
      (hinv.listed k),
    channels_move hinv.base hg.1 hmove hrespects conserved_start (fun _ _ => conserved_step)
      hinv.channels,
    hinv.named,
    apartHashes_move hinv.base hinv.listed hg hmove hinv.apart,
    ownedRows_move hinv.base hinv.listed hinv.channels hg.1 hg.2.1 hmove hinv.owned,
    numbered_move hmove rfl hinv.numbered⟩

lemma isolationInvariant_start {b : Backend} {t₀ : Tables} (h : CleanStart b.type t₀)
    (hs : SeparateStart b.type t₀) : IsolationInvariant b t₀ (Collector.start t₀) where
  base := base_start h
  listed := listed_start b.type t₀
  channels k d hget := by simp [Collector.start, DeviceManager.getDevice] at hget
  named := hs.named
  apart := by
    constructor <;> simp [announcedOf, Collector.start, DeviceManager.getDevice]
  owned row hrow := .inl ⟨row, hrow, rfl, rfl⟩
  numbered := hs.numbered

/-- The sessions of other devices, and their data, are what they were. -/
structure Isolated (id : Int) (t t' : Tables) : Prop where
  sessions : (t'.sessions.filter fun row => (row.device : Int) ≠ id) =
    t.sessions.filter fun row => (row.device : Int) ≠ id
  data : ∀ row ∈ t.sessions, (row.device : Int) ≠ id →
    (t'.data.filter fun entry => entry.session = row.id) =
      t.data.filter fun entry => entry.session = row.id

lemma isolated_refl (id : Int) (t : Tables) : Isolated id t t := ⟨rfl, fun _ _ _ => rfl⟩

section Effects

variable {type : DbType} {hash : String} {t : Tables} {id : Int}

/-- The hash matches no session of another device. -/
def Unmatched (type : DbType) (hash : String) (id : Int) (t : Tables) : Prop :=
  ∀ row ∈ t.sessions, (row.device : Int) ≠ id → hashMatches type hash row.hash = false

lemma isolated_ended (h : Unmatched type hash id t) (now : Nat) :
    Isolated id t (ended type hash now t) := by
  refine ⟨?_, fun _ _ _ => rfl⟩
  unfold ended
  rw [List.filter_map]
  have hcomp : ((fun row : SessionRow => decide ((row.device : Int) ≠ id)) ∘ fun row =>
      if hashMatches type hash row.hash then { row with endTimestamp := now } else row) =
      fun row => decide ((row.device : Int) ≠ id) := by
    funext row
    simp only [Function.comp_apply]
    split <;> rfl
  rw [hcomp]
  conv_rhs => rw [← List.map_id (t.sessions.filter _)]
  apply List.map_congr_left
  intro row hrow
  obtain ⟨hmem, hne⟩ := List.mem_filter.mp hrow
  rw [h row hmem (of_decide_eq_true hne)]
  rfl

/-- Data that are deleted with a session are not those of another one. -/
lemma isolated_removed (h : Unmatched type hash id t) (hn : Numbered type t) :
    Isolated id t (removed type hash t) := by
  constructor
  · unfold removed Tables.deleteSessions
    rw [List.filter_filter]
    apply List.filter_congr
    intro row hrow
    by_cases hne : (row.device : Int) ≠ id
    · simp [hne, h row hrow hne]
    · simp [hne]
  · intro row hrow hne
    unfold removed Tables.deleteSessions
    cases type with
    | sqlite3 => rfl
    | postgreSQL =>
      dsimp only
      rw [List.filter_filter]
      apply List.filter_congr
      intro entry _
      by_cases hentry : entry.session = row.id
      · rw [hentry, not_cascaded hn hrow (h row hrow hne), Bool.not_false, Bool.and_true]
      · simp [hentry]

lemma isolated_vacated (h : Unmatched type hash id t) (hn : Numbered type t) :
    Isolated id t (vacated type hash t) := by
  unfold vacated
  split
  · exact isolated_refl id t
  · exact isolated_removed h hn

lemma isolated_opened {k : String} {info : Monitor.SessionInfo} {device : Nat}
    (h : Unmatched type info.hash device t) (hn : Numbered type t)
    (hscalar : scalar type (deviceIds type k t) = some device) (now : Nat) :
    Isolated device t (opened type k info now t) := by
  have hr := isolated_vacated h hn
  unfold opened
  dsimp only
  rw [deviceIds_vacated, hscalar]
  refine ⟨?_, hr.data⟩
  rw [List.filter_append, hr.sessions]
  simp [newSession]

lemma isolated_stored (h : Unmatched type hash id t) (hn : Numbered type t) (data : Monitor.Data) :
    Isolated id t (stored type hash data t) := by
  refine ⟨by rw [stored_sessions], ?_⟩
  intro row hrow hne
  unfold stored
  split
  · rfl
  · rename_i owner hscalar
    obtain ⟨session, hsession, hid⟩ := List.mem_map.mp (mem_of_scalar hscalar)
    obtain ⟨hmem, hcond⟩ := List.mem_filter.mp hsession
    have hdiff : owner ≠ row.id := by
      intro heq
      obtain rfl : session = row :=
        List.inj_on_of_nodup_map hn.distinct hmem hrow (hid.trans heq)
      rw [h session hmem hne] at hcond
      simp at hcond
    have hnone : (dataRows data owner).filter (fun entry => entry.session = row.id) = [] := by
      rw [List.filter_eq_nil_iff]
      intro entry hentry
      simpa [dataRows_session hentry] using hdiff
    rw [List.filter_append, hnone, List.append_nil]

end Effects

/-- What the event loop does for a device: it changes no tables when it dispatches the
device, and keeps the others apart when it handles what the device pushed. -/
def KeepsOthers (c : Collector) (e : Collector.Event) (c' : Collector) : Prop :=
  (∀ k ev, e = .device k ev → c'.tables = c.tables) ∧
  ∀ io entry rest k d, e = .database io → c.queue = entry :: rest → entry.device = some k →
    c.devices.getDevice k = some d → Isolated d.deviceData.id c.tables c'.tables

section Steps

variable {b : Backend} {t₀ : Tables} {c c' : Collector}

lemma unmatched_announced (hinv : IsolationInvariant b t₀ c) {k : String} {d : MonitorDevice}
    (hget : c.devices.getDevice k = some d) {hash : String}
    (hmem : hash = "" ∨ hash ∈ announcedOf c k) :
    Unmatched b.type hash d.deviceData.id c.tables := by
  obtain ⟨device, hdevice, rfl, hid⟩ := hinv.listed k d hget
  intro row hrow hne
  have hne' : row.device ≠ device.id := by
    rw [hid] at hne
    exact fun heq => hne (by rw [heq])
  obtain ⟨row₀, hrow₀, hhash, hdev⟩ | ⟨other, hother, hoid, hann⟩ := hinv.owned row hrow
  · rw [← hhash]
    obtain rfl | hmem := hmem
    · exact hinv.named row₀ hrow₀
    · exact hinv.apart.rows device hdevice hash hmem row₀ hrow₀ (hdev ▸ hne')
  · obtain rfl | hmem := hmem
    · exact hinv.apart.empty other.hash row.hash hann
    · refine hinv.apart.devices device.hash other.hash ?_ hash hmem row.hash hann
      intro heq
      obtain rfl := hdevice.unique hother hinv.base.keyed.ids heq
      exact hne' hoid

lemma keepsOthers_step {e : Collector.Event} (hinv : IsolationInvariant b t₀ c) (hcalm : Calm b.type e)
    (hkeep : KeepsDevices b.type c e) (hstep : c.step b e = .ok c') : KeepsOthers c e c' := by
  have hmove := calm_move hinv.base hcalm hstep
  constructor
  · rintro k ev rfl
    cases hmove <;> rfl
  · rintro io entry rest k d rfl hq hk hget
    cases hmove with
    | idle => exact isolated_refl _ _
    | cleaned => exact isolated_refl _ _
    | passed => exact ⟨rfl, fun _ _ _ => rfl⟩
    | added => exact ⟨rfl, fun _ _ _ => rfl⟩
    | dropped _ entry' rest' hash hq' hentry hdropped hsome =>
      exact absurd (hkeep.unmatched hq' hdropped) hsome
    | replaced _ entry' rest' deviceData hq' hentry hdropped hsome =>
      exact absurd (hkeep.unmatched hq' hdropped) hsome
    | removed _ entry' rest' hash hq' hentry hdevice =>
      obtain ⟨rfl, rfl⟩ := List.cons.inj (hq.symm.trans hq')
      rw [hdevice] at hk
      cases hk
    | closed _ owner hash rest' hq' =>
      obtain ⟨rfl, rfl⟩ := List.cons.inj (hq.symm.trans hq')
      obtain rfl : owner = some k := hk
      have hmem := closed_announced hinv.channels hinv.base (mem_journal_queue hq)
      exact isolated_ended (unmatched_announced hinv hget (.inr hmem)) io.now
    | opened _ k' info rest' hq' =>
      obtain ⟨rfl, rfl⟩ := List.cons.inj (hq.symm.trans hq')
      obtain rfl : k' = k := Option.some.inj hk
      have hmem := opened_announced hinv.channels hinv.base (mem_journal_queue hq)
      have hunmatched := unmatched_announced hinv hget (.inr hmem)
      obtain ⟨device, hdevice, rfl, hid⟩ := hinv.listed k' d hget
      rw [hid] at hunmatched ⊢
      exact isolated_opened hunmatched hinv.numbered hdevice.found io.now
    | stored _ k' hash data rest' hq' =>
      obtain ⟨rfl, rfl⟩ := List.cons.inj (hq.symm.trans hq')
      obtain rfl : k' = k := Option.some.inj hk
      have hmem := stored_announced hinv.channels hinv.base (mem_journal_queue hq)
      exact isolated_stored (unmatched_announced hinv hget hmem) hinv.numbered data

end Steps

/-- In a run in which monitors announce hashes that can be told apart from those of other
devices, no request of a device touches the sessions of the others or their data. -/
theorem device_isolation (b : Backend) (t₀ : Tables) (events : List Collector.Event)
    (hstart : CleanStart b.type t₀) (hseparate : SeparateStart b.type t₀)
    (h : Machine.Guarded (Collector.step b) (IsolationGuard b t₀) (Collector.start t₀) events) :
    Machine.EachStep (Collector.step b) KeepsOthers (Collector.start t₀) events :=
  Machine.eachStep_of_guarded (isolationInvariant_preserves b t₀)
    (fun _ _ _ hinv hg hstep => keepsOthers_step hinv hg.1 hg.2.1 hstep)
    (isolationInvariant_start hstart hseparate) h

/-- Two devices set sessions with hashes of their own, and store data. -/
theorem device_isolation_two_devices :
    Machine.EachStep (Collector.step (plainBackend .postgreSQL)) KeepsOthers
      (Collector.start (tablesWith ["d", "e"]))
      (startUp ++ onDevice "d" (connectionUp ++ [received [sessionEnvelope "s", dataEnvelope],
        queueUp, queueUp]) ++ onDevice "e" (connectionUp ++ [received [sessionEnvelope "t"], queueUp,
        receivedLast [], .finalize]) ++ List.replicate 4 databaseUp) :=
  device_isolation _ _ _ (by decide) (by decide) (by decide)

/-- A device that sets a session with the hash of another device's session deletes it. -/
theorem foreign_session_deleted :
    ∃ c c', Machine.run (Collector.step (plainBackend .sqlite3))
        (Collector.start (tablesWith ["d", "e"]))
        (startUp ++ onDevice "d" (connectionUp ++ [received [sessionEnvelope "s"], queueUp]) ++
          onDevice "e" (connectionUp ++ [received [sessionEnvelope "s"], queueUp]) ++ [databaseUp]) =
        .ok c ∧ c.step (plainBackend .sqlite3) databaseUp = .ok c' ∧
      ¬ KeepsOthers c databaseUp c' := by
  refine ⟨_, _, rfl, rfl, ?_⟩
  intro h
  have hsessions := (h.2 _ _ _ "e" _ rfl rfl rfl rfl).sessions
  revert hsessions
  decide

end TkmCollector.Proofs
