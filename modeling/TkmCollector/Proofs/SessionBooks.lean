import TkmCollector.Proofs.Announced
import TkmCollector.Proofs.SessionRows

/-!
# What the tables hold of a session

The book of a session is what its device made of it: whether it goes on, and the data it
got. The tables hold what the book says, as long as the device is not deleted and nobody but
the device ends the session.
-/

namespace TkmCollector.Proofs

/-- What is known of the session with a hash. -/
structure Book where
  goesOn : Bool
  data : List Monitor.Data

/-- A push in the book of the session with the hash. -/
def enter (hash : String) (book : Option Book) : Push → Option Book
  | .opened info => if info.hash = hash then some ⟨true, []⟩ else book
  | .closed hash' => if hash' = hash then book.map fun bk => { bk with goesOn := false } else book
  | .stored hash' data =>
    if hash' = hash then
      book.map fun bk => if bk.goesOn then { bk with data := bk.data ++ [data] } else bk
    else book

/-- The book of a session, if it was opened. -/
def book (hash : String) (pushed : List Push) : Option Book := pushed.foldl (enter hash) none

@[simp] lemma book_nil (hash : String) : book hash [] = none := rfl

@[simp] lemma book_concat (hash : String) (pushed : List Push) (p : Push) :
    book hash (pushed ++ [p]) = enter hash (book hash pushed) p := by
  simp [book]

lemma enter_other {hash : String} {p : Push} (h : p.hash ≠ hash) (bk : Option Book) :
    enter hash bk p = bk := by
  cases p with
  | opened | closed | stored => exact if_neg h

/-- What the book says is in the tables, under one of the rows that the hash finds: the only one on
PostgreSQL, and the first that is open while the session goes on. -/
structure Holds (type : DbType) (t : Tables) (k hash : String) (bk : Book) (before : List SessionRow)
    (row : SessionRow) (after : List SessionRow) : Prop where
  found : t.sessionsWith (hashMatches type) hash = before ++ row :: after
  alone : type = .postgreSQL → before = [] ∧ after = []
  hash : row.hash = hash
  device : ∃ device ∈ t.devices, device.hash = k ∧ row.device = device.id
  goesOn : bk.goesOn = true → row.endTimestamp = 0 ∧ ∀ other ∈ before, other.endTimestamp ≠ 0
  data : (bk.data.flatMap fun data => dataRows data row.id).Sublist t.data

section Effects

variable {type : DbType} {t : Tables} {k hash hash' : String} {bk : Book}
  {before after : List SessionRow} {row : SessionRow}

lemma Holds.mem_found (h : Holds type t k hash bk before row after) :
    row ∈ t.sessionsWith (hashMatches type) hash := by
  rw [h.found]
  exact List.mem_append_right _ List.mem_cons_self

lemma Holds.mem (h : Holds type t k hash bk before row after) : row ∈ t.sessions :=
  (List.mem_filter.mp h.mem_found).1

lemma Holds.matches (h : Holds type t k hash bk before row after) :
    hashMatches type hash row.hash = true :=
  (List.mem_filter.mp h.mem_found).2

/-- A hash that does not match the one of the session matches none of the rows beside it. -/
lemma Holds.unmatched (h : Holds type t k hash bk before row after)
    (hne : hashMatches type hash' hash = false) {other : SessionRow}
    (hother : other ∈ before ++ row :: after) : hashMatches type hash' other.hash = false := by
  cases type with
  | sqlite3 =>
    rw [← h.found] at hother
    have heq : other.hash = hash := by simpa [hashMatches, eq_comm] using (List.mem_filter.mp hother).2
    rw [heq]
    exact hne
  | postgreSQL =>
    obtain ⟨rfl, rfl⟩ := h.alone rfl
    rw [List.mem_singleton.mp hother, h.hash]
    exact hne

lemma sessionsWith_ended (now : Nat) :
    (ended type hash' now t).sessionsWith (hashMatches type) hash =
      (t.sessionsWith (hashMatches type) hash).map fun row =>
        if hashMatches type hash' row.hash then { row with endTimestamp := now } else row := by
  unfold Tables.sessionsWith ended
  rw [List.filter_map]
  congr 1
  apply List.filter_congr
  intro row _
  simp only [Function.comp_apply]
  split <;> rfl

/-- A session that is ended keeps its data. -/
lemma Holds.close (h : Holds type t k hash bk before row after) (now : Nat) :
    ∃ before' row' after', row'.device = row.device ∧
      Holds type (ended type hash' now t) k hash { bk with goesOn := false } before' row' after' := by
  obtain ⟨device, hdevice, hk, hid⟩ := h.device
  let close (row : SessionRow) :=
    if hashMatches type hash' row.hash then { row with endTimestamp := now } else row
  have hclose : (close row).hash = row.hash ∧ (close row).device = row.device ∧
      (close row).id = row.id := by
    unfold close
    split <;> exact ⟨rfl, rfl, rfl⟩
  obtain ⟨hhash, howner, hrow⟩ := hclose
  refine ⟨before.map close, close row, after.map close, howner, ?_, ?_, hhash.trans h.hash,
    ⟨device, hdevice, hk, howner.trans hid⟩, by simp, ?_⟩
  · rw [sessionsWith_ended, h.found, List.map_append, List.map_cons]
  · intro htype
    obtain ⟨rfl, rfl⟩ := h.alone htype
    exact ⟨rfl, rfl⟩
  · rw [hrow]
    exact h.data

lemma Holds.of_ended (h : Holds type t k hash bk before row after)
    (hne : hashMatches type hash' hash = false) (now : Nat) :
    Holds type (ended type hash' now t) k hash bk before row after := by
  refine ⟨?_, h.alone, h.hash, h.device, h.goesOn, h.data⟩
  have hstay : ∀ other ∈ before ++ row :: after, (if hashMatches type hash' other.hash then
      { other with endTimestamp := now } else other) = other := by
    intro other hother
    rw [h.unmatched hne hother]
    rfl
  rw [sessionsWith_ended, h.found, List.map_congr_left hstay, List.map_id']

/-- A session that stays when others are deleted keeps its data. -/
lemma Holds.of_deleted (h : Holds type t k hash bk before row after) (hn : Numbered type t)
    {gone : SessionRow → Bool} (hkeep : gone row = false) :
    Holds type (t.deleteSessions type gone) k hash bk (before.filter fun other => !gone other) row
      (after.filter fun other => !gone other) := by
  refine ⟨?_, ?_, h.hash, h.device, ?_, ?_⟩
  · unfold Tables.deleteSessions Tables.sessionsWith
    rw [List.filter_comm]
    have hfound := h.found
    unfold Tables.sessionsWith at hfound
    rw [hfound, List.filter_append, List.filter_cons_of_pos (by simp [hkeep])]
  · intro htype
    obtain ⟨rfl, rfl⟩ := h.alone htype
    exact ⟨rfl, rfl⟩
  · intro hopen
    obtain ⟨hzero, hended⟩ := h.goesOn hopen
    exact ⟨hzero, fun other hother => hended other (List.mem_of_mem_filter hother)⟩
  · unfold Tables.deleteSessions
    cases type with
    | sqlite3 => exact h.data
    | postgreSQL =>
      have hstay : ∀ entry ∈ bk.data.flatMap fun data => dataRows data row.id,
          (!t.sessions.any fun s => gone s && s.id == entry.session) = true := by
        intro entry hentry
        obtain ⟨data, -, hrow⟩ := List.mem_flatMap.mp hentry
        rw [dataRows_session hrow, not_cascaded hn h.mem hkeep, Bool.not_false]
      have hsub := h.data.filter fun entry : DataRow =>
        !t.sessions.any fun s => gone s && s.id == entry.session
      rw [List.filter_eq_self.mpr hstay] at hsub
      exact hsub

lemma Holds.of_removed (h : Holds type t k hash bk before row after) (hn : Numbered type t)
    (hne : hashMatches type hash' hash = false) :
    Holds type (removed type hash' t) k hash bk before row after := by
  have hrow : hashMatches type hash' row.hash = false := by rw [h.hash, hne]
  have hdeleted : Holds type (removed type hash' t) k hash bk
      (before.filter fun other => !hashMatches type hash' other.hash) row
      (after.filter fun other => !hashMatches type hash' other.hash) := h.of_deleted hn hrow
  have hall : ∀ other ∈ before ++ row :: after, (!hashMatches type hash' other.hash) = true := by
    intro other hother
    rw [h.unmatched hne hother, Bool.not_false]
  have hbefore := List.filter_eq_self.mpr fun other hother => hall other (List.mem_append_left _ hother)
  have hafter := List.filter_eq_self.mpr fun other hother =>
    hall other (List.mem_append_right _ (List.mem_cons_of_mem _ hother))
  rw [hbefore, hafter] at hdeleted
  exact hdeleted

lemma Holds.of_vacated (h : Holds type t k hash bk before row after) (hn : Numbered type t)
    (hne : hashMatches type hash' hash = false) :
    Holds type (vacated type hash' t) k hash bk before row after := by
  unfold vacated
  split
  · exact h
  · exact h.of_removed hn hne

/-- The session of a device that is not deleted stays. -/
lemma Holds.of_dropped (h : Holds type t k hash bk before row after) (hn : Numbered type t)
    (hids : (t.devices.map DeviceRow.id).Nodup) (hne : hashMatches type hash' k = false) :
    Holds type (dropped type hash' t) k hash bk before row after := by
  obtain ⟨device, hdevice, hhash, hid⟩ := h.device
  have hstay : device ∈ t.devices.filter fun row => !hashMatches type hash' row.hash :=
    List.mem_filter.mpr ⟨hdevice, by simp [hhash, hne]⟩
  have hrest : Holds type { t with
      devices := t.devices.filter fun row => !hashMatches type hash' row.hash } k hash bk before row
      after :=
    ⟨h.found, h.alone, h.hash, ⟨device, hstay, hhash, hid⟩, h.goesOn, h.data⟩
  cases type with
  | sqlite3 => exact hrest
  | postgreSQL =>
    obtain ⟨rfl, rfl⟩ := h.alone rfl
    refine hrest.of_deleted ⟨hn.distinct, hn.bound⟩ ?_
    rw [List.any_eq_false]
    intro other hother hcond
    simp only [Bool.and_eq_true, beq_iff_eq] at hcond
    -- the row that the session names is the one of its device
    obtain rfl : other = device := List.inj_on_of_nodup_map hids hother hdevice (hcond.2.trans hid)
    rw [hhash, hne] at hcond
    cases hcond.1

lemma Holds.of_added (h : Holds type t k hash bk before row after) (deviceData : Control.DeviceData) :
    Holds type (added type deviceData t) k hash bk before row after := by
  obtain ⟨device, hdevice, hhash, hid⟩ := h.device
  exact ⟨h.found, h.alone, h.hash, ⟨device, List.mem_append_left _ hdevice, hhash, hid⟩, h.goesOn,
    h.data⟩

/-- A session that the hash does not find joins the others. -/
lemma Holds.of_joined (h : Holds type t k hash bk before row after) {t' : Tables} {new : SessionRow}
    (hne : hashMatches type hash new.hash = false) (hsessions : t'.sessions = t.sessions ++ [new])
    (hdevices : t'.devices = t.devices) (hdata : t'.data = t.data) :
    Holds type t' k hash bk before row after := by
  refine ⟨?_, h.alone, h.hash, hdevices ▸ h.device, h.goesOn, hdata ▸ h.data⟩
  have hfound := h.found
  unfold Tables.sessionsWith at hfound ⊢
  rw [hsessions, List.filter_append, hfound, List.filter_cons_of_neg (by simp [hne]), List.filter_nil,
    List.append_nil]

lemma Holds.of_opened (h : Holds type t k hash bk before row after) (hn : Numbered type t) {k' : String}
    {info : Monitor.SessionInfo} (hne : hashMatches type info.hash hash = false)
    (hne' : hashMatches type hash info.hash = false) (now : Nat) :
    Holds type (opened type k' info now t) k hash bk before row after := by
  have hr := h.of_vacated hn hne
  unfold opened
  dsimp only
  split
  · exact hr
  · exact hr.of_joined hne' rfl rfl rfl

section Opened

variable {info : Monitor.SessionInfo} {device : DeviceRow}

/-- The session that is opened replaces those with its hash, and has no data yet. -/
lemma holds_opened (hself : hashMatches type info.hash info.hash = true) (hdevice : device ∈ t.devices)
    (howner : scalar type (deviceIds type device.hash t) = some device.id)
    (hread : ¬ Misread type (checkedSession type info.hash t)) (now : Nat) :
    Holds type (opened type device.hash info now t) device.hash info.hash ⟨true, []⟩ []
      (newSession type info now device.id (removed type info.hash t)) [] := by
  refine ⟨?_, fun _ => ⟨rfl, rfl⟩, rfl, ?_, fun _ => ⟨rfl, by simp⟩, List.nil_sublist _⟩
  · unfold opened
    dsimp only
    rw [deviceIds_vacated, howner, vacated_of_read hread]
    have hnone : (removed type info.hash t).sessions.filter
        (fun row => hashMatches type info.hash row.hash) = [] := by
      rw [List.filter_eq_nil_iff]
      intro row hrow
      simp [(mem_removed.mp hrow).2]
    unfold Tables.sessionsWith
    rw [List.filter_append, hnone, List.nil_append, List.filter_cons_of_pos (by exact hself),
      List.filter_nil]
    rfl
  · rw [opened_devices]
    exact ⟨device, hdevice, rfl, rfl⟩

/-- The open sessions with the hash belong to the device that the sub-select finds. -/
def OpenOwned (type : DbType) (k hash : String) (t : Tables) : Prop :=
  ∀ row ∈ t.sessions, row.hash = hash → row.endTimestamp = 0 →
    scalar type (deviceIds type k t) = some row.device

instance (type : DbType) (k hash : String) (t : Tables) : Decidable (OpenOwned type k hash t) :=
  inferInstanceAs (Decidable (∀ row ∈ t.sessions, _ → _ → _))

/-- The session is opened beside others with its hash, which SQLite does not find. The first that is
open gets the data; it is one of the device. -/
lemma holds_beside (hdevice : device ∈ t.devices)
    (howner : scalar type (deviceIds type device.hash t) = some device.id)
    (hmisread : Misread type (checkedSession type info.hash t))
    (howned : OpenOwned type device.hash info.hash t) (now : Nat) :
    ∃ before row after, row.device = device.id ∧
      Holds type (opened type device.hash info now t) device.hash info.hash ⟨true, []⟩ before row after := by
  obtain rfl := hmisread.1
  let new := newSession .sqlite3 info now device.id t
  have hopened : opened .sqlite3 device.hash info now t =
      { t with sessions := t.sessions ++ [new], sessionSeq := t.sessionSeq + 1 } := by
    unfold opened vacated
    rw [if_pos hmisread]
    dsimp only
    rw [howner]
  have hfound : (opened .sqlite3 device.hash info now t).sessionsWith (hashMatches .sqlite3) info.hash =
      t.sessionsWith (hashMatches .sqlite3) info.hash ++ [new] := by
    rw [hopened]
    unfold Tables.sessionsWith
    rw [List.filter_append, List.filter_cons_of_pos (by simp [hashMatches, new, newSession]), List.filter_nil]
  have hsome : ((t.sessionsWith (hashMatches .sqlite3) info.hash ++ [new]).find?
      fun row => row.endTimestamp = 0).isSome = true := by
    rw [List.find?_isSome]
    exact ⟨new, by simp, by simp [new, newSession]⟩
  obtain ⟨row, hrow⟩ := Option.isSome_iff_exists.mp hsome
  obtain ⟨hzero, before, after, hsplit, hended⟩ := List.find?_eq_some_iff_append.mp hrow
  have hzero : row.endTimestamp = 0 := by simpa using hzero
  have hmem : row ∈ t.sessionsWith (hashMatches .sqlite3) info.hash ++ [new] :=
    List.mem_of_find?_eq_some hrow
  have hown : row.hash = info.hash ∧ row.device = device.id := by
    obtain hold | hnew := List.mem_append.mp hmem
    · obtain ⟨hin, hmatch⟩ := List.mem_filter.mp hold
      have hhash : row.hash = info.hash := by simpa [hashMatches, eq_comm] using hmatch
      have hscalar := howned row hin hhash hzero
      rw [howner] at hscalar
      exact ⟨hhash, (Option.some.inj hscalar).symm⟩
    · rw [List.mem_singleton.mp hnew]
      exact ⟨rfl, rfl⟩
  refine ⟨before, row, after, hown.2, hfound.trans hsplit, by simp, hown.1, ?_, ?_, List.nil_sublist _⟩
  · rw [opened_devices]
    exact ⟨device, hdevice, rfl, hown.2⟩
  · exact fun _ => ⟨hzero, fun other hother => by simpa using hended other hother⟩

end Opened

/-- Data that are stored for whatever session do not disturb the others. -/
lemma Holds.of_stored (h : Holds type t k hash bk before row after) (data : Monitor.Data) :
    Holds type (stored type hash' data t) k hash bk before row after := by
  unfold stored
  split
  · exact h
  · exact ⟨h.found, h.alone, h.hash, h.device, h.goesOn, h.data.trans (List.sublist_append_left _ _)⟩

/-- The sub-select of an `INSERT` of data finds a session that goes on. -/
lemma Holds.scalar (h : Holds type t k hash bk before row after) (hopen : bk.goesOn = true) :
    scalar type (sessionIds type hash t) = some row.id := by
  obtain ⟨hzero, hended⟩ := h.goesOn hopen
  have hids : sessionIds type hash t =
      row.id :: (after.filter fun other => other.endTimestamp == 0).map SessionRow.id := by
    have hfound := h.found
    unfold Tables.sessionsWith at hfound
    have hnone : (before.filter fun other => other.endTimestamp == 0) = [] := by
      rw [List.filter_eq_nil_iff]
      simpa using hended
    unfold sessionIds Tables.openSessionsWith
    rw [← List.filter_filter, List.filter_comm, hfound, List.filter_append, hnone, List.nil_append,
      List.filter_cons_of_pos (by simp [hzero])]
    rfl
  rw [hids]
  cases type with
  | sqlite3 => rfl
  | postgreSQL =>
    obtain ⟨rfl, rfl⟩ := h.alone rfl
    rfl

lemma Holds.store (h : Holds type t k hash bk before row after) (hopen : bk.goesOn = true)
    (data : Monitor.Data) :
    Holds type (stored type hash data t) k hash { bk with data := bk.data ++ [data] } before row after := by
  unfold stored
  rw [h.scalar hopen]
  refine ⟨h.found, h.alone, h.hash, h.device, h.goesOn, ?_⟩
  rw [List.flatMap_append]
  exact h.data.append (by simp)

end Effects

/-- The entry ends, deletes or replaces a session with the hash, or opens one that the hash
finds. -/
def Disturbs (type : DbType) (hash : String) (entry : DbEntry) : Prop :=
  (∃ hash' ∈ endedHash entry, hashMatches type hash' hash = true) ∨
    ∃ hash' ∈ openedHash entry, hashMatches type hash' hash = true ∨ hashMatches type hash hash' = true

instance (type : DbType) (hash : String) (entry : DbEntry) : Decidable (Disturbs type hash entry) :=
  inferInstanceAs (Decidable (_ ∨ _))

/-- Once the device opened the session, only the requests of the device for this session
disturb it. -/
def Spared (type : DbType) (k hash : String) (c : Collector) : Collector.Event → Prop
  | .database _ => (book hash (pushedBy k c.handled)).isSome = true → ∀ e ∈ c.queue.head?,
      (∃ p ∈ pushOf k e, p.hash = hash) ∨ ¬ Disturbs type hash e
  | .device _ _ | .request _ _ _ _ => True

instance (type : DbType) (k hash : String) (c : Collector) :
    (e : Collector.Event) → Decidable (Spared type k hash c e)
  | .database _ => inferInstanceAs (Decidable (_ → ∀ e ∈ c.queue.head?, _ ∨ ¬ Disturbs type hash e))
  | .device _ _ | .request _ _ _ _ => isTrue trivial

/-- When the device opens the session and SQLite does not find those with its hash, since it reads
the id of the first as -1, the open ones among them are its own. -/
def FindsOwn (type : DbType) (k hash : String) (c : Collector) : Collector.Event → Prop
  | .database _ => ∀ e ∈ c.queue.head?, e.device = some k → openedHash e = some hash →
      Misread type (checkedSession type hash c.tables) → OpenOwned type k hash c.tables
  | .device _ _ | .request _ _ _ _ => True

instance (type : DbType) (k hash : String) (c : Collector) :
    (e : Collector.Event) → Decidable (FindsOwn type k hash c e)
  | .database _ => inferInstanceAs (Decidable (∀ e ∈ c.queue.head?, _ → _ → _ → _))
  | .device _ _ | .request _ _ _ _ => isTrue trivial

/-- The session belongs to the device that the sub-select for the hash finds. -/
def OwnedBy (type : DbType) (t : Tables) (k : String) (row : SessionRow) : Prop :=
  ∃ device, Foremost type t device ∧ device.hash = k ∧ row.device = device.id

/-- What the book says is in the tables, under a row of the device. -/
def Filed (type : DbType) (t : Tables) (k hash : String) (bk : Book) : Prop :=
  ∃ before row after, Holds type t k hash bk before row after ∧ OwnedBy type t k row

/-- The tables hold the book of the session. -/
def BookKept (type : DbType) (k hash : String) (c : Collector) : Prop :=
  ∀ bk, book hash (pushedBy k c.handled) = some bk → Filed type c.tables k hash bk

lemma bookKept_start (type : DbType) (k hash : String) (t₀ : Tables) :
    BookKept type k hash (Collector.start t₀) := by
  simp [BookKept, Collector.start, pushedBy]

section Moves

variable {b : Backend} {c c' : Collector} {e : Collector.Event} {k hash : String}

lemma pushedBy_unrelated {type : DbType} {entry : DbEntry} (hq : Queued type entry)
    (h : Unrelated entry) (k : String) (entries : List DbEntry) : pushedBy k (entries ++ [entry]) = pushedBy k entries := by
  have hnone : pushOf k entry = none := by
    cases hp : pushOf k entry with
    | none => rfl
    | some p =>
      have heq := pushOf_eq_some hq hp
      cases p with
      | opened info => exact absurd heq (h.opens k info)
      | closed hash => exact absurd heq (h.close (some k) hash)
      | stored hash data => exact absurd heq (h.store k hash data)
  rw [pushedBy_append]
  unfold pushedBy
  rw [List.filterMap_cons_none hnone, List.filterMap_nil, List.append_nil]

lemma pushedBy_skip {entry : DbEntry} {k : String} (h : entry.device ≠ some k)
    (entries : List DbEntry) : pushedBy k (entries ++ [entry]) = pushedBy k entries := by
  have hnone : pushedBy k [entry] = [] := pushedBy_other (by simpa using h)
  rw [pushedBy_append, hnone, List.append_nil]

lemma book_own (k : String) (p : Push) (entries : List DbEntry) (hash : String) :
    book hash (pushedBy k (entries ++ [pushEntry k p])) = enter hash (book hash (pushedBy k entries)) p := by
  have hsplit : pushedBy k (entries ++ [pushEntry k p]) = pushedBy k entries ++ [p] :=
    pushedBy_split k p entries []
  rw [hsplit, book_concat]

lemma pushEntry_device (k : String) (p : Push) : (pushEntry k p).device = some k := by
  cases p <;> rfl

lemma book_other {k' : String} {p : Push} (h : (k', p.hash) ≠ (k, hash)) (entries : List DbEntry) :
    book hash (pushedBy k (entries ++ [pushEntry k' p])) = book hash (pushedBy k entries) := by
  by_cases hk : k' = k
  · subst hk
    have hne : p.hash ≠ hash := fun heq => h (by rw [heq])
    rw [book_own, enter_other hne]
  · rw [pushedBy_skip (by simpa [pushEntry_device] using hk)]

/-- The book is kept when an entry of nobody is handled, if it does not disturb the session. -/
lemma book_skip {type : DbType} {t : Tables} {entry : DbEntry} (h : BookKept type k hash c)
    (hentry : pushedBy k (c.handled ++ [entry]) = pushedBy k c.handled)
    (howned : ∀ row, OwnedBy type c.tables k row → OwnedBy type t k row)
    (hholds : ∀ bk before row after, book hash (pushedBy k c.handled) = some bk →
      Holds type c.tables k hash bk before row after → Holds type t k hash bk before row after)
    (bk : Book) (hbk : book hash (pushedBy k (c.handled ++ [entry])) = some bk) :
    Filed type t k hash bk := by
  rw [hentry] at hbk
  obtain ⟨before, row, after, hrow, hown⟩ := h bk hbk
  exact ⟨before, row, after, hholds bk before row after hbk hrow, howned row hown⟩

/-- The book is kept when a push is handled, if the tables follow when it is about the session,
and it does not disturb the session when it is about another one. -/
lemma book_push {type : DbType} {t : Tables} (k' : String) (p : Push) (h : BookKept type k hash c)
    (howned : ∀ row, OwnedBy type c.tables k row → OwnedBy type t k row)
    (hown : ∀ bk, (k', p.hash) = (k, hash) → enter hash (book hash (pushedBy k c.handled)) p = some bk →
      Filed type t k hash bk)
    (hother : ∀ bk before row after, (k', p.hash) ≠ (k, hash) →
      book hash (pushedBy k c.handled) = some bk →
      Holds type c.tables k hash bk before row after → Holds type t k hash bk before row after)
    (bk : Book) (hbk : book hash (pushedBy k (c.handled ++ [pushEntry k' p])) = some bk) :
    Filed type t k hash bk := by
  by_cases heq : (k', p.hash) = (k, hash)
  · have hk : k' = k := congrArg Prod.fst heq
    rw [hk, book_own] at hbk
    exact hown bk heq hbk
  · rw [book_other heq] at hbk
    obtain ⟨before, row, after, hrow, howner⟩ := h bk hbk
    exact ⟨before, row, after, hother bk before row after heq hbk hrow, howned row howner⟩

lemma undisturbed {type : DbType} {io : DbIo} {entry : DbEntry} {rest : List DbEntry} {bk : Book}
    (hspared : Spared type k hash c (.database io)) (hq : c.queue = entry :: rest)
    (hbk : book hash (pushedBy k c.handled) = some bk) (hown : ∀ p ∈ pushOf k entry, p.hash ≠ hash) :
    ¬ Disturbs type hash entry := by
  obtain ⟨p, hp, hhash⟩ | hnot := hspared (by simp [hbk]) entry (by simp [hq])
  · exact absurd hhash (hown p hp)
  · exact hnot

lemma pushOf_ne {k' : String} {p : Push} (hne : (k', p.hash) ≠ (k, hash)) :
    ∀ q ∈ pushOf k (pushEntry k' p), q.hash ≠ hash := by
  intro q hq hhash
  by_cases hk : k' = k
  · subst hk
    rw [pushOf_pushEntry] at hq
    obtain rfl := Option.some.inj hq
    exact hne (by rw [hhash])
  · rw [pushOf_other (by simpa [pushEntry_device] using hk)] at hq
    cases hq

lemma pushOf_none {entry : DbEntry} (h : entry.device = none) : ∀ p ∈ pushOf k entry, p.hash ≠ hash := by
  intro p hp
  rw [pushOf_other (by simp [h])] at hp
  cases hp

lemma unmatched_of_ended {type : DbType} {entry : DbEntry} {hash' : String}
    (h : ¬ Disturbs type hash entry) (hended : endedHash entry = some hash') :
    hashMatches type hash' hash = false := by
  rw [Bool.eq_false_iff]
  exact fun hmatch => h (.inl ⟨hash', hended, hmatch⟩)

lemma ownedBy_move (hb : Base b c) (hkeep : KeepsDevice b.type k c e) (hmove : Move b c e c')
    (row : SessionRow) (h : OwnedBy b.type c.tables k row) : OwnedBy b.type c'.tables k row := by
  obtain ⟨device, hdevice, hk, hid⟩ := h
  exact ⟨device, foremost_kept hb hkeep hmove hdevice hk, hk, hid⟩

theorem bookKept_move (hb : Base b c) (hl : Listed b.type c k) (hn : Numbered b.type c.tables)
    (hself : hashMatches b.type hash hash = true) (hkeep : KeepsDevice b.type k c e)
    (hspared : Spared b.type k hash c e) (hfinds : FindsOwn b.type k hash c e) (hmove : Move b c e c')
    (h : BookKept b.type k hash c) : BookKept b.type k hash c' := by
  have howned := ownedBy_move hb hkeep hmove
  cases hmove with
  | idle | device | request => exact h
  | passed io entry rest rows missing hq hrows hentry =>
    have hqueued := hb.queued _ (mem_journal_queue hq)
    exact book_skip h (pushedBy_unrelated hqueued hentry k c.handled) howned fun _ _ _ _ _ hrow =>
      ⟨hrow.found, hrow.alone, hrow.hash, hrow.device, hrow.goesOn, hrow.data⟩
  | added io entry rest deviceData hq hentry =>
    have hqueued := hb.queued _ (mem_journal_queue hq)
    exact book_skip h (pushedBy_unrelated hqueued hentry k c.handled) howned fun _ _ _ _ _ hrow =>
      hrow.of_added deviceData
  | dropped io entry rest hash' hq hentry hdropped =>
    have hqueued := hb.queued _ (mem_journal_queue hq)
    have hne := hkeep entry (by simp [hq]) hash' hdropped
    exact book_skip h (pushedBy_unrelated hqueued hentry k c.handled) howned fun _ _ _ _ _ hrow =>
      hrow.of_dropped hn hb.keyed.ids hne
  | replaced io entry rest deviceData hq hentry hdropped =>
    have hqueued := hb.queued _ (mem_journal_queue hq)
    have hne := hkeep entry (by simp [hq]) deviceData.hash hdropped
    exact book_skip h (pushedBy_unrelated hqueued hentry k c.handled) howned fun _ _ _ _ _ hrow =>
      (hrow.of_dropped hn hb.keyed.ids hne).of_added deviceData
  | removed io entry rest hash' hq hentry hdevice hended =>
    have hqueued := hb.queued _ (mem_journal_queue hq)
    refine book_skip h (pushedBy_unrelated hqueued hentry k c.handled) howned fun bk _ _ _ hbk hrow => ?_
    have hnot := undisturbed hspared hq hbk (pushOf_none hdevice)
    exact hrow.of_removed hn (unmatched_of_ended hnot hended)
  | cleaned io rest hq =>
    have hdevice : cleanEntry.device = none := rfl
    exact book_skip h (pushedBy_skip (by simp [hdevice]) _) howned fun _ _ _ _ _ hrow => hrow
  | closed io owner hash' rest hq =>
    have hended : endedHash (closeEntry owner hash') = some hash' := rfl
    cases owner with
    | none =>
      have hdevice : (closeEntry none hash').device = none := rfl
      refine book_skip h (pushedBy_skip (by simp [hdevice]) _) howned fun bk _ _ _ hbk hrow => ?_
      have hnot := undisturbed hspared hq hbk (pushOf_none hdevice)
      exact hrow.of_ended (unmatched_of_ended hnot hended) io.now
    | some k' =>
      refine book_push k' (.closed hash') h howned ?_ ?_
      · intro bk heq hbk
        obtain ⟨-, rfl⟩ := Prod.mk.inj heq
        simp only [enter, Push.hash, if_true] at hbk
        obtain ⟨bk₀, hbk₀, rfl⟩ := Option.map_eq_some_iff.mp hbk
        obtain ⟨before, row, after, hrow, hown⟩ := h _ hbk₀
        obtain ⟨device, hdevice, hk, hid⟩ := howned row hown
        obtain ⟨before', row', after', hsame, hclosed⟩ := hrow.close io.now
        exact ⟨before', row', after', hclosed, device, hdevice, hk, hsame.trans hid⟩
      · intro bk _ _ _ hne hbk hrow
        have hnot := undisturbed hspared hq hbk (pushOf_ne (p := .closed hash') hne)
        exact hrow.of_ended (unmatched_of_ended hnot hended) io.now
  | opened io k' info rest hq =>
    refine book_push k' (.opened info) h howned ?_ ?_
    · intro bk heq hbk
      obtain ⟨rfl, rfl⟩ := Prod.mk.inj heq
      simp only [enter, Push.hash, if_true] at hbk
      obtain rfl := Option.some.inj hbk
      obtain ⟨device, hdevice, rfl⟩ := opened_device hb hl (mem_journal_queue hq)
      have hdevice' : Foremost b.type (opened b.type device.hash info io.now c.tables) device :=
        hdevice.congr (opened_devices ..)
      by_cases hmisread : Misread b.type (checkedSession b.type info.hash c.tables)
      · have howned' : OpenOwned b.type device.hash info.hash c.tables :=
          hfinds _ (by rw [hq]; rfl) rfl rfl hmisread
        obtain ⟨before, row, after, hid, hrow⟩ :=
          holds_beside hdevice.mem hdevice.found hmisread howned' io.now
        exact ⟨before, row, after, hrow, device, hdevice', rfl, hid⟩
      · exact ⟨[], _, [], holds_opened hself hdevice.mem hdevice.found hmisread io.now, device, hdevice',
          rfl, rfl⟩
    · intro bk _ _ _ hne hbk hrow
      have hnot := undisturbed hspared hq hbk (pushOf_ne (p := .opened info) hne)
      have hopened : openedHash (openEntry k' info) = some info.hash := rfl
      refine hrow.of_opened hn ?_ ?_ io.now
      · rw [Bool.eq_false_iff]
        exact fun hmatch => hnot (.inr ⟨info.hash, hopened, .inl hmatch⟩)
      · rw [Bool.eq_false_iff]
        exact fun hmatch => hnot (.inr ⟨info.hash, hopened, .inr hmatch⟩)
  | stored io k' hash' data rest hq =>
    refine book_push k' (.stored hash' data) h howned ?_ ?_
    · intro bk heq hbk
      obtain ⟨-, rfl⟩ := Prod.mk.inj heq
      simp only [enter, Push.hash, if_true] at hbk
      obtain ⟨bk₀, hbk₀, rfl⟩ := Option.map_eq_some_iff.mp hbk
      obtain ⟨before, row, after, hrow, hown⟩ := h _ hbk₀
      by_cases hopen : bk₀.goesOn = true
      · rw [if_pos hopen]
        exact ⟨before, row, after, hrow.store hopen data, howned row hown⟩
      · rw [if_neg hopen]
        exact ⟨before, row, after, hrow.of_stored data, howned row hown⟩
    · intro bk _ _ _ _ _ hrow
      exact hrow.of_stored data

end Moves

end TkmCollector.Proofs
