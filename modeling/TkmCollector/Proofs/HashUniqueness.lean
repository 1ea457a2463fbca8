import Mathlib.Data.List.Nodup
import TkmCollector.Proofs.CollectorFrame
import TkmCollector.Proofs.Orders

/-!
# Hashes stay unique

No column of hashes is declared `UNIQUE`; a handler checks, deletes and inserts in separate
statements. Two rows get the same hash when the check or the deletion fails and the handler
inserts all the same.
-/

namespace TkmCollector.Proofs

open LikePattern

/-- No two devices and no two sessions have the same hash. -/
structure UniqueHashes (t : Tables) : Prop where
  devices : (t.devices.map DeviceRow.hash).Nodup
  sessions : (t.sessions.map SessionRow.hash).Nodup

instance (t : Tables) : Decidable (UniqueHashes t) :=
  decidable_of_iff ((t.devices.map DeviceRow.hash).Nodup ∧ (t.sessions.map SessionRow.hash).Nodup)
    ⟨fun ⟨h₁, h₂⟩ => ⟨h₁, h₂⟩, fun h => ⟨h.devices, h.sessions⟩⟩

/-- When an `INSERT` succeeds though the rows it replaces could not be looked up or deleted, or
SQLite reads the id of the first of them as -1, there are none. SQLite goes on in both handlers,
PostgreSQL for sessions only. -/
def FindsNone (type : DbType) (t : Tables) (io : DbIo) : Order → Prop
  | .addDevice _ _ forced deviceData =>
    (0, 0) ∉ io.fails → (2, 0) ∉ io.fails →
      (forced = true ∧ type = .sqlite3 ∧ (1, 0) ∈ io.fails ∨
        forced = false ∧ Misread type (checkedDevice type deviceData.hash t)) →
      ∀ row ∈ t.devices, row.hash ≠ deviceData.hash
  | .addSession deviceHash info =>
    (0, 0) ∈ io.fails ∨ (1, 0) ∈ io.fails ∨ Misread type (checkedSession type info.hash t) →
      (2, 0) ∉ io.fails → scalar type (deviceIds type deviceHash t) ≠ none →
      ∀ row ∈ t.sessions, row.hash ≠ info.hash
  | _ => True

/-- The hash that an order inserts. -/
def insertedHash : Order → Option String
  | .addDevice _ _ _ deviceData => some deviceData.hash
  | .addSession _ info => some info.hash
  | _ => none

/-- The strings stay inside of their literals, a hash that is inserted matches itself only,
and an `INSERT` that goes on after a failure finds no row in its way. -/
def UniqueGuard (b : Backend) (t : Tables) (s : Service) : Prop :=
  (∀ v ∈ s.order.strings, Plain v) ∧
    (b.type = .postgreSQL → ∀ hash ∈ insertedHash s.order, Literal hash) ∧
    FindsNone b.type t s.io s.order

instance (type : DbType) (t : Tables) (io : DbIo) : (order : Order) → Decidable (FindsNone type t io order)
  | .addDevice _ _ forced deviceData => inferInstanceAs (Decidable ((0, 0) ∉ io.fails →
      (2, 0) ∉ io.fails → (forced = true ∧ type = .sqlite3 ∧ (1, 0) ∈ io.fails ∨
        forced = false ∧ Misread type (checkedDevice type deviceData.hash t)) →
      ∀ row ∈ t.devices, row.hash ≠ deviceData.hash))
  | .addSession deviceHash info => inferInstanceAs (Decidable ((0, 0) ∈ io.fails ∨ (1, 0) ∈ io.fails ∨
      Misread type (checkedSession type info.hash t) → (2, 0) ∉ io.fails →
      scalar type (deviceIds type deviceHash t) ≠ none → ∀ row ∈ t.sessions, row.hash ≠ info.hash))
  | .checkDatabase | .loadDevices | .cleanSessions | .initDatabase _ _ | .getDevices _ _
  | .getSessions _ _ _ _ | .removeDevice _ _ _ _ | .remSession _ _ _ _ | .endSession _
  | .addData _ _ => isTrue trivial

instance (b : Backend) (t : Tables) (s : Service) : Decidable (UniqueGuard b t s) :=
  inferInstanceAs (Decidable (_ ∧ _ ∧ _))

lemma hashMatches_self {type : DbType} {hash : String} (h : type = .postgreSQL → Literal hash) :
    hashMatches type hash hash = true := by
  cases type with
  | sqlite3 => simp [hashMatches]
  | postgreSQL => exact (hashMatches_eq (h rfl) hash).mpr rfl

lemma hash_ne_of_unmatched {type : DbType} {hash value : String}
    (h : type = .postgreSQL → Literal hash) (hne : hashMatches type hash value = false) : value ≠ hash := by
  rintro rfl
  rw [hashMatches_self h] at hne
  cases hne

section Effects

variable {type : DbType} {t : Tables}

lemma UniqueHashes.sublist (h : UniqueHashes t) {t' : Tables} (hd : t'.devices.Sublist t.devices)
    (hs : t'.sessions.Sublist t.sessions) : UniqueHashes t' :=
  ⟨h.devices.sublist (hd.map _), h.sessions.sublist (hs.map _)⟩

lemma sessions_dropped_sublist (hash : String) :
    (dropped type hash t).sessions.Sublist t.sessions := by
  cases type with
  | sqlite3 => exact List.Sublist.refl _
  | postgreSQL => exact List.filter_sublist

lemma uniqueHashes_dropped (h : UniqueHashes t) (hash : String) :
    UniqueHashes (dropped type hash t) := by
  apply h.sublist
  · rw [dropped_devices]
    exact List.filter_sublist
  · exact sessions_dropped_sublist hash

lemma uniqueHashes_removed (h : UniqueHashes t) (hash : String) :
    UniqueHashes (removed type hash t) :=
  h.sublist (List.Sublist.refl _) List.filter_sublist

lemma uniqueHashes_added (h : UniqueHashes t) {deviceData : Control.DeviceData}
    (hnew : ∀ row ∈ t.devices, row.hash ≠ deviceData.hash) :
    UniqueHashes (added type deviceData t) := by
  refine ⟨?_, h.sessions⟩
  have hdevices : (added type deviceData t).devices.map DeviceRow.hash =
      t.devices.map DeviceRow.hash ++ [deviceData.hash] := by
    simp [added]
  rw [hdevices, List.nodup_append]
  refine ⟨h.devices, by simp, ?_⟩
  intro hash hmem hash' hmem'
  obtain ⟨row, hrow, rfl⟩ := List.mem_map.mp hmem
  rw [List.mem_singleton.mp hmem']
  exact hnew row hrow

lemma uniqueHashes_recorded (h : UniqueHashes t) {info : Monitor.SessionInfo}
    (hnew : ∀ row ∈ t.sessions, row.hash ≠ info.hash) (now owner : Nat) :
    UniqueHashes (recorded type info now owner t) := by
  refine ⟨h.devices, ?_⟩
  have hsessions : (recorded type info now owner t).sessions.map SessionRow.hash =
      t.sessions.map SessionRow.hash ++ [info.hash] := by
    simp [recorded, newSession]
  rw [hsessions, List.nodup_append]
  refine ⟨h.sessions, by simp, ?_⟩
  intro hash hmem hash' hmem'
  obtain ⟨row, hrow, rfl⟩ := List.mem_map.mp hmem
  rw [List.mem_singleton.mp hmem']
  exact hnew row hrow

lemma uniqueHashes_ended (h : UniqueHashes t) (hash : String) (now : Nat) :
    UniqueHashes (ended type hash now t) := by
  refine ⟨h.devices, ?_⟩
  have hsessions : (ended type hash now t).sessions.map SessionRow.hash =
      t.sessions.map SessionRow.hash := by
    unfold ended
    rw [List.map_map]
    apply List.map_congr_left
    intro row _
    simp only [Function.comp_apply]
    split <;> rfl
  rw [hsessions]
  exact h.sessions

end Effects

lemma uniqueHashes_preserves (b : Backend) :
    Machine.Preserves (serve b) (UniqueGuard b) UniqueHashes := by
  intro t s t' h ⟨hplain, hliteral, hfinds⟩ hserve
  obtain ⟨status, heffect⟩ := serve_effect hplain hserve
  obtain ⟨order, io⟩ := s
  cases heffect with
  | same => exact h
  | created => exact ⟨h.devices, h.sessions⟩
  | erased client =>
    apply h.sublist
    · change (erased _ t).devices.Sublist _
      rw [erased_devices]
      split
      · exact List.nil_sublist _
      · exact List.Sublist.refl _
    · change (erased _ t).sessions.Sublist _
      rw [erased_sessions]
      split
      · exact List.nil_sublist _
      · exact List.Sublist.refl _
  | added client id forced deviceData hnew hcheck hinsert =>
    apply uniqueHashes_added h
    have hlit : b.type = .postgreSQL → Literal deviceData.hash := fun htype => hliteral htype _ rfl
    obtain ⟨hforced, hnone | hread⟩ | hforced := hnew
    · intro row hrow
      apply hash_ne_of_unmatched hlit
      simpa using List.filter_eq_nil_iff.mp hnone row hrow
    · exact hfinds hcheck hinsert (.inr ⟨hforced, hread⟩)
    · exact hfinds hcheck hinsert (.inl hforced)
  | replaced client id deviceData =>
    have hlit : b.type = .postgreSQL → Literal deviceData.hash := fun htype => hliteral htype _ rfl
    apply uniqueHashes_added (uniqueHashes_dropped h deviceData.hash)
    intro row hrow
    rw [dropped_devices, List.mem_filter] at hrow
    exact hash_ne_of_unmatched hlit (by simpa using hrow.2)
  | left client id deviceData => exact uniqueHashes_dropped h deviceData.hash
  | dropped client id forced deviceData => exact uniqueHashes_dropped h deviceData.hash
  | removed client id forced sessionData => exact uniqueHashes_removed h sessionData.hash
  | cleared deviceHash info => exact uniqueHashes_removed h info.hash
  | opened deviceHash info owner howner =>
    have hlit : b.type = .postgreSQL → Literal info.hash := fun htype => hliteral htype _ rfl
    apply uniqueHashes_recorded (uniqueHashes_removed h info.hash)
    intro row hrow
    exact hash_ne_of_unmatched hlit (mem_removed.mp hrow).2
  | doubled deviceHash info owner howner hfails hinsert =>
    apply uniqueHashes_recorded h
    exact hfinds hfails hinsert (by rw [howner]; simp)
  | ended hash => exact uniqueHashes_ended h hash io.now
  | stored => exact ⟨h.devices, h.sessions⟩

/-- Hashes stay unique in a run in which an `INSERT` that goes on after a failure finds no row
in its way. -/
theorem hash_uniqueness (b : Backend) (t₀ : Tables) (services : List Service)
    (h₀ : UniqueHashes t₀) (h : Machine.Guarded (serve b) (UniqueGuard b) t₀ services) :
    Machine.Throughout (serve b) UniqueHashes t₀ services :=
  Machine.throughout_of_guarded (uniqueHashes_preserves b) h₀ h

/-- A device that is forced replaces the old one, and a session that is announced twice the first
one, though other statements fail. -/
theorem hash_uniqueness_replaced :
    Machine.Throughout (serve (plainBackend .postgreSQL)) UniqueHashes (tablesWith ["d"])
      [⟨.addDevice 0 "1" true { (default : Control.DeviceData) with hash := "d" }, failing [(1, 0)]⟩,
        ⟨.addDevice 0 "2" true { (default : Control.DeviceData) with hash := "d" }, failing []⟩,
        ⟨.addSession "d" { (default : Monitor.SessionInfo) with hash := "s" }, failing [(0, 0)]⟩,
        ⟨.addSession "d" { (default : Monitor.SessionInfo) with hash := "s" }, failing []⟩,
        ⟨.endSession "s", failing []⟩] :=
  hash_uniqueness _ _ _ (by decide) (by decide)

/-- SQLite adds a forced device when the old one cannot be deleted, and both databases add a
session when the old one cannot be looked up. -/
theorem hash_doubled :
    (∃ t, Machine.run (serve (plainBackend .sqlite3)) (tablesWith ["d"])
        [⟨.addDevice 0 "1" true { (default : Control.DeviceData) with hash := "d" },
          failing [(1, 0)]⟩] = .ok t ∧ ¬ UniqueHashes t) ∧
      ∀ type, ∃ t, Machine.run (serve (plainBackend type)) (tablesWith ["d"])
        [⟨.addSession "d" { (default : Monitor.SessionInfo) with hash := "s" }, failing []⟩,
          ⟨.addSession "d" { (default : Monitor.SessionInfo) with hash := "s" },
            failing [(0, 0)]⟩] = .ok t ∧ ¬ UniqueHashes t := by
  refine ⟨⟨_, rfl, by decide⟩, ?_⟩
  intro type
  cases type with
  | sqlite3 => exact ⟨_, rfl, by decide⟩
  | postgreSQL => exact ⟨_, rfl, by decide⟩

end TkmCollector.Proofs
