import TkmCollector.Proofs.QueryEncoding

namespace TkmCollector.Proofs

open SqlText Query LikePattern

/-- The comparison that picks exactly the rows with the hash. -/
def hashEquals (hash value : String) : Bool := value = hash

/-- The hash that picks rows in a statement. -/
def hashKey : Statement → Option String
  | .devices | .sessions | .sessionsOf _ | .insertDevice _ _ _ _ => none
  | .device hash | .deviceId hash | .deleteDevices hash | .session hash | .sessionId hash
  | .endSessions hash _ | .deleteSessions hash => some hash
  | .insertSession _ _ _ _ deviceHash => some deviceHash
  | .insertData _ sessionHash => some sessionHash

/-- The statement selects, changes and deletes the rows with its hash, for every content
of the tables. -/
def PicksEqual (type : DbType) (st : Statement) : Prop :=
  ∀ t, st.exec type t = st.execWith hashEquals type t

/-- The text of a builder is its statements, and they pick rows by equality. -/
def ExactRows (type : DbType) (call : Call) : Prop :=
  Encodes type call ∧ ∀ st ∈ call.statements, PicksEqual type st

lemma hashMatches_literal {hash : String} (h : Literal hash) (value : String) :
    hashMatches .postgreSQL hash value = hashEquals hash value := by
  unfold hashMatches hashEquals
  rw [Bool.eq_iff_iff, decide_eq_true_eq]
  exact like_literal h value

lemma execWith_congr {m m' : String → String → Bool} {type : DbType} {st : Statement} {hash : String}
    (hkey : hashKey st = some hash) (h : ∀ value, m hash value = m' hash value) (t : Tables) :
    st.execWith m type t = st.execWith m' type t := by
  have hm : m hash = m' hash := funext h
  cases st with
  | devices => simp [hashKey] at hkey
  | sessions => simp [hashKey] at hkey
  | sessionsOf deviceHash => simp [hashKey] at hkey
  | insertDevice hash name address port => simp [hashKey] at hkey
  | _ =>
    obtain rfl := Option.some.inj hkey
    simp only [Statement.execWith, Tables.devicesWith, Tables.sessionsWith, Tables.openSessionsWith, hm]

def oneDevice (hash : String) : Tables where
  devices := [⟨1, hash, "", "", 0⟩]
  sessions := []
  data := []
  deviceSeq := 1
  sessionSeq := 0

def oneSession (hash : String) (endTimestamp : Nat) : Tables where
  devices := []
  sessions := [⟨1, "", hash, 0, 0, endTimestamp, 1⟩]
  data := []
  deviceSeq := 0
  sessionSeq := 1

lemma compare_of_execWith {m m' : String → String → Bool} {type : DbType} {st : Statement}
    {hash : String} (hkey : hashKey st = some hash)
    (h : ∀ t, st.execWith m type t = st.execWith m' type t) (value : String) :
    m hash value = m' hash value := by
  by_contra hne
  have hnot : m' hash value = !m hash value := by
    cases hm : m hash value <;> cases hm' : m' hash value <;> simp_all
  have hdevice := h (oneDevice value)
  have hsession := h (oneSession value 0)
  cases st with
  | devices => simp [hashKey] at hkey
  | sessions => simp [hashKey] at hkey
  | sessionsOf deviceHash => simp [hashKey] at hkey
  | insertDevice hash name address port => simp [hashKey] at hkey
  | endSessions hash' now =>
    obtain rfl := (Option.some.inj hkey).symm
    -- the row must not have the new end time already
    have hended := h (oneSession value (now + 1))
    cases hm : m hash value <;> simp [Statement.execWith, oneSession, hm, hnot] at hended
  | insertSession hash' name coreCount startTimestamp deviceHash =>
    obtain rfl := (Option.some.inj hkey).symm
    cases type <;> cases hm : m hash value <;>
      simp [Statement.execWith, oneDevice, Tables.devicesWith, scalar, hm, hnot] at hdevice
  | insertData i sessionHash =>
    obtain rfl := (Option.some.inj hkey).symm
    cases type <;> cases hm : m hash value <;>
      simp [Statement.execWith, oneSession, Tables.openSessionsWith, scalar, hm, hnot] at hsession
  | deleteDevices hash' =>
    obtain rfl := (Option.some.inj hkey).symm
    cases type <;> cases hm : m hash value <;>
      simp [Statement.execWith, oneDevice, Tables.deleteDevices, Tables.deleteSessions, hm, hnot]
        at hdevice
  | deleteSessions hash' =>
    obtain rfl := (Option.some.inj hkey).symm
    cases hm : m hash value <;>
      simp [Statement.execWith, oneSession, Tables.deleteSessions, hm, hnot] at hsession
  | device hash' =>
    obtain rfl := (Option.some.inj hkey).symm
    cases hm : m hash value <;>
      simp [Statement.execWith, oneDevice, Tables.devicesWith, hm, hnot] at hdevice
  | deviceId hash' =>
    obtain rfl := (Option.some.inj hkey).symm
    cases hm : m hash value <;>
      simp [Statement.execWith, oneDevice, Tables.devicesWith, hm, hnot] at hdevice
  | session hash' =>
    obtain rfl := (Option.some.inj hkey).symm
    cases hm : m hash value <;>
      simp [Statement.execWith, oneSession, Tables.sessionsWith, hm, hnot] at hsession
  | sessionId hash' =>
    obtain rfl := (Option.some.inj hkey).symm
    cases hm : m hash value <;>
      simp [Statement.execWith, oneSession, Tables.sessionsWith, hm, hnot] at hsession

lemma picksEqual_iff {type : DbType} {st : Statement} {hash : String} (hkey : hashKey st = some hash) :
    PicksEqual type st ↔ (type = .postgreSQL → Literal hash) := by
  constructor
  · rintro h rfl
    rw [← like_eq_iff_literal]
    intro value
    have hvalue : hashMatches .postgreSQL hash value = hashEquals hash value :=
      compare_of_execWith hkey h value
    change hashMatches .postgreSQL hash value = true ↔ value = hash
    rw [hvalue, hashEquals, decide_eq_true_eq]
  · intro h t
    cases type with
    | sqlite3 => rfl
    | postgreSQL => exact execWith_congr hkey (hashMatches_literal (h rfl)) t

lemma picksEqual_of_unkeyed {type : DbType} {st : Statement} (hkey : hashKey st = none) :
    PicksEqual type st := by
  intro t
  cases type with
  | sqlite3 => rfl
  | postgreSQL =>
    cases st with
    | devices => rfl
    | sessions => rfl
    | sessionsOf deviceHash => rfl
    | insertDevice hash name address port => rfl
    | _ => simp [hashKey] at hkey

/-- The hashes that a builder is keyed by. -/
def hashKeys (call : Call) : List String :=
  call.statements.filterMap hashKey

/-- The statements of a builder work on exactly the rows with its hash when no argument
contains a quote and, on PostgreSQL, no key contains a special character of LIKE; and in
no other case. -/
theorem exactRows_iff (type : DbType) (call : Call) :
    ExactRows type call ↔ (∀ s ∈ call.strings, QuoteFree s) ∧
      (type = .postgreSQL → ∀ hash ∈ hashKeys call, Literal hash) := by
  have hencodes : Encodes type call ↔ ∀ s ∈ call.strings, QuoteFree s := by
    unfold Encodes Call.strings
    rw [text_eq_render]
    exact lex_statements_iff type fun st h => template_statement h
  have hpicks : (∀ st ∈ call.statements, PicksEqual type st) ↔
      (type = .postgreSQL → ∀ hash ∈ hashKeys call, Literal hash) := by
    constructor
    · intro h hpg hash hmem
      obtain ⟨st, hst, hkey⟩ := List.mem_filterMap.mp hmem
      exact (picksEqual_iff hkey).mp (h st hst) hpg
    · intro h st hst
      cases hkey : hashKey st with
      | none => exact picksEqual_of_unkeyed hkey
      | some hash =>
        exact (picksEqual_iff hkey).mpr fun hpg => h hpg hash (List.mem_filterMap.mpr ⟨st, hst, hkey⟩)
  unfold ExactRows
  rw [hencodes, hpicks]

/-- On PostgreSQL an underscore in a hash deletes the sessions of others. -/
theorem remSession_not_exact : ¬ ExactRows .postgreSQL (.remSession "a_c") := by
  intro h
  have hpicks := h.2 (.deleteSessions "a_c") (by decide) (oneSession "abc" 0)
  revert hpicks
  decide

end TkmCollector.Proofs
