import TkmCollector.Proofs.DataBatches

namespace TkmCollector.Proofs

open Query Database

/-- A session as a client is told of it. -/
def listed (row : SessionRow) : Control.SessionData where
  id := row.id
  hash := row.hash
  name := row.name
  started := row.startTimestamp
  ended := row.endTimestamp
  state := if row.endTimestamp = 0 then .progress else .complete

/-- The sessions that are asked for with a hash: those of the devices with the hash, or all. -/
def sessionsAsked (t : Tables) (hash : String) : List SessionRow :=
  if hash = "" then t.sessions
  else t.sessions.filter fun row => t.devices.any fun d => d.hash = hash ∧ d.id = row.device

/-- The client is sent the sessions that it asks for, each once. -/
def AnswersSessions (b : Backend) (io : DbIo) (t : Tables) (client : ClientId) (id : String)
    (forced : Bool) (deviceData : Control.DeviceData) : Prop :=
  ∃ o list, doGetSessions b io t (Order.getSessions client id forced deviceData).request = .ok o ∧
    o.lists = [(client, .sessions list)] ∧
    list.Perm ((sessionsAsked t deviceData.hash).map listed)

/-- The sessions of the devices with the hash are those of the first such device. -/
def OfFirstDevice (t : Tables) (hash : String) : Prop :=
  ∀ row ∈ t.sessions, ∀ d ∈ t.devices, d.hash = hash → d.id = row.device →
    (t.devices.find? fun d => d.hash = hash).map DeviceRow.id = some row.device

/-- The statement is run and its list is written; without a hash on both databases, with one
only on SQLite. -/
def SessionsFound (type : DbType) (io : DbIo) (t : Tables) (hash : String) : Prop :=
  (0, 0) ∉ io.fails ∧ io.write = true ∧
    (hash ≠ "" → type = .sqlite3 ∧ Plain hash ∧ OfFirstDevice t hash)

section Lists

variable {b : Backend} {io : DbIo} {t : Tables} {client : ClientId} {id : String} {forced : Bool}
  {deviceData : Control.DeviceData}

lemma sessionList_listed (rows : List SessionRow) :
    (Reply.sessionList (some (.sessions rows))).map (fun session =>
      { session with state := if session.ended = 0 then .progress else .complete }) =
      rows.map listed := by
  simp only [Reply.sessionList, List.map_map]
  rfl

lemma doGetSessions_eq :
    doGetSessions b io t (Order.getSessions client id forced deviceData).request =
      .ok (sendList (runQuery b io 0 t (if deviceData.hash.isEmpty then .getSessions
          else .getSessionsOf deviceData.hash)).1
        (Order.getSessions client id forced deviceData).request client io
        (runQuery b io 0 t (if deviceData.hash.isEmpty then .getSessions
          else .getSessionsOf deviceData.hash)).2
        (.sessions ((Reply.sessionList (runQuery b io 0 t (if deviceData.hash.isEmpty
          then .getSessions else .getSessionsOf deviceData.hash)).2).map fun session =>
            { session with state := if session.ended = 0 then .progress else .complete }))
        "Failed to send session list") := rfl

lemma answersSessions_iff :
    AnswersSessions b io t client id forced deviceData ↔
      io.write = true ∧ ∃ reply, (runQuery b io 0 t (if deviceData.hash.isEmpty then .getSessions
          else .getSessionsOf deviceData.hash)).2 = some reply ∧
        ((Reply.sessionList (some reply)).map fun session =>
          { session with state := if session.ended = 0 then .progress else .complete }).Perm
            ((sessionsAsked t deviceData.hash).map listed) := by
  unfold AnswersSessions
  rw [doGetSessions_eq]
  generalize runQuery b io 0 t (if deviceData.hash.isEmpty then .getSessions
    else .getSessionsOf deviceData.hash) = result
  obtain ⟨t', reply⟩ := result
  cases reply with
  | none => simp [sendList, answer, quiet]
  | some reply =>
    cases hwrite : io.write with
    | false => simp [sendList, hwrite]
    | true => simp [sendList, hwrite]

lemma run_getSessionsOf_sqlite {hash : String} (htype : b.type = .sqlite3) (hplain : Plain hash)
    (hfails : (0, 0) ∉ io.fails) :
    (runQuery b io 0 t (.getSessionsOf hash)).2 =
      some (.sessions (t.sessions.filter fun row =>
        (t.devices.find? fun d => d.hash = hash).map DeviceRow.id = some row.device)) := by
  rw [runQuery_single (by simpa [Call.strings, Call.statements, Statement.strings] using hplain) rfl,
    if_neg hfails, htype]
  have hfirst : (t.devicesWith (hashMatches .sqlite3) hash).head? =
      t.devices.find? fun d => d.hash = hash := by
    rw [Tables.devicesWith, List.head?_filter]
    rfl
  simp only [Statement.exec, Statement.execWith, hfirst]
  cases t.devices.find? fun d => d.hash = hash with
  | none => simp
  | some d =>
    simp only [Option.map_some, Option.some.injEq]
    congr 3
    funext row
    by_cases hd : row.device = d.id
    · simp [hd]
    · simp [hd, Ne.symm hd]

/-- The sessions of the first device are all that are asked for when no other device has any. -/
lemma found_perm_asked {hash : String} (hhash : hash ≠ "") :
    List.Perm ((t.sessions.filter fun row =>
        (t.devices.find? fun d => d.hash = hash).map DeviceRow.id = some row.device).map listed)
      ((sessionsAsked t hash).map listed) ↔ OfFirstDevice t hash := by
  rw [sessionsAsked, if_neg hhash]
  have hsub : ∀ row : SessionRow,
      (t.devices.find? fun d => d.hash = hash).map DeviceRow.id = some row.device →
        (t.devices.any fun d => d.hash = hash ∧ d.id = row.device) = true := by
    intro row hrow
    obtain ⟨d, hd, hid⟩ := Option.map_eq_some_iff.mp hrow
    have hdhash : d.hash = hash := by simpa using List.find?_some hd
    apply List.any_eq_true.mpr
    exact ⟨d, List.mem_of_find?_eq_some hd, by simp [hdhash, hid]⟩
  constructor
  · intro hperm row hrow d hd hdhash hid
    have hsublist : (t.sessions.filter fun row =>
        (t.devices.find? fun d => d.hash = hash).map DeviceRow.id = some row.device).Sublist
        (t.sessions.filter fun row => t.devices.any fun d => d.hash = hash ∧ d.id = row.device) := by
      apply List.monotone_filter_right
      intro row hrow
      exact hsub row (by simpa using hrow)
    have hlength := hperm.length_eq
    rw [List.length_map, List.length_map] at hlength
    have heq := hsublist.eq_of_length hlength
    have hasked : row ∈ t.sessions.filter fun row =>
        t.devices.any fun d => d.hash = hash ∧ d.id = row.device := by
      apply List.mem_filter.mpr
      exact ⟨hrow, List.any_eq_true.mpr ⟨d, hd, by simp [hdhash, hid]⟩⟩
    rw [← heq] at hasked
    simpa using (List.mem_filter.mp hasked).2
  · intro hfirst
    have heq : (t.sessions.filter fun row =>
        (t.devices.find? fun d => d.hash = hash).map DeviceRow.id = some row.device) =
        t.sessions.filter fun row => t.devices.any fun d => d.hash = hash ∧ d.id = row.device := by
      apply List.filter_congr
      intro row hrow
      rw [Bool.eq_iff_iff, decide_eq_true_eq]
      refine ⟨hsub row, fun hany => ?_⟩
      obtain ⟨d, hd, hboth⟩ := List.any_eq_true.mp hany
      obtain ⟨hdhash, hid⟩ := of_decide_eq_true hboth
      exact hfirst row hrow d hd hdhash hid
    rw [heq]

lemma answersSessions_all (hhash : deviceData.hash = "") :
    AnswersSessions b io t client id forced deviceData ↔ (0, 0) ∉ io.fails ∧ io.write = true := by
  have hempty : ("" : String).isEmpty = true := rfl
  rw [answersSessions_iff, hhash]
  simp only [hempty, if_true, run_getSessions]
  by_cases hfails : (0, 0) ∈ io.fails
  · simp [hfails]
  · have hlist := sessionList_listed t.sessions
    simp [hfails, hlist, sessionsAsked]

lemma answersSessions_sqlite (htype : b.type = .sqlite3) (hhash : deviceData.hash ≠ "")
    (hplain : Plain deviceData.hash) (hfails : (0, 0) ∉ io.fails) :
    AnswersSessions b io t client id forced deviceData ↔
      io.write = true ∧ OfFirstDevice t deviceData.hash := by
  have hne : deviceData.hash.isEmpty = false := by
    rw [Bool.eq_false_iff]
    exact fun hempty => hhash (String.isEmpty_iff.mp hempty)
  rw [answersSessions_iff, hne]
  simp only [Bool.false_eq_true, if_false, run_getSessionsOf_sqlite htype hplain hfails,
    Option.some.injEq, exists_eq_left', sessionList_listed, found_perm_asked hhash]

lemma not_answersSessions (hhash : deviceData.hash ≠ "")
    (hreply : (runQuery b io 0 t (.getSessionsOf deviceData.hash)).2 = none) :
    ¬ AnswersSessions b io t client id forced deviceData := by
  have hne : deviceData.hash.isEmpty = false := by
    rw [Bool.eq_false_iff]
    exact fun hempty => hhash (String.isEmpty_iff.mp hempty)
  rw [answersSessions_iff, hne]
  simp [hreply]

end Lists

/-- The sessions that are asked for are sent, whatever the server makes of a text with a broken
literal, exactly when there is no hash, or SQLite is asked and the first device owns them all. -/
theorem sessions_answered (type : DbType) (io : DbIo) (t : Tables) (client : ClientId) (id : String)
    (forced : Bool) (deviceData : Control.DeviceData) :
    (∀ foreign, AnswersSessions ⟨type, foreign⟩ io t client id forced deviceData) ↔
      SessionsFound type io t deviceData.hash := by
  unfold SessionsFound
  by_cases hhash : deviceData.hash = ""
  · constructor
    · intro h
      obtain ⟨hfails, hwrite⟩ := (answersSessions_all hhash).mp (h (plainBackend type).foreign)
      exact ⟨hfails, hwrite, fun hne => absurd hhash hne⟩
    · rintro ⟨hfails, hwrite, -⟩ foreign
      exact (answersSessions_all hhash).mpr ⟨hfails, hwrite⟩
  have hmem : deviceData.hash ∈ (Call.getSessionsOf deviceData.hash).strings := by
    simp [Call.strings, Call.statements, Statement.strings]
  constructor
  · intro h
    have hplain : Plain deviceData.hash := by
      by_contra hbad
      apply not_answersSessions hhash _ (h (spoiling type t).foreign)
      exact congrArg Prod.snd (runQuery_spoiling hmem hbad 0 t)
    have hstrings : ∀ s ∈ (Call.getSessionsOf deviceData.hash).strings, Plain s := by
      simpa [Call.strings, Call.statements, Statement.strings] using hplain
    have hsingle : runQuery (plainBackend type) io 0 t (.getSessionsOf deviceData.hash) = _ :=
      runQuery_single hstrings rfl 0
    have hfails : (0, 0) ∉ io.fails := by
      intro hfails
      apply not_answersSessions hhash _ (h (plainBackend type).foreign)
      refine (congrArg Prod.snd hsingle).trans ?_
      rw [if_pos hfails]
    have htype : type = .sqlite3 := by
      cases type with
      | sqlite3 => rfl
      | postgreSQL =>
        apply (not_answersSessions hhash _ (h (plainBackend .postgreSQL).foreign)).elim
        refine (congrArg Prod.snd hsingle).trans ?_
        rw [if_neg hfails]
        rfl
    have hboth := (answersSessions_sqlite (b := plainBackend type) htype hhash hplain hfails).mp
      (h (plainBackend type).foreign)
    exact ⟨hfails, hboth.1, fun _ => ⟨htype, hplain, hboth.2⟩⟩
  · rintro ⟨hfails, hwrite, hfound⟩ foreign
    obtain ⟨htype, hplain, hfirst⟩ := hfound hhash
    exact (answersSessions_sqlite htype hhash hplain hfails).mpr ⟨hwrite, hfirst⟩

/-- PostgreSQL sends no sessions of a device. -/
theorem sessions_unanswered :
    ¬ AnswersSessions (plainBackend .postgreSQL) (failing []) (recordedWith ["d"]) 0 "1" false
        { (default : Control.DeviceData) with hash := "d" } := by
  rintro ⟨o, list, ho, hlists, -⟩
  have hnone : o.lists = [] := by
    rw [← Except.ok.inj ho]
    decide
  rw [hnone] at hlists
  cases hlists

end TkmCollector.Proofs
