import TkmCollector.Proofs.ErrorReplies

namespace TkmCollector.Proofs

open Query Database

/-- The `INSERT`s of a message. -/
def batch (data : Monitor.Data) : List Insert :=
  match measurement data with
  | none => []
  | some m => m.inserts (timestamps data)

/-- After `doAddData` all rows of the message are stored, or none is. -/
def AllOrNothing (b : Backend) (io : DbIo) (t : Tables) (sessionHash : String) (data : Monitor.Data) :
    Prop :=
  ∀ o, doAddData b io t (addDataRequest sessionHash (.data data)) = .ok o →
    o.tables = t ∨ ∃ owner, o.tables = { t with data := t.data ++ dataRows data owner }

/-- The strings that `doAddData` writes into its text stay inside of their literals. -/
def PlainBatch (sessionHash : String) (data : Monitor.Data) : Prop :=
  batch data ≠ [] → Plain sessionHash ∧ ∀ s ∈ dataStrings data, Plain s

/-- When an `INSERT` fails, so does the first: it fails itself, or it finds no session. -/
def FailsAtFirst (type : DbType) (io : DbIo) (t : Tables) (sessionHash : String) (data : Monitor.Data) :
    Prop :=
  ∀ k < (batch data).length, (0, k) ∈ io.fails →
    (0, 0) ∈ io.fails ∨ scalar type (sessionIds type sessionHash t) = none

lemma dataRows_eq (data : Monitor.Data) (owner : Nat) :
    dataRows data owner = (batch data).map fun i => ⟨i.table, i.columns, i.values, owner⟩ := by
  unfold dataRows batch
  cases measurement data <;> rfl

lemma exists_upTo (fails : List (Nat × Nat)) (n k length : Nat) :
    ∃ upTo ≤ length, (∀ j < upTo, (n, k + j) ∉ fails) ∧ (upTo = length ∨ (n, k + upTo) ∈ fails) := by
  induction length with
  | zero => exact ⟨0, Nat.le_refl 0, fun j hj => absurd hj (Nat.not_lt_zero j), .inl rfl⟩
  | succ length ih =>
    obtain ⟨upTo, hle, hgood, hstop⟩ := ih
    by_cases hfails : (n, k + upTo) ∈ fails
    · exact ⟨upTo, by omega, hgood, .inr hfails⟩
    · have hend : upTo = length := hstop.resolve_right hfails
      refine ⟨upTo + 1, by omega, fun j hj => ?_, .inl (by omega)⟩
      by_cases hj' : j = upTo
      · rw [hj']
        exact hfails
      · exact hgood j (by omega)

/-- The `INSERT`s of a message are done up to the first that fails, and no further. -/
lemma execAll_upTo {type : DbType} {fails : List (Nat × Nat)} {n : Nat} {sessionHash : String}
    {owner : Nat} (inserts : List Insert) (k upTo : Nat) (t : Tables) (reply : Reply)
    (howner : scalar type (sessionIds type sessionHash t) = some owner)
    (hle : upTo ≤ inserts.length) (hgood : ∀ j < upTo, (n, k + j) ∉ fails)
    (hstop : upTo = inserts.length ∨ (n, k + upTo) ∈ fails) :
    ∃ reply', execAll type fails n k t reply (inserts.map (.insertData · sessionHash)) =
        ({ t with
          data := t.data ++ (inserts.take upTo).map fun i => ⟨i.table, i.columns, i.values, owner⟩ },
          reply') ∧
      (reply' = none ↔ upTo < inserts.length) := by
  induction inserts generalizing k upTo t reply with
  | nil =>
    refine ⟨some reply, ?_, by simp⟩
    simp [execAll]
  | cons i inserts ih =>
    rw [List.map_cons, execAll]
    cases upTo with
    | zero =>
      have hfails : (n, k) ∈ fails := hstop.resolve_left (by simp)
      rw [if_pos hfails]
      exact ⟨none, by simp, by simp⟩
    | succ upTo =>
      have hnot : (n, k) ∉ fails := hgood 0 (Nat.zero_lt_succ upTo)
      have hexec : (Statement.insertData i sessionHash).exec type t =
          some ({ t with data := t.data ++ [⟨i.table, i.columns, i.values, owner⟩] }, .done) := by
        simp only [Statement.exec, Statement.execWith]
        rw [show (t.openSessionsWith (hashMatches type) sessionHash).map (·.id) =
          sessionIds type sessionHash t from rfl, howner]
      rw [if_neg hnot, hexec]
      have hrest := ih (k + 1) upTo { t with data := t.data ++ [⟨i.table, i.columns, i.values, owner⟩] }
        .done howner (by simpa using hle)
        (fun j hj => by
          have hnext := hgood (j + 1) (by omega)
          rwa [show k + (j + 1) = k + 1 + j by omega] at hnext)
        (by
          rw [show k + 1 + upTo = k + (upTo + 1) by omega]
          simpa using hstop)
      obtain ⟨reply', hrun, hreply⟩ := hrest
      refine ⟨reply', ?_, by simpa using hreply⟩
      dsimp only
      rw [hrun]
      simp

section Batches

variable {b : Backend} {io : DbIo} {t : Tables} {sessionHash : String} {data : Monitor.Data}

lemma batch_strings {m : Measurement} (hm : measurement data = some m)
    (h : PlainBatch sessionHash data) :
    ∀ s ∈ (Call.addData sessionHash m (timestamps data)).strings, Plain s := by
  intro s hs
  obtain ⟨st, hst, hs⟩ := List.mem_flatMap.mp hs
  obtain ⟨i, hi, rfl⟩ := List.mem_map.mp hst
  have hbatch : batch data ≠ [] := by
    rw [batch, hm]
    exact List.ne_nil_of_mem hi
  obtain ⟨hhash, hdata⟩ := h hbatch
  obtain hvalue | hsession := List.mem_append.mp hs
  · apply hdata
    simp only [dataStrings, hm]
    exact List.mem_flatMap.mpr ⟨i, hi, hvalue⟩
  · rw [List.mem_singleton.mp hsession]
    exact hhash

lemma doAddData_upTo (hplain : PlainBatch sessionHash data) {upTo : Nat}
    (hle : upTo ≤ (batch data).length) (hgood : ∀ j < upTo, (0, j) ∉ io.fails)
    (hstop : upTo = (batch data).length ∨ (0, upTo) ∈ io.fails) :
    doAddData b io t (addDataRequest sessionHash (.data data)) =
      .ok (quiet (match scalar b.type (sessionIds b.type sessionHash t) with
        | none => t
        | some owner =>
          if b.type = .postgreSQL ∧ upTo < (batch data).length then t
          else { t with data := t.data ++ (dataRows data owner).take upTo })) := by
  have hargs : (addDataRequest sessionHash (.data data)).args.lookup .sessionHash = some sessionHash :=
    rfl
  unfold doAddData
  rw [hargs]
  simp only [addDataRequest, BulkData.castData]
  cases hm : measurement data with
  | none =>
    have hrows : ∀ owner, dataRows data owner = [] := by
      intro owner
      rw [dataRows, hm]
    cases scalar b.type (sessionIds b.type sessionHash t) <;> simp [hrows]
  | some m =>
    have hbatch : batch data = m.inserts (timestamps data) := by rw [batch, hm]
    simp only [runQuery]
    rw [if_pos (batch_strings hm hplain)]
    simp only [Call.statements]
    rw [hbatch] at hle hstop
    cases howner : scalar b.type (sessionIds b.type sessionHash t) with
    | none =>
      obtain ⟨upTo', hupTo⟩ := execAll_insertData_prefix b.type io.fails 0 sessionHash
        (m.inserts (timestamps data)) 0 t .done
      rw [howner] at hupTo
      generalize execAll b.type io.fails 0 0 t .done
        ((m.inserts (timestamps data)).map (.insertData · sessionHash)) = result at hupTo ⊢
      obtain ⟨t', reply⟩ := result
      cases b.type with
      | sqlite3 => simpa using congrArg quiet hupTo
      | postgreSQL =>
        cases reply with
        | none => rfl
        | some reply => simpa using congrArg quiet hupTo
    | some owner =>
      obtain ⟨reply, hrun, hreply⟩ := execAll_upTo (n := 0) (m.inserts (timestamps data)) 0 upTo t
        .done howner hle (by simpa using hgood) (by simpa using hstop)
      rw [hrun]
      have hrows : (dataRows data owner).take upTo = ((m.inserts (timestamps data)).take upTo).map
          fun i => ⟨i.table, i.columns, i.values, owner⟩ := by
        rw [dataRows_eq, hbatch, List.map_take]
      simp only [hrows, hbatch]
      cases htype : b.type with
      | sqlite3 => simp
      | postgreSQL =>
        cases reply with
        | none => simp [hreply.mp rfl]
        | some reply =>
          have hnot : ¬ upTo < (m.inserts (timestamps data)).length := fun h => by
            simpa using hreply.mpr h
          simp [hnot]

lemma allOrNothing_of_failsAtFirst (hplain : PlainBatch sessionHash data)
    (h : b.type = .sqlite3 → FailsAtFirst b.type io t sessionHash data) :
    AllOrNothing b io t sessionHash data := by
  intro o ho
  obtain ⟨upTo, hle, hgood, hstop⟩ := exists_upTo io.fails 0 0 (batch data).length
  simp only [Nat.zero_add] at hgood hstop
  rw [doAddData_upTo hplain hle hgood hstop, Except.ok.injEq] at ho
  rw [← ho]
  cases howner : scalar b.type (sessionIds b.type sessionHash t) with
  | none => exact .inl rfl
  | some owner =>
    by_cases hundone : b.type = .postgreSQL ∧ upTo < (batch data).length
    · rw [quiet]
      simp [hundone]
    · simp only [if_neg hundone]
      by_cases hend : upTo = (batch data).length
      · refine .inr ⟨owner, ?_⟩
        have hlength : (dataRows data owner).length = upTo := by
          rw [dataRows_eq, List.length_map, hend]
        rw [← hlength, List.take_length]
        rfl
      · -- only SQLite comes here, and it stops at the first statement
        have htype : b.type = .sqlite3 := by
          cases htype : b.type with
          | sqlite3 => rfl
          | postgreSQL => exact absurd ⟨htype, by omega⟩ hundone
        have hfails : (0, upTo) ∈ io.fails := hstop.resolve_left hend
        have hzero : (0, 0) ∈ io.fails :=
          (h htype upTo (by omega) hfails).resolve_right (by rw [howner]; simp)
        have hfirst : upTo = 0 := by
          by_contra hne
          exact hgood 0 (Nat.pos_of_ne_zero hne) hzero
        rw [hfirst]
        simp [quiet]

lemma failsAtFirst_of_allOrNothing (hplain : PlainBatch sessionHash data) (htype : b.type = .sqlite3)
    (h : AllOrNothing b io t sessionHash data) : FailsAtFirst b.type io t sessionHash data := by
  intro k hk hfails
  by_contra hnot
  obtain ⟨hzero, hscalar⟩ := not_or.mp hnot
  obtain ⟨owner, howner⟩ := Option.ne_none_iff_exists'.mp hscalar
  obtain ⟨upTo, hle, hgood, hstop⟩ := exists_upTo io.fails 0 0 (batch data).length
  simp only [Nat.zero_add] at hgood hstop
  have hrun := doAddData_upTo (b := b) (t := t) hplain hle hgood hstop
  rw [howner, htype] at hrun
  simp only [reduceCtorEq, false_and, if_false] at hrun
  have hpos : 0 < upTo := by
    apply Nat.pos_of_ne_zero
    intro hnone
    rw [hnone] at hstop
    obtain hempty | hfirst := hstop
    · omega
    · exact hzero hfirst
  have hless : upTo < (batch data).length := by
    by_contra hall
    exact hgood k (by omega) hfails
  -- some rows are there, and not all of them
  have hlength : ((dataRows data owner).take upTo).length = upTo := by
    rw [List.length_take, dataRows_eq, List.length_map]
    omega
  obtain hnone | ⟨owner', hall⟩ := h _ hrun
  · have hdata := congrArg (fun t : Tables => t.data.length) hnone
    simp only [quiet, List.length_append, hlength] at hdata
    omega
  · have hrows : (dataRows data owner').length = (batch data).length := by
      rw [dataRows_eq, List.length_map]
    have hdata := congrArg (fun t : Tables => t.data.length) hall
    simp only [quiet, List.length_append, hlength, hrows] at hdata
    omega

lemma plainBatch_of_allOrNothing {type : DbType}
    (h : AllOrNothing (spoiling type t) io t sessionHash data) : PlainBatch sessionHash data := by
  intro hbatch
  obtain ⟨m, hm⟩ : ∃ m, measurement data = some m := by
    apply Option.ne_none_iff_exists'.mp
    intro hnone
    rw [batch, hnone] at hbatch
    exact hbatch rfl
  rw [batch, hm] at hbatch
  obtain ⟨i, hi⟩ := List.exists_mem_of_ne_nil _ hbatch
  have hall : ∀ s ∈ (Call.addData sessionHash m (timestamps data)).strings, Plain s := by
    intro s hs
    by_contra hbad
    have hrun : doAddData (spoiling type t) io t (addDataRequest sessionHash (.data data)) =
        .ok (quiet (spoiled t)) := by
      have hargs : (addDataRequest sessionHash (.data data)).args.lookup .sessionHash =
          some sessionHash := rfl
      unfold doAddData
      rw [hargs]
      simp only [addDataRequest, BulkData.castData, hm, runQuery_spoiling hs hbad]
    have hdevices : (spoiled t).devices ≠ t.devices := by
      intro heq
      have hlength := congrArg List.length heq
      simp [spoiled] at hlength
    obtain hnone | ⟨owner, hall⟩ := h _ hrun
    · have heq := congrArg Tables.devices hnone
      exact hdevices heq
    · have heq := congrArg Tables.devices hall
      exact hdevices heq
  refine ⟨hall sessionHash ?_, fun s hs => hall s ?_⟩
  · apply List.mem_flatMap.mpr
    exact ⟨.insertData i sessionHash, List.mem_map_of_mem hi, by simp [Statement.strings]⟩
  · simp only [dataStrings, hm] at hs
    obtain ⟨j, hj, hs⟩ := List.mem_flatMap.mp hs
    apply List.mem_flatMap.mpr
    exact ⟨.insertData j sessionHash, List.mem_map_of_mem hj, List.mem_append_left _ hs⟩

/-- All rows of a message are stored or none is, whatever the server makes of a text with a broken
literal, exactly when no `INSERT` but the first can fail on its own, or PostgreSQL runs them. -/
theorem add_data_atomic (type : DbType) (io : DbIo) (t : Tables) (sessionHash : String)
    (data : Monitor.Data) :
    (∀ foreign, AllOrNothing ⟨type, foreign⟩ io t sessionHash data) ↔
      PlainBatch sessionHash data ∧ (type = .sqlite3 → FailsAtFirst type io t sessionHash data) := by
  constructor
  · intro h
    have hplain := plainBatch_of_allOrNothing (h _)
    exact ⟨hplain, fun htype => failsAtFirst_of_allOrNothing (b := spoiling type t) hplain htype (h _)⟩
  · rintro ⟨hplain, hfirst⟩ foreign
    exact allOrNothing_of_failsAtFirst hplain hfirst

end Batches

/-- Tables with the given devices, each with an open session of the same name. -/
def recordedWith (hashes : List String) : Tables :=
  { tablesWith hashes with
    sessions := hashes.zipIdx.map fun (hash, n) => ⟨n + 1, "", hash, 1, 1, 0, n + 1⟩
    sessionSeq := hashes.length }

/-- Two processes of one message, of which the second cannot be stored. -/
def twoProcesses : Monitor.Data :=
  { (default : Monitor.Data) with
    what := .procInfo
    payload := .procInfo ⟨[default, default]⟩ }

/-- SQLite keeps the row of the first process. -/
theorem add_data_in_part :
    ¬ AllOrNothing (plainBackend .sqlite3) (failing [(0, 1)]) (recordedWith ["s"]) "s" twoProcesses := by
  intro h
  have hrun := h _ rfl
  obtain hnone | ⟨owner, hall⟩ := hrun
  · exact absurd hnone (by decide)
  · have hlength := congrArg (fun t : Tables => t.data.length) hall
    simp only [List.length_append, dataRows_eq, List.length_map] at hlength
    exact absurd hlength (by decide)

end TkmCollector.Proofs
