import TkmCollector.Statement
import TkmCollector.Proofs.QuerySchema

/-!
# What the lexer finds in the text of a builder

The text of every builder is its statements written down one after the other, and each
of them is a template. So the lexer finds every argument as one literal exactly when no
argument contains a quote.
-/

namespace TkmCollector.Proofs

open SqlText Query

/-- Where the builders put a quote and the text around it into one string. -/
lemma quote_split : "';" = "'" ++ ";" ∧ "' LIMIT 1;" = "'" ++ " LIMIT 1;" ∧ "')" = "'" ++ ")" ∧
    "', " = "'" ++ ", " ∧ "', '" = "'" ++ (", " ++ "'") ∧ "');" = "'" ++ ");" ∧
    "' AND EndTimestamp = 0));" = "'" ++ " AND EndTimestamp = 0));" := by
  decide

lemma addDevice_text (type : DbType) (hash name address : String) (port : Int) :
    addDevice hash name address port =
      render ((Statement.insertDevice hash name address port).pieces type) := by
  have hcode : "INSERT INTO " ++ devicesTableName ++ " (" ++ deviceColumn .hash ++ "," ++
      deviceColumn .name ++ "," ++ deviceColumn .address ++ "," ++ deviceColumn .port ++ ") VALUES (" =
      "INSERT INTO tkmDevices (Hash,Name,Address,Port) VALUES (" := by decide
  unfold addDevice Statement.pieces
  rw [hcode]
  simp only [render_cons, render_nil, Piece.text, quote_split, String.append_assoc, String.append_empty]

lemma remDevice_text (type : DbType) (hash : String) :
    remDevice type hash = render ((Statement.deleteDevices hash).pieces type) := by
  have hcode : "DELETE FROM " ++ devicesTableName ++ " WHERE " ++ deviceColumn .hash =
      "DELETE FROM tkmDevices WHERE Hash" := by decide
  unfold remDevice Statement.pieces
  rw [hcode]
  simp only [render_cons, render_nil, Piece.text, quote_split, String.append_assoc, String.append_empty]

lemma getDevice_text (type : DbType) (hash : String) :
    getDevice type hash = render ((Statement.device hash).pieces type) := by
  have hcode : "SELECT * FROM " ++ devicesTableName ++ " WHERE " ++ deviceColumn .hash =
      "SELECT * FROM tkmDevices WHERE Hash" := by decide
  unfold getDevice Statement.pieces
  rw [hcode]
  simp only [render_cons, render_nil, Piece.text, quote_split, String.append_assoc, String.append_empty]

lemma hasDevice_text (type : DbType) (hash : String) :
    hasDevice type hash = render ((Statement.deviceId hash).pieces type) := by
  have hcode : "SELECT " ++ deviceColumn .id ++ " FROM " ++ devicesTableName ++ " WHERE " ++
      deviceColumn .hash = "SELECT Id FROM tkmDevices WHERE Hash" := by decide
  unfold hasDevice Statement.pieces
  rw [hcode]
  simp only [render_cons, render_nil, Piece.text, quote_split, String.append_assoc, String.append_empty]

lemma deviceSelect_text (type : DbType) (deviceHash : String) :
    deviceSelect type deviceHash = render (Statement.devicePieces type deviceHash) := by
  have hcode : "(SELECT " ++ deviceColumn .id ++ " FROM " ++ devicesTableName ++ " WHERE " ++
      deviceColumn .hash = "(SELECT Id FROM tkmDevices WHERE Hash" := by decide
  unfold deviceSelect Statement.devicePieces
  rw [hcode]
  simp only [render_cons, render_nil, Piece.text, quote_split, String.append_assoc, String.append_empty]

lemma getSessionsOf_text (type : DbType) (deviceHash : String) :
    getSessionsOf type deviceHash = render ((Statement.sessionsOf deviceHash).pieces type) := by
  have hcode : "SELECT * FROM " ++ sessionsTableName ++ " WHERE " ++ sessionColumn .device =
      "SELECT * FROM tkmSessions WHERE Device" := by decide
  unfold getSessionsOf Statement.pieces
  rw [hcode, deviceSelect_text]
  simp only [render_append, render_cons, render_nil, Piece.text, String.append_assoc,
    String.append_empty]

lemma addSession_text (type : DbType) (info : Monitor.SessionInfo) (deviceHash : String)
    (startTimestamp : Nat) :
    addSession type info deviceHash startTimestamp =
      render ((Statement.insertSession info.hash info.name info.coreCount startTimestamp
        deviceHash).pieces type) := by
  have hcode : "INSERT INTO " ++ sessionsTableName ++ " (" ++ sessionColumn .hash ++ "," ++
      sessionColumn .name ++ "," ++ sessionColumn .coreCount ++ "," ++ sessionColumn .startTimestamp ++
      "," ++ sessionColumn .endTimestamp ++ "," ++ sessionColumn .device ++ ") VALUES ('" =
      "INSERT INTO tkmSessions (Hash,Name,CoreCount,StartTimestamp,EndTimestamp,Device) VALUES (" ++
        "'" := by decide
  unfold addSession Statement.pieces
  rw [hcode, deviceSelect_text]
  simp only [render_append, render_cons, render_nil, Piece.text, quote_split, String.append_assoc,
    String.append_empty]

lemma endSession_text (type : DbType) (hash : String) (now : Nat) :
    endSession type hash now = render ((Statement.endSessions hash now).pieces type) := by
  have hcode : "UPDATE " ++ sessionsTableName ++ " SET " ++ sessionColumn .endTimestamp ++ " = " =
      "UPDATE tkmSessions SET EndTimestamp = " := by decide
  have hwhere : " WHERE " ++ sessionColumn .hash = " WHERE Hash" := by decide
  unfold endSession Statement.pieces
  rw [hcode, ← hwhere]
  simp only [render_cons, render_nil, Piece.text, quote_split, String.append_assoc, String.append_empty]

lemma remSession_text (type : DbType) (hash : String) :
    remSession type hash = render ((Statement.deleteSessions hash).pieces type) := by
  have hcode : "DELETE FROM " ++ sessionsTableName ++ " WHERE " ++ sessionColumn .hash =
      "DELETE FROM tkmSessions WHERE Hash" := by decide
  unfold remSession Statement.pieces
  rw [hcode]
  simp only [render_cons, render_nil, Piece.text, quote_split, String.append_assoc, String.append_empty]

lemma getSession_text (type : DbType) (hash : String) :
    getSession type hash = render ((Statement.session hash).pieces type) := by
  have hcode : "SELECT * FROM " ++ sessionsTableName ++ " WHERE " ++ sessionColumn .hash =
      "SELECT * FROM tkmSessions WHERE Hash" := by decide
  unfold getSession Statement.pieces
  rw [hcode]
  simp only [render_cons, render_nil, Piece.text, quote_split, String.append_assoc, String.append_empty]

lemma hasSession_text (type : DbType) (hash : String) :
    hasSession type hash = render ((Statement.sessionId hash).pieces type) := by
  have hcode : "SELECT " ++ sessionColumn .id ++ " FROM " ++ sessionsTableName ++ " WHERE " ++
      sessionColumn .hash = "SELECT Id FROM tkmSessions WHERE Hash" := by decide
  unfold hasSession Statement.pieces
  rw [hcode]
  simp only [render_cons, render_nil, Piece.text, quote_split, String.append_assoc, String.append_empty]

lemma sessionSelect_text (type : DbType) (sessionHash : String) :
    sessionSelect type sessionHash =
      render [.code ("(SELECT Id FROM tkmSessions WHERE Hash" ++ hashOperator type), .lit sessionHash,
        .code " AND EndTimestamp = 0));"] := by
  have hcode : "(SELECT " ++ sessionColumn .id ++ " FROM " ++ sessionsTableName ++ " WHERE " ++
      sessionColumn .hash = "(SELECT Id FROM tkmSessions WHERE Hash" := by decide
  unfold sessionSelect
  rw [hcode]
  simp only [render_cons, render_nil, Piece.text, quote_split, String.append_assoc, String.append_empty]

lemma values_text (values : List Value) :
    String.join (values.map fun v => "'" ++ v.render ++ "', ") =
      render (values.flatMap fun v => [.lit v.render, .code ", "]) := by
  induction values with
  | nil => simp
  | cons v values ih =>
    rw [List.flatMap_cons, render_append, ← ih]
    simp only [List.map_cons, String.join_cons, render_cons, render_nil, Piece.text, quote_split,
      String.append_assoc, String.append_empty]

lemma insert_text (type : DbType) (i : Insert) (sessionHash : String) :
    i.sql type sessionHash = render ((Statement.insertData i sessionHash).pieces type) := by
  unfold Insert.sql Statement.pieces
  rw [values_text, sessionSelect_text]
  simp only [render_append, render_cons, render_nil, Piece.text, String.append_assoc,
    String.append_empty]

lemma addData_text (type : DbType) (sessionHash : String) (m : Measurement) (t : Timestamps) :
    addData type sessionHash m t =
      render (((m.inserts t).map (Statement.insertData · sessionHash)).flatMap
        (Statement.pieces type)) := by
  unfold addData
  induction m.inserts t with
  | nil => simp
  | cons i l ih =>
    rw [List.map_cons, List.map_cons, List.flatMap_cons, render_append, String.join_cons, ih,
      insert_text]

/-- Every builder returns its statements, written down one after the other. -/
theorem text_eq_render (type : DbType) (call : Call) :
    call.text type = render (call.statements.flatMap (Statement.pieces type)) := by
  have hone : ∀ st : Statement, [st].flatMap (Statement.pieces type) = st.pieces type := by simp
  cases call with
  | getDevices =>
    have hcode : Query.getDevices = "SELECT *  FROM tkmDevices;" := by decide
    simp [Call.text, Call.statements, Statement.pieces, Piece.text, hcode]
  | addDevice hash name address port =>
    exact (addDevice_text type hash name address port).trans (congrArg render (hone _).symm)
  | remDevice hash => exact (remDevice_text type hash).trans (congrArg render (hone _).symm)
  | getDevice hash => exact (getDevice_text type hash).trans (congrArg render (hone _).symm)
  | hasDevice hash => exact (hasDevice_text type hash).trans (congrArg render (hone _).symm)
  | getSessions =>
    have hcode : Query.getSessions = "SELECT *  FROM tkmSessions;" := by decide
    simp [Call.text, Call.statements, Statement.pieces, Piece.text, hcode]
  | getSessionsOf deviceHash =>
    exact (getSessionsOf_text type deviceHash).trans (congrArg render (hone _).symm)
  | addSession info deviceHash startTimestamp =>
    exact (addSession_text type info deviceHash startTimestamp).trans (congrArg render (hone _).symm)
  | endSession hash now => exact (endSession_text type hash now).trans (congrArg render (hone _).symm)
  | remSession hash => exact (remSession_text type hash).trans (congrArg render (hone _).symm)
  | getSession hash => exact (getSession_text type hash).trans (congrArg render (hone _).symm)
  | hasSession hash => exact (hasSession_text type hash).trans (congrArg render (hone _).symm)
  | addData sessionHash m t => exact addData_text type sessionHash m t

@[simp] lemma quoteFree_nat (n : Nat) : QuoteFree n.repr := by
  intro hmem
  have hdigits : quote ∈ Nat.toDigits 10 n := by rwa [← Nat.toList_repr]
  exact absurd (Nat.isDigit_of_mem_toDigits (by decide) (by decide) hdigits) (by decide)

@[simp] lemma quoteFree_int (n : Int) : QuoteFree n.repr := by
  cases n with
  | ofNat n => exact quoteFree_nat n
  | negSucc n => exact quoteFree_append.mpr ⟨by decide, quoteFree_nat (n + 1)⟩

lemma quoteFree_float (x : FloatText) : QuoteFree x.text := by
  intro hmem
  exact absurd (x.plain quote hmem) (by decide)

lemma quoteFree_hashOperator (type : DbType) : QuoteFree (hashOperator type) := by
  cases type <;> decide

lemma quoteFree_intercalate {l : List String} (h : ∀ s ∈ l, QuoteFree s) :
    QuoteFree (",".intercalate l) := by
  induction l with
  | nil => decide
  | cons s l ih =>
    cases l with
    | nil => simpa using h
    | cons s' l =>
      rw [String.intercalate_cons_cons, quoteFree_append, quoteFree_append]
      exact ⟨⟨h s (by simp), by decide⟩, ih fun x hx => h x (by simp [hx])⟩

lemma quoteFree_schema :
    ∀ T ∈ tables .sqlite3, QuoteFree T.name ∧ ∀ c ∈ requiredColumns T, QuoteFree c := by
  decide +kernel

/-- The text in front of the values of an `INSERT`. -/
lemma quoteFree_insert {m : Measurement} {t : Timestamps} {i : Insert} (h : i ∈ m.inserts t) :
    QuoteFree ("INSERT INTO " ++ i.table ++ " (" ++ ",".intercalate i.columns ++ ") VALUES (") := by
  rw [inserts_eq] at h
  obtain ⟨e, -, rfl⟩ := List.mem_map.mp h
  obtain ⟨hmem, htable⟩ := insert_table t e .sqlite3
  obtain ⟨hname, hcolumns⟩ := quoteFree_schema _ hmem
  simp only [quoteFree_append]
  refine ⟨⟨⟨⟨by decide, htable ▸ hname⟩, by decide⟩, ?_⟩, by decide⟩
  rw [insert_required t e .sqlite3]
  exact quoteFree_intercalate hcolumns

lemma quoteFree_operator {s : String} (hs : QuoteFree s) (type : DbType) :
    QuoteFree (s ++ hashOperator type) :=
  quoteFree_append.mpr ⟨hs, quoteFree_hashOperator type⟩

lemma template_hash {code tail : String} (hcode : QuoteFree code) (htail : QuoteFree tail)
    (hne : tail ≠ "") (type : DbType) (hash : String) :
    Template [.code (code ++ hashOperator type), .lit hash, .code tail] :=
  ⟨quoteFree_operator hcode type, hne, htail, trivial⟩

lemma template_device (type : DbType) (deviceHash : String) :
    Template (Statement.devicePieces type deviceHash) :=
  template_hash (by decide) (by decide) (by decide) type deviceHash

lemma template_code {s : String} (hs : QuoteFree s) : Template [.code s] :=
  ⟨hs, trivial⟩

lemma template_lit {s tail : String} {ps : List Piece} (hne : tail ≠ "")
    (h : Template (.code tail :: ps)) : Template (.lit s :: .code tail :: ps) :=
  ⟨hne, h⟩

lemma template_values (values : List Value) :
    Template (values.flatMap fun v => [.lit v.render, .code ", "]) :=
  template_flatMap fun _ _ => template_lit (by decide) (template_code (by decide))

lemma template_statement {type : DbType} {call : Call} {st : Statement} (h : st ∈ call.statements) :
    Template (st.pieces type) := by
  have hcomma : QuoteFree ", " := by decide
  have hne : ", " ≠ "" := by decide
  cases st with
  | devices => exact template_code (by decide)
  | device hash => exact template_hash (by decide) (by decide) (by decide) type hash
  | deviceId hash => exact template_hash (by decide) (by decide) (by decide) type hash
  | insertDevice hash name address port =>
    exact ⟨by decide, hne, hcomma, hne, hcomma, hne, hcomma,
      template_lit (by decide) (template_code (by decide))⟩
  | deleteDevices hash => exact template_hash (by decide) (by decide) (by decide) type hash
  | sessions => exact template_code (by decide)
  | sessionsOf deviceHash =>
    exact ((template_code (quoteFree_operator (by decide) type)).append
      (template_device type deviceHash)).append (template_code (by decide))
  | session hash => exact template_hash (by decide) (by decide) (by decide) type hash
  | sessionId hash => exact template_hash (by decide) (by decide) (by decide) type hash
  | insertSession hash name coreCount startTimestamp deviceHash =>
    refine (Template.append ?_ (template_device type deviceHash)).append (template_code (by decide))
    exact ⟨by decide, hne, hcomma, hne, hcomma, hne, hcomma, hne, hcomma,
      template_lit hne (template_code hcomma)⟩
  | endSessions hash now =>
    exact ⟨by decide, by simp [StartsCode, String.append_eq_empty_iff],
      template_hash (by decide) (by decide) (by decide) type hash⟩
  | deleteSessions hash => exact template_hash (by decide) (by decide) (by decide) type hash
  | insertData i sessionHash =>
    -- only `addData` writes this statement
    cases call with
    | addData sessionHash' m t =>
      obtain ⟨i', hi, heq⟩ := List.mem_map.mp h
      obtain ⟨rfl, rfl⟩ := Statement.insertData.inj heq
      exact ((template_code (quoteFree_insert hi)).append (template_values i'.values)).append
        (template_hash (by decide) (by decide) (by decide) type sessionHash')
    | _ => simp [Call.statements] at h

lemma value_quoteFree_iff (values : List Value) :
    (∀ s ∈ literals (values.flatMap fun v => [.lit v.render, .code ", "]), QuoteFree s) ↔
      ∀ s ∈ values.filterMap Statement.valueString, QuoteFree s := by
  induction values with
  | nil => simp [literals]
  | cons v values ih =>
    have hsplit : literals ((v :: values).flatMap fun v => [.lit v.render, .code ", "]) =
        v.render :: literals (values.flatMap fun v => [.lit v.render, .code ", "]) := by
      rw [List.flatMap_cons]
      rfl
    rw [hsplit, List.forall_mem_cons, ih]
    cases v with
    | int n => simp [Value.render, Statement.valueString]
    | float x => simp [Value.render, Statement.valueString, quoteFree_float x]
    | text s => simp [Value.render, Statement.valueString]

lemma statement_quoteFree_iff (type : DbType) (st : Statement) :
    (∀ s ∈ literals (st.pieces type), QuoteFree s) ↔ ∀ s ∈ st.strings, QuoteFree s := by
  have hzero : QuoteFree "0" := by decide
  cases st with
  | insertData i sessionHash =>
    have hliterals : literals ((Statement.insertData i sessionHash).pieces type) =
        literals (i.values.flatMap fun v => [.lit v.render, .code ", "]) ++ [sessionHash] := by
      unfold Statement.pieces
      rw [literals_append, literals_append]
      rfl
    rw [hliterals, Statement.strings, List.forall_mem_append, List.forall_mem_append,
      value_quoteFree_iff]
  | insertDevice hash name address port =>
    simp [Statement.pieces, Statement.strings, literals]
  | insertSession hash name coreCount startTimestamp deviceHash =>
    simp [Statement.pieces, Statement.devicePieces, Statement.strings, literals, hzero]
  | endSessions hash now => simp [Statement.pieces, Statement.strings, literals]
  | sessionsOf deviceHash =>
    simp [Statement.pieces, Statement.devicePieces, Statement.strings, literals]
  | _ => simp [Statement.pieces, Statement.strings, literals]

lemma literals_flatMap (f : Statement → List Piece) (l : List Statement) :
    literals (l.flatMap f) = l.flatMap fun st => literals (f st) := by
  induction l with
  | nil => rfl
  | cons st l ih => rw [List.flatMap_cons, List.flatMap_cons, literals_append, ih]

/-- The text of a builder reads as its statements, each argument one literal. -/
def Encodes (type : DbType) (call : Call) : Prop :=
  lex (call.text type) = tokens (call.statements.flatMap (Statement.pieces type))

lemma lex_statements_iff (type : DbType) {l : List Statement}
    (h : ∀ st ∈ l, Template (st.pieces type)) :
    lex (render (l.flatMap (Statement.pieces type))) = tokens (l.flatMap (Statement.pieces type)) ↔
      ∀ s ∈ l.flatMap Statement.strings, QuoteFree s := by
  rw [lex_render_iff (template_flatMap h), literals_flatMap]
  simp only [List.mem_flatMap, forall_exists_index, and_imp]
  constructor
  · intro hall s st hst hs
    exact (statement_quoteFree_iff type st).mp (fun s' hs' => hall s' st hst hs') s hs
  · intro hall s st hst hs
    exact (statement_quoteFree_iff type st).mpr (fun s' hs' => hall s' st hst hs') s hs

/-- The lexer finds the statements of a builder, with each argument as one literal that
decodes to it, exactly when no argument that is written contains a quote. -/
theorem encodes_iff (type : DbType) (call : Call) :
    Encodes type call ↔ ∀ s ∈ call.strings, QuoteFree s := by
  unfold Encodes Call.strings
  rw [text_eq_render]
  exact lex_statements_iff type fun st h => template_statement h

/-- With a quote in its hash the request for one session deletes them all. -/
theorem remSession_not_encoded : ¬ Encodes .sqlite3 (.remSession "x' OR '1' = '1") := by
  unfold Encodes
  decide

end TkmCollector.Proofs
