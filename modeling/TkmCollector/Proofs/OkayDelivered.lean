import TkmCollector.IClient
import TkmCollector.Proofs.ApplicationFrame

namespace TkmCollector.Proofs

open IClient

/-- A request that is answered with an envelope of its own. -/
def HasEnvelope (type : Control.RequestType) : Prop :=
  type ∈ [.getDevices, .getSessions, .requestSession]

instance (type : Control.RequestType) : Decidable (HasEnvelope type) := by
  unfold HasEnvelope
  infer_instance

/-- The envelope is the one that belongs to the request. -/
def Corresponds : Control.RequestType → Control.Message → Prop
  | .getDevices, .deviceList _ => True
  | .getSessions, .sessionList _ => True
  | .requestSession, .setSession _ => True
  | _, _ => False

/-- The request gets a status, and when it is `Okay` its envelope was accepted and flushed. -/
def OkayMeansDelivered (type : Control.RequestType) (writer : Writer) (result : Except Stop Answer) :
    Prop :=
  ∃ a status, result = .ok a ∧ a.status = some status ∧
    (status.what = .ok → (∃ message ∈ a.envelope, Corresponds type message) ∧ Delivers writer)

/-- The query that the handler of a list runs. -/
def listCall (rq : Control.Request) : Query.Call :=
  match rq.type with
  | .getSessions =>
    if rq.payload.unpackDeviceData.hash.isEmpty then .getSessions
    else .getSessionsOf rq.payload.unpackDeviceData.hash
  | _ => .getDevices

/-- There is no list to send, or it is sent and flushed; a session is sent, and then the result of
its flush is heeded. -/
def WriterHeeded (b : Backend) (io : DbIo) (t : Tables) (rq : Control.Request) (writer : Writer) :
    Prop :=
  match rq.type with
  | .requestSession => writer.send = .ok
  | _ => (Database.runQuery b io 0 t (listCall rq)).2 = none ∨ Delivers writer

section

variable {b : Backend} {states : String → Option Control.DeviceState} {known : String → Bool}
  {io : DbIo} {t : Tables} {client : ClientId} {rq : Control.Request} {writer : Writer}

lemma statusOf_sendStatus (args : Args) :
    statusOf known ⟨some client, .sendStatus, args, .int 0⟩ =
      (args.lookup .status).map fun status =>
        ⟨(args.lookup .requestId).getD "", Dispatcher.whatFor status,
          (args.lookup .reason).getD ""⟩ := by
  simp only [statusOf, Dispatcher.requestHandler, Dispatcher.doSendStatus, Args.atKey]
  cases args.lookup .status with
  | none => rfl
  | some status => rfl

lemma whatFor_okay : Dispatcher.whatFor (valFor .statusOkay) = .ok := by decide

lemma whatFor_error : Dispatcher.whatFor (valFor .statusError) = .error := by decide

lemma answer_requestSession (htype : rq.type = .requestSession) :
    answer b states known io t client rq writer =
      .ok ⟨some (.setSession rq.payload.unpackSessionInfo), some ⟨rq.id,
        if writeEnvelope writer then .ok else .error,
        if writeEnvelope writer then "Control client session set" else "Failed to set session"⟩⟩ := by
  have hlookup : ∀ key, (Args.emplace [] .requestId rq.id).lookup key =
      if key = .requestId then some rq.id else none := by
    intro key
    simp
  simp only [answer, ControlClient.requestHandler, htype, ControlClient.doRequestSession,
    ControlClient.request, statusOf_sendStatus]
  cases writeEnvelope writer with
  | true => simp [hlookup, whatFor_okay]
  | false => simp [hlookup, whatFor_error]

/-- The answer that `sendList` leads to, for a request that carries its id. -/
def listAnswer (id : String) (reply : Option Reply) (message : Control.Message) (write : Bool)
    (failure : String) : Answer :=
  match reply with
  | none => ⟨none, some ⟨id, .error, "Query failed"⟩⟩
  | some _ => ⟨some message, some ⟨id, .ok, if write then "List provided" else failure⟩⟩

lemma databaseAnswer_sendList {dbrq : IDatabase.Request} {reply : Option Reply} {u : Tables}
    {list : ControlList} {failure id : String} (hclient : dbrq.client = some client)
    (hid : dbrq.args.lookup .requestId = some id)
    (hrun : ∀ write, Database.requestHandler b states { io with write := write } t dbrq =
      .ok (Database.sendList u dbrq client { io with write := write } reply list failure)) :
    databaseAnswer b states known io t writer dbrq =
      .ok (listAnswer id reply (listMessage list) (writeEnvelope writer) failure) := by
  simp only [databaseAnswer, hrun]
  cases reply with
  | none =>
    simp [Database.sendList, Database.answer, Database.quiet, Database.sendStatus, listAnswer,
      hclient, statusOf_sendStatus, hid, whatFor_error]
  | some reply =>
    simp [Database.sendList, Database.answer, Database.quiet, Database.sendStatus, listAnswer,
      hclient, statusOf_sendStatus, hid, whatFor_okay]

lemma answer_getDevices (htype : rq.type = .getDevices) :
    ∃ list failure, Corresponds rq.type (listMessage list) ∧
      answer b states known io t client rq writer =
        .ok (listAnswer rq.id (Database.runQuery b io 0 t (listCall rq)).2 (listMessage list)
          (writeEnvelope writer) failure) := by
  have hcall : listCall rq = .getDevices := by rw [listCall, htype]
  refine ⟨.devices ((Database.Reply.deviceList (Database.runQuery b io 0 t .getDevices).2).map
    (Database.withState states)), "Failed to send device list", ?_, ?_⟩
  · rw [htype]
    trivial
  · simp only [answer, ControlClient.requestHandler, htype, ControlClient.doGetDevices,
      ControlClient.request, Dispatcher.requestHandler, Dispatcher.doGetDevices,
      Dispatcher.toDatabase, hcall]
    apply databaseAnswer_sendList (u := (Database.runQuery b io 0 t .getDevices).1)
    · rfl
    · simp
    · intro write
      rfl

lemma answer_getSessions (htype : rq.type = .getSessions) :
    ∃ list failure, Corresponds rq.type (listMessage list) ∧
      answer b states known io t client rq writer =
        .ok (listAnswer rq.id (Database.runQuery b io 0 t (listCall rq)).2 (listMessage list)
          (writeEnvelope writer) failure) := by
  have hcall : listCall rq = if rq.payload.unpackDeviceData.hash.isEmpty then .getSessions
      else .getSessionsOf rq.payload.unpackDeviceData.hash := by rw [listCall, htype]
  refine ⟨.sessions ((Database.Reply.sessionList
    (Database.runQuery b io 0 t (listCall rq)).2).map fun session =>
      { session with state := if session.ended = 0 then .progress else .complete }),
    "Failed to send session list", ?_, ?_⟩
  · rw [htype]
    trivial
  · simp only [answer, ControlClient.requestHandler, htype, ControlClient.doGetSessions,
      ControlClient.request, Dispatcher.requestHandler, Dispatcher.doGetSessions,
      Dispatcher.toDatabase, hcall]
    apply databaseAnswer_sendList (u := (Database.runQuery b io 0 t (listCall rq)).1)
    · rfl
    · exact lookup_requestArgs rq
    · intro write
      rw [hcall]
      rfl

/-- A list is reported as sent when there is one, whatever the writer made of it. -/
lemma okayMeansDelivered_list {type : Control.RequestType} {id failure : String}
    {reply : Option Reply} {message : Control.Message} (hmessage : Corresponds type message) :
    OkayMeansDelivered type writer
      (.ok (listAnswer id reply message (writeEnvelope writer) failure)) ↔
      reply = none ∨ Delivers writer := by
  cases reply with
  | none =>
    constructor
    · intro
      exact .inl rfl
    · intro
      exact ⟨_, _, rfl, rfl, fun h => by cases h⟩
  | some reply =>
    constructor
    · rintro ⟨a, status, ha, hstatus, h⟩
      have ha := Except.ok.inj ha
      subst ha
      have hstatus := Option.some.inj hstatus
      subst hstatus
      exact .inr (h rfl).2
    · intro h
      have hdelivers : Delivers writer := h.resolve_left (by simp)
      exact ⟨_, _, rfl, rfl, fun _ => ⟨⟨message, rfl, hmessage⟩, hdelivers⟩⟩

lemma okayMeansDelivered_session {info : Control.SessionInfo} {id reason : String} :
    OkayMeansDelivered .requestSession writer
      (.ok ⟨some (.setSession info), some ⟨id, if writeEnvelope writer then .ok else .error, reason⟩⟩) ↔
      writer.send = .ok := by
  constructor
  · rintro ⟨a, status, ha, hstatus, h⟩
    have ha := Except.ok.inj ha
    subst ha
    have hstatus := Option.some.inj hstatus
    subst hstatus
    by_contra hsend
    have hwrite : writeEnvelope writer = true := by rw [writeEnvelope, if_neg hsend]
    rw [hwrite] at h
    exact hsend (h rfl).2.1
  · intro hsend
    refine ⟨_, _, rfl, rfl, fun h => ⟨⟨_, rfl, trivial⟩, hsend, ?_⟩⟩
    by_contra hflush
    have hwrite : writeEnvelope writer = false := by
      rw [writeEnvelope, if_pos hsend]
      simpa using hflush
    rw [hwrite] at h
    cases h

end

/-- `Okay` means that the envelope of the request was delivered just when the writer is heeded: a
list is not reported as sent whose `send` or `flush` failed, nor a session whose `send` did. -/
theorem okay_means_delivered (b : Backend) (states : String → Option Control.DeviceState)
    (known : String → Bool) (io : DbIo) (t : Tables) (client : ClientId) (rq : Control.Request)
    (writer : Writer) (htype : HasEnvelope rq.type) :
    OkayMeansDelivered rq.type writer (answer b states known io t client rq writer) ↔
      WriterHeeded b io t rq writer := by
  have hcases : rq.type = .getDevices ∨ rq.type = .getSessions ∨ rq.type = .requestSession := by
    simpa [HasEnvelope] using htype
  rcases hcases with h | h | h
  · obtain ⟨list, failure, hmessage, hanswer⟩ := @answer_getDevices b states known io t client rq
      writer h
    rw [hanswer, okayMeansDelivered_list hmessage, WriterHeeded, h]
  · obtain ⟨list, failure, hmessage, hanswer⟩ := @answer_getSessions b states known io t client
      rq writer h
    rw [hanswer, okayMeansDelivered_list hmessage, WriterHeeded, h]
  · rw [answer_requestSession h, h, okayMeansDelivered_session, WriterHeeded, h]

/-- A list of no devices that is accepted and flushed. -/
theorem okay_means_delivered_flushed :
    OkayMeansDelivered .getDevices ⟨.ok, true⟩
      (answer ⟨.sqlite3, fun _ t => (t, none)⟩ (fun _ => none) (fun _ => false)
        ⟨1, Nat.one_pos, [], true, .isOpen⟩ ⟨[], [], [], 0, 0, []⟩ 7 ⟨"1", .getDevices, false, .other⟩
        ⟨.ok, true⟩) :=
  (okay_means_delivered _ _ _ _ _ _ ⟨"1", .getDevices, false, .other⟩ _ (by decide)).mpr
    (.inr (by decide))

/-- The client is gone: `send` fails, and the list counts as provided. -/
theorem okay_without_delivery :
    ¬ OkayMeansDelivered .getDevices ⟨.error, false⟩
      (answer ⟨.sqlite3, fun _ t => (t, none)⟩ (fun _ => none) (fun _ => false)
        ⟨1, Nat.one_pos, [], true, .isOpen⟩ ⟨[], [], [], 0, 0, []⟩ 7 ⟨"1", .getDevices, false, .other⟩
        ⟨.error, false⟩) := by
  rintro ⟨a, status, ha, hstatus, h⟩
  have ha := Except.ok.inj ha
  subst ha
  have hstatus := Option.some.inj hstatus
  subst hstatus
  have hokay := h (by decide)
  exact absurd hokay.2 (by decide)

end TkmCollector.Proofs
