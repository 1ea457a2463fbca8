import Mathlib.Logic.Relation
import TkmCollector.MonitorDevice

namespace TkmCollector.Proofs
open MonitorDevice

/-- The queue entry of an accepted `SetSession` message. -/
def sessionRequest (info : Monitor.SessionInfo) : IDevice.Request :=
  ⟨none, .setSession, [], .sessionInfo info⟩

/-- The queue entry of an accepted `Data` message. -/
def dataRequest (data : Monitor.Data) : IDevice.Request :=
  ⟨none, .processData, [], .data data⟩

/-- The queue entry of an accepted `Status` message. -/
def statusRequest (status : Monitor.Status) : IDevice.Request :=
  ⟨none, .status, [], .status status⟩

/-- The request by which a device ends the session with a hash. -/
def endSessionRequest (hash : String) : IDatabase.Request :=
  ⟨none, .endSession, Args.emplace [] .sessionHash hash, .int 0⟩

/-- The request by which a device opens the session that a monitor announced. -/
def addSessionRequest (deviceHash : String) (info : Monitor.SessionInfo) : IDatabase.Request :=
  ⟨none, .addSession, Args.emplace [] .deviceHash deviceHash, .sessionInfo info⟩

/-- The request by which a device stores a message. -/
def addDataRequest (sessionHash : String) (bulkData : BulkData) : IDatabase.Request :=
  ⟨none, .addData, Args.emplace [] .sessionHash sessionHash, bulkData⟩

/-- The device without the head of its queue. -/
def popped (d : MonitorDevice) (rest : List IDevice.Request) : MonitorDevice :=
  { d with queue := rest }

/-- The device with a new connection object. -/
def connecting (d : MonitorDevice) : MonitorDevice :=
  { d with connection := some ⟨d.nextFd⟩, nextFd := d.nextFd + 1, streams := [] :: d.streams }

/-- The device after a `SetSession` request has been taken over. -/
def sessionTaken (d : MonitorDevice) (info : Monitor.SessionInfo) : MonitorDevice :=
  { d with sessionInfo := info, sessionData := { d.sessionData with hash := info.hash } }

/-- One message taken from the connection. -/
inductive Accept (d : MonitorDevice) : MonitorDevice → Prop where
  | session (info : Monitor.SessionInfo) :
      Accept d ((d.record (.session info)).pushRequest (sessionRequest info))
  | data (data : Monitor.Data) (h : data.origin = d.streamSession) :
      Accept d ((d.record (.data data)).pushRequest (dataRequest data))
  | status (status : Monitor.Status) : Accept d (d.pushRequest (statusRequest status))

/-- The ways in which one dispatch changes a device, with the requests it pushes to the
database. -/
inductive Dispatch (d : MonitorDevice) : Event → MonitorDevice → List IDatabase.Request → Prop where
  | idle (e : Event) : Dispatch d e d []
  | control (action : ControlAction) (client : ClientId) (args : Args) (data : Control.DeviceData) :
      Dispatch d (.control action client args data)
        (d.pushRequest ⟨some client, action.toAction, args, .deviceData data⟩) []
  | read (clock : Clock) (input : List Envelope) (last : ReadStatus) (d' : MonitorDevice) (keep : Bool)
      (hc : d.loop.connection ≠ none) (hr : d.loop.removing = false)
      (h : Relation.ReflTransGen Accept d d') (hd : d' = (readEnvelopes clock last d input).1) :
      Dispatch d (.connection clock input last)
        (if keep then d' else { d' with loop := { d'.loop with removing := true } }) []
  | finalize (hc : d.loop.connection ≠ none) (hr : d.loop.removing = true) :
      Dispatch d .finalize d.finalize.1 d.finalize.2
  | dropped (io : Io) (rq : IDevice.Request) (rest : List IDevice.Request) (hq : d.queue = rq :: rest)
      (ha : rq.action ≠ .setSession ∧ rq.action ≠ .startStream ∧ rq.action ≠ .stopStream ∧
        rq.action ≠ .processData)
      (hs : rq.action = .sendDescriptor → io.send = false) :
      Dispatch d (.queue io) (popped d rest) []
  | connectFailed (io : Io) (rq : IDevice.Request) (rest : List IDevice.Request)
      (hq : d.queue = rq :: rest) (ha : rq.action = .connect) (hc : d.connection = none)
      (hs : io.socket = true) (hio : io.connect = .failed) :
      Dispatch d (.queue io) (connecting (popped d rest)).deleteConnection.disconnect.1
        (connecting (popped d rest)).deleteConnection.disconnect.2
  | connected (io : Io) (rq : IDevice.Request) (rest : List IDevice.Request)
      (hq : d.queue = rq :: rest) (ha : rq.action = .connect) (hc : d.connection = none) :
      Dispatch d (.queue io)
        ((connecting (popped d rest)).enableConnection.pushRequest { rq with action := .sendDescriptor })
        []
  | descriptorSent (io : Io) (rq : IDevice.Request) (rest : List IDevice.Request)
      (hq : d.queue = rq :: rest) (ha : rq.action = .sendDescriptor) (hc : d.connection ≠ none)
      (hs : io.send = true) :
      Dispatch d (.queue io) ((popped d rest).setState .connected) []
  | sessionSet (io : Io) (rq : IDevice.Request) (rest : List IDevice.Request)
      (info : Monitor.SessionInfo) (hq : d.queue = rq :: rest) (ha : rq.action = .setSession)
      (hb : rq.bulkData = .sessionInfo info) :
      Dispatch d (.queue io)
        (((sessionTaken (popped d rest) info).setState .sessionSet).pushRequest
          (internalRequest .startStream))
        [addSessionRequest d.deviceData.hash info]
  | disconnecting (io : Io) (rq : IDevice.Request) (rest : List IDevice.Request) (c : Connection)
      (hq : d.queue = rq :: rest) (ha : rq.action = .disconnect) (hc : d.connection = some c)
      (hs : d.state ≠ .disconnected) :
      Dispatch d (.queue io) ((popped d rest).remConnectionSource c) []
  | streamStarted (io : Io) (rq : IDevice.Request) (rest : List IDevice.Request)
      (hq : d.queue = rq :: rest) (ha : rq.action = .startStream) :
      Dispatch d (.queue io) ((popped d rest).setState .collecting).startUpdateLanes []
  | streamStopped (io : Io) (rq : IDevice.Request) (rest : List IDevice.Request)
      (hq : d.queue = rq :: rest) (ha : rq.action = .stopStream) :
      Dispatch d (.queue io) ((popped d rest).stopUpdateLanes.setState .idle) []
  | requested (io : Io) (rq : IDevice.Request) (rest : List IDevice.Request) (action : IDevice.Action)
      (hq : d.queue = rq :: rest) (ha : rq.action = .startCollecting ∨ rq.action = .stopCollecting)
      (hs : action = .requestSession ∧ (d.state = .connected ∨ d.state = .idle) ∨
        action = .startStream ∧ d.state = .sessionSet ∨ action = .stopStream ∧ d.state = .collecting)
      (hstop : rq.action = .stopCollecting → action = .stopStream) :
      Dispatch d (.queue io) ((popped d rest).pushRequest (internalRequest action)) []
  | dataProcessed (io : Io) (rq : IDevice.Request) (rest : List IDevice.Request)
      (hq : d.queue = rq :: rest) (ha : rq.action = .processData) :
      Dispatch d (.queue io) (popped d rest) [addDataRequest d.sessionData.hash rq.bulkData]

lemma readEnvelopes_accepts (clock : Clock) (last : ReadStatus) (d : MonitorDevice)
    (input : List Envelope) :
    Relation.ReflTransGen Accept d (readEnvelopes clock last d input).1 := by
  induction input generalizing d with
  | nil => exact Relation.ReflTransGen.refl
  | cons envelope rest ih =>
    rw [readEnvelopes]
    by_cases ho : envelope.origin ≠ .monitor
    · rw [if_pos ho]
      exact ih d
    · rw [if_neg ho]
      cases envelope.mesg.type with
      | setSession => exact Relation.ReflTransGen.head (Accept.session _) (ih _)
      | data => exact Relation.ReflTransGen.head (Accept.data _ rfl) (ih _)
      | status => exact Relation.ReflTransGen.head (Accept.status _) (ih _)
      | unknown => exact Relation.ReflTransGen.refl

lemma requestHandler_dispatch {d : MonitorDevice} {rq : IDevice.Request}
    {rest : List IDevice.Request} {io : Io} {o : Outcome} (hq : d.queue = rq :: rest)
    (h : requestHandler (popped d rest) rq io = .ok o) :
    Dispatch d (.queue io) o.device o.database := by
  unfold requestHandler at h
  cases ha : rq.action with
  | connect =>
    simp only [ha, doConnect, createConnection] at h
    cases hc : (popped d rest).connection with
    | some c =>
      simp only [hc, Except.ok.injEq] at h
      subst h
      exact .dropped io rq rest hq (by simp [ha]) (by simp [ha])
    | none =>
      simp only [hc] at h
      split at h
      · cases h
      · rename_i hsocket
        cases hio : io.connect with
        | unresolved => simp [hio] at h
        | failed =>
          simp only [hio, Except.ok.injEq] at h
          subst h
          exact .connectFailed io rq rest hq ha hc (by simpa using hsocket) hio
        | established =>
          simp only [hio, Except.ok.injEq] at h
          subst h
          exact .connected io rq rest hq ha hc
  | disconnect =>
    simp only [ha, doDisconnect] at h
    split at h
    · rename_i hs
      cases hc : (popped d rest).connection with
      | none => simp [hc] at h
      | some c =>
        simp only [hc, Except.ok.injEq] at h
        subst h
        exact .disconnecting io rq rest c hq ha hc hs
    · simp only [Except.ok.injEq] at h
      subst h
      exact .dropped io rq rest hq (by simp [ha]) (by simp [ha])
  | sendDescriptor =>
    simp only [ha, doSendDescriptor] at h
    cases hc : (popped d rest).connection with
    | none => simp [hc] at h
    | some c =>
      simp only [hc] at h
      split at h
      · rename_i hs
        simp only [Except.ok.injEq] at h
        subst h
        exact .dropped io rq rest hq (by simp [ha]) (fun _ => hs)
      · rename_i hs
        simp only [Except.ok.injEq] at h
        subst h
        have hne : d.connection ≠ none := by simp [show d.connection = some c from hc]
        simpa [updateState] using Dispatch.descriptorSent io rq rest hq ha hne (by simpa using hs)
  | requestSession =>
    simp only [ha, doRequestSession] at h
    cases hc : (popped d rest).connection with
    | none => simp [hc] at h
    | some c =>
      simp only [hc, Except.ok.injEq] at h
      subst h
      exact .dropped io rq rest hq (by simp [ha]) (by simp [ha])
  | setSession =>
    simp only [ha, doSetSession] at h
    cases hb : rq.bulkData with
    | sessionInfo info =>
      simp only [hb, BulkData.castSessionInfo, Except.ok.injEq] at h
      subst h
      exact .sessionSet io rq rest info hq ha hb
    | int | data | status | deviceData | sessionData => simp [hb, BulkData.castSessionInfo] at h
  | startCollecting =>
    simp only [ha, doStartCollecting] at h
    split at h
    · rename_i hs
      simp only [Except.ok.injEq] at h
      subst h
      exact .requested io rq rest .requestSession hq (.inl ha) (.inl ⟨rfl, hs⟩) (by simp [ha])
    · split at h
      · rename_i hs
        simp only [Except.ok.injEq] at h
        subst h
        exact .requested io rq rest .startStream hq (.inl ha) (.inr (.inl ⟨rfl, hs⟩)) (by simp [ha])
      · simp only [Except.ok.injEq] at h
        subst h
        exact .dropped io rq rest hq (by simp [ha]) (by simp [ha])
  | stopCollecting =>
    simp only [ha, doStopCollecting] at h
    split at h
    · rename_i hs
      simp only [Except.ok.injEq] at h
      subst h
      exact .requested io rq rest .stopStream hq (.inr ha) (.inr (.inr ⟨rfl, hs⟩)) fun _ => rfl
    · simp only [Except.ok.injEq] at h
      subst h
      exact .dropped io rq rest hq (by simp [ha]) (by simp [ha])
  | startStream =>
    simp only [ha, doStartStream, Except.ok.injEq] at h
    subst h
    exact .streamStarted io rq rest hq ha
  | stopStream =>
    simp only [ha, doStopStream, Except.ok.injEq] at h
    subst h
    exact .streamStopped io rq rest hq ha
  | processData =>
    simp only [ha, doProcessData, Except.ok.injEq] at h
    subst h
    exact .dataProcessed io rq rest hq ha
  | status =>
    simp only [ha, doStatus] at h
    cases hb : rq.bulkData with
    | status m =>
      simp only [hb, BulkData.castStatus, Except.ok.injEq] at h
      subst h
      exact .dropped io rq rest hq (by simp [ha]) (by simp [ha])
    | int | data | sessionInfo | deviceData | sessionData => simp [hb, BulkData.castStatus] at h

/-- Every dispatch that does not die makes one of the listed changes. -/
theorem step_dispatch {d : MonitorDevice} {e : Event} {o : Outcome} (h : d.step e = .ok o) :
    Dispatch d e o.device o.database := by
  cases e with
  | control action client args data =>
    simp only [step, Except.ok.injEq] at h
    subst h
    exact .control action client args data
  | connection clock input last =>
    simp only [step] at h
    split at h
    · simp only [Except.ok.injEq] at h
      subst h
      exact .idle _
    · rename_i hreg
      simp only [Except.ok.injEq] at h
      subst h
      simp only [not_or, Bool.not_eq_true] at hreg
      exact .read clock input last _ _ hreg.1 hreg.2 (readEnvelopes_accepts clock last d input) rfl
  | finalize =>
    simp only [step] at h
    split at h
    · simp only [Except.ok.injEq] at h
      subst h
      exact .idle _
    · rename_i hreg
      simp only [Except.ok.injEq] at h
      subst h
      simp only [not_or, Bool.not_eq_false] at hreg
      exact .finalize hreg.1 hreg.2
  | queue io =>
    simp only [step] at h
    cases hq : d.queue with
    | nil =>
      simp only [hq, Except.ok.injEq] at h
      subst h
      exact .idle _
    | cons rq rest =>
      simp only [hq] at h
      exact requestHandler_dispatch hq h
  | timer timer =>
    simp only [step, update] at h
    split at h
    · split at h
      · simp only [Except.ok.injEq] at h
        subst h
        exact .idle _
      · cases hc : d.connection with
        | none => simp [hc] at h
        | some c =>
          simp only [hc, Except.ok.injEq] at h
          subst h
          exact .idle _
    · simp only [Except.ok.injEq] at h
      subst h
      exact .idle _

theorem next_dispatch {d d' : MonitorDevice} {e : Event} (h : d.next e = .ok d') :
    ∃ dbrq, Dispatch d e d' dbrq := by
  unfold MonitorDevice.next at h
  cases hs : d.step e with
  | error f => simp [hs, Except.map] at h
  | ok o =>
    simp only [hs, Except.map, Except.ok.injEq] at h
    subst h
    exact ⟨o.database, step_dispatch hs⟩

lemma next_queue {d : MonitorDevice} {rq : IDevice.Request} {rest : List IDevice.Request} (io : Io)
    (hq : d.queue = rq :: rest) :
    d.next (.queue io) = (requestHandler (popped d rest) rq io).map Outcome.device := by
  simp only [MonitorDevice.next, step, hq]
  rfl

lemma requestHandler_nullConnection {d : MonitorDevice} {rq : IDevice.Request} {io : Io}
    (h : requestHandler d rq io = .error .nullConnection) :
    d.connection = none ∧ (rq.action = .sendDescriptor ∨ rq.action = .requestSession ∨
      rq.action = .disconnect ∧ d.state ≠ .disconnected) := by
  unfold requestHandler at h
  cases ha : rq.action with
  | connect =>
    simp only [ha, doConnect] at h
    cases hc : d.createConnection with
    | none => simp [hc] at h
    | some d' =>
      simp only [hc] at h
      split at h
      · simp at h
      · cases hio : io.connect <;> simp [hio] at h
  | disconnect =>
    simp only [ha, doDisconnect] at h
    split at h
    · rename_i hs
      cases hc : d.connection with
      | none => exact ⟨rfl, .inr (.inr ⟨rfl, hs⟩)⟩
      | some c => simp [hc] at h
    · simp at h
  | sendDescriptor =>
    simp only [ha, doSendDescriptor] at h
    cases hc : d.connection with
    | none => exact ⟨rfl, .inl rfl⟩
    | some c =>
      simp only [hc] at h
      split at h <;> simp at h
  | requestSession =>
    simp only [ha, doRequestSession] at h
    cases hc : d.connection with
    | none => exact ⟨rfl, .inr (.inl rfl)⟩
    | some c => simp [hc] at h
  | setSession =>
    simp only [ha, doSetSession] at h
    cases hb : rq.bulkData <;> simp [hb, BulkData.castSessionInfo] at h
  | startCollecting =>
    simp only [ha, doStartCollecting] at h
    split at h
    · simp at h
    · split at h <;> simp at h
  | stopCollecting =>
    simp only [ha, doStopCollecting] at h
    split at h <;> simp at h
  | startStream => simp [ha, doStartStream] at h
  | stopStream => simp [ha, doStopStream] at h
  | processData => simp [ha, doProcessData] at h
  | status =>
    simp only [ha, doStatus] at h
    cases hb : rq.bulkData <;> simp [hb, BulkData.castStatus] at h

lemma next_nullConnection {d : MonitorDevice} {e : Event} (h : d.next e = .error .nullConnection) :
    d.connection = none ∧
      ((∃ io rq rest, e = .queue io ∧ d.queue = rq :: rest ∧
        (rq.action = .sendDescriptor ∨ rq.action = .requestSession ∨
          rq.action = .disconnect ∧ d.state ≠ .disconnected)) ∨
      ∃ t ∈ d.loop.timers, e = .timer t) := by
  cases e with
  | control action client args data => simp [MonitorDevice.next, step, Except.map] at h
  | connection clock input last =>
    simp only [MonitorDevice.next, step] at h
    split at h <;> simp [Except.map] at h
  | finalize =>
    simp only [MonitorDevice.next, step] at h
    split at h <;> simp [Except.map] at h
  | timer t =>
    simp only [MonitorDevice.next, step, update] at h
    split at h
    · rename_i ht
      split at h
      · simp [Except.map] at h
      · cases hc : d.connection with
        | none => exact ⟨rfl, .inr ⟨t, ht, rfl⟩⟩
        | some c => simp [hc, Except.map] at h
    · simp [Except.map] at h
  | queue io =>
    cases hq : d.queue with
    | nil => simp [MonitorDevice.next, step, hq, Except.map] at h
    | cons rq rest =>
      rw [next_queue io hq] at h
      have hhandler : requestHandler (popped d rest) rq io = .error .nullConnection := by
        cases hr : requestHandler (popped d rest) rq io with
        | ok o => simp [hr, Except.map] at h
        | error f => simpa [hr, Except.map] using h
      obtain ⟨hc, ha⟩ := requestHandler_nullConnection hhandler
      exact ⟨hc, .inl ⟨io, rq, rest, rfl, rfl, ha⟩⟩

end TkmCollector.Proofs
