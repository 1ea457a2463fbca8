import TkmCollector.Proofs.Dispatch

namespace TkmCollector.Proofs
open MonitorDevice

/-- The timer that a lane holds. -/
def Held (d : MonitorDevice) (timer : Timer) : Prop :=
  d.fastLaneTimer = some timer ∨ d.paceLaneTimer = some timer ∨ d.slowLaneTimer = some timer

instance (d : MonitorDevice) (timer : Timer) : Decidable (Held d timer) := by
  unfold Held
  infer_instance

lemma remLaneTimer_eq (d : MonitorDevice) (lane : UpdateLane) :
    d.remLaneTimer lane = { d with loop := { d.loop with
      timers := d.loop.timers.filter fun t => d.laneTimer lane ≠ some t } } := by
  unfold remLaneTimer
  cases h : d.laneTimer lane with
  | none => simp
  | some timer =>
    have hcomm : ∀ t : Timer, (some timer ≠ some t) ↔ t ≠ timer := by
      intro t
      rw [ne_eq, Option.some.injEq, eq_comm]
    simp only [hcomm]

lemma stopUpdateLanes_eq (d : MonitorDevice) :
    d.stopUpdateLanes =
      { d with loop := { d.loop with timers := d.loop.timers.filter fun t => ¬ Held d t } } := by
  unfold stopUpdateLanes
  simp only [remLaneTimer_eq, laneTimer, List.filter_filter]
  congr 2
  apply List.filter_congr
  intro t _
  change (decide (d.slowLaneTimer ≠ some t) && (decide (d.paceLaneTimer ≠ some t) &&
    decide (d.fastLaneTimer ≠ some t))) = decide (¬ Held d t)
  rw [← Bool.decide_and, ← Bool.decide_and]
  apply decide_eq_decide.mpr
  unfold Held
  tauto

@[simp] lemma stopUpdateLanes_connection (d : MonitorDevice) :
    d.stopUpdateLanes.connection = d.connection := by
  rw [stopUpdateLanes_eq]

@[simp] lemma stopUpdateLanes_sessionData (d : MonitorDevice) :
    d.stopUpdateLanes.sessionData = d.sessionData := by
  rw [stopUpdateLanes_eq]

lemma disconnect_fst (d : MonitorDevice) : d.disconnect.1 = d.setState .disconnected := by
  unfold disconnect updateState
  dsimp only
  split <;> rfl

lemma disconnect_snd (d : MonitorDevice) :
    d.disconnect.2 =
      if d.sessionData.hash = "" then [] else [endSessionRequest d.sessionData.hash] := by
  unfold disconnect updateState
  by_cases h : d.sessionData.hash = ""
  · simp [setState, h]
  · have hpos : d.sessionData.hash.length > 0 :=
      Nat.pos_of_ne_zero fun hz => h (String.length_eq_zero_iff.mp hz)
    simp [setState, h, hpos, endSessionRequest]

lemma finalize_fst (d : MonitorDevice) :
    d.finalize.1 =
      { d with
        connection := none
        deviceData := { d.deviceData with state := .disconnected }
        loop := ⟨none, false, d.loop.timers.filter fun t => ¬ Held d t⟩ } := by
  unfold finalize
  rw [disconnect_fst]
  unfold deleteConnection
  rw [stopUpdateLanes_eq]
  rfl

lemma finalize_snd (d : MonitorDevice) :
    d.finalize.2 =
      if d.sessionData.hash = "" then [] else [endSessionRequest d.sessionData.hash] := by
  unfold finalize
  rw [disconnect_snd]
  simp [deleteConnection]

lemma connectFailed_fst (d : MonitorDevice) (rest : List IDevice.Request) :
    (connecting (popped d rest)).deleteConnection.disconnect.1 =
      { d with
        queue := rest
        connection := none
        nextFd := d.nextFd + 1
        streams := [] :: d.streams
        deviceData := { d.deviceData with state := .disconnected }
        loop := { d.loop with timers := d.loop.timers.filter fun t => ¬ Held d t } } := by
  rw [disconnect_fst]
  unfold deleteConnection
  rw [stopUpdateLanes_eq]
  rfl

lemma connectFailed_snd (d : MonitorDevice) (rest : List IDevice.Request) :
    (connecting (popped d rest)).deleteConnection.disconnect.2 =
      if d.sessionData.hash = "" then [] else [endSessionRequest d.sessionData.hash] := by
  rw [disconnect_snd]
  simp [deleteConnection, connecting, popped]

lemma remConnectionSource_eq (d : MonitorDevice) (c : Connection) :
    d.remConnectionSource c =
      { d with loop := { d.loop with
        removing := d.loop.removing || d.loop.connection = some c } } := by
  unfold remConnectionSource
  by_cases h : d.loop.connection = some c
  · simp [h]
  · simp [h]

lemma record_eq (d : MonitorDevice) (item : StreamItem) :
    ∃ streams, d.record item = { d with streams := streams } := by
  unfold record
  split
  · exact ⟨d.streams, rfl⟩
  · rename_i stream older _
    exact ⟨(stream ++ [item]) :: older, rfl⟩

/-- The requests that a connection can put into the queue of its device. -/
inductive FromMonitor : IDevice.Request → Prop where
  | session (info : Monitor.SessionInfo) : FromMonitor (sessionRequest info)
  | data (data : Monitor.Data) : FromMonitor (dataRequest data)
  | status (status : Monitor.Status) : FromMonitor (statusRequest status)

lemma accepts_eq {d d' : MonitorDevice} (h : Relation.ReflTransGen Accept d d') :
    ∃ added streams, d' = { d with queue := d.queue ++ added, streams := streams } ∧
      ∀ rq ∈ added, FromMonitor rq := by
  induction h with
  | refl => exact ⟨[], d.streams, by simp, by simp⟩
  | tail _ hlast ih =>
    obtain ⟨added, streams, rfl, hall⟩ := ih
    cases hlast with
    | session info =>
      obtain ⟨streams', he⟩ := record_eq _ (.session info)
      refine ⟨added ++ [sessionRequest info], streams', ?_, ?_⟩
      · rw [he]
        simp [pushRequest]
      · simp only [List.mem_append, List.mem_singleton]
        rintro rq (hrq | rfl)
        · exact hall rq hrq
        · exact .session info
    | data data horigin =>
      obtain ⟨streams', he⟩ := record_eq _ (.data data)
      refine ⟨added ++ [dataRequest data], streams', ?_, ?_⟩
      · rw [he]
        simp [pushRequest]
      · simp only [List.mem_append, List.mem_singleton]
        rintro rq (hrq | rfl)
        · exact hall rq hrq
        · exact .data data
    | status status =>
      refine ⟨added ++ [statusRequest status], streams, ?_, ?_⟩
      · simp [pushRequest]
      · simp only [List.mem_append, List.mem_singleton]
        rintro rq (hrq | rfl)
        · exact hall rq hrq
        · exact .status status

/-- The session that a `SetSession` message announces, as the read loop hands it on. -/
def acceptedInfo (clock : Clock) (payload : Monitor.MessagePayload) : Monitor.SessionInfo :=
  { payload.unpackSessionInfo with name := sessionName clock }

/-- The message that a `Data` message carries, as the read loop hands it on. -/
def acceptedData (clock : Clock) (d : MonitorDevice) (payload : Monitor.MessagePayload) :
    Monitor.Data :=
  { payload.unpackData with
    receiveTimeSec := clock.now
    origin := d.streamSession }

/-- The rule for the read loop: a relation between the device and the input that is left
survives every message that is skipped or taken. -/
lemma readEnvelopes_induct (clock : Clock) (last : ReadStatus) (d : MonitorDevice)
    (input : List Envelope) {P : MonitorDevice → List Envelope → Prop}
    (hskip : ∀ d envelope rest, P d (envelope :: rest) → P d rest)
    (hsession : ∀ d payload rest, P d (⟨.monitor, .setSession, payload⟩ :: rest) →
      P ((d.record (.session (acceptedInfo clock payload))).pushRequest
        (sessionRequest (acceptedInfo clock payload))) rest)
    (hdata : ∀ d payload rest, P d (⟨.monitor, .data, payload⟩ :: rest) →
      P ((d.record (.data (acceptedData clock d payload))).pushRequest
        (dataRequest (acceptedData clock d payload))) rest)
    (hstatus : ∀ d status rest, P d rest → P (d.pushRequest (statusRequest status)) rest)
    (h : P d input) : ∃ rest, P (readEnvelopes clock last d input).1 rest := by
  induction input generalizing d with
  | nil => exact ⟨[], h⟩
  | cons envelope rest ih =>
    obtain ⟨origin, type, payload⟩ := envelope
    rw [readEnvelopes]
    by_cases ho : origin ≠ .monitor
    · rw [if_pos ho]
      exact ih _ (hskip d _ rest h)
    · rw [if_neg ho]
      obtain rfl : origin = .monitor := not_not.mp ho
      cases type with
      | setSession => exact ih _ (hsession d payload rest h)
      | data => exact ih _ (hdata d payload rest h)
      | status => exact ih _ (hstatus d payload.unpackStatus rest (hskip d _ rest h))
      | unknown => exact ⟨_, h⟩

lemma mem_of_popped {d : MonitorDevice} {rq r : IDevice.Request} {rest : List IDevice.Request}
    (hq : d.queue = rq :: rest) (hr : r ∈ rest) : r ∈ d.queue := by
  rw [hq]
  exact List.mem_cons_of_mem rq hr

lemma dispatch_deviceData {d d' : MonitorDevice} {e : Event} {dbrq : List IDatabase.Request}
    (h : Dispatch d e d' dbrq) : ∃ state, d'.deviceData = { d.deviceData with state := state } := by
  cases h with
  | read clock input last d₁ keep hc hr hacc =>
    obtain ⟨added, streams, rfl, -⟩ := accepts_eq hacc
    cases keep
    · exact ⟨_, rfl⟩
    · exact ⟨_, rfl⟩
  | finalize =>
    rw [finalize_fst]
    exact ⟨_, rfl⟩
  | connectFailed =>
    rw [connectFailed_fst]
    exact ⟨_, rfl⟩
  | disconnecting =>
    rw [remConnectionSource_eq, popped]
    exact ⟨_, rfl⟩
  | streamStopped =>
    rw [stopUpdateLanes_eq]
    exact ⟨_, rfl⟩
  | _ => exact ⟨_, rfl⟩

lemma dispatch_hash {d d' : MonitorDevice} {e : Event} {dbrq : List IDatabase.Request}
    (h : Dispatch d e d' dbrq) : d'.deviceData.hash = d.deviceData.hash := by
  obtain ⟨state, hdata⟩ := dispatch_deviceData h
  rw [hdata]

/-- The dispatch ends the session of the device: its connection is taken out, or could not
be opened. -/
def EndsSession (d : MonitorDevice) : Event → Prop
  | .finalize => d.loop.connection ≠ none ∧ d.loop.removing = true
  | .queue io => (∃ rq ∈ d.queue.head?, rq.action = .connect) ∧ d.connection = none ∧
      io.socket = true ∧ io.connect = .failed
  | .control _ _ _ _ | .connection _ _ _ | .timer _ => False

instance (d : MonitorDevice) : (e : Event) → Decidable (EndsSession d e)
  | .finalize => inferInstanceAs (Decidable (d.loop.connection ≠ none ∧ d.loop.removing = true))
  | .queue io => inferInstanceAs (Decidable ((∃ rq ∈ d.queue.head?, rq.action = .connect) ∧
      d.connection = none ∧ io.socket = true ∧ io.connect = .failed))
  | .control _ _ _ _ | .connection _ _ _ | .timer _ => isFalse id

/-- What a dispatch of a device asks of the database: at most one request. -/
inductive DeviceRequests (d : MonitorDevice) : Event → List IDatabase.Request → Prop where
  | nothing (e : Event) : DeviceRequests d e []
  | ended (e : Event) (hends : EndsSession d e) (hne : d.sessionData.hash ≠ "") :
      DeviceRequests d e [endSessionRequest d.sessionData.hash]
  | opened (io : Io) (rq : IDevice.Request) (rest : List IDevice.Request) (info : Monitor.SessionInfo)
      (hq : d.queue = rq :: rest) (ha : rq.action = .setSession)
      (hb : rq.bulkData = .sessionInfo info) :
      DeviceRequests d (.queue io) [addSessionRequest d.deviceData.hash info]
  | stored (io : Io) (rq : IDevice.Request) (rest : List IDevice.Request) (hq : d.queue = rq :: rest)
      (ha : rq.action = .processData) :
      DeviceRequests d (.queue io) [addDataRequest d.sessionData.hash rq.bulkData]

lemma dispatch_database {d d' : MonitorDevice} {e : Event} {dbrq : List IDatabase.Request}
    (h : Dispatch d e d' dbrq) : DeviceRequests d e dbrq := by
  have hclosing : EndsSession d e → DeviceRequests d e
      (if d.sessionData.hash = "" then [] else [endSessionRequest d.sessionData.hash]) := by
    intro hends
    by_cases hempty : d.sessionData.hash = ""
    · rw [if_pos hempty]
      exact .nothing e
    · rw [if_neg hempty]
      exact .ended e hends hempty
  cases h with
  | finalize hc hr =>
    rw [finalize_snd]
    exact hclosing ⟨hc, hr⟩
  | connectFailed io rq rest hq ha hc hs hio =>
    rw [connectFailed_snd]
    exact hclosing ⟨⟨rq, by simp [hq], ha⟩, hc, hs, hio⟩
  | sessionSet io rq rest info hq ha hb => exact .opened io rq rest info hq ha hb
  | dataProcessed io rq rest hq ha => exact .stored io rq rest hq ha
  | _ => exact .nothing _

/-- The connection source in the loop is the connection of the device. -/
def Attached (d : MonitorDevice) : Prop := d.loop.connection = d.connection

lemma attached_step {d d' : MonitorDevice} {e : Event} {dbrq : List IDatabase.Request}
    (h : Attached d) (hd : Dispatch d e d' dbrq) : Attached d' := by
  unfold Attached at h ⊢
  cases hd with
  | idle | control | dropped | descriptorSent | sessionSet | streamStarted | requested
  | dataProcessed => exact h
  | read clock input last d₁ keep hc hr hacc =>
    obtain ⟨added, streams, rfl, -⟩ := accepts_eq hacc
    cases keep
    · exact h
    · exact h
  | finalize =>
    rw [finalize_fst]
  | connectFailed io rq rest hq ha hc =>
    rw [connectFailed_fst]
    exact h.trans hc
  | connected => rfl
  | disconnecting io rq rest c =>
    rw [remConnectionSource_eq]
    exact h
  | streamStopped =>
    rw [stopUpdateLanes_eq]
    exact h

/-- A queue dispatch in which every system call succeeds. -/
def queueUp : Event := .queue ⟨true, .established, true, true⟩

def connectRequest : Event := .control .connect 0 [] default

def disconnectRequest : Event := .control .disconnect 0 [] default

def startRequest : Event := .control .startCollecting 0 [] default

/-- A client connects the device. -/
def connectionUp : List Event := [connectRequest, queueUp, queueUp]

/-- A monitor announces a session with one data source on its fast lane. -/
def sessionEnvelope (hash : String) : Envelope :=
  ⟨.monitor, .setSession, .sessionInfo { (default : Monitor.SessionInfo) with
    hash := hash
    fastLaneSources := [.procEvent] }⟩

end TkmCollector.Proofs
