import TkmCollector.Library.Unwinding
import TkmCollector.Proofs.DeviceFrame

namespace TkmCollector.Proofs

open MonitorDevice Unwinding

@[simp] lemma map_ok {α β ε : Type} (f : α → β) (x : α) :
    (Except.ok x : Except ε α).map f = .ok (f x) := rfl

@[simp] lemma map_error {α β ε : Type} (f : α → β) (e : ε) :
    (Except.error e : Except ε α).map f = .error e := rfl

section Behind

variable (queue : List IDevice.Request) (streams : List (List StreamItem)) (d : MonitorDevice)

/-- The device with requests in front of its queue and connections before its first. -/
def behind : MonitorDevice :=
  { d with queue := queue ++ d.queue, streams := d.streams ++ streams }

@[simp] lemma behind_connection : (behind queue streams d).connection = d.connection := rfl

@[simp] lemma behind_state : (behind queue streams d).state = d.state := rfl

@[simp] lemma behind_dataSources : (behind queue streams d).dataSources = d.dataSources := rfl

@[simp] lemma behind_setState (state : Control.DeviceState) :
    (behind queue streams d).setState state = behind queue streams (d.setState state) := rfl

@[simp] lemma behind_pushRequest (rq : IDevice.Request) :
    (behind queue streams d).pushRequest rq = behind queue streams (d.pushRequest rq) := by
  simp [behind, pushRequest]

@[simp] lemma behind_stopUpdateLanes :
    (behind queue streams d).stopUpdateLanes = behind queue streams d.stopUpdateLanes := by
  rw [stopUpdateLanes_eq, stopUpdateLanes_eq]
  rfl

@[simp] lemma behind_updateState (state : Control.DeviceState) :
    (behind queue streams d).updateState state =
      (behind queue streams (d.updateState state).1, (d.updateState state).2) := by
  by_cases h : state = .disconnected ∧ d.sessionData.hash.length > 0
  · simp [updateState, setState, behind, h]
  · simp [updateState, setState, behind, h]

@[simp] lemma behind_enableConnection :
    (behind queue streams d).enableConnection = behind queue streams d.enableConnection := rfl

@[simp] lemma behind_remConnectionSource (c : Connection) :
    (behind queue streams d).remConnectionSource c =
      behind queue streams (d.remConnectionSource c) := by
  rw [remConnectionSource_eq, remConnectionSource_eq]
  rfl

@[simp] lemma behind_deleteConnection :
    (behind queue streams d).deleteConnection = behind queue streams d.deleteConnection := by
  unfold deleteConnection
  rw [behind_stopUpdateLanes]
  rfl

@[simp] lemma behind_createConnection :
    (behind queue streams d).createConnection = d.createConnection.map (behind queue streams) := by
  unfold createConnection
  rw [behind_connection]
  cases d.connection <;> rfl

end Behind

/-- A handler works behind a queue as it works without one. -/
def outcomeBehind (queue : List IDevice.Request) (streams : List (List StreamItem)) (o : Outcome) :
    Outcome :=
  { o with device := behind queue streams o.device }

lemma requestHandler_behind (queue : List IDevice.Request) (streams : List (List StreamItem))
    (d : MonitorDevice) (rq : IDevice.Request) (io : Io) :
    requestHandler (behind queue streams d) rq io =
      (requestHandler d rq io).map (outcomeBehind queue streams) := by
  obtain ⟨client, action, args, bulkData⟩ := rq
  cases action with
  | connect =>
    unfold requestHandler doConnect
    rw [behind_createConnection]
    cases d.createConnection with
    | none => rfl
    | some d' =>
      cases hsocket : io.socket with
      | false => simp
      | true =>
        cases hconnect : io.connect with
        | unresolved => simp
        | failed => simp [disconnect, outcomeBehind]
        | established => simp [outcomeBehind]
  | disconnect =>
    unfold requestHandler doDisconnect
    rw [behind_state, behind_connection]
    by_cases hstate : d.state ≠ .disconnected
    · rw [if_pos hstate, if_pos hstate]
      cases d.connection with
      | none => rfl
      | some c => simp [outcomeBehind]
    · rw [if_neg hstate, if_neg hstate]
      rfl
  | sendDescriptor =>
    unfold requestHandler doSendDescriptor
    rw [behind_connection]
    cases d.connection with
    | none => rfl
    | some c =>
      cases hsend : io.send with
      | false => rfl
      | true => simp [outcomeBehind]
  | requestSession =>
    unfold requestHandler doRequestSession
    rw [behind_connection]
    cases d.connection <;> rfl
  | setSession =>
    unfold requestHandler doSetSession
    cases hcast : bulkData.castSessionInfo with
    | error fault => rfl
    | ok info =>
      simp [updateState, outcomeBehind, setState, behind, pushRequest]
  | startCollecting =>
    unfold requestHandler doStartCollecting
    rw [behind_state]
    by_cases hidle : d.state = .connected ∨ d.state = .idle
    · rw [if_pos hidle, if_pos hidle, behind_pushRequest]
      rfl
    · rw [if_neg hidle, if_neg hidle]
      by_cases hset : d.state = .sessionSet
      · rw [if_pos hset, if_pos hset, behind_pushRequest]
        rfl
      · rw [if_neg hset, if_neg hset]
        rfl
  | stopCollecting =>
    unfold requestHandler doStopCollecting
    rw [behind_state]
    by_cases hstate : d.state = .collecting
    · rw [if_pos hstate, if_pos hstate, behind_pushRequest]
      rfl
    · rw [if_neg hstate, if_neg hstate]
      rfl
  | startStream => rfl
  | stopStream => simp [requestHandler, doStopStream, outcomeBehind]
  | processData => rfl
  | status =>
    unfold requestHandler doStatus
    cases hcast : bulkData.castStatus <;> rfl

/-- What a message says of its origin is history. -/
def bareData : BulkData → BulkData
  | .data m => .data { m with origin := none }
  | bulkData => bulkData

def bareRequest {Action : Type} (rq : Request Action) : Request Action :=
  { rq with bulkData := bareData rq.bulkData }

@[simp] lemma bareRequest_bare {Action : Type} (rq : Request Action) :
    bareRequest (bareRequest rq) = bareRequest rq := by
  obtain ⟨client, action, args, bulkData⟩ := rq
  cases bulkData <;> rfl

@[simp] lemma map_bareRequest_bare {Action : Type} (requests : List (Request Action)) :
    (requests.map bareRequest).map bareRequest = requests.map bareRequest := by
  rw [List.map_map]
  exact List.map_congr_left fun rq _ => bareRequest_bare rq

/-- The device without its history and without the request at a place of its queue. -/
def bareDevice (place : Option Nat) (d : MonitorDevice) : MonitorDevice :=
  { d with queue := (leaveOut place d.queue).map bareRequest, streams := [] }

def bareOutcome (place : Option Nat) (o : Outcome) : Outcome :=
  { o with device := bareDevice place o.device, database := o.database.map bareRequest }

lemma requestHandler_bareRequest (d : MonitorDevice) (rq : IDevice.Request) (io : Io) :
    (requestHandler d (bareRequest rq) io).map (bareOutcome none) =
      (requestHandler d rq io).map (bareOutcome none) := by
  obtain ⟨client, action, args, bulkData⟩ := rq
  cases bulkData with
  | data m =>
    cases action with
    | connect =>
      unfold requestHandler doConnect
      cases d.createConnection with
      | none => rfl
      | some d' =>
        simp only [bareRequest, bareData]
        split
        · rfl
        · split
          · rfl
          · rfl
          · simp [bareOutcome, bareDevice, pushRequest, bareRequest, bareData]
    | _ => rfl
  | _ => rfl

/-- The requests that the read loop makes of the envelopes, without their history, and whether it
reads on. -/
def readRequests (clock : Clock) (last : ReadStatus) : List Envelope → List IDevice.Request × Bool
  | [] => ([], last = .again)
  | envelope :: rest =>
    if envelope.origin ≠ .monitor then readRequests clock last rest
    else
      let payload := envelope.mesg.payload
      let later := readRequests clock last rest
      match envelope.mesg.type with
      | .setSession => (sessionRequest (acceptedInfo clock payload) :: later.1, later.2)
      | .data =>
        (dataRequest { payload.unpackData with receiveTimeSec := clock.now, origin := none } ::
          later.1, later.2)
      | .status => (statusRequest payload.unpackStatus :: later.1, later.2)
      | .unknown => ([], false)

lemma readEnvelopes_requests (clock : Clock) (last : ReadStatus) (d : MonitorDevice)
    (input : List Envelope) :
    ∃ added streams,
      readEnvelopes clock last d input =
        ({ d with queue := d.queue ++ added, streams := streams }, (readRequests clock last input).2) ∧
      added.map bareRequest = (readRequests clock last input).1 := by
  induction input generalizing d with
  | nil => exact ⟨[], d.streams, by simp [readEnvelopes, readRequests], rfl⟩
  | cons envelope rest ih =>
    obtain ⟨origin, type, payload⟩ := envelope
    -- a request that is pushed is read before those of the rest
    have hpushed : ∀ (d' : MonitorDevice) (streams : List (List StreamItem)) (rq : IDevice.Request),
        d' = { d with streams := streams } → ∃ added streams',
          readEnvelopes clock last (d'.pushRequest rq) rest =
            ({ d with queue := d.queue ++ added, streams := streams' },
              (readRequests clock last rest).2) ∧
          added.map bareRequest = bareRequest rq :: (readRequests clock last rest).1 := by
      intro d' streams rq hd'
      obtain ⟨added, streams', hread, hadded⟩ := ih (d'.pushRequest rq)
      refine ⟨rq :: added, streams', ?_, ?_⟩
      · rw [hread, hd']
        simp [pushRequest]
      · rw [List.map_cons, hadded]
    rw [readEnvelopes, readRequests]
    by_cases horigin : origin ≠ .monitor
    · rw [if_pos horigin, if_pos horigin]
      exact ih d
    · rw [if_neg horigin, if_neg horigin]
      cases type with
      | setSession =>
        obtain ⟨streams, hrecord⟩ := record_eq d (.session (acceptedInfo clock payload))
        exact hpushed _ streams _ hrecord
      | data =>
        obtain ⟨streams, hrecord⟩ := record_eq d (.data (acceptedData clock d payload))
        exact hpushed _ streams _ hrecord
      | status => exact hpushed d d.streams (statusRequest payload.unpackStatus) rfl
      | unknown => exact ⟨[], d.streams, by simp, rfl⟩

lemma update_behind (queue : List IDevice.Request) (streams : List (List StreamItem))
    (d : MonitorDevice) (lane : UpdateLane) :
    (behind queue streams d).update lane = (d.update lane).map (outcomeBehind queue streams) := by
  unfold update
  rw [behind_dataSources, behind_connection]
  by_cases hdue : (d.dataSources.filter fun entry => entry.lane = lane ∨ entry.lane = .any) = []
  · rw [if_pos hdue]
    simp only [if_pos hdue]
    rfl
  · rw [if_neg hdue]
    simp only [if_neg hdue]
    cases d.connection <;> rfl

lemma finalize_behind (queue : List IDevice.Request) (streams : List (List StreamItem))
    (d : MonitorDevice) :
    (behind queue streams d).finalize = (behind queue streams d.finalize.1, d.finalize.2) := by
  apply Prod.ext
  · rw [finalize_fst, finalize_fst]
    rfl
  · rw [finalize_snd, finalize_snd]
    rfl

/-- The place in the queue of a device after a dispatch. -/
def nextPlace (place : Option Nat) : Event → Option Nat
  | .queue _ => place.map (· - 1)
  | .control _ _ _ _ | .connection _ _ _ | .finalize | .timer _ => place

/-- A device with nothing in its queue and its history. -/
def cleared (d : MonitorDevice) : MonitorDevice :=
  { d with queue := [], streams := [] }

lemma behind_cleared (d : MonitorDevice) : behind d.queue d.streams (cleared d) = d := by
  simp [behind, cleared]

lemma bareDevice_eq (place : Option Nat) (d : MonitorDevice) :
    bareDevice place d = behind ((leaveOut place d.queue).map bareRequest) [] (cleared d) := by
  simp [behind, cleared, bareDevice]

lemma bareOutcome_behind {place : Option Nat} {queue : List IDevice.Request}
    {streams : List (List StreamItem)} (h : Within place queue) (o : Outcome) :
    bareOutcome place (outcomeBehind queue streams o) =
      bareOutcome none (outcomeBehind ((leaveOut place queue).map bareRequest) [] o) := by
  unfold bareOutcome outcomeBehind bareDevice behind
  simp [leaveOut_append h]

/-- A handler that works behind a queue does the same behind the queue without one request. -/
lemma requestHandler_bare {place : Option Nat} {d : MonitorDevice} (h : Within place d.queue)
    (rq : IDevice.Request) (io : Io) :
    (requestHandler (bareDevice place d) (bareRequest rq) io).map (bareOutcome none) =
      (requestHandler d rq io).map (bareOutcome place) := by
  have hself := requestHandler_behind d.queue d.streams (cleared d) rq io
  rw [behind_cleared] at hself
  rw [requestHandler_bareRequest, bareDevice_eq, requestHandler_behind, hself]
  cases requestHandler (cleared d) rq io with
  | error fault => rfl
  | ok o =>
    simp only [map_ok]
    rw [bareOutcome_behind h]

/-- A dispatch does the same for the device without its history and without a request that is
not handled in it. -/
theorem step_bareDevice {place : Option Nat} {d : MonitorDevice} {e : Event}
    (h : Within place d.queue) (hdue : ∀ io, e = .queue io → place ≠ some 0) :
    ((bareDevice place d).step e).map (bareOutcome none) =
      (d.step e).map (bareOutcome (nextPlace place e)) := by
  cases e with
  | control action client args data =>
    simp [step, bareOutcome, bareDevice, pushRequest, nextPlace, leaveOut_append h]
  | connection clock input last =>
    obtain ⟨added, streams, hread, hadded⟩ := readEnvelopes_requests clock last d input
    obtain ⟨added', streams', hread', hadded'⟩ :=
      readEnvelopes_requests clock last (bareDevice place d) input
    by_cases hidle : d.loop.connection = none ∨ d.loop.removing = true
    · have hidle' : (bareDevice place d).loop.connection = none ∨
          (bareDevice place d).loop.removing = true := hidle
      rw [step, step, if_pos hidle, if_pos hidle']
      simp [bareOutcome, bareDevice, nextPlace]
    · have hidle' : ¬ ((bareDevice place d).loop.connection = none ∨
          (bareDevice place d).loop.removing = true) := hidle
      rw [step, step, if_neg hidle, if_neg hidle', hread, hread']
      cases (readRequests clock last input).2 with
      | true => simp [bareOutcome, bareDevice, nextPlace, leaveOut_append h, hadded, hadded']
      | false => simp [bareOutcome, bareDevice, nextPlace, leaveOut_append h, hadded, hadded']
  | finalize =>
    by_cases hidle : d.loop.connection = none ∨ d.loop.removing = false
    · have hidle' : (bareDevice place d).loop.connection = none ∨
          (bareDevice place d).loop.removing = false := hidle
      rw [step, step, if_pos hidle, if_pos hidle']
      simp [bareOutcome, bareDevice, nextPlace]
    · have hidle' : ¬ ((bareDevice place d).loop.connection = none ∨
          (bareDevice place d).loop.removing = false) := hidle
      have hself := finalize_behind d.queue d.streams (cleared d)
      rw [behind_cleared] at hself
      rw [step, step, if_neg hidle, if_neg hidle', bareDevice_eq, finalize_behind, hself]
      exact congrArg Except.ok (bareOutcome_behind h
        ⟨(cleared d).finalize.1, [], (cleared d).finalize.2, [], true⟩).symm
  | queue io =>
    cases hqueue : d.queue with
    | nil =>
      rw [hqueue] at h
      rw [h.eq_none]
      have hqueue' : (bareDevice none d).queue = [] := by simp [bareDevice, hqueue]
      rw [step, step, hqueue, hqueue']
      simp [bareOutcome, bareDevice, nextPlace]
    | cons rq rest =>
      have hplace := hdue io rfl
      rw [hqueue] at h
      have hqueue' : (bareDevice place d).queue =
          bareRequest rq :: (leaveOut (place.map (· - 1)) rest).map bareRequest := by
        simp only [bareDevice, hqueue]
        rw [leaveOut_cons hplace, List.map_cons]
      rw [step, step, hqueue, hqueue']
      have hrest := requestHandler_bare (d := popped d rest) (h.tail hplace) rq io
      exact hrest
  | timer timer =>
    by_cases htimer : timer ∈ d.loop.timers
    · have htimer' : timer ∈ (bareDevice place d).loop.timers := htimer
      have hself := update_behind d.queue d.streams (cleared d) timer.lane
      rw [behind_cleared] at hself
      rw [step, step, if_pos htimer, if_pos htimer', bareDevice_eq, update_behind, hself]
      cases (cleared d).update timer.lane with
      | error fault => rfl
      | ok o => exact congrArg Except.ok (bareOutcome_behind h o).symm
    · have htimer' : timer ∉ (bareDevice place d).loop.timers := htimer
      rw [step, step, if_neg htimer, if_neg htimer']
      simp [bareOutcome, bareDevice, nextPlace]

/-- What is left of a queue when a dispatch has taken what it handles. -/
def remaining (queue : List IDevice.Request) : Event → List IDevice.Request
  | .queue _ => queue.tail
  | .control _ _ _ _ | .connection _ _ _ | .finalize | .timer _ => queue

lemma step_remaining {d : MonitorDevice} {e : Event} {o : Outcome} (h : d.step e = .ok o) :
    ∃ added, o.device.queue = remaining d.queue e ++ added := by
  cases e with
  | control action client args data =>
    rw [← Except.ok.inj h]
    exact ⟨_, rfl⟩
  | connection clock input last =>
    obtain ⟨added, streams, hread, -⟩ := readEnvelopes_requests clock last d input
    rw [step] at h
    split at h
    · rw [← Except.ok.inj h]
      exact ⟨[], (List.append_nil _).symm⟩
    · rw [hread] at h
      rw [← Except.ok.inj h]
      cases (readRequests clock last input).2 <;> exact ⟨added, rfl⟩
  | finalize =>
    rw [step] at h
    split at h
    · rw [← Except.ok.inj h]
      exact ⟨[], (List.append_nil _).symm⟩
    · rw [← Except.ok.inj h]
      refine ⟨[], ?_⟩
      have hfinal : d.finalize.1.queue = d.queue := by rw [finalize_fst]
      rw [List.append_nil]
      exact hfinal
  | queue io =>
    rw [step] at h
    cases hqueue : d.queue with
    | nil =>
      rw [hqueue] at h
      rw [← Except.ok.inj h]
      exact ⟨[], hqueue⟩
    | cons rq rest =>
      rw [hqueue] at h
      have hhandled : requestHandler (popped d rest) rq io = .ok o := h
      have hself := requestHandler_behind rest d.streams (cleared d) rq io
      have hpopped : behind rest d.streams (cleared d) = popped d rest := by
        simp [behind, cleared, popped]
      rw [hpopped, hhandled] at hself
      cases ho : requestHandler (cleared d) rq io with
      | error fault => simp [ho] at hself
      | ok o' =>
        rw [ho] at hself
        rw [Except.ok.inj hself]
        exact ⟨o'.device.queue, rfl⟩
  | timer timer =>
    have hupdate : ∀ o, d.update timer.lane = .ok o → o.device = d := by
      intro o ho
      unfold update at ho
      dsimp only at ho
      split at ho
      · rw [← Except.ok.inj ho]
      · cases hc : d.connection with
        | none => simp [hc] at ho
        | some c =>
          rw [hc] at ho
          rw [← Except.ok.inj ho]
    rw [step] at h
    split at h
    · rw [hupdate o h]
      exact ⟨[], (List.append_nil _).symm⟩
    · rw [← Except.ok.inj h]
      exact ⟨[], (List.append_nil _).symm⟩

end TkmCollector.Proofs
