import TkmCollector.Proofs.QueueContents

namespace TkmCollector.Proofs

open Application

/-- The handler of the queue that is dispatched returns true. -/
def ReturnsTrue (b : Backend) (s : Application) (e : Event) (_ : Application) : Prop :=
  match e with
  | .dispatcher write => ∀ entry ∈ s.dispatcher.head?, Dispatcher.result entry.request write = true
  | .queue hash io => ∀ d ∈ s.collector.devices.getDevice hash, ∀ o,
      d.step (.queue io) = .ok o → o.result = true
  | .database io => ∀ entry ∈ s.collector.queue.head?, ∀ o,
      Database.requestHandler b s.collector.deviceState io s.collector.tables entry.request = .ok o →
        o.result = true
  | .accept | .control _ _ _ | .connection _ _ _ _ | .finalize _ | .timer _ _ => True

/-- Every status for a client is written, and so is every `CreateSession` for a monitor. -/
def WriteGuard (s : Application) : Event → Prop
  | .dispatcher write => ∀ entry ∈ s.dispatcher.head?,
      entry.request.action = .sendStatus → entry.request.client ≠ none → write = true
  | .queue hash io => ∀ d ∈ s.collector.devices.getDevice hash, ∀ rq ∈ d.queue.head?,
      rq.action = .requestSession → d.connection ≠ none → io.write = true
  | .accept | .control _ _ _ | .connection _ _ _ _ | .finalize _ | .timer _ _ | .database _ => True

instance (s : Application) : (e : Event) → Decidable (WriteGuard s e)
  | .dispatcher write => inferInstanceAs (Decidable (∀ entry ∈ s.dispatcher.head?,
      entry.request.action = .sendStatus → entry.request.client ≠ none → write = true))
  | .queue hash io => inferInstanceAs (Decidable (∀ d ∈ s.collector.devices.getDevice hash,
      ∀ rq ∈ d.queue.head?, rq.action = .requestSession → d.connection ≠ none → io.write = true))
  | .accept | .control _ _ _ | .connection _ _ _ _ | .finalize _ | .timer _ _ | .database _ =>
    inferInstanceAs (Decidable True)

section Database

variable {b : Backend} {states : String → Option Control.DeviceState} {io : DbIo} {t : Tables}
  {rq : IDatabase.Request} {o : DbOutcome}

lemma database_result (h : Database.requestHandler b states io t rq = .ok o) : o.result = true := by
  cases requestHandler_handled h <;> rfl

end Database

section Device

variable {d : MonitorDevice} {rq : IDevice.Request} {io : Io} {o : Outcome}

lemma device_result (h : MonitorDevice.requestHandler d rq io = .ok o) :
    o.result = true ↔ (rq.action = .requestSession → io.write = true) := by
  unfold MonitorDevice.requestHandler at h
  cases ha : rq.action with
  | requestSession =>
    simp only [ha, MonitorDevice.doRequestSession] at h
    split at h
    · cases h
    · rw [← Except.ok.inj h]
      simp
  | connect =>
    simp only [ha, MonitorDevice.doConnect] at h
    split at h
    · simp [← Except.ok.inj h]
    · split at h
      · cases h
      · split at h
        · cases h
        · simp [← Except.ok.inj h]
        · simp [← Except.ok.inj h]
  | disconnect =>
    simp only [ha, MonitorDevice.doDisconnect] at h
    split at h
    · split at h
      · cases h
      · simp [← Except.ok.inj h]
    · simp [← Except.ok.inj h]
  | sendDescriptor =>
    simp only [ha, MonitorDevice.doSendDescriptor] at h
    split at h
    · cases h
    · split at h <;> simp [← Except.ok.inj h]
  | setSession =>
    simp only [ha, MonitorDevice.doSetSession] at h
    split at h
    · cases h
    · simp [← Except.ok.inj h]
  | startCollecting =>
    simp only [ha, MonitorDevice.doStartCollecting] at h
    split at h
    · simp [← Except.ok.inj h]
    · split at h <;> simp [← Except.ok.inj h]
  | stopCollecting =>
    simp only [ha, MonitorDevice.doStopCollecting] at h
    split at h <;> simp [← Except.ok.inj h]
  | startStream =>
    simp only [ha, MonitorDevice.doStartStream, Except.ok.injEq] at h
    simp [← h]
  | stopStream =>
    simp only [ha, MonitorDevice.doStopStream, Except.ok.injEq] at h
    simp [← h]
  | processData =>
    simp only [ha, MonitorDevice.doProcessData, Except.ok.injEq] at h
    simp [← h]
  | status =>
    simp only [ha, MonitorDevice.doStatus] at h
    split at h
    · cases h
    · simp [← Except.ok.inj h]

lemma queue_result (d : MonitorDevice) (io : Io) :
    (∀ o, d.step (.queue io) = .ok o → o.result = true) ↔
      ∀ rq ∈ d.queue.head?, rq.action = .requestSession → d.connection ≠ none → io.write = true := by
  cases hq : d.queue with
  | nil =>
    simp [MonitorDevice.step, hq]
  | cons rq rest =>
    have hstep : d.step (.queue io) = MonitorDevice.requestHandler (popped d rest) rq io := by
      simp only [MonitorDevice.step, hq]
      rfl
    rw [hstep]
    constructor
    · intro h rq' hrq haction hconnection
      obtain rfl : rq = rq' := by simpa using hrq
      obtain ⟨c, hc⟩ := Option.ne_none_iff_exists'.mp hconnection
      have hpopped : (popped d rest).connection = some c := hc
      have hok : MonitorDevice.requestHandler (popped d rest) rq io =
          .ok ⟨popped d rest, [], [], [⟨"CreateSession", .createSession⟩], io.write⟩ := by
        simp only [MonitorDevice.requestHandler, haction, MonitorDevice.doRequestSession, hpopped]
      exact h _ hok
    · intro h o ho
      rw [device_result ho]
      intro haction
      apply h rq rfl haction
      intro hnone
      have hpopped : (popped d rest).connection = none := hnone
      simp [MonitorDevice.requestHandler, haction, MonitorDevice.doRequestSession, hpopped] at ho

end Device

lemma dispatcher_result (rq : Dispatcher.Request) (write : Bool) :
    Dispatcher.result rq write = true ↔ (rq.action = .sendStatus → rq.client ≠ none → write = true) := by
  unfold Dispatcher.result
  cases rq.action <;> cases rq.client <;> simp

lemma sendStatus_ok {rq : Dispatcher.Request} (known : String → Bool) (haction : rq.action = .sendStatus)
    (hclient : rq.client ≠ none) (hready : DispatcherReady rq) :
    ∃ o, Dispatcher.requestHandler known rq = .ok o := by
  unfold DispatcherReady at hready
  rw [haction] at hready
  obtain ⟨client, hc⟩ := Option.ne_none_iff_exists'.mp hclient
  obtain ⟨status, hstatus⟩ := Option.isSome_iff_exists.mp (hready hclient)
  simp [Dispatcher.requestHandler, haction, Dispatcher.doSendStatus, hc, Args.atKey, hstatus]

lemma returnsTrue_iff {b : Backend} {s : Application} {e : Event} (hs : QueuesReady s) :
    (∀ s', Application.step b s e = .ok s' → ReturnsTrue b s e s') ↔ WriteGuard s e := by
  cases e with
  | dispatcher write =>
    constructor
    · intro h entry hentry haction hclient
      obtain ⟨rest, hq⟩ := List.head?_eq_some_iff.mp hentry
      have hready := hs.dispatcher entry (List.mem_of_mem_head? hentry)
      obtain ⟨o, ho⟩ := sendStatus_ok s.known haction hclient hready
      have hstep : Application.step b s (.dispatcher write) =
          .ok (deliver { s with dispatcher := rest } o write entry.served) := by
        simp only [Application.step, hq, ho]
      exact (dispatcher_result _ _).mp (h _ hstep entry hentry) haction hclient
    · intro h s' _ entry hentry
      exact (dispatcher_result _ _).mpr (h entry hentry)
  | queue hash io =>
    constructor
    · intro h d hd
      apply (queue_result d io).mp
      intro o ho
      have hget : s.collector.devices.getDevice hash = some d := hd
      have hstep : ∃ s', Application.step b s (.queue hash io) = .ok s' := by
        simp [Application.step, onCollector, Collector.step, hget, ho]
      exact h _ hstep.choose_spec d hd o ho
    · intro h s' _ d hd
      exact (queue_result d io).mpr (h d hd)
  | database io =>
    constructor
    · intro _
      trivial
    · intro _ s' _ entry _ o ho
      exact database_result ho
  | _ =>
    constructor
    · intro _
      trivial
    · intro _ _ _
      trivial

lemma result_of_returnsTrue {b : Backend} {s s' : Application} {e : Event}
    (h : ReturnsTrue b s e s') : EventLoop.result b s e = true := by
  cases e with
  | dispatcher write =>
    unfold EventLoop.result
    cases hq : s.dispatcher with
    | nil => rfl
    | cons entry rest => exact h entry (by rw [hq]; rfl)
  | queue hash io =>
    unfold EventLoop.result
    dsimp only
    cases hget : s.collector.devices.getDevice hash with
    | none => rfl
    | some d =>
      dsimp only
      cases ho : d.step (.queue io) with
      | error fault => rfl
      | ok o => exact h d hget o ho
  | database io =>
    unfold EventLoop.result
    dsimp only
    cases hq : s.collector.queue with
    | nil => rfl
    | cons entry rest =>
      dsimp only
      cases ho : Database.requestHandler b s.collector.deviceState io s.collector.tables
          entry.request with
      | error fault => rfl
      | ok o => exact h entry (by rw [hq]; rfl) o ho
  | _ => rfl

/-- In every run, whatever other writes fail, every handler returns true exactly when every status
reaches its client and every `CreateSession` its monitor. -/
theorem handlers_return_true (b : Backend) (tables : Tables) (erase failed : Bool)
    (events : List Event) :
    Machine.EachStep (Application.step b) (ReturnsTrue b) (start tables erase failed) events ↔
      Machine.Guarded (Application.step b) WriteGuard (start tables erase failed) events := by
  exact Machine.eachStep_iff_guarded (queuesReady_preserves b) (fun _ _ => returnsTrue_iff)
    (queuesReady_start tables erase failed)

/-- A client asks for a device that nobody knows, and is gone before the status. -/
def clientGone : List Event :=
  [.accept, asks 0 ⟨"1", .connectDevice, false, .deviceData default⟩, dispatched, .dispatcher false]

/-- The handler of the dispatcher returns false, and its queue is served no more. -/
theorem handler_returns_false :
    ¬ Machine.EachStep (Application.step (plainBackend .sqlite3)) (ReturnsTrue (plainBackend .sqlite3))
      (start (tablesWith []) false false) clientGone := by
  rw [Machine.eachStep_iff_guarded (queuesReady_preserves _) (fun _ _ => returnsTrue_iff)
    (queuesReady_start (tablesWith []) false false)]
  decide

end TkmCollector.Proofs
