import TkmCollector.Proofs.DeviceFrame

/-!
# Use of a connection that is not there

The handlers that write to the monitor test the state of the device, if anything, and
not its connection. The connection goes away in a dispatch of its own, so a run is safe
when nothing that needs the connection is left behind at that moment.
-/

namespace TkmCollector.Proofs
open MonitorDevice Control

/-- The actions whose handlers use the connection without a test. -/
def needsConnection : IDevice.Action → Bool
  | .sendDescriptor | .requestSession => true
  | .connect | .disconnect | .setSession | .startCollecting | .stopCollecting | .startStream
  | .stopStream | .processData | .status => false

/-- What may be handled without a connection. A stale `SetSession` or `StopStream` changes the state
of the device, so that a handler that tests the state would go on. -/
def HandledAlone (d : MonitorDevice) (action : IDevice.Action) : Prop :=
  match action with
  | .disconnect => d.state = .disconnected
  | .startCollecting => d.state ≠ .connected ∧ d.state ≠ .idle
  | .startStream => False
  | .connect | .sendDescriptor | .requestSession | .setSession | .stopCollecting | .stopStream
  | .processData | .status => True

instance (d : MonitorDevice) : (action : IDevice.Action) → Decidable (HandledAlone d action)
  | .disconnect => inferInstanceAs (Decidable (d.state = .disconnected))
  | .startCollecting => inferInstanceAs (Decidable (d.state ≠ .connected ∧ d.state ≠ .idle))
  | .startStream => .isFalse id
  | .connect | .sendDescriptor | .requestSession | .setSession | .stopCollecting | .stopStream
  | .processData | .status => .isTrue trivial

/-- When a connection is taken out, the queue holds nothing that needs one, and the loop no timer
that the device lost track of. Without a connection no stream is started, and no handler takes the
device for a connected one. -/
def ConnectionGuard (d : MonitorDevice) : Event → Prop
  | .queue _ => d.connection = none → ∀ rq ∈ d.queue.head?, HandledAlone d rq.action
  | .finalize => d.loop.connection ≠ none → d.loop.removing = true →
      (∀ rq ∈ d.queue, needsConnection rq.action = false) ∧ ∀ t ∈ d.loop.timers, Held d t
  | _ => True

instance (d : MonitorDevice) : (e : Event) → Decidable (ConnectionGuard d e)
  | .queue _ => inferInstanceAs
      (Decidable (d.connection = none → ∀ rq ∈ d.queue.head?, HandledAlone d rq.action))
  | .finalize => inferInstanceAs (Decidable (d.loop.connection ≠ none → d.loop.removing = true →
      (∀ rq ∈ d.queue, needsConnection rq.action = false) ∧ ∀ t ∈ d.loop.timers, Held d t))
  | .control _ _ _ _ | .connection _ _ _ | .timer _ => inferInstanceAs (Decidable True)

/-- A device without a connection is at rest. -/
structure AtRest (d : MonitorDevice) : Prop where
  queue : ∀ rq ∈ d.queue, needsConnection rq.action = false
  timers : d.loop.timers = []

structure ConnectionInvariant (d : MonitorDevice) : Prop where
  attached : Attached d
  rest : d.connection = none → AtRest d

lemma connectionInvariant_loaded (deviceData : DeviceData) :
    ConnectionInvariant (loaded deviceData) where
  attached := rfl
  rest _ := ⟨by simp [loaded], rfl⟩

lemma AtRest.popped {d : MonitorDevice} (h : AtRest d) {rq : IDevice.Request}
    {rest : List IDevice.Request} (hq : d.queue = rq :: rest) : AtRest (popped d rest) where
  queue r hr := h.queue r (mem_of_popped hq hr)
  timers := h.timers

lemma AtRest.head {d : MonitorDevice} (h : AtRest d) {rq : IDevice.Request}
    {rest : List IDevice.Request} (hq : d.queue = rq :: rest) : needsConnection rq.action = false := by
  apply h.queue
  simp [hq]

lemma AtRest.pushed {d : MonitorDevice} (h : AtRest d) {rq : IDevice.Request}
    (hrq : needsConnection rq.action = false) : AtRest (d.pushRequest rq) where
  queue r hr := by
    simp only [pushRequest, List.mem_append, List.mem_singleton] at hr
    obtain hold | rfl := hr
    · exact h.queue r hold
    · exact hrq
  timers := h.timers

lemma connectionInvariant_preserves :
    Machine.Preserves next ConnectionGuard ConnectionInvariant := by
  intro d e d' hinv hg hnext
  obtain ⟨dbrq, hd⟩ := next_dispatch hnext
  refine ⟨attached_step hinv.attached hd, ?_⟩
  cases hd with
  | idle => exact hinv.rest
  | control action client args data =>
    intro hc
    have hrest : AtRest d := hinv.rest hc
    apply hrest.pushed
    cases action <;> rfl
  | read clock input last d₁ keep hc hr hacc =>
    obtain ⟨added, streams, rfl, -⟩ := accepts_eq hacc
    have hconn : d.connection ≠ none := by
      rw [← hinv.attached]
      exact hc
    cases keep
    · exact fun hn => absurd hn hconn
    · exact fun hn => absurd hn hconn
  | finalize hc hr =>
    obtain ⟨hqueue, hheld⟩ := hg hc hr
    intro _
    rw [finalize_fst]
    refine ⟨hqueue, ?_⟩
    simp only [List.filter_eq_nil_iff, decide_eq_true_eq, not_not]
    exact hheld
  | dropped io rq rest hq => exact fun hc => (hinv.rest hc).popped hq
  | connectFailed io rq rest hq ha hc =>
    have hrest : AtRest d := hinv.rest hc
    intro _
    rw [connectFailed_fst]
    refine ⟨(hrest.popped hq).queue, ?_⟩
    simp [hrest.timers]
  | connected => simp [pushRequest, enableConnection, connecting]
  | descriptorSent io rq rest hq ha hc => exact fun hn => absurd hn hc
  | sessionSet io rq rest info hq ha =>
    intro hc
    have hrest := (hinv.rest hc).popped hq
    have hset : AtRest ((sessionTaken (popped d rest) info).setState .sessionSet) :=
      ⟨hrest.queue, hrest.timers⟩
    exact hset.pushed rfl
  | disconnecting io rq rest c hq ha hc =>
    rw [remConnectionSource_eq]
    intro hn
    exact absurd (hc.symm.trans hn) (by simp)
  | streamStarted io rq rest hq ha =>
    intro hc
    have halone := hg hc rq (by simp [hq])
    rw [ha] at halone
    exact halone.elim
  | streamStopped io rq rest hq ha =>
    intro hc
    have hrest := (hinv.rest (by simpa [setState, popped] using hc)).popped hq
    rw [stopUpdateLanes_eq]
    refine ⟨hrest.queue, ?_⟩
    simp [setState, hrest.timers]
  | requested io rq rest action hq ha hs hstop =>
    intro hc
    apply ((hinv.rest hc).popped hq).pushed
    -- a session is requested in a state that `StartCollecting` takes for a connected one
    obtain ⟨rfl, hstate⟩ | ⟨rfl, -⟩ | ⟨rfl, -⟩ := hs
    · obtain ha | ha := ha
      · have halone := hg hc rq (by simp [hq])
        rw [ha] at halone
        obtain hstate | hstate := hstate
        · exact absurd hstate halone.1
        · exact absurd hstate halone.2
      · cases hstop ha
    · rfl
    · rfl
  | dataProcessed io rq rest hq => exact fun hc => (hinv.rest hc).popped hq

lemma next_ne_nullConnection (d : MonitorDevice) (e : Event) (hinv : ConnectionInvariant d)
    (hg : ConnectionGuard d e) : d.next e ≠ .error .nullConnection := by
  intro h
  obtain ⟨hc, huse⟩ := next_nullConnection h
  have hrest : AtRest d := hinv.rest hc
  obtain ⟨io, rq, rest, rfl, hq, ha⟩ | ⟨t, ht, rfl⟩ := huse
  · have hhead := hrest.head hq
    obtain ha | ha | ⟨ha, hs⟩ := ha
    · simp [ha, needsConnection] at hhead
    · simp [ha, needsConnection] at hhead
    · have halone := hg hc rq (by simp [hq])
      rw [ha] at halone
      exact hs halone
  · rw [hrest.timers] at ht
    simp at ht

/-- A run never uses a connection that is not there, provided that each loss of a connection finds
no request in the queue that needs it and no timer in the loop that the device does not hold, and that
until the next one no stream is started and no handler finds the state of a connected device. -/
theorem no_nullConnection (deviceData : DeviceData) (events : List Event)
    (h : Machine.Guarded next ConnectionGuard (loaded deviceData) events) :
    Machine.run next (loaded deviceData) events ≠ .error .nullConnection :=
  Machine.run_ne_error connectionInvariant_preserves next_ne_nullConnection
    (connectionInvariant_loaded deviceData) h

/-- A client disconnects and reconnects a collecting device: nothing is used in vain. -/
theorem no_nullConnection_reconnect :
    Machine.run next (loaded default)
        (connectionUp ++ [.connection ⟨0, 0⟩ [sessionEnvelope "s"] .again, queueUp, queueUp,
          disconnectRequest, queueUp, .finalize] ++ connectionUp) ≠
      .error .nullConnection :=
  no_nullConnection default _ (by decide)

/-- The code does use a missing connection: when a device that was only loaded is asked to
disconnect, when the connection is lost before the descriptor is sent, when a session is
requested after the loss, and when a stale `StartStream` leaves a timer running. -/
theorem nullConnection_reached :
    Machine.run next (loaded default) [disconnectRequest, queueUp] = .error .nullConnection ∧
    Machine.run next (loaded default)
        [connectRequest, queueUp, .connection ⟨0, 0⟩ [] .endOfFile, .finalize, queueUp] =
      .error .nullConnection ∧
    Machine.run next (loaded default)
        (connectionUp ++ [startRequest, queueUp, .connection ⟨0, 0⟩ [] .endOfFile, .finalize, queueUp]) =
      .error .nullConnection ∧
    Machine.run next (loaded default)
        (connectionUp ++ [.connection ⟨0, 0⟩ [sessionEnvelope "s"] .endOfFile, queueUp, .finalize,
          queueUp, .timer ⟨0, .fast, 0⟩]) =
      .error .nullConnection := by
  refine ⟨rfl, rfl, rfl, rfl⟩

end TkmCollector.Proofs
