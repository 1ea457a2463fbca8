import TkmCollector.Proofs.DeviceFrame

/-!
# The state of a device and its connection

A device in one of the states `Connected`, `SessionSet`, `Collecting` and `Idle` has a
connection. The handlers that set these states do not look at the connection, so the
relation depends on what a loss of the connection leaves in the queue.
-/

namespace TkmCollector.Proofs
open MonitorDevice Control

/-- The states of a device that has a connection. -/
def needsOpen : DeviceState → Bool
  | .connected | .sessionSet | .collecting | .idle => true
  | .unknown | .loaded | .disconnected | .reconnecting => false

def Coherent (d : MonitorDevice) : Prop := needsOpen d.state = true → d.connection ≠ none

/-- A step out of `Disconnected` sends the descriptor of a connection that is there. -/
def LeavesDisconnected (d : MonitorDevice) (e : Event) (d' : MonitorDevice) : Prop :=
  d.state = .disconnected → d'.state ≠ .disconnected →
    ∃ io rq rest, e = .queue io ∧ d.queue = rq :: rest ∧ rq.action = .sendDescriptor ∧
      io.send = true ∧ d.connection ≠ none

/-- No `SendDescriptor` of the list waits behind a `Connect`. -/
def DescriptorsFirst (queue : List IDevice.Request) : Prop :=
  queue.Pairwise fun a b => a.action = .connect → b.action ≠ .sendDescriptor

instance (queue : List IDevice.Request) : Decidable (DescriptorsFirst queue) :=
  inferInstanceAs (Decidable (queue.Pairwise _))

/-- When a connection is taken out, the queue holds no `SetSession`, `StartStream` or
`StopStream`, and no `SendDescriptor` behind a `Connect`. Over a connection whose
descriptor could not be sent, no session is set. -/
def CoherenceGuard (d : MonitorDevice) : Event → Prop
  | .queue _ => d.state = .disconnected → d.connection ≠ none →
      ∀ rq ∈ d.queue.head?, rq.action ≠ .setSession
  | .finalize => d.loop.connection ≠ none → d.loop.removing = true →
      (∀ rq ∈ d.queue, rq.action ≠ .setSession ∧ rq.action ≠ .startStream ∧
        rq.action ≠ .stopStream) ∧ DescriptorsFirst d.queue
  | _ => True

instance (d : MonitorDevice) : (e : Event) → Decidable (CoherenceGuard d e)
  | .queue _ => inferInstanceAs (Decidable (d.state = .disconnected → d.connection ≠ none →
      ∀ rq ∈ d.queue.head?, rq.action ≠ .setSession))
  | .finalize => inferInstanceAs (Decidable (d.loop.connection ≠ none → d.loop.removing = true →
      (∀ rq ∈ d.queue, rq.action ≠ .setSession ∧ rq.action ≠ .startStream ∧
        rq.action ≠ .stopStream) ∧ DescriptorsFirst d.queue))
  | .control _ _ _ _ | .connection _ _ _ | .timer _ => inferInstanceAs (Decidable True)

/-- Without a connection the device is `Loaded` or `Disconnected`, and its queue cannot
change that; the same queue condition protects `Disconnected` after a reconnect. -/
structure CoherenceInvariant (d : MonitorDevice) : Prop where
  attached : Attached d
  bare : d.connection = none → d.state = .loaded ∨ d.state = .disconnected
  unset : d.connection = none → ∀ rq ∈ d.queue, rq.action ≠ .setSession
  still : d.connection = none ∨ d.state = .disconnected →
    ∀ rq ∈ d.queue, rq.action ≠ .startStream ∧ rq.action ≠ .stopStream

lemma coherenceInvariant_loaded (deviceData : DeviceData) :
    CoherenceInvariant (loaded deviceData) where
  attached := rfl
  bare _ := .inl rfl
  unset _ := by simp [loaded]
  still _ := by simp [loaded]

lemma CoherenceInvariant.coherent {d : MonitorDevice} (h : CoherenceInvariant d) : Coherent d := by
  intro hs hc
  obtain hl | hd := h.bare hc
  · simp [hl, needsOpen] at hs
  · simp [hd, needsOpen] at hs

lemma CoherenceInvariant.keep {d d' : MonitorDevice} (h : CoherenceInvariant d)
    (ha : Attached d') (hs : d'.state = d.state) (hc : d'.connection = d.connection)
    (hq : ∀ rq ∈ d'.queue, rq ∈ d.queue ∨
      (rq.action ≠ .setSession ∧ rq.action ≠ .startStream ∧ rq.action ≠ .stopStream)) :
    CoherenceInvariant d' where
  attached := ha
  bare hn := by
    rw [hs]
    exact h.bare (hc ▸ hn)
  unset hn rq hrq := by
    obtain hold | hnew := hq rq hrq
    · exact h.unset (hc ▸ hn) rq hold
    · exact hnew.1
  still hn rq hrq := by
    rw [hs, hc] at hn
    obtain hold | hnew := hq rq hrq
    · exact h.still hn rq hold
    · exact hnew.2

lemma coherenceInvariant_open {d : MonitorDevice} (ha : Attached d) (hc : d.connection ≠ none)
    (hs : d.state ≠ .disconnected) : CoherenceInvariant d where
  attached := ha
  bare hn := absurd hn hc
  unset hn := absurd hn hc
  still hn := by
    obtain hn | hn := hn
    · exact absurd hn hc
    · exact absurd hn hs

lemma coherenceInvariant_preserves :
    Machine.Preserves next CoherenceGuard CoherenceInvariant := by
  intro d e d' hinv hg hnext
  obtain ⟨dbrq, hd⟩ := next_dispatch hnext
  have hatt : Attached d' := attached_step hinv.attached hd
  cases hd with
  | idle => exact hinv
  | control action client args data =>
    refine hinv.keep hatt rfl rfl ?_
    intro rq hrq
    simp only [pushRequest, List.mem_append, List.mem_singleton] at hrq
    obtain hold | rfl := hrq
    · exact .inl hold
    · cases action <;> simp [ControlAction.toAction]
  | read clock input last d₁ keep hc hr hacc =>
    obtain ⟨added, streams, rfl, hall⟩ := accepts_eq hacc
    have hconn : d.connection ≠ none := by
      rw [← hinv.attached]
      exact hc
    have hstill : d.state = .disconnected → ∀ rq ∈ d.queue ++ added,
        rq.action ≠ .startStream ∧ rq.action ≠ .stopStream := by
      intro hs rq hrq
      obtain hold | hnew := List.mem_append.mp hrq
      · exact hinv.still (.inr hs) rq hold
      · cases hall rq hnew <;> simp [sessionRequest, dataRequest, statusRequest]
    cases keep
    · refine ⟨hatt, fun hn => absurd hn hconn, fun hn => absurd hn hconn, ?_⟩
      rintro (hn | hs)
      · exact absurd hn hconn
      · exact hstill hs
    · refine ⟨hatt, fun hn => absurd hn hconn, fun hn => absurd hn hconn, ?_⟩
      rintro (hn | hs)
      · exact absurd hn hconn
      · exact hstill hs
  | finalize hc hr =>
    obtain ⟨hqueue, -⟩ := hg hc hr
    rw [finalize_fst] at hatt ⊢
    exact ⟨hatt, fun _ => .inr rfl, fun _ rq hrq => (hqueue rq hrq).1,
      fun _ rq hrq => (hqueue rq hrq).2⟩
  | dropped io rq rest hq =>
    exact hinv.keep hatt rfl rfl fun r hr => .inl (mem_of_popped hq hr)
  | connectFailed io rq rest hq ha hc =>
    rw [connectFailed_fst] at hatt ⊢
    exact ⟨hatt, fun _ => .inr rfl, fun _ r hr => hinv.unset hc r (mem_of_popped hq hr),
      fun _ r hr => hinv.still (.inl hc) r (mem_of_popped hq hr)⟩
  | connected io rq rest hq ha hc =>
    refine ⟨hatt, by simp [pushRequest, enableConnection, connecting],
      by simp [pushRequest, enableConnection, connecting], ?_⟩
    intro _ r hr
    simp only [pushRequest, enableConnection, connecting, popped, List.mem_append,
      List.mem_singleton] at hr
    obtain hold | rfl := hr
    · exact hinv.still (.inl hc) r (mem_of_popped hq hold)
    · simp
  | descriptorSent io rq rest hq ha hc =>
    exact coherenceInvariant_open hatt hc (by simp [state, setState])
  | sessionSet io rq rest info hq ha hb =>
    have hconn : d.connection ≠ none := fun hn => hinv.unset hn rq (by simp [hq]) ha
    exact coherenceInvariant_open hatt hconn (by simp [state, setState, pushRequest])
  | disconnecting io rq rest c hq ha hc hs =>
    rw [remConnectionSource_eq] at hatt ⊢
    exact hinv.keep hatt rfl rfl fun r hr => .inl (mem_of_popped hq hr)
  | streamStarted io rq rest hq ha =>
    have hconn : d.connection ≠ none := fun hn => (hinv.still (.inl hn) rq (by simp [hq])).1 ha
    exact coherenceInvariant_open hatt hconn
      (by simp [state, startUpdateLanes, configUpdateLanes, setState])
  | streamStopped io rq rest hq ha =>
    have hconn : d.connection ≠ none := fun hn => (hinv.still (.inl hn) rq (by simp [hq])).2 ha
    exact coherenceInvariant_open hatt (by simpa [setState, popped] using hconn)
      (by simp [state, setState])
  | requested io rq rest action hq ha hs =>
    have hopen : needsOpen d.state = true := by
      obtain ⟨-, h | h⟩ | ⟨-, h⟩ | ⟨-, h⟩ := hs <;> simp [h, needsOpen]
    have hdis : d.state ≠ .disconnected := by
      intro hn
      simp [hn, needsOpen] at hopen
    exact coherenceInvariant_open hatt (hinv.coherent hopen) hdis
  | dataProcessed io rq rest hq =>
    exact hinv.keep hatt rfl rfl fun r hr => .inl (mem_of_popped hq hr)

/-- From the invariant, the guard lets only a sent descriptor lead out of `Disconnected`. -/
lemma leavesDisconnected_of_guard (d : MonitorDevice) (e : Event) (d' : MonitorDevice)
    (hinv : CoherenceInvariant d) (hg : CoherenceGuard d e) (hnext : d.next e = .ok d') :
    LeavesDisconnected d e d' := by
  intro hdis hleft
  obtain ⟨dbrq, hd⟩ := next_dispatch hnext
  cases hd with
  | idle | control | dropped | dataProcessed => exact absurd hdis hleft
  | read clock input last d₁ keep hc hr hacc =>
    obtain ⟨added, streams, rfl, -⟩ := accepts_eq hacc
    cases keep
    · exact absurd hdis hleft
    · exact absurd hdis hleft
  | finalize =>
    rw [finalize_fst] at hleft
    exact absurd rfl hleft
  | connectFailed =>
    rw [connectFailed_fst] at hleft
    exact absurd rfl hleft
  | connected => exact absurd hdis hleft
  | descriptorSent io rq rest hq ha hc hs => exact ⟨io, rq, rest, rfl, hq, ha, hs, hc⟩
  | sessionSet io rq rest info hq ha hb =>
    have hconn : d.connection ≠ none := fun hn => hinv.unset hn rq (by simp [hq]) ha
    exact absurd ha (hg hdis hconn rq (by simp [hq]))
  | disconnecting io rq rest c hq ha hc hs => exact absurd hdis hs
  | streamStarted io rq rest hq ha => exact absurd ha (hinv.still (.inr hdis) rq (by simp [hq])).1
  | streamStopped io rq rest hq ha => exact absurd ha (hinv.still (.inr hdis) rq (by simp [hq])).2
  | requested io rq rest action hq ha hs =>
    obtain ⟨-, h | h⟩ | ⟨-, h⟩ | ⟨-, h⟩ := hs <;> simp [h] at hdis

/-- How often the queue is dispatched. -/
def queueDispatches (events : List Event) : Nat :=
  events.countP fun e => match e with
    | .queue _ => true
    | _ => false

/-- The first `n` entries of the queue are older than the last loss of the connection. -/
structure Behind (n : Nat) (d : MonitorDevice) : Prop where
  state : d.state = .disconnected
  length : n ≤ d.queue.length
  first : DescriptorsFirst (d.queue.take n)
  spent : d.connection ≠ none → ∀ rq ∈ d.queue.take n, rq.action ≠ .sendDescriptor

lemma Behind.mono {n m : Nat} {d : MonitorDevice} (h : Behind n d) (hm : m ≤ n) : Behind m d where
  state := h.state
  length := Nat.le_trans hm h.length
  first := h.first.sublist (List.take_sublist_take_left hm)
  spent hc rq hrq := h.spent hc rq ((List.take_subset_take_left _ hm) hrq)

lemma Behind.append {n : Nat} {d d' : MonitorDevice} (h : Behind n d) (added : List IDevice.Request)
    (hs : d'.state = d.state) (hc : d'.connection = d.connection)
    (hq : d'.queue = d.queue ++ added) : Behind n d' := by
  have htake : d'.queue.take n = d.queue.take n := by
    rw [hq, List.take_append_of_le_length h.length]
  refine ⟨hs.trans h.state, ?_, ?_, ?_⟩
  · rw [hq, List.length_append]
    have := h.length
    omega
  · rw [htake]
    exact h.first
  · rw [hc, htake]
    exact h.spent

lemma Behind.tail {n : Nat} {d d' : MonitorDevice} (h : Behind (n + 1) d) {rq : IDevice.Request}
    {rest : List IDevice.Request} (hq : d.queue = rq :: rest) (hs : d'.state = .disconnected)
    (hc : d'.connection ≠ none → d.connection ≠ none) (hq' : d'.queue = rest) : Behind n d' := by
  have hlen := h.length
  have hfirst := h.first
  have hspent := h.spent
  rw [hq, List.take_succ_cons] at hfirst hspent
  rw [hq, List.length_cons] at hlen
  refine ⟨hs, by rw [hq']; omega, ?_, ?_⟩
  · rw [hq']
    exact (List.pairwise_cons.mp hfirst).2
  · intro hn r hr
    rw [hq'] at hr
    exact hspent (hc hn) r (List.mem_cons_of_mem rq hr)

lemma behind_other {n : Nat} {d d' : MonitorDevice} {e : Event} (h : Behind n d)
    (he : ∀ io, e ≠ .queue io) (hnext : d.next e = .ok d') : Behind n d' := by
  obtain ⟨dbrq, hd⟩ := next_dispatch hnext
  cases hd with
  | idle => exact h
  | control action client args data => exact h.append [_] rfl rfl rfl
  | read clock input last d₁ keep hc hr hacc =>
    obtain ⟨added, streams, rfl, -⟩ := accepts_eq hacc
    cases keep
    · exact h.append added rfl rfl rfl
    · exact h.append added rfl rfl rfl
  | finalize =>
    rw [finalize_fst]
    exact ⟨rfl, h.length, h.first, fun hn => absurd rfl hn⟩
  | dropped io | connectFailed io | connected io | descriptorSent io | sessionSet io
  | disconnecting io | streamStarted io | streamStopped io | requested io | dataProcessed io =>
    exact absurd rfl (he io)

lemma behind_queue {n : Nat} {d d' : MonitorDevice} {io : Io} (hinv : CoherenceInvariant d)
    (hg : CoherenceGuard d (.queue io)) (h : Behind (n + 1) d) (hnext : d.next (.queue io) = .ok d') :
    Behind n d' := by
  have hleft := leavesDisconnected_of_guard d _ d' hinv hg hnext
  have hstays : d'.state = .disconnected := by
    by_contra hn
    obtain ⟨io', rq, rest, -, hq, ha, -, hc⟩ := hleft h.state hn
    exact h.spent hc rq (by simp [hq]) ha
  obtain ⟨dbrq, hd⟩ := next_dispatch hnext
  cases hd with
  | idle => exact h.mono (Nat.le_succ n)
  | dropped io rq rest hq | dataProcessed io rq rest hq => exact h.tail hq hstays id rfl
  | connectFailed io rq rest hq ha hc =>
    rw [connectFailed_fst] at hstays ⊢
    exact h.tail hq hstays (fun hn => absurd rfl hn) rfl
  | connected io rq rest hq ha hc =>
    have hlen := h.length
    have hfirst := h.first
    rw [hq, List.take_succ_cons] at hfirst
    rw [hq, List.length_cons] at hlen
    have htake : (rest ++ [{ rq with action := IDevice.Action.sendDescriptor }]).take n =
        rest.take n := List.take_append_of_le_length (by omega)
    refine ⟨hstays, ?_, ?_, ?_⟩
    · simp only [pushRequest, enableConnection, connecting, popped, List.length_append]
      omega
    · simp only [pushRequest, enableConnection, connecting, popped, htake]
      exact (List.pairwise_cons.mp hfirst).2
    · simp only [pushRequest, enableConnection, connecting, popped, htake]
      intro _ r hr
      exact (List.pairwise_cons.mp hfirst).1 r hr ha
  | descriptorSent | sessionSet | streamStarted | streamStopped =>
    simp [state, setState, pushRequest, startUpdateLanes, configUpdateLanes] at hstays
  | disconnecting io rq rest c hq ha hc hs => exact absurd h.state hs
  | requested io rq rest action hq ha hs =>
    have hdis := h.state
    obtain ⟨-, hs | hs⟩ | ⟨-, hs⟩ | ⟨-, hs⟩ := hs <;> simp [hs] at hdis

lemma behind_run {n : Nat} {d d' : MonitorDevice} {events : List Event}
    (hinv : CoherenceInvariant d) (hg : Machine.Guarded next CoherenceGuard d events)
    (h : Behind n d) (hrun : Machine.run next d events = .ok d') (hn : queueDispatches events ≤ n) :
    d'.state = .disconnected := by
  induction events generalizing d n with
  | nil =>
    obtain rfl : d = d' := by simpa using hrun
    exact h.state
  | cons e events ih =>
    obtain ⟨t, ht, hr⟩ := Machine.run_cons_ok_iff.mp hrun
    have hinv' := coherenceInvariant_preserves d e t hinv hg.1 ht
    cases e with
    | queue io =>
      have hcount : queueDispatches (.queue io :: events) = queueDispatches events + 1 := by
        simp [queueDispatches]
      obtain ⟨m, rfl⟩ : ∃ m, n = m + 1 := ⟨n - 1, by omega⟩
      exact ih hinv' (hg.2 t ht) (behind_queue hinv hg.1 h ht) hr (by omega)
    | control | connection | finalize | timer =>
      exact ih hinv' (hg.2 t ht) (behind_other h (by simp) ht) hr
        (by simpa [queueDispatches] using hn)

/-- State and connection agree along a run whose losses leave no `SetSession`, `StartStream`
or `StopStream` in the queue, no `SendDescriptor` behind a `Connect`, and which sets no
session over a connection whose descriptor was not sent. Then only a sent descriptor leads
out of `Disconnected`, and no request that was queued before a loss does: the device stays
disconnected for as many queue dispatches as there were requests. -/
theorem state_connection_coherence (deviceData : DeviceData) (events : List Event)
    (h : Machine.Guarded next CoherenceGuard (loaded deviceData) events) :
    Machine.Throughout next Coherent (loaded deviceData) events ∧
    Machine.EachStep next LeavesDisconnected (loaded deviceData) events ∧
    ∀ before after rest d d', events = before ++ (.finalize :: after ++ rest) →
      Machine.run next (loaded deviceData) before = .ok d →
      d.loop.connection ≠ none → d.loop.removing = true →
      Machine.run next d (.finalize :: after) = .ok d' →
      queueDispatches after ≤ d.queue.length → d'.state = .disconnected := by
  have h0 := coherenceInvariant_loaded deviceData
  refine ⟨?_, ?_, ?_⟩
  · exact (Machine.throughout_of_guarded coherenceInvariant_preserves h0 h).mono
      fun d hd => hd.coherent
  · exact Machine.eachStep_of_guarded coherenceInvariant_preserves leavesDisconnected_of_guard h0 h
  · intro before after rest d d' he hbefore hc hr hafter hn
    rw [he, Machine.guarded_append hbefore] at h
    have hinv := Machine.invariant_run coherenceInvariant_preserves h0 h.1 hbefore
    have hgfin : Machine.Guarded next CoherenceGuard d (.finalize :: after) :=
      ((Machine.guarded_append hafter).mp h.2).1
    obtain ⟨t, ht, hrun⟩ := Machine.run_cons_ok_iff.mp hafter
    have hqueue := (hgfin.1 hc hr).2
    have ht' : t = d.finalize.1 := by
      have hstep : d.next .finalize = .ok d.finalize.1 := by
        simp [MonitorDevice.next, step, hc, hr, Except.map]
      exact Except.ok.inj (ht.symm.trans hstep)
    have hbehind : Behind d.queue.length t := by
      rw [ht', finalize_fst]
      refine ⟨rfl, Nat.le_refl _, ?_, fun hn => absurd rfl hn⟩
      rw [List.take_length]
      exact hqueue
    exact behind_run (coherenceInvariant_preserves d _ t hinv hgfin.1 ht) (hgfin.2 t ht) hbehind
      hrun hn

/-- A device loses its connection with a stale data message in the queue, and reconnects. -/
theorem state_connection_coherence_reconnect :
    Machine.Throughout next Coherent (loaded default)
      (connectionUp ++ [.connection ⟨0, 0⟩ [sessionEnvelope "s"] .again, queueUp, queueUp,
        .connection ⟨0, 0⟩ [⟨.monitor, .data, .other⟩] .endOfFile, .finalize, queueUp] ++
        connectionUp) :=
  (state_connection_coherence default _ (by decide)).1

/-- A `SetSession` that is still queued when the connection is lost takes the device out of
`Disconnected` with no connection. -/
theorem state_connection_incoherent :
    ∃ d, Machine.run next (loaded default)
        (connectionUp ++ [.connection ⟨0, 0⟩ [sessionEnvelope "s"] .endOfFile, .finalize, queueUp]) =
        .ok d ∧ d.state = .sessionSet ∧ ¬ Coherent d :=
  ⟨_, rfl, rfl, fun hcoh => hcoh rfl rfl⟩

end TkmCollector.Proofs
