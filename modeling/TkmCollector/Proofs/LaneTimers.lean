import TkmCollector.Proofs.DeviceFrame

/-!
# Lane timers

The timers that the loop holds for a device are those of its lanes, and only while the
device collects. `startUpdateLanes` overwrites the three timers without stopping the old
ones, so this depends on what is handled in state `Collecting`.
-/

namespace TkmCollector.Proofs
open MonitorDevice Control

/-- Who owns the timers in the loop: at most one per lane, each the one that the device
holds, and none unless the device collects, so that no tick writes to the monitor. -/
structure LaneOwnership (d : MonitorDevice) : Prop where
  single : ∀ lane, (d.loop.timers.filter fun t => t.lane = lane).length ≤ 1
  held : ∀ t ∈ d.loop.timers, d.laneTimer t.lane = some t
  none_idle : d.state ≠ .collecting → d.loop.timers = []
  quiet : d.state ≠ .collecting → ∀ t o, d.step (.timer t) = .ok o → o.monitor = []

/-- While the device collects, the queue does not reach a `StartStream`, a `SetSession`,
or a `SendDescriptor` that succeeds. -/
def LaneGuard (d : MonitorDevice) : Event → Prop
  | .queue io => d.state = .collecting → ∀ rq ∈ d.queue.head?,
      rq.action ≠ .startStream ∧ rq.action ≠ .setSession ∧
      (rq.action = .sendDescriptor → d.connection ≠ none → io.send = false)
  | _ => True

/-- The loop holds the three timers of the device while it collects, and none otherwise. -/
structure LaneInvariant (d : MonitorDevice) : Prop where
  running : d.state = .collecting → ∃ fast pace slow : Timer,
    d.fastLaneTimer = some fast ∧ d.paceLaneTimer = some pace ∧ d.slowLaneTimer = some slow ∧
    fast.lane = .fast ∧ pace.lane = .pace ∧ slow.lane = .slow ∧ d.loop.timers = [fast, pace, slow]
  stopped : d.state ≠ .collecting → d.loop.timers = []
  typed : ∀ rq ∈ d.queue, rq.action = .setSession → ∃ info, rq.bulkData = .sessionInfo info

lemma laneInvariant_loaded (deviceData : DeviceData) : LaneInvariant (loaded deviceData) where
  running h := by simp [loaded, state] at h
  stopped _ := rfl
  typed := by simp [loaded]

lemma LaneInvariant.all_held {d : MonitorDevice} (h : LaneInvariant d) :
    ∀ t ∈ d.loop.timers, Held d t := by
  intro t ht
  by_cases hs : d.state = .collecting
  · obtain ⟨fast, pace, slow, hf, hp, hw, -, -, -, htimers⟩ := h.running hs
    rw [htimers] at ht
    simp only [List.mem_cons, List.not_mem_nil, or_false] at ht
    unfold Held
    rw [hf, hp, hw]
    obtain rfl | rfl | rfl := ht <;> simp
  · rw [h.stopped hs] at ht
    simp at ht

lemma LaneInvariant.ownership {d : MonitorDevice} (h : LaneInvariant d) : LaneOwnership d := by
  by_cases hs : d.state = .collecting
  · obtain ⟨fast, pace, slow, hf, hp, hw, hlf, hlp, hlw, htimers⟩ := h.running hs
    refine ⟨?_, ?_, fun hn => absurd hs hn, fun hn => absurd hs hn⟩
    · intro lane
      rw [htimers]
      cases lane <;> simp [hlf, hlp, hlw]
    · intro t ht
      rw [htimers] at ht
      simp only [List.mem_cons, List.not_mem_nil, or_false] at ht
      obtain rfl | rfl | rfl := ht
      · rw [hlf]
        exact hf
      · rw [hlp]
        exact hp
      · rw [hlw]
        exact hw
  · have hnil : d.loop.timers = [] := h.stopped hs
    refine ⟨?_, ?_, fun _ => hnil, ?_⟩
    · intro lane
      simp [hnil]
    · intro t ht
      simp [hnil] at ht
    · intro _ t o ho
      simp only [step, hnil, List.not_mem_nil, if_false, Except.ok.injEq] at ho
      rw [← ho]

lemma LaneInvariant.keep {d d' : MonitorDevice} (h : LaneInvariant d) (hs : d'.state = d.state)
    (hf : d'.fastLaneTimer = d.fastLaneTimer) (hp : d'.paceLaneTimer = d.paceLaneTimer)
    (hw : d'.slowLaneTimer = d.slowLaneTimer) (ht : d'.loop.timers = d.loop.timers)
    (hq : ∀ rq ∈ d'.queue, rq ∈ d.queue ∨ rq.action ≠ .setSession ∨ FromMonitor rq) :
    LaneInvariant d' where
  running := by
    rw [hs, hf, hp, hw, ht]
    exact h.running
  stopped := by
    rw [hs, ht]
    exact h.stopped
  typed := by
    intro rq hrq ha
    obtain hold | hne | hmon := hq rq hrq
    · exact h.typed rq hold ha
    · exact absurd ha hne
    · cases hmon with
      | session info => exact ⟨info, rfl⟩
      | data data => simp [dataRequest] at ha
      | status status => simp [statusRequest] at ha

lemma LaneInvariant.clear {d d' : MonitorDevice} (h : LaneInvariant d)
    (hs : d'.state ≠ .collecting) (ht : d'.loop.timers = [])
    (hq : ∀ rq ∈ d'.queue, rq ∈ d.queue ∨ rq.action ≠ .setSession) : LaneInvariant d' where
  running hc := absurd hc hs
  stopped _ := ht
  typed := by
    intro rq hrq ha
    obtain hold | hne := hq rq hrq
    · exact h.typed rq hold ha
    · exact absurd ha hne

lemma laneInvariant_preserves : Machine.Preserves next LaneGuard LaneInvariant := by
  intro d e d' hinv hg hnext
  obtain ⟨dbrq, hd⟩ := next_dispatch hnext
  have hstopped : d.loop.timers.filter (fun t => ¬ Held d t) = [] := by
    simp only [List.filter_eq_nil_iff, decide_eq_true_eq, not_not]
    exact hinv.all_held
  cases hd with
  | idle => exact hinv
  | control action client args data =>
    refine hinv.keep rfl rfl rfl rfl rfl ?_
    intro rq hrq
    simp only [pushRequest, List.mem_append, List.mem_singleton] at hrq
    obtain hold | rfl := hrq
    · exact .inl hold
    · cases action <;> simp [ControlAction.toAction]
  | read clock input last d₁ keep hc hr hacc =>
    obtain ⟨added, streams, rfl, hall⟩ := accepts_eq hacc
    have hmem : ∀ rq ∈ d.queue ++ added, rq ∈ d.queue ∨ rq.action ≠ .setSession ∨ FromMonitor rq := by
      intro rq hrq
      obtain hold | hnew := List.mem_append.mp hrq
      · exact .inl hold
      · exact .inr (.inr (hall rq hnew))
    cases keep
    · exact hinv.keep rfl rfl rfl rfl rfl hmem
    · exact hinv.keep rfl rfl rfl rfl rfl hmem
  | finalize hc hr =>
    rw [finalize_fst]
    exact hinv.clear (by simp [state]) hstopped fun rq hrq => .inl hrq
  | dropped io rq rest hq ha hs =>
    exact hinv.keep rfl rfl rfl rfl rfl fun r hr => .inl (mem_of_popped hq hr)
  | connectFailed io rq rest hq ha hc =>
    rw [connectFailed_fst]
    exact hinv.clear (by simp [state]) hstopped fun r hr => .inl (mem_of_popped hq hr)
  | connected io rq rest hq ha hc =>
    refine hinv.keep rfl rfl rfl rfl rfl ?_
    intro r hr
    simp only [pushRequest, enableConnection, connecting, popped, List.mem_append,
      List.mem_singleton] at hr
    obtain hold | rfl := hr
    · exact .inl (mem_of_popped hq hold)
    · simp
  | descriptorSent io rq rest hq ha hc hs =>
    have hidle : d.state ≠ .collecting := by
      intro hcol
      have hsend := (hg hcol rq (by simp [hq])).2.2 ha hc
      simp [hs] at hsend
    exact hinv.clear (by simp [state, setState]) (hinv.stopped hidle)
      fun r hr => .inl (mem_of_popped hq hr)
  | sessionSet io rq rest info hq ha hb =>
    have hidle : d.state ≠ .collecting := fun hcol => (hg hcol rq (by simp [hq])).2.1 ha
    refine hinv.clear (by simp [state, setState, pushRequest]) (hinv.stopped hidle) ?_
    intro r hr
    simp only [pushRequest, setState, sessionTaken, popped, List.mem_append,
      List.mem_singleton] at hr
    obtain hold | rfl := hr
    · exact .inl (mem_of_popped hq hold)
    · simp [internalRequest]
  | disconnecting io rq rest c hq ha hc hs =>
    rw [remConnectionSource_eq]
    exact hinv.keep rfl rfl rfl rfl rfl fun r hr => .inl (mem_of_popped hq hr)
  | streamStarted io rq rest hq ha =>
    have hidle : d.state ≠ .collecting := fun hcol => (hg hcol rq (by simp [hq])).1 ha
    have hnil : d.loop.timers = [] := hinv.stopped hidle
    refine ⟨fun _ => ⟨⟨d.nextTimer, .fast, d.sessionInfo.fastLaneInterval⟩,
        ⟨d.nextTimer + 1, .pace, d.sessionInfo.paceLaneInterval⟩,
        ⟨d.nextTimer + 2, .slow, d.sessionInfo.slowLaneInterval⟩,
        rfl, rfl, rfl, rfl, rfl, rfl, ?_⟩, fun hn => ?_, ?_⟩
    · simp [startUpdateLanes, setState, popped, hnil]
    · simp [state, startUpdateLanes, configUpdateLanes, setState] at hn
    · intro r hr
      exact hinv.typed r (mem_of_popped hq hr)
  | streamStopped io rq rest hq ha =>
    rw [stopUpdateLanes_eq]
    exact hinv.clear (by simp [state, setState]) hstopped fun r hr => .inl (mem_of_popped hq hr)
  | requested io rq rest action hq ha hs =>
    refine hinv.keep rfl rfl rfl rfl rfl ?_
    intro r hr
    simp only [pushRequest, popped, List.mem_append, List.mem_singleton] at hr
    obtain hold | rfl := hr
    · exact .inl (mem_of_popped hq hold)
    · obtain ⟨rfl, -⟩ | ⟨rfl, -⟩ | ⟨rfl, -⟩ := hs <;> simp [internalRequest]
  | dataProcessed io rq rest hq ha =>
    exact hinv.keep rfl rfl rfl rfl rfl fun r hr => .inl (mem_of_popped hq hr)

lemma not_ownership_of_not_guard (d : MonitorDevice) (e : Event) (hinv : LaneInvariant d)
    (hg : ¬ LaneGuard d e) : ∃ d', d.next e = .ok d' ∧ ¬ LaneOwnership d' := by
  cases e with
  | queue io =>
    simp only [LaneGuard, Classical.not_imp, not_forall] at hg
    obtain ⟨hcol, rq, hhead, hbad⟩ := hg
    obtain ⟨fast, pace, slow, hf, hp, hw, hlf, hlp, hlw, htimers⟩ := hinv.running hcol
    obtain ⟨rest, hq⟩ : ∃ rest, d.queue = rq :: rest := by
      cases hd : d.queue with
      | nil => simp [hd] at hhead
      | cons r rest =>
        rw [hd] at hhead
        obtain rfl : r = rq := by simpa using hhead
        exact ⟨rest, rfl⟩
    by_cases hstart : rq.action = .startStream
    · refine ⟨((popped d rest).setState .collecting).startUpdateLanes, ?_, ?_⟩
      · rw [next_queue io hq]
        simp only [requestHandler, hstart]
        rfl
      · intro hown
        have hlen := hown.single .fast
        simp [startUpdateLanes, setState, popped, htimers, hlf, hlp, hlw] at hlen
    by_cases hset : rq.action = .setSession
    · obtain ⟨info, hb⟩ := hinv.typed rq (by simp [hq]) hset
      refine ⟨((sessionTaken (popped d rest) info).setState .sessionSet).pushRequest
        (internalRequest .startStream), ?_, ?_⟩
      · rw [next_queue io hq]
        simp only [requestHandler, hset, doSetSession, hb, BulkData.castSessionInfo]
        rfl
      · intro hown
        have hnil := hown.none_idle (by simp [state, setState, pushRequest])
        simp [pushRequest, setState, sessionTaken, popped, htimers] at hnil
    · simp only [hstart, hset, ne_eq, not_false_eq_true, true_and, Classical.not_imp,
        Bool.not_eq_false] at hbad
      obtain ⟨hdesc, hconn, hsend⟩ := hbad
      obtain ⟨c, hc⟩ := Option.ne_none_iff_exists'.mp hconn
      refine ⟨(popped d rest).setState .connected, ?_, ?_⟩
      · have hpop : (popped d rest).connection = some c := hc
        rw [next_queue io hq]
        simp only [requestHandler, hdesc, doSendDescriptor]
        rw [hpop, hsend]
        rfl
      · intro hown
        have hnil := hown.none_idle (by simp [state, setState])
        simp [setState, popped, htimers] at hnil
  | control | connection | finalize | timer => exact absurd trivial hg

/-- The lane timers of a device are owned in every state of a run if and only if no
dispatch of the run starts a stream, takes a session over or completes a connection while
the device is collecting. -/
theorem laneOwnership_iff (deviceData : DeviceData) (events : List Event) :
    Machine.Throughout next LaneOwnership (loaded deviceData) events ↔
      Machine.Guarded next LaneGuard (loaded deviceData) events := by
  have hloaded := laneInvariant_loaded deviceData
  constructor
  · intro h
    exact Machine.guarded_of_throughout laneInvariant_preserves not_ownership_of_not_guard hloaded h
  · intro h
    have hinv := Machine.throughout_of_guarded laneInvariant_preserves hloaded h
    exact hinv.mono fun d hd => hd.ownership

/-- Two `SetSession` messages in a row start the lanes twice, and the first three timers
stay in the loop without an owner. -/
theorem laneTimer_leaked :
    ∃ d, Machine.run next (loaded default)
        (connectionUp ++ [.connection ⟨0, 0⟩ [sessionEnvelope "s", sessionEnvelope "t"] .again,
          queueUp, queueUp, queueUp, queueUp]) = .ok d ∧
      d.loop.timers.length = 6 ∧ ¬ LaneOwnership d :=
  ⟨_, rfl, rfl, fun hown => absurd (hown.single .fast) (by decide)⟩

end TkmCollector.Proofs
