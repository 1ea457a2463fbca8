import TkmCollector.Proofs.Coherence

namespace TkmCollector.Proofs

open MonitorDevice

/-- A device with its attempts to connect that wait for their second half. `found` is a history
variable: for each of them, the connection before the `Connect` request. -/
structure Attempts where
  device : MonitorDevice
  found : List (Option Connection)

/-- One dispatch. The queue is as long as before when a `Connect` is followed by its second half. -/
def attempt (a : Attempts) (e : Event) : Except Fault Attempts :=
  match a.device.next e with
  | .error fault => .error fault
  | .ok d => .ok ⟨d, match e, a.device.queue.head? with
      | .queue _, some rq =>
        if rq.action = .connect ∧ d.queue.length = a.device.queue.length then
          a.found ++ [a.device.connection]
        else if rq.action = .sendDescriptor then a.found.tail
        else a.found
      | _, _ => a.found⟩

/-- The handler answers its client with an error. -/
def AnswersError (o : Outcome) : Prop :=
  ∃ answer ∈ o.dispatcher, answer.args.lookup .status = some (valFor .statusError)

/-- A `Connect` request that ends with an error leaves the connection that it found, and queues
no `EndSession`. -/
def LeavesAsWas (a : Attempts) (e : Event) (_ : Attempts) : Prop :=
  ∀ io rq o, e = .queue io → a.device.queue.head? = some rq → a.device.step e = .ok o →
    AnswersError o →
      (rq.action = .connect → o.device.connection = a.device.connection ∧ o.database = []) ∧
      (rq.action = .sendDescriptor → a.found.head? = some o.device.connection ∧ o.database = [])

/-- The monitor is reached or there is no session to end, and the descriptor is sent. -/
def ConnectGuard (a : Attempts) : Event → Prop
  | .queue io => ∀ rq ∈ a.device.queue.head?,
      (rq.action = .connect → a.device.connection = none → io.socket = true → io.connect = .failed →
        a.device.sessionData.hash = "") ∧
      (rq.action = .sendDescriptor → a.device.connection ≠ none → io.send = true)
  | .control _ _ _ _ | .connection _ _ _ | .finalize | .timer _ => True

instance (a : Attempts) : (e : Event) → Decidable (ConnectGuard a e)
  | .queue io => inferInstanceAs (Decidable (∀ rq ∈ a.device.queue.head?,
      (rq.action = .connect → a.device.connection = none → io.socket = true → io.connect = .failed →
        a.device.sessionData.hash = "") ∧
      (rq.action = .sendDescriptor → a.device.connection ≠ none → io.send = true)))
  | .control _ _ _ _ | .connection _ _ _ | .finalize | .timer _ => inferInstanceAs (Decidable True)

/-- The `SendDescriptor` requests of a queue. -/
def descriptors (queue : List IDevice.Request) : Nat :=
  queue.countP fun rq => rq.action = .sendDescriptor

/-- Every `SendDescriptor` in the queue is of an attempt that found no connection. -/
structure AttemptInvariant (a : Attempts) : Prop where
  waiting : a.found.length = descriptors a.device.queue
  unconnected : ∀ c ∈ a.found, c = none

@[simp] lemma descriptors_append (q₁ q₂ : List IDevice.Request) :
    descriptors (q₁ ++ q₂) = descriptors q₁ + descriptors q₂ := List.countP_append

lemma descriptors_eq_zero {queue : List IDevice.Request}
    (h : ∀ rq ∈ queue, rq.action ≠ .sendDescriptor) : descriptors queue = 0 := by
  apply List.countP_eq_zero.mpr
  intro rq hrq
  simp [h rq hrq]

lemma descriptors_cons (rq : IDevice.Request) (rest : List IDevice.Request) :
    descriptors (rq :: rest) = descriptors rest + if rq.action = .sendDescriptor then 1 else 0 := by
  unfold descriptors
  rw [List.countP_cons]
  simp

/-- What a handler puts behind the queue. -/
inductive Follows (d : MonitorDevice) (rq : IDevice.Request) : List IDevice.Request → Prop where
  | second (haction : rq.action = .connect) (hconnection : d.connection = none) :
      Follows d rq [{ rq with action := .sendDescriptor }]
  | nothing : Follows d rq []
  | internal (action : IDevice.Action) (hconnect : rq.action ≠ .connect)
      (hsend : rq.action ≠ .sendDescriptor) (haction : action ≠ .sendDescriptor) :
      Follows d rq [internalRequest action]

lemma requestHandler_follows {d : MonitorDevice} {rq : IDevice.Request} {io : Io} {o : Outcome}
    (ho : requestHandler d rq io = .ok o) :
    ∃ added, o.device.queue = d.queue ++ added ∧ Follows d rq added := by
  have hnothing : ∀ {d' : MonitorDevice}, d'.queue = d.queue →
      ∃ added, d'.queue = d.queue ++ added ∧ Follows d rq added :=
    fun heq => ⟨[], by rw [heq, List.append_nil], .nothing⟩
  unfold requestHandler at ho
  cases haction : rq.action with
  | connect =>
    simp only [haction, doConnect, createConnection] at ho
    cases hconnection : d.connection with
    | some c =>
      simp only [hconnection, Except.ok.injEq] at ho
      rw [← ho]
      exact hnothing rfl
    | none =>
      simp only [hconnection] at ho
      split at ho
      · cases ho
      · cases hio : io.connect with
        | unresolved => simp [hio] at ho
        | failed =>
          simp only [hio, Except.ok.injEq] at ho
          rw [← ho]
          have hqueue := congrArg MonitorDevice.queue (connectFailed_fst d d.queue)
          exact hnothing hqueue
        | established =>
          simp only [hio, Except.ok.injEq] at ho
          rw [← ho]
          exact ⟨_, rfl, .second haction hconnection⟩
  | disconnect =>
    simp only [haction, doDisconnect] at ho
    split at ho
    · cases hconnection : d.connection with
      | none => simp [hconnection] at ho
      | some c =>
        simp only [hconnection, Except.ok.injEq] at ho
        rw [← ho, remConnectionSource_eq]
        exact hnothing rfl
    · rw [← Except.ok.inj ho]
      exact hnothing rfl
  | sendDescriptor =>
    simp only [haction, doSendDescriptor] at ho
    cases hconnection : d.connection with
    | none => simp [hconnection] at ho
    | some c =>
      simp only [hconnection] at ho
      split at ho
      · rw [← Except.ok.inj ho]
        exact hnothing rfl
      · rw [← Except.ok.inj ho]
        exact hnothing (by simp [updateState, setState])
  | requestSession =>
    simp only [haction, doRequestSession] at ho
    cases hconnection : d.connection with
    | none => simp [hconnection] at ho
    | some c =>
      simp only [hconnection, Except.ok.injEq] at ho
      rw [← ho]
      exact hnothing rfl
  | setSession =>
    simp only [haction, doSetSession] at ho
    split at ho
    · cases ho
    · rw [← Except.ok.inj ho]
      exact ⟨_, rfl, .internal _ (by simp [haction]) (by simp [haction]) (by simp)⟩
  | startCollecting =>
    simp only [haction, doStartCollecting] at ho
    split at ho
    · rw [← Except.ok.inj ho]
      exact ⟨_, rfl, .internal _ (by simp [haction]) (by simp [haction]) (by simp)⟩
    · split at ho
      · rw [← Except.ok.inj ho]
        exact ⟨_, rfl, .internal _ (by simp [haction]) (by simp [haction]) (by simp)⟩
      · rw [← Except.ok.inj ho]
        exact hnothing rfl
  | stopCollecting =>
    simp only [haction, doStopCollecting] at ho
    split at ho
    · rw [← Except.ok.inj ho]
      exact ⟨_, rfl, .internal _ (by simp [haction]) (by simp [haction]) (by simp)⟩
    · rw [← Except.ok.inj ho]
      exact hnothing rfl
  | startStream =>
    simp only [haction, doStartStream] at ho
    rw [← Except.ok.inj ho]
    exact hnothing rfl
  | stopStream =>
    simp only [haction, doStopStream, stopUpdateLanes_eq] at ho
    rw [← Except.ok.inj ho]
    exact hnothing rfl
  | processData =>
    simp only [haction, doProcessData] at ho
    rw [← Except.ok.inj ho]
    exact hnothing rfl
  | status =>
    simp only [haction, doStatus] at ho
    split at ho
    · cases ho
    · rw [← Except.ok.inj ho]
      exact hnothing rfl

lemma descriptors_other {d d' : MonitorDevice} {e : Event} (he : ∀ io, e ≠ .queue io)
    (h : d.next e = .ok d') : descriptors d'.queue = descriptors d.queue := by
  obtain ⟨dbrq, hd⟩ := next_dispatch h
  cases hd with
  | idle => rfl
  | control action client args data =>
    have hnone : descriptors [⟨some client, action.toAction, args, .deviceData data⟩] = 0 := by
      apply descriptors_eq_zero
      intro rq hrq
      rw [List.mem_singleton.mp hrq]
      cases action <;> simp [ControlAction.toAction]
    rw [pushRequest, descriptors_append, hnone, Nat.add_zero]
  | read clock input last d₁ keep hc hr hacc =>
    obtain ⟨added, streams, rfl, hall⟩ := accepts_eq hacc
    have hnone : descriptors added = 0 := by
      apply descriptors_eq_zero
      intro rq hrq
      cases hall rq hrq <;> simp [sessionRequest, dataRequest, statusRequest]
    cases keep <;> simp [hnone]
  | finalize =>
    rw [finalize_fst]
  | _ => exact absurd rfl (he _)

lemma attempt_queue {a a' : Attempts} {io : Io} {rq : IDevice.Request} {rest : List IDevice.Request}
    (hq : a.device.queue = rq :: rest) (h : attempt a (.queue io) = .ok a') :
    ∃ o, requestHandler (popped a.device rest) rq io = .ok o ∧ a'.device = o.device ∧
      a'.found =
        if rq.action = .connect ∧ o.device.queue.length = a.device.queue.length then
          a.found ++ [a.device.connection]
        else if rq.action = .sendDescriptor then a.found.tail
        else a.found := by
  unfold attempt at h
  rw [next_queue io hq] at h
  cases ho : requestHandler (popped a.device rest) rq io with
  | error fault => simp [ho, Except.map] at h
  | ok o =>
    simp only [ho, Except.map, hq, List.head?_cons, Except.ok.injEq] at h
    rw [← h]
    exact ⟨o, rfl, rfl, by simp only [hq]⟩

lemma attempt_found {a a' : Attempts} {e : Event}
    (hnone : ∀ io, e = .queue io → a.device.queue = []) (h : attempt a e = .ok a') :
    a.device.next e = .ok a'.device ∧ a'.found = a.found := by
  unfold attempt at h
  cases hnext : a.device.next e with
  | error fault => simp [hnext] at h
  | ok d =>
    simp only [hnext, Except.ok.injEq] at h
    rw [← h]
    cases e with
    | queue io => exact ⟨rfl, by simp [hnone io rfl]⟩
    | _ => exact ⟨rfl, rfl⟩

lemma attemptInvariant_preserves :
    Machine.Preserves attempt (fun _ _ => True) AttemptInvariant := by
  intro a e a' hinv _ h
  by_cases hqueue : ∃ io, e = .queue io ∧ a.device.queue ≠ []
  · obtain ⟨io, rfl, hne⟩ := hqueue
    obtain ⟨rq, rest, hq⟩ := List.exists_cons_of_ne_nil hne
    obtain ⟨o, ho, hdevice, hfound⟩ := attempt_queue hq h
    obtain ⟨added, hadded, hfollows⟩ := requestHandler_follows ho
    have hwaiting := hinv.waiting
    rw [hq, descriptors_cons] at hwaiting
    cases hfollows with
    | second haction hconnection =>
      have hlength : o.device.queue.length = a.device.queue.length := by
        rw [hadded, hq]
        simp [popped]
      rw [if_pos ⟨haction, hlength⟩] at hfound
      constructor
      · rw [hfound, hdevice, hadded, descriptors_append, List.length_append, hwaiting]
        simp [descriptors, popped, haction]
      · intro c hc
        rw [hfound] at hc
        obtain hold | hnew := List.mem_append.mp hc
        · exact hinv.unconnected c hold
        · rw [List.mem_singleton.mp hnew]
          exact hconnection
    | nothing =>
      have hlength : o.device.queue.length ≠ a.device.queue.length := by
        rw [hadded, hq]
        simp [popped]
      rw [if_neg fun hc => hlength hc.2] at hfound
      constructor
      · rw [hdevice, hadded, List.append_nil, hfound]
        by_cases hsend : rq.action = .sendDescriptor
        · rw [if_pos hsend] at hwaiting ⊢
          rw [List.length_tail, hwaiting]
          rfl
        · rw [if_neg hsend] at hwaiting ⊢
          exact hwaiting
      · intro c hc
        rw [hfound] at hc
        split at hc
        · exact hinv.unconnected c (List.mem_of_mem_tail hc)
        · exact hinv.unconnected c hc
    | internal action hconnect hsend haction =>
      rw [if_neg fun hc => hconnect hc.1, if_neg hsend] at hfound
      rw [if_neg hsend] at hwaiting
      constructor
      · rw [hfound, hdevice, hadded, descriptors_append, hwaiting]
        simp [descriptors, popped, internalRequest, haction]
      · rw [hfound]
        exact hinv.unconnected
  · have hnone : ∀ io, e = .queue io → a.device.queue = [] :=
      fun io he => by_contra fun hne => hqueue ⟨io, he, hne⟩
    obtain ⟨hnext, hfound⟩ := attempt_found hnone h
    have hsame : descriptors a'.device.queue = descriptors a.device.queue := by
      by_cases hio : ∃ io, e = .queue io
      · obtain ⟨io, rfl⟩ := hio
        simp only [next, step, hnone io rfl] at hnext
        rw [← Except.ok.inj hnext]
      · exact descriptors_other (fun io he => hio ⟨io, he⟩) hnext
    exact ⟨by rw [hfound, hsame]; exact hinv.waiting, by rw [hfound]; exact hinv.unconnected⟩

lemma lookup_sendStatus (rq : IDevice.Request) (status : Val) (reason : String) :
    (sendStatus rq status reason).args.lookup .status = some (valFor status) := by
  simp [sendStatus]

/-- The first half of an attempt that fails leaves the device as it was unless it has the hash of
a session from before. -/
lemma connect_leavesAsWas {a : Attempts} {io : Io} {rq : IDevice.Request}
    {rest : List IDevice.Request} (haction : rq.action = .connect) :
    (∀ o, requestHandler (popped a.device rest) rq io = .ok o → AnswersError o →
      o.device.connection = a.device.connection ∧ o.database = []) ↔
    (a.device.connection = none → io.socket = true → io.connect = .failed →
      a.device.sessionData.hash = "") := by
  unfold requestHandler
  simp only [haction, doConnect]
  cases hconnection : a.device.connection with
  | some c =>
    have hcreate : (popped a.device rest).createConnection = none := by
      simp [createConnection, popped, hconnection]
    simp only [hcreate]
    constructor
    · intro _ h
      cases h
    · intro _ o ho _
      rw [← Except.ok.inj ho]
      exact ⟨hconnection, rfl⟩
  | none =>
    have hcreate : (popped a.device rest).createConnection = some (connecting (popped a.device rest)) := by
      simp [createConnection, popped, hconnection, connecting]
    simp only [hcreate]
    cases hsocket : io.socket with
    | false => simp
    | true =>
      cases hio : io.connect with
      | unresolved => simp
      | failed =>
        have herror : AnswersError ⟨(connecting (popped a.device rest)).deleteConnection.disconnect.1,
            [sendStatus rq .statusError "Connection Failed"],
            (connecting (popped a.device rest)).deleteConnection.disconnect.2, [], true⟩ :=
          ⟨_, List.mem_singleton_self _, lookup_sendStatus _ _ _⟩
        constructor
        · intro h _ _ _
          have hdatabase := (h _ rfl herror).2
          by_contra hhash
          simp [connectFailed_snd, hhash] at hdatabase
        · intro hhash o ho _
          have hempty := hhash trivial rfl rfl
          rw [← Except.ok.inj ho]
          simp [connectFailed_fst, connectFailed_snd, hempty]
      | established =>
        constructor
        · intro _ _ _ h
          cases h
        · intro _ o ho herror
          rw [← Except.ok.inj ho] at herror
          obtain ⟨answer, hmem, -⟩ := herror
          cases hmem

lemma sendDescriptor_leavesAsWas {a : Attempts} {io : Io} {rq : IDevice.Request}
    {rest : List IDevice.Request} (hinv : AttemptInvariant a) (haction : rq.action = .sendDescriptor) :
    (∀ o, requestHandler (popped a.device rest) rq io = .ok o → AnswersError o →
      a.found.head? = some o.device.connection ∧ o.database = []) ↔
    (a.device.connection ≠ none → io.send = true) := by
  unfold requestHandler
  simp only [haction, doSendDescriptor]
  cases hconnection : a.device.connection with
  | none =>
    have hpopped : (popped a.device rest).connection = none := hconnection
    simp [hpopped]
  | some c =>
    have hpopped : (popped a.device rest).connection = some c := hconnection
    simp only [hpopped]
    cases hsend : io.send with
    | false =>
      constructor
      · intro h _
        have hfound := (h _ rfl ⟨_, List.mem_singleton_self _, lookup_sendStatus _ _ _⟩).1
        have hmem := List.mem_of_mem_head? hfound
        have hnone := hinv.unconnected _ hmem
        rw [hpopped] at hnone
        cases hnone
      · intro h
        have hfalse := h (by simp)
        cases hfalse
    | true =>
      constructor
      · intro _ _
        rfl
      · intro _ o ho herror
        rw [← Except.ok.inj ho] at herror
        obtain ⟨answer, hmem, hstatus⟩ := herror
        rw [List.mem_singleton.mp hmem, lookup_sendStatus] at hstatus
        exact absurd hstatus (by decide)

lemma leavesAsWas_iff {a : Attempts} {e : Event} (hinv : AttemptInvariant a) :
    (∀ a', attempt a e = .ok a' → LeavesAsWas a e a') ↔ ConnectGuard a e := by
  cases e with
  | queue io =>
    cases hq : a.device.queue with
    | nil =>
      constructor
      · intro _ rq hrq
        rw [hq] at hrq
        cases hrq
      · intro _ a' _ io' rq o _ hrq
        rw [hq] at hrq
        cases hrq
    | cons rq rest =>
      have hstep : a.device.step (.queue io) = requestHandler (popped a.device rest) rq io := by
        simp only [step, hq]
        rfl
      have hhead : a.device.queue.head? = some rq := by
        rw [hq]
        rfl
      constructor
      · intro h rq' hrq
        rw [hhead, Option.mem_some] at hrq
        subst hrq
        have hfails : ∀ o, requestHandler (popped a.device rest) rq io = .ok o → AnswersError o → _ :=
          fun o ho herror => by
            rw [← hstep] at ho
            have hok : ∃ a', attempt a (.queue io) = .ok a' := by
              simp [attempt, next, ho, Except.map]
            exact h _ hok.choose_spec io rq o rfl hhead ho herror
        constructor
        · intro haction
          exact (connect_leavesAsWas haction).mp fun o ho herror => (hfails o ho herror).1 haction
        · intro haction
          exact (sendDescriptor_leavesAsWas hinv haction).mp
            fun o ho herror => (hfails o ho herror).2 haction
      · intro hg a' _ io' rq' o hio hrq ho herror
        rw [hhead, Option.some.injEq] at hrq
        rw [hstep] at ho
        rw [← hrq]
        have hguard := hg rq hhead
        constructor
        · intro haction
          exact (connect_leavesAsWas haction).mpr (hguard.1 haction) o ho herror
        · intro haction
          exact (sendDescriptor_leavesAsWas hinv haction).mpr (hguard.2 haction) o ho herror
  | _ =>
    constructor
    · intro _
      trivial
    · intro _ _ _ io rq o he
      cases he

/-- In every run of a device, a `Connect` request that ends with an error leaves the connection and
queues no `EndSession`, exactly when no monitor refuses a connection while the hash of an earlier
session is still there and every descriptor is sent. -/
theorem failed_connect_leaves (deviceData : Control.DeviceData) (events : List Event) :
    Machine.EachStep attempt LeavesAsWas ⟨loaded deviceData, []⟩ events ↔
      Machine.Guarded attempt ConnectGuard ⟨loaded deviceData, []⟩ events := by
  have hinit : AttemptInvariant ⟨loaded deviceData, []⟩ := ⟨rfl, by simp⟩
  exact Machine.eachStep_iff_guarded attemptInvariant_preserves (fun _ _ => leavesAsWas_iff) hinit

/-- The monitor takes the connection and not the descriptor. -/
def descriptorLost : List Event :=
  [connectRequest, queueUp, .queue ⟨true, .established, false, true⟩]

/-- The monitor is not there when its device is connected again. -/
def monitorGone : List Event :=
  connectionUp ++ [.connection ⟨1, 1⟩ [sessionEnvelope "s"] .endOfFile, queueUp, queueUp, .finalize,
    connectRequest, .queue ⟨true, .failed, true, true⟩]

/-- The connection stays after the first, and the second queues `EndSession` once more. -/
theorem failed_connect_leaves_rest :
    ¬ Machine.EachStep attempt LeavesAsWas ⟨loaded default, []⟩ descriptorLost ∧
      ¬ Machine.EachStep attempt LeavesAsWas ⟨loaded default, []⟩ monitorGone := by
  have hinit : AttemptInvariant ⟨loaded default, []⟩ := ⟨rfl, by simp⟩
  have hexact : ∀ a e, AttemptInvariant a →
      ((∀ a', attempt a e = .ok a' → LeavesAsWas a e a') ↔ ConnectGuard a e) :=
    fun _ _ => leavesAsWas_iff
  constructor
  · rw [Machine.eachStep_iff_guarded attemptInvariant_preserves hexact hinit]
    decide
  · rw [Machine.eachStep_iff_guarded attemptInvariant_preserves hexact hinit]
    decide

end TkmCollector.Proofs
