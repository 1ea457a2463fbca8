import TkmCollector.Proofs.DefaultMessages

namespace TkmCollector.Proofs

open Application Database Unwinding

/-- A dispatch of the application, with the place of the request. -/
def tracked (b : Backend) (w : Application × Trace) (e : Application.Event) :
    Except Stop (Application × Trace) :=
  (Application.step b w.1 e).map fun s' => (s', w.2.next w.1 e)

/-- The dispatch handles the request. -/
def handles (w : Application × Trace) (e : Application.Event) : Bool := w.2.due e

/-- A handler that takes the request does not act on it. -/
def Unfelt (b : Backend) (w : Application × Trace) (e : Application.Event) : Prop :=
  handles w e = true →
    match w.2.request w.1, e with
    | some (.device rq), .queue hash _ =>
      ∀ d ∈ w.1.collector.devices.getDevice hash, SparesDevice d rq
    | some (.database rq), .database io => SparesTables b.type io w.1.collector.tables rq
    | _, _ => True

instance (b : Backend) (w : Application × Trace) (e : Application.Event) :
    Decidable (Unfelt b w e) := by
  unfold Unfelt
  rcases w.2.request w.1 with _ | rq
  · infer_instance
  · rcases rq with ⟨⟩ <;> rcases e with ⟨⟩ <;> infer_instance

/-- The application without the envelope is what is left without the request. -/
structure Shadows (w : Application × Trace) (t : Application) : Prop where
  distinct : DistinctDevices w.1.collector.devices
  lingers : Lingers w.1 w.2
  same : bare w.2 w.1 = bare .gone t

section Runs

variable {b : Backend} {s s' : Application} {trace : Trace}

lemma distinctDevices_deliver {o : Dispatcher.Outcome} {write : Bool} {served : Option Nat}
    (h : DistinctDevices s.collector.devices) :
    DistinctDevices (deliver s o write served).collector.devices := by
  cases hdevice : o.device with
  | none =>
    have hdevices : (deliver s o write served).collector.devices = s.collector.devices := by
      simp [deliver, hdevice]
    rw [hdevices]
    exact h
  | some pair =>
    obtain ⟨hash, rq⟩ := pair
    cases hget : s.collector.devices.getDevice hash with
    | none =>
      have hdevices : (deliver s o write served).collector.devices = s.collector.devices := by
        simp [deliver, hdevice, hget]
      rw [hdevices]
      exact h
    | some d =>
      have hdevices : (deliver s o write served).collector.devices =
          s.collector.devices.update hash (d.pushRequest rq) := by
        simp [deliver, hdevice, hget]
      rw [hdevices]
      exact distinctDevices_update h hget (getDevice_hash (d := d) hget)

lemma distinctDevices_turn {e : Application.Event} (h : Turn b s e s')
    (hdistinct : DistinctDevices s.collector.devices) : DistinctDevices s'.collector.devices := by
  cases h with
  | idle => exact hdistinct
  | accept => exact hdistinct
  | control client input last s₁ clients hasks =>
    have hcollector : s₁.collector = s.collector := asks_collector hasks
    change DistinctDevices s₁.collector.devices
    rw [hcollector]
    exact hdistinct
  | dispatcher write entry rest o hq ho =>
    exact distinctDevices_deliver (s := { s with dispatcher := rest }) hdistinct
  | device _ hash event d o he hget ho =>
    apply distinctDevices_update hdistinct hget
    rw [dispatch_hash (step_dispatch ho), getDevice_hash hget]
  | database io entry rest o hq ho =>
    obtain ⟨-, -, hload⟩ := load_append s.collector.devices o.loaded
    exact hload hdistinct

lemma distinctDevices_run {tables : Tables} {erase failed : Bool} {events : List Application.Event}
    (h : Machine.run (Application.step b) (Application.start tables erase failed) events = .ok s) :
    DistinctDevices s.collector.devices := by
  have hpreserves : Machine.Preserves (Application.step b) (fun _ _ => True)
      fun s => DistinctDevices s.collector.devices :=
    fun s e s' hs _ hstep => distinctDevices_turn (step_turn hstep) hs
  apply Machine.invariant_run hpreserves ?_ (Machine.guarded_true _ _) h
  cases erase <;> exact List.nodup_nil

/-- When the request is handled, it is handed on and nothing else changes. -/
theorem lingers_due {e : Application.Event} (hdistinct : DistinctDevices s.collector.devices)
    (hw : Lingers s trace) (hdue : trace.due e = true) (hg : Unfelt b (s, trace) e)
    (hs : Application.step b s e = .ok s') :
    bare (trace.next s e) s' = bare trace s ∧ Lingers s' (trace.next s e) := by
  have hspared := hg hdue
  obtain rfl | ⟨rq, hrq, hblank⟩ := hw
  · simp [Trace.due] at hdue
  · have hnext : trace.next s e = Trace.handedOn s rq := by
      unfold Trace.next
      rw [if_pos hdue, hrq]
    rw [hnext]
    simp only [hrq] at hspared
    unfold Trace.due at hdue
    split at hdue
    · rename_i hash k io
      obtain rfl : k = hash := by simpa using hdue
      apply due_device hdistinct hrq hblank ?_ hs
      rintro x d rfl hget
      exact hspared d hget
    · exact due_dispatcher hdistinct hrq hblank hs
    · apply due_database hrq hblank ?_ hs
      rintro x rfl
      exact hspared
    · cases hdue

lemma shadows_unwinds (b : Backend) :
    Machine.Unwinds (tracked b) (Application.step b) handles (Unfelt b) Shadows := by
  rintro ⟨s, trace⟩ t e ⟨s', trace'⟩ h hg htracked
  unfold handles
  obtain ⟨hs, rfl⟩ : Application.step b s e = .ok s' ∧ trace.next s e = trace' := by
    unfold tracked at htracked
    cases hstep : Application.step b s e with
    | error stop => simp [hstep] at htracked
    | ok s₁ => simpa [hstep] using htracked
  have hdistinct := distinctDevices_turn (step_turn hs) h.distinct
  cases hdue : trace.due e with
  | true =>
    obtain ⟨hbare, hlingers⟩ := lingers_due h.distinct h.lingers hdue hg hs
    exact ⟨hdistinct, hlingers, hbare.trans h.same⟩
  | false =>
    have hlingers : Lingers s' (trace.next s e) := by
      obtain hgone | ⟨rq, hrq, hblank⟩ := h.lingers
      · have hgone : trace = .gone := hgone
        subst hgone
        exact .inl (by cases e <;> rfl)
      · exact .inr ⟨rq, request_step hs hdue hrq, hblank⟩
    -- both applications do what is done by what is left of them
    have hleft := step_bare (b := b) h.lingers.placed hdue
    have hright : (Application.step b (bare .gone t) e).map (bare .gone) =
        (Application.step b t e).map (bare (Trace.gone.next t e)) :=
      step_bare (.inl rfl) (by cases e <;> rfl)
    have hgone : Trace.gone.next t e = .gone := by cases e <;> rfl
    have hsame : bare trace s = bare .gone t := h.same
    rw [hsame, hright, hgone, hs] at hleft
    cases ht : Application.step b t e with
    | error stop => simp [ht] at hleft
    | ok t' =>
      rw [ht] at hleft
      exact ⟨t', rfl, hdistinct, hlingers, (Except.ok.inj hleft).symm⟩

end Runs

/-- An envelope with a payload that does not fit is read: the dispatch that reads it, the one that
reads the same without it, and the place of the request that is made of it. -/
inductive Arrives (s : Application) : Application.Event → Application.Event → Trace → Prop where
  | monitor (hash : String) (clock : MonitorDevice.Clock) (front : List Envelope)
      (envelope : Envelope) (back : List Envelope) (last : MonitorDevice.ReadStatus)
      (d : MonitorDevice)
      (hget : s.collector.devices.getDevice hash = some d)
      (hlistens : d.loop.connection ≠ none ∧ d.loop.removing = false)
      (hread : (readRequests clock .again front).2 = true) (horigin : envelope.origin = .monitor)
      (hbad : ¬ MessageFits envelope.mesg) :
      Arrives s (.connection hash clock (front ++ envelope :: back) last)
        (.connection hash clock (front ++ back) last)
        (.device hash (d.queue.length + (readRequests clock .again front).1.length))
  | control (client : ClientId) (front : List (ControlEnvelope × Bool)) (envelope : ControlEnvelope)
      (write : Bool) (back : List (ControlEnvelope × Bool)) (last : MonitorDevice.ReadStatus)
      (hclient : client ∈ s.clients) (hread : (askedRequests client .again front).2 = true)
      (horigin : envelope.origin = .control) (hbad : ¬ RequestFits envelope.mesg) :
      Arrives s (.control client (front ++ (envelope, write) :: back) last)
        (.control client (front ++ back) last)
        (.dispatcher (s.dispatcher.length + (askedRequests client .again front).1.length))

section Arrival

variable {b : Backend} {s s₁ : Application}

lemma readRequests_append {clock : MonitorDevice.Clock} {front : List Envelope}
    (h : (readRequests clock .again front).2 = true) (last : MonitorDevice.ReadStatus)
    (back : List Envelope) :
    readRequests clock last (front ++ back) =
      ((readRequests clock .again front).1 ++ (readRequests clock last back).1,
        (readRequests clock last back).2) := by
  induction front with
  | nil => rfl
  | cons envelope rest ih =>
    rw [List.cons_append, readRequests, readRequests]
    rw [readRequests] at h
    by_cases horigin : envelope.origin ≠ .monitor
    · rw [if_pos horigin] at h ⊢
      rw [if_pos horigin]
      exact ih h
    · rw [if_neg horigin] at h ⊢
      rw [if_neg horigin]
      cases htype : envelope.mesg.type with
      | unknown => simp [htype] at h
      | _ =>
        simp only [htype] at h
        simp [ih h]

lemma askedRequests_append {client : ClientId} {front : List (ControlEnvelope × Bool)}
    (h : (askedRequests client .again front).2 = true) (last : MonitorDevice.ReadStatus)
    (back : List (ControlEnvelope × Bool)) :
    askedRequests client last (front ++ back) =
      ((askedRequests client .again front).1 ++ (askedRequests client last back).1,
        (askedRequests client last back).2) := by
  induction front with
  | nil => rfl
  | cons pair rest ih =>
    obtain ⟨envelope, write⟩ := pair
    rw [List.cons_append, askedRequests, askedRequests]
    rw [askedRequests] at h
    by_cases horigin : envelope.origin ≠ .control
    · rw [if_pos horigin] at h ⊢
      rw [if_pos horigin]
      exact ih h
    · rw [if_neg horigin] at h ⊢
      rw [if_neg horigin]
      cases hrq : ControlClient.requestHandler client envelope.mesg write with
      | none => simp [hrq] at h
      | some result =>
        simp only [hrq] at h
        simp [ih h]

lemma readRequests_blank {envelope : Envelope} (horigin : envelope.origin = .monitor)
    (hbad : ¬ MessageFits envelope.mesg) (clock : MonitorDevice.Clock)
    (last : MonitorDevice.ReadStatus) (back : List Envelope) :
    ∃ rq, BlankDevice rq ∧ readRequests clock last (envelope :: back) =
      (rq :: (readRequests clock last back).1, (readRequests clock last back).2) := by
  obtain ⟨origin, type, payload⟩ := envelope
  obtain rfl : origin = .monitor := horigin
  rw [readRequests, if_neg (by simp)]
  unfold MessageFits at hbad
  cases type with
  | setSession =>
    refine ⟨_, ?_, rfl⟩
    cases payload with
    | sessionInfo m => exact absurd trivial hbad
    | _ => exact ⟨_, rfl⟩
  | data =>
    refine ⟨_, ?_, rfl⟩
    cases payload with
    | data m =>
      have hblank := blankData_of_not_fits hbad
      exact ⟨_, rfl, hblank⟩
    | _ => exact ⟨_, rfl, rfl⟩
  | status =>
    refine ⟨_, ?_, rfl⟩
    cases payload with
    | status m => exact absurd trivial hbad
    | _ => exact rfl
  | unknown => exact absurd trivial hbad

lemma askedRequests_blank {envelope : ControlEnvelope} (horigin : envelope.origin = .control)
    (hbad : ¬ RequestFits envelope.mesg) (client : ClientId) (write : Bool)
    (last : MonitorDevice.ReadStatus) (back : List (ControlEnvelope × Bool)) :
    ∃ rq, BlankDispatcher rq ∧ askedRequests client last ((envelope, write) :: back) =
      (rq :: (askedRequests client last back).1, (askedRequests client last back).2) := by
  obtain ⟨origin, id, type, forced, payload⟩ := envelope
  obtain rfl : origin = .control := horigin
  rw [askedRequests, if_neg (by simp)]
  unfold RequestFits at hbad
  cases type with
  | initDatabase | quitCollector | getDevices | unknown => exact absurd trivial hbad
  | requestSession =>
    refine ⟨_, ?_, rfl⟩
    exact trivial
  | removeSession =>
    refine ⟨_, ?_, rfl⟩
    cases payload with
    | sessionData m => exact absurd trivial hbad
    | _ => exact rfl
  | _ =>
    refine ⟨_, ?_, rfl⟩
    cases payload with
    | deviceData m => exact absurd trivial hbad
    | _ => exact rfl

lemma blankDevice_of_bare {rq : IDevice.Request} (h : BlankDevice (bareRequest rq)) :
    BlankDevice rq := by
  obtain ⟨client, action, args, bulkData⟩ := rq
  cases bulkData with
  | data m =>
    cases action with
    | processData =>
      obtain ⟨data, hbulk, hblank⟩ := h
      obtain rfl : { m with origin := none } = data := BulkData.data.inj hbulk
      exact ⟨m, rfl, hblank⟩
    | setSession =>
      obtain ⟨name, hbulk⟩ := h
      cases hbulk
    | _ => cases h
  | _ => exact h

/-- The device after requests were read from its connection. -/
def afterRead (d : MonitorDevice) (added : List IDevice.Request) (streams : List (List StreamItem))
    (keep : Bool) : MonitorDevice :=
  { d with
    queue := d.queue ++ added
    streams := streams
    loop := { d.loop with removing := !keep } }

/-- The read loop of a connection that is registered, by the requests that it makes. -/
lemma step_connection {d : MonitorDevice} (clock : MonitorDevice.Clock) (input : List Envelope)
    (last : MonitorDevice.ReadStatus) (h : d.loop.connection ≠ none ∧ d.loop.removing = false) :
    ∃ added streams, d.step (.connection clock input last) = .ok
      ⟨afterRead d added streams (readRequests clock last input).2, [], [], [],
        (readRequests clock last input).2⟩ ∧
      added.map bareRequest = (readRequests clock last input).1 := by
  obtain ⟨added, streams, hread, hadded⟩ := readEnvelopes_requests clock last d input
  have hidle : ¬ (d.loop.connection = none ∨ d.loop.removing = true) := by simp [h.1, h.2]
  refine ⟨added, streams, ?_, hadded⟩
  rw [MonitorDevice.step, if_neg hidle, hread]
  cases (readRequests clock last input).2 with
  | true =>
    have hloop : { d.loop with removing := false } = d.loop := by rw [← h.2]
    simp [afterRead, hloop]
  | false => rfl

lemma bareDevice_afterRead {d : MonitorDevice} {added added' front back : List IDevice.Request}
    {rq : IDevice.Request} (streams streams' : List (List StreamItem)) (keep : Bool)
    (hadded : added.map bareRequest = front ++ rq :: back)
    (hadded' : added'.map bareRequest = front ++ back) :
    bareDevice (some (d.queue.length + front.length)) (afterRead d added streams keep) =
      bareDevice none (afterRead d added' streams' keep) := by
  have hlength : d.queue.length + front.length =
      ((d.queue.map bareRequest) ++ front).length := by simp
  have hqueue : (leaveOut (some (d.queue.length + front.length)) (d.queue ++ added)).map bareRequest =
      (d.queue ++ added').map bareRequest := by
    rw [map_leaveOut, List.map_append, hadded, ← List.append_assoc, hlength, leaveOut_between,
      List.map_append, hadded', List.append_assoc]
  simp only [bareDevice, afterRead, hqueue, leaveOut_none]

lemma arrives_monitor {hash : String} {d : MonitorDevice} {front back : List IDevice.Request}
    {rq : IDevice.Request} {added added' : List IDevice.Request}
    (streams streams' : List (List StreamItem)) (keep : Bool)
    (hget : s.collector.devices.getDevice hash = some d) (hblank : BlankDevice rq)
    (hadded : added.map bareRequest = front ++ rq :: back)
    (hadded' : added'.map bareRequest = front ++ back) :
    Lingers (afterDevice s hash ⟨afterRead d added streams keep, [], [], [], keep⟩)
        (.device hash (d.queue.length + front.length)) ∧
      bare (.device hash (d.queue.length + front.length))
          (afterDevice s hash ⟨afterRead d added streams keep, [], [], [], keep⟩) =
        bare .gone (afterDevice s hash ⟨afterRead d added' streams' keep, [], [], [], keep⟩) := by
  have hhash : ∀ added streams, (afterRead d added streams keep).deviceData.hash = hash :=
    fun _ _ => getDevice_hash (d := d) hget
  constructor
  · obtain ⟨front', rest, rfl, hfront, hrest⟩ := List.map_eq_append_iff.mp hadded
    obtain ⟨request, back', rfl, hrequest, -⟩ := List.map_eq_cons_iff.mp hrest
    have hlength : front.length = front'.length := by rw [← hfront, List.length_map]
    refine .inr ⟨.device request, ?_, blankDevice_of_bare (hrequest ▸ hblank)⟩
    simp only [Trace.request, afterDevice, hlength]
    rw [getDevice_update_self (hhash _ _) hget]
    simp [afterRead]
  · apply bare_eq
    · apply bareDevices_updates (hhash _ _) (hhash _ _)
      · intro k hk
        simp [Trace.inDevice, hk.symm]
      · simpa [Trace.inDevice] using bareDevice_afterRead streams streams' keep hadded hadded'
    · rfl
    · rfl
    · rfl
    · rfl
    · rfl

lemma arrives_control {rq : Dispatcher.Request} (front back : List Dispatcher.Request)
    (clients : List ClientId) (asked asked' : List (ClientId × Control.Request))
    (sent sent' : List Sent) (hblank : BlankDispatcher rq) :
    Lingers { s with
        dispatcher := s.dispatcher ++ (front ++ rq :: back).map fun rq => ⟨rq, none⟩
        clients := clients
        asked := asked
        sent := sent } (.dispatcher (s.dispatcher.length + front.length)) ∧
      bare (.dispatcher (s.dispatcher.length + front.length)) { s with
        dispatcher := s.dispatcher ++ (front ++ rq :: back).map fun rq => ⟨rq, none⟩
        clients := clients
        asked := asked
        sent := sent } =
      bare .gone { s with
        dispatcher := s.dispatcher ++ (front ++ back).map fun rq => ⟨rq, none⟩
        clients := clients
        asked := asked'
        sent := sent' } := by
  constructor
  · refine .inr ⟨.dispatcher rq, ?_, hblank⟩
    simp [Trace.request]
  · apply bare_eq
    · rfl
    · rfl
    · rfl
    · have hlength : s.dispatcher.length + front.length =
          (s.dispatcher ++ front.map fun rq => (⟨rq, none⟩ : DispatcherEntry)).length := by simp
      simp only [Trace.inDispatcher, hlength, List.map_append, List.map_cons]
      rw [← List.append_assoc, leaveOut_between]
      simp
    · rfl
    · rfl

/-- What the envelope leaves is one request, and nothing else that is not there without it. -/
theorem arrives_shadows {e e' : Application.Event} {trace : Trace}
    (hdistinct : DistinctDevices s.collector.devices) (h : Arrives s e e' trace)
    (hs : Application.step b s e = .ok s₁) :
    ∃ t₁, Application.step b s e' = .ok t₁ ∧ Shadows (s₁, trace) t₁ := by
  have hdistinct₁ := distinctDevices_turn (step_turn hs) hdistinct
  cases h with
  | monitor hash clock front envelope back last d hget hlistens hread horigin hbad =>
    obtain ⟨rq, hblank, hrequests⟩ := readRequests_blank horigin hbad clock last back
    obtain ⟨added, streams, hstep, hadded⟩ :=
      step_connection clock (front ++ envelope :: back) last hlistens
    obtain ⟨added', streams', hstep', hadded'⟩ :=
      step_connection clock (front ++ back) last hlistens
    rw [readRequests_append hread, hrequests] at hadded hstep
    rw [readRequests_append hread] at hadded' hstep'
    simp only [Application.step, onCollector_of_get hget, hstep, Except.ok.injEq] at hs
    subst hs
    obtain ⟨hlingers, hsame⟩ := arrives_monitor streams streams' (readRequests clock last back).2 hget
      hblank hadded hadded'
    refine ⟨_, ?_, hdistinct₁, hlingers, hsame⟩
    simp only [Application.step, onCollector_of_get hget, hstep']
  | control client front envelope write back last hclient hread horigin hbad =>
    obtain ⟨rq, hblank, hrequests⟩ := askedRequests_blank horigin hbad client write last back
    obtain ⟨asked, sent, hstep⟩ :=
      readEnvelopes_asked client last s (front ++ (envelope, write) :: back)
    obtain ⟨asked', sent', hstep'⟩ := readEnvelopes_asked client last s (front ++ back)
    rw [askedRequests_append hread, hrequests] at hstep
    rw [askedRequests_append hread] at hstep'
    have hknown : ¬ client ∉ s.clients := not_not_intro hclient
    simp only [Application.step, if_neg hknown, hstep, Except.ok.injEq] at hs
    subst hs
    simp only [Application.step, if_neg hknown, hstep']
    refine ⟨_, rfl, ?_⟩
    cases (askedRequests client last back).2 with
    | true =>
      obtain ⟨hlingers, hsame⟩ := arrives_control (s := s)
        (askedRequests client .again front).1 (askedRequests client last back).1
        s.clients asked asked' sent sent' hblank
      exact ⟨hdistinct, hlingers, hsame⟩
    | false =>
      obtain ⟨hlingers, hsame⟩ := arrives_control (s := s)
        (askedRequests client .again front).1 (askedRequests client last back).1
        (s.clients.filter (· ≠ client)) asked asked' sent sent' hblank
      exact ⟨hdistinct, hlingers, hsame⟩

end Arrival

/-- Every queue of the application is empty. -/
def AllDrained (s : Application) : Prop := s.dispatcher = [] ∧ Drained s.collector

instance (s : Application) : Decidable (AllDrained s) := inferInstanceAs (Decidable (_ ∧ _))

/-- The tables are the same, and the manager has the same devices, in the same states and with the
same sessions. -/
def SameEnd (s t : Application) : Prop :=
  s.collector.tables = t.collector.tables ∧
    (s.collector.devices.map fun d => (d.deviceData, d.sessionData)) =
      t.collector.devices.map fun d => (d.deviceData, d.sessionData)

instance (s t : Application) : Decidable (SameEnd s t) := inferInstanceAs (Decidable (_ ∧ _))

section Ends

variable {b : Backend} {s t : Application} {trace : Trace}

lemma bare_drained (h : AllDrained s) : bare trace s = bare .gone s := by
  obtain ⟨hdispatcher, hqueue, hdevices⟩ := h
  apply bare_eq
  · unfold bareDevices
    apply List.map_congr_left
    intro d hd
    simp [bareDevice, hdevices d hd]
  · rfl
  · simp [hqueue]
  · simp [hdispatcher]
  · rfl
  · rfl

lemma drained_of_bare (h : AllDrained s) (hsame : bare .gone s = bare .gone t) : AllDrained t := by
  obtain ⟨hdispatcher, hqueue, hdevices⟩ := h
  have hdispatcher' := congrArg Application.dispatcher hsame
  have hqueue' := congrArg (fun s : Application => s.collector.queue) hsame
  have hdevices' := congrArg (fun s : Application => s.collector.devices) hsame
  simp only [bare, Trace.inDispatcher_gone, leaveOut_none, hdispatcher, List.map_nil] at hdispatcher'
  simp only [bare, Trace.inDatabase_gone, leaveOut_none, hqueue, List.map_nil] at hqueue'
  refine ⟨List.map_eq_nil_iff.mp hdispatcher'.symm, List.map_eq_nil_iff.mp hqueue'.symm, ?_⟩
  intro d hd
  have hmem : bareDevice none d ∈ bareDevices .gone s.collector.devices := by
    change bareDevices .gone s.collector.devices = bareDevices .gone t.collector.devices at hdevices'
    rw [hdevices']
    exact List.mem_map.mpr ⟨d, hd, rfl⟩
  obtain ⟨d', hd', heq⟩ := List.mem_map.mp hmem
  have hempty := congrArg MonitorDevice.queue heq
  simp only [bareDevice, Trace.inDevice_gone, leaveOut_none, hdevices d' hd', List.map_nil] at hempty
  exact List.map_eq_nil_iff.mp hempty.symm

lemma sameEnd_of_bare (hsame : bare .gone s = bare .gone t) : SameEnd s t := by
  have htables := congrArg (fun s : Application => s.collector.tables) hsame
  have hdevices := congrArg (fun s : Application =>
    s.collector.devices.map fun d => (d.deviceData, d.sessionData)) hsame
  refine ⟨htables, ?_⟩
  simpa [bare, bareDevices, bareDevice, Function.comp_def] using hdevices

lemma run_tracked (trace : Trace) {s' : Application} {events : List Application.Event}
    (h : Machine.run (Application.step b) s events = .ok s') :
    ∃ trace', Machine.run (tracked b) (s, trace) events = .ok (s', trace') := by
  induction events generalizing s trace with
  | nil =>
    obtain rfl : s = s' := by simpa using h
    exact ⟨trace, rfl⟩
  | cons e events ih =>
    obtain ⟨u, hu, hrun⟩ := Machine.run_cons_ok_iff.mp h
    obtain ⟨trace', htrace⟩ := ih (trace.next s e) hrun
    refine ⟨trace', ?_⟩
    have hstep : tracked b (s, trace) e = .ok (u, trace.next s e) := by
      simp [tracked, hu]
    rw [Machine.run_cons_ok _ hstep]
    exact htrace

end Ends

/-- An envelope with a payload of another type changes nothing, when no handler acts on the default
message that is made of it: every run with it that drains the queues ends as it does without the
envelope and the dispatches that handle what is made of it. -/
theorem malformed_unfelt (b : Backend) (tables : Tables) (erase failed : Bool)
    (before after : List Application.Event) {s s₁ s' : Application} {e e' : Application.Event}
    {trace : Trace}
    (hreach : Machine.run (Application.step b) (Application.start tables erase failed) before = .ok s)
    (harrives : Arrives s e e' trace) (hstep : Application.step b s e = .ok s₁)
    (hunfelt : Machine.Guarded (tracked b) (Unfelt b) (s₁, trace) after)
    (hrun : Machine.run (Application.step b) s₁ after = .ok s') (hdrained : AllDrained s') :
    ∃ t, Machine.run (Application.step b) s
        (e' :: Machine.kept (tracked b) handles (s₁, trace) after) = .ok t ∧
      AllDrained t ∧ SameEnd s' t := by
  obtain ⟨t₁, hstep', hshadows⟩ := arrives_shadows (distinctDevices_run hreach) harrives hstep
  obtain ⟨trace', htracked⟩ := run_tracked trace hrun
  obtain ⟨t, hrun', hend⟩ := (shadows_unwinds b).run hshadows hunfelt htracked
  have hsame : bare .gone s' = bare .gone t := by
    have hbare := hend.same
    rw [bare_drained hdrained] at hbare
    exact hbare
  refine ⟨t, ?_, drained_of_bare hdrained hsame, sameEnd_of_bare hsame⟩
  rw [Machine.run_cons_ok _ hstep']
  exact hrun'

/-- The device is loaded, and a client has it connected. -/
def monitorUp : List Application.Event :=
  [served, served, served, .accept, asks 0 (requestFor "1" .connectDevice "d"), dispatched,
    deviceServed "d", deviceServed "d", dispatched]

/-- The monitor sends a message, or none. -/
def fromMonitor (input : List Envelope) : Application.Event := .connection "d" ⟨1, 1⟩ input .again

/-- A measurement of an event whose payload is something else. -/
def strayData : Envelope :=
  ⟨.monitor, .data, .data { (default : Monitor.Data) with what := .procEvent }⟩

/-- The application after a run on the tables of one device. -/
def endsIn (events : List Application.Event) : Application :=
  let started := Application.start (tablesWith ["d"]) false false
  match Machine.run (Application.step (plainBackend .sqlite3)) started events with
  | .ok s => s
  | .error _ => started

/-- The measurement has no session to be stored for. -/
theorem malformed_unfelt_data :
    ∃ t, Machine.run (Application.step (plainBackend .sqlite3)) (endsIn monitorUp) [fromMonitor []] =
        .ok t ∧ AllDrained t ∧
      SameEnd (endsIn (monitorUp ++ [fromMonitor [strayData], deviceServed "d", served])) t := by
  have hreach : Machine.run (Application.step (plainBackend .sqlite3))
      (Application.start (tablesWith ["d"]) false false) monitorUp = .ok (endsIn monitorUp) := rfl
  have hread := Arrives.monitor (s := endsIn monitorUp) "d" ⟨1, 1⟩ [] strayData [] .again _ rfl
    (by decide) rfl rfl id
  have harrives : Arrives (endsIn monitorUp) (fromMonitor [strayData]) (fromMonitor [])
      (.device "d" 0) := hread
  have hstep : Application.step (plainBackend .sqlite3) (endsIn monitorUp) (fromMonitor [strayData]) =
      .ok (endsIn (monitorUp ++ [fromMonitor [strayData]])) := rfl
  have hunfelt : Machine.Guarded (tracked (plainBackend .sqlite3)) (Unfelt (plainBackend .sqlite3))
      (endsIn (monitorUp ++ [fromMonitor [strayData]]), .device "d" 0)
      [deviceServed "d", served] := by decide
  have hrun : Machine.run (Application.step (plainBackend .sqlite3))
      (endsIn (monitorUp ++ [fromMonitor [strayData]])) [deviceServed "d", served] =
      .ok (endsIn (monitorUp ++ [fromMonitor [strayData], deviceServed "d", served])) := rfl
  have hdrained : AllDrained
      (endsIn (monitorUp ++ [fromMonitor [strayData], deviceServed "d", served])) := by decide
  exact malformed_unfelt (plainBackend .sqlite3) (tablesWith ["d"]) false false monitorUp
    [deviceServed "d", served] hreach harrives hstep hunfelt hrun hdrained

/-- A session whose payload is something else. -/
def straySession : Envelope := ⟨.monitor, .setSession, .other⟩

/-- The device collects for a session without a hash, which is recorded. -/
theorem malformed_felt :
    Arrives (endsIn monitorUp) (fromMonitor [straySession]) (fromMonitor []) (.device "d" 0) ∧
      AllDrained (endsIn (monitorUp ++
        [fromMonitor [straySession], deviceServed "d", deviceServed "d", served])) ∧
      AllDrained (endsIn (monitorUp ++ [fromMonitor []])) ∧
      ¬ SameEnd (endsIn (monitorUp ++
          [fromMonitor [straySession], deviceServed "d", deviceServed "d", served]))
        (endsIn (monitorUp ++ [fromMonitor []])) := by
  have hread := Arrives.monitor (s := endsIn monitorUp) "d" ⟨1, 1⟩ [] straySession [] .again _ rfl
    (by decide) rfl rfl id
  exact ⟨hread, by decide, by decide, by decide⟩

end TkmCollector.Proofs
