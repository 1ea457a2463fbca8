import TkmCollector.Proofs.Draining

/-!
# Fair loops

A loop is fair when it dispatches the dispatcher, the database and the queue of every device again
and again. In a fair run that does not end, every request comes to the head of its queue, whatever
arrives meanwhile, and so does what it becomes: each request of a client is answered in the end.
-/

namespace TkmCollector.Proofs

open Application

/-- A queue with its source in the event loop. -/
inductive Source where
  | dispatcher
  | database
  | device (hash : String)

namespace Source

/-- A place in the queue, by the number of requests in front of it. -/
def place : Source → ℕ → Trace
  | .dispatcher, ahead => .dispatcher ahead
  | .database, ahead => .database ahead
  | .device hash, ahead => .device hash ahead

/-- The loop dispatches the source. -/
def Dispatches : Source → Application.Event → Prop
  | .dispatcher, .dispatcher _ => True
  | .database, .database _ => True
  | .device hash, .queue k _ => k = hash
  | _, _ => False

/-- The request stands in the queue. -/
def Holds (source : Source) (s : Application) (rq : AnyRequest) : Prop :=
  ∃ ahead, (source.place ahead).request s = some rq

/-- The request is the next that the source handles. -/
def AtHead (source : Source) (s : Application) (rq : AnyRequest) : Prop :=
  (source.place 0).request s = some rq

variable {source : Source} {ahead : ℕ} {e : Application.Event}

lemma due_place (h : (source.place ahead).due e = true) : ahead = 0 ∧ source.Dispatches e := by
  cases source with
  | dispatcher | database =>
    cases ahead with
    | succ n => cases h
    | zero => cases e <;> first | exact ⟨rfl, trivial⟩ | cases h
  | device hash =>
    cases ahead with
    | succ n => cases h
    | zero =>
      cases e with
      | queue k io => exact ⟨rfl, by simpa [place, Trace.due, Dispatches] using h⟩
      | _ => cases h

lemma shifted_place (h : (source.place ahead).due e = false) :
    ∃ n ≤ ahead, (source.place ahead).shifted e = source.place n ∧ (source.Dispatches e → n < ahead) := by
  have hstays : ¬ source.Dispatches e → (source.place ahead).shifted e = source.place ahead →
      ∃ n ≤ ahead, (source.place ahead).shifted e = source.place n ∧
        (source.Dispatches e → n < ahead) :=
    fun hother hsame => ⟨ahead, le_rfl, hsame, fun hd => absurd hd hother⟩
  have hpos : source.Dispatches e → ahead ≠ 0 := by
    rintro hd rfl
    cases source <;> cases e <;> simp_all [Dispatches, place, Trace.due]
  by_cases hd : source.Dispatches e
  · have hne := hpos hd
    refine ⟨ahead - 1, Nat.sub_le ahead 1, ?_, fun _ => by omega⟩
    cases source <;> cases e <;> simp_all [Dispatches, place, Trace.shifted]
  · apply hstays hd
    cases source <;> cases e <;> simp_all [Dispatches, place, Trace.shifted]

end Source

section Runs

variable {b : Backend} {states : ℕ → Application} {events : ℕ → Application.Event}

lemma approaches_head (b : Backend) (source : Source) (rq : AnyRequest) :
    Machine.Approaches (Application.step b) source.Dispatches (fun s _ => source.AtHead s rq)
      fun s ahead => (source.place ahead).request s = some rq := by
  intro s e s' ahead hrq hstep
  cases hdue : (source.place ahead).due e with
  | true =>
    obtain ⟨rfl, hdispatches⟩ := Source.due_place hdue
    exact .inl ⟨hrq, hdispatches⟩
  | false =>
    obtain ⟨n, hn, hshifted, hcloser⟩ := Source.shifted_place hdue
    have hnext := request_step hstep hdue hrq
    rw [Trace.next_of_not_due hdue, hshifted] at hnext
    exact .inr ⟨n, hn, hnext, hcloser⟩

lemma head_reached {source : Source} {rq : AnyRequest} {n : ℕ}
    (h : Machine.Endless (Application.step b) states events)
    (hfair : Machine.Recurring events source.Dispatches) (hrq : source.Holds (states n) rq) :
    ∃ m, n ≤ m ∧ source.Dispatches (events m) ∧ source.AtHead (states m) rq := by
  obtain ⟨ahead, hahead⟩ := hrq
  exact (approaches_head b source rq).met h hfair hahead

lemma holds_dispatcher {s : Application} {entry : DispatcherEntry} (h : entry ∈ s.dispatcher) :
    Source.dispatcher.Holds s (.dispatcher entry.request) := by
  obtain ⟨ahead, hahead⟩ := List.getElem?_of_mem h
  exact ⟨ahead, by simp [Source.place, Trace.request, hahead]⟩

lemma holds_database {s : Application} {entry : DbEntry} (h : entry ∈ s.collector.queue) :
    Source.database.Holds s (.database entry.request) := by
  obtain ⟨ahead, hahead⟩ := List.getElem?_of_mem h
  exact ⟨ahead, by simp [Source.place, Trace.request, hahead]⟩

lemma holds_device {s : Application} {hash : String} {d : MonitorDevice} {rq : IDevice.Request}
    (hget : s.collector.devices.getDevice hash = some d) (h : rq ∈ d.queue) :
    (Source.device hash).Holds s (.device rq) := by
  obtain ⟨ahead, hahead⟩ := List.getElem?_of_mem h
  exact ⟨ahead, by simp [Source.place, Trace.request, hget, hahead]⟩

lemma step_head_dispatcher {s s' : Application} {e : Application.Event} {rq : Dispatcher.Request}
    (he : Source.dispatcher.Dispatches e) (hrq : Source.dispatcher.AtHead s (.dispatcher rq))
    (h : Application.step b s e = .ok s') :
    ∃ write entry rest o, entry.request = rq ∧ s.dispatcher = entry :: rest ∧
      Dispatcher.requestHandler s.known rq = .ok o ∧
      s' = deliver { s with dispatcher := rest } o write entry.served := by
  cases e with
  | dispatcher write =>
    cases hq : s.dispatcher with
    | nil => simp [Source.AtHead, Source.place, Trace.request, hq] at hrq
    | cons entry rest =>
      obtain rfl : entry.request = rq := by
        simpa [Source.AtHead, Source.place, Trace.request, hq] using hrq
      rw [step_dispatcher_of_entry hq] at h
      cases ho : Dispatcher.requestHandler s.known entry.request with
      | error stop => simp [ho] at h
      | ok o =>
        rw [ho] at h
        exact ⟨write, entry, rest, o, rfl, rfl, rfl, (Except.ok.inj h).symm⟩
  | _ => exact he.elim

lemma step_head_database {s s' : Application} {e : Application.Event} {rq : IDatabase.Request}
    (he : Source.database.Dispatches e) (hrq : Source.database.AtHead s (.database rq))
    (h : Application.step b s e = .ok s') :
    ∃ io entry rest o, s.collector.queue = entry :: rest ∧
      Database.requestHandler b s.collector.deviceState io s.collector.tables rq = .ok o ∧
      s' = afterDatabase s entry rest o := by
  cases e with
  | database io =>
    cases hq : s.collector.queue with
    | nil => simp [Source.AtHead, Source.place, Trace.request, hq] at hrq
    | cons entry rest =>
      obtain rfl : entry.request = rq := by
        simpa [Source.AtHead, Source.place, Trace.request, hq] using hrq
      obtain ⟨o, ho, hs'⟩ := step_database hq h
      exact ⟨io, entry, rest, o, rfl, ho, hs'⟩
  | _ => exact he.elim

lemma step_head_device {s s' : Application} {e : Application.Event} {hash : String}
    {rq : IDevice.Request} (he : (Source.device hash).Dispatches e)
    (hrq : (Source.device hash).AtHead s (.device rq)) (h : Application.step b s e = .ok s') :
    ∃ io d rest o, s.collector.devices.getDevice hash = some d ∧ d.queue = rq :: rest ∧
      MonitorDevice.requestHandler (popped d rest) rq io = .ok o ∧ s' = afterDevice s hash o := by
  cases e with
  | queue k io =>
    obtain rfl : k = hash := he
    cases hget : s.collector.devices.getDevice k with
    | none => simp [Source.AtHead, Source.place, Trace.request, hget] at hrq
    | some d =>
      obtain ⟨o, ho, hs'⟩ := onCollector_known hget h
      cases hq : d.queue with
      | nil => simp [Source.AtHead, Source.place, Trace.request, hget, hq] at hrq
      | cons x rest =>
        obtain rfl : x = rq := by
          simpa [Source.AtHead, Source.place, Trace.request, hget, hq] using hrq
        simp only [MonitorDevice.step, hq] at ho
        exact ⟨io, d, rest, o, rfl, hq, ho, hs'⟩
  | _ => exact he.elim

end Runs

/-- The event loop dispatches every source of requests again and again. -/
structure Fair (states : ℕ → Application) (events : ℕ → Application.Event) : Prop where
  dispatcher : Machine.Recurring events Source.dispatcher.Dispatches
  database : Machine.Recurring events Source.database.Dispatches
  device : ∀ hash n, (states n).known hash = true →
    Machine.Recurring events (Source.device hash).Dispatches

/-- From a moment on a status for the client with the id is sent. -/
def AnsweredFrom (states : ℕ → Application) (client : ClientId) (id : String) (n : ℕ) : Prop :=
  ∃ m status served ok, n ≤ m ∧ status.requestId = id ∧
    (states (m + 1)).sent = (states m).sent ++ [⟨client, .status status, ok, served⟩]

lemma AnsweredFrom.earlier {states : ℕ → Application} {client : ClientId} {id : String} {n m : ℕ}
    (h : AnsweredFrom states client id m) (hn : n ≤ m) : AnsweredFrom states client id n := by
  obtain ⟨k, status, served, ok, hk, hsent⟩ := h
  exact ⟨k, status, served, ok, hn.trans hk, hsent⟩

section Fair

variable {b : Backend} {states : ℕ → Application} {events : ℕ → Application.Event} {client : ClientId}
  {id : String} {n : ℕ}

/-- The id that a request carries. -/
def idOf {Action : Type} (rq : Request Action) : String := (rq.args.lookup .requestId).getD ""

lemma answered_of_status (h : Machine.Endless (Application.step b) states events)
    (hfair : Fair states events) {rq : Dispatcher.Request} (ha : rq.action = .sendStatus)
    (hclient : rq.client = some client)
    (hrq : Source.dispatcher.Holds (states n) (.dispatcher rq)) :
    AnsweredFrom states client (idOf rq) n := by
  obtain ⟨m, hm, hdispatches, hhead⟩ := head_reached h hfair.dispatcher hrq
  obtain ⟨write, entry, rest, o, rfl, hq, ho, hs'⟩ := step_head_dispatcher hdispatches hhead (h m)
  cases requestHandler_dispatched ho with
  | answered client' status _ hc hs =>
    obtain rfl : client' = client := Option.some.inj (hc.symm.trans hclient)
    refine ⟨m, _, entry.served, write, hm, ?_, by rw [hs']; rfl⟩
    rfl
  | unheard _ hc => simp [hclient] at hc
  | database action hd =>
    rw [ha] at hd
    cases hd
  | device action deviceData hd | unknown action deviceData hd =>
    rw [ha] at hd
    cases hd
  | quitting hd =>
    rw [ha] at hd
    cases hd

lemma answered_of_database (h : Machine.Endless (Application.step b) states events)
    (hfair : Fair states events) {rq : IDatabase.Request} (ha : AsksDatabase rq.action)
    (hclient : rq.client = some client)
    (hrq : Source.database.Holds (states n) (.database rq)) :
    AnsweredFrom states client (idOf rq) n := by
  obtain ⟨m, hm, hdispatches, hhead⟩ := head_reached h hfair.database hrq
  obtain ⟨io, entry, rest, o, hq, ho, hs'⟩ := step_head_database hdispatches hhead (h m)
  cases requestHandler_databaseReply ho with
  | silent hsilent => exact absurd ha hsilent
  | answered args _ hd hid =>
    have hpushed : (⟨Database.sendStatus rq args, some (states m).collector.handled.length⟩ :
        DispatcherEntry) ∈ (states (m + 1)).dispatcher := by
      rw [hs']
      simp [afterDatabase, hd]
    have hidOf : idOf (Database.sendStatus rq args) = idOf rq := by
      unfold idOf Database.sendStatus
      rw [hid]
    rw [← hidOf]
    exact (answered_of_status h hfair rfl hclient (holds_dispatcher hpushed)).earlier (by omega)

lemma getDevice_afterDevice {s : Application} {hash : String} {d : MonitorDevice} {o : Outcome}
    {event : MonitorDevice.Event} (hget : s.collector.devices.getDevice hash = some d)
    (ho : d.step event = .ok o) :
    (afterDevice s hash o).collector.devices.getDevice hash = some o.device := by
  apply getDevice_update_self _ hget
  rw [dispatch_hash (step_dispatch ho), getDevice_hash hget]

lemma known_of_holds {s : Application} {hash : String} {rq : AnyRequest}
    (h : (Source.device hash).Holds s rq) : s.known hash = true := by
  obtain ⟨ahead, hahead⟩ := h
  unfold known
  cases hget : s.collector.devices.getDevice hash with
  | none => simp [Source.place, Trace.request, hget] at hahead
  | some d => rfl

lemma answered_or_requeued (h : Machine.Endless (Application.step b) states events)
    (hfair : Fair states events) {hash : String} {rq : IDevice.Request} (ha : Asks rq.action)
    (hclient : rq.client = some client)
    (hrq : (Source.device hash).Holds (states n) (.device rq)) :
    AnsweredFrom states client (idOf rq) n ∨ rq.action = .connect ∧ ∃ m, n ≤ m ∧
      (Source.device hash).Holds (states m) (.device { rq with action := .sendDescriptor }) := by
  obtain ⟨m, hm, hdispatches, hhead⟩ := head_reached h (hfair.device hash n (known_of_holds hrq)) hrq
  obtain ⟨io, d, rest, o, hget, hq, ho, hs'⟩ := step_head_device hdispatches hhead (h m)
  cases requestHandler_reply ho with
  | silent added hsilent => exact absurd ha hsilent
  | requeued hconnect _ hqueue =>
    have hstep : d.step (.queue io) = .ok o := by
      simp only [MonitorDevice.step, hq]
      exact ho
    have hget' : (states (m + 1)).collector.devices.getDevice hash = some o.device := by
      rw [hs']
      exact getDevice_afterDevice hget hstep
    exact .inr ⟨hconnect, m + 1, by omega, holds_device hget' (by simp [hqueue])⟩
  | answered status reason added _ hd =>
    have hpushed : (⟨MonitorDevice.sendStatus rq status reason, none⟩ : DispatcherEntry) ∈
        (states (m + 1)).dispatcher := by
      rw [hs']
      simp [afterDevice, hd]
    have hidOf : idOf (MonitorDevice.sendStatus rq status reason) = idOf rq := by
      unfold idOf
      congr 1
      simp [MonitorDevice.sendStatus]
    rw [← hidOf]
    exact .inl ((answered_of_status h hfair rfl hclient (holds_dispatcher hpushed)).earlier (by omega))

lemma answered_of_device (h : Machine.Endless (Application.step b) states events)
    (hfair : Fair states events) {hash : String} {rq : IDevice.Request} (ha : Asks rq.action)
    (hclient : rq.client = some client)
    (hrq : (Source.device hash).Holds (states n) (.device rq)) :
    AnsweredFrom states client (idOf rq) n := by
  obtain hanswered | ⟨-, m, hm, hagain⟩ := answered_or_requeued h hfair ha hclient hrq
  · exact hanswered
  · -- what goes back to the queue is not to connect again
    let again : IDevice.Request := { rq with action := .sendDescriptor }
    have hasks : Asks again.action := (by decide : Asks .sendDescriptor)
    have hclient' : again.client = some client := hclient
    obtain hanswered | ⟨hconnect, -⟩ := answered_or_requeued h hfair hasks hclient' hagain
    · exact hanswered.earlier hm
    · cases hconnect

/-- A request of a client that stands in the queue of the dispatcher is answered. For a device that
is not known the status has no id. -/
lemma answered_of_dispatcher (h : Machine.Endless (Application.step b) states events)
    (hfair : Fair states events) {rq : Dispatcher.Request} (ha : AsksDispatcher rq.action)
    (hclient : rq.client = some client)
    (hrq : Source.dispatcher.Holds (states n) (.dispatcher rq)) :
    AnsweredFrom states client (idOf rq) n ∨
      (deviceAction rq.action).isSome = true ∧ AnsweredFrom states client "" n := by
  obtain ⟨m, hm, hdispatches, hhead⟩ := head_reached h hfair.dispatcher hrq
  obtain ⟨write, entry, rest, o, rfl, hq, ho, hs'⟩ := step_head_dispatcher hdispatches hhead (h m)
  cases requestHandler_dispatched ho with
  | database action hd =>
    have hpushed : (⟨⟨entry.request.client, action.toAction, entry.request.args,
        databaseBulk entry.request⟩, none⟩ : DbEntry) ∈ (states (m + 1)).collector.queue := by
      rw [hs']
      simp [deliver, Dispatcher.toDatabase]
    exact .inl ((answered_of_database h hfair (asks_database hd).2 hclient
      (holds_database hpushed)).earlier (by omega))
  | device action deviceData hd _ hknown =>
    obtain ⟨d, hget⟩ := Option.isSome_iff_exists.mp hknown
    have hget' : (states (m + 1)).collector.devices.getDevice deviceData.hash =
        some (d.pushRequest ⟨entry.request.client, action, entry.request.args,
          entry.request.bulkData⟩) := by
      rw [hs']
      simp only [deliver, hget]
      exact getDevice_update_self (getDevice_hash (d := d) hget) hget
    have hpushed := holds_device hget' (List.mem_append_right d.queue List.mem_cons_self)
    exact .inl ((answered_of_device h hfair (asks_device hd).2.1 hclient hpushed).earlier (by omega))
  | unknown action deviceData hd =>
    have hpushed : (⟨noSuchDevice entry.request.client, none⟩ : DispatcherEntry) ∈
        (states (m + 1)).dispatcher := by
      rw [hs']
      simp [deliver]
    have hstatus : (noSuchDevice entry.request.client).action = .sendStatus := rfl
    have hclient' : (noSuchDevice entry.request.client).client = some client := hclient
    exact .inr ⟨by rw [hd]; rfl,
      (answered_of_status h hfair hstatus hclient' (holds_dispatcher hpushed)).earlier (by omega)⟩
  | quitting hd =>
    rw [hd] at ha
    exact absurd ha (by decide)
  | unheard hd => exact .inl (answered_of_status h hfair hd hclient hrq)
  | answered client' status hd => exact .inl (answered_of_status h hfair hd hclient hrq)

end Fair

section Asked

variable {b : Backend} {s s' : Application}

/-- What the dispatcher is asked for by a request of a client. -/
def askedAction : Control.RequestType → Option Dispatcher.Action
  | .requestSession => some .sendStatus
  | .initDatabase => some .initDatabase
  | .quitCollector => some .quitCollector
  | .getDevices => some .getDevices
  | .getSessions => some .getSessions
  | .removeSession => some .removeSession
  | .addDevice => some .addDevice
  | .removeDevice => some .removeDevice
  | .connectDevice => some .connectDevice
  | .disconnectDevice => some .disconnectDevice
  | .startCollecting => some .startCollecting
  | .stopCollecting => some .stopCollecting
  | .unknown => none

lemma request_asked {client : ClientId} {rq : Control.Request} {write : Bool}
    {message : Option Control.Message} {nrq : Dispatcher.Request}
    (h : ControlClient.requestHandler client rq write = some (message, nrq)) :
    nrq.client = some client ∧ idOf nrq = rq.id ∧ askedAction rq.type = some nrq.action := by
  have hid := lookup_requestArgs rq
  unfold ControlClient.requestHandler at h
  cases htype : rq.type with
  | unknown => simp [htype] at h
  | requestSession =>
    simp only [htype, ControlClient.doRequestSession, Option.some.injEq, Prod.mk.injEq] at h
    rw [← h.2]
    refine ⟨rfl, ?_, rfl⟩
    cases write <;> rfl
  | getDevices =>
    simp only [htype, Option.some.injEq, Prod.mk.injEq] at h
    rw [← h.2]
    exact ⟨rfl, rfl, rfl⟩
  | _ =>
    simp only [htype, Option.some.injEq, Prod.mk.injEq] at h
    rw [← h.2]
    refine ⟨rfl, ?_, rfl⟩
    simp [idOf, hid, ControlClient.request, ControlClient.doInitDatabase,
      ControlClient.doQuitCollector, ControlClient.doGetSessions, ControlClient.doRemoveSession,
      ControlClient.doAddDevice, ControlClient.doRemoveDevice, ControlClient.doConnectDevice,
      ControlClient.doDisconnectDevice, ControlClient.doStartCollecting,
      ControlClient.doStopCollecting]

lemma asksDispatcher_asked {type : Control.RequestType} {action : Dispatcher.Action}
    (h : askedAction type = some action) (htype : Answerable type) : AsksDispatcher action := by
  revert htype
  cases type with
  | unknown => cases h
  | _ =>
    rw [← Option.some.inj h]
    decide

lemma deviceType_asked {type : Control.RequestType} {action : Dispatcher.Action}
    (h : askedAction type = some action) (haction : (deviceAction action).isSome = true) :
    type ∈ [.connectDevice, .disconnectDevice, .startCollecting, .stopCollecting] := by
  revert haction
  cases type with
  | unknown => cases h
  | _ =>
    rw [← Option.some.inj h]
    decide

/-- Every request that is read joins the queue of the dispatcher, when its type is known. -/
structure Taken (s s' : Application) : Prop where
  asked : ∃ new, s'.asked = s.asked ++ new ∧ ∀ p ∈ new, p.2.type = .unknown ∨
    ∃ write message, ∃ entry ∈ s'.dispatcher,
      ControlClient.requestHandler p.1 p.2 write = some (message, entry.request)

lemma taken_asks {client : ClientId} (h : Relation.ReflTransGen (Ask client) s s') :
    (∃ new, s'.dispatcher = s.dispatcher ++ new) ∧ Taken s s' := by
  induction h with
  | refl => exact ⟨⟨[], by simp⟩, ⟨[], by simp, by simp⟩⟩
  | tail _ hlast ih =>
    obtain ⟨⟨entries, hentries⟩, ⟨new, hnew, hall⟩⟩ := ih
    cases hlast with
    | unknown rq hrq =>
      refine ⟨⟨entries, hentries⟩, ⟨new ++ [(client, rq)], by simp [hnew], ?_⟩⟩
      intro p hp
      obtain hold | hp := List.mem_append.mp hp
      · exact hall p hold
      · rw [List.mem_singleton.mp hp]
        exact .inl (requestHandler_eq_none.mp (hrq true))
    | known rq write message nrq hrq =>
      refine ⟨⟨entries ++ [⟨nrq, none⟩], by simp [ask, hentries]⟩,
        ⟨new ++ [(client, rq)], by simp [ask, hnew], ?_⟩⟩
      intro p hp
      obtain hold | hp := List.mem_append.mp hp
      · obtain hunknown | ⟨write', message', entry, hentry, hhandler⟩ := hall p hold
        · exact .inl hunknown
        · exact .inr ⟨write', message', entry, List.mem_append_left _ hentry, hhandler⟩
      · rw [List.mem_singleton.mp hp]
        exact .inr ⟨write, message, ⟨nrq, none⟩,
          List.mem_append_right _ (List.mem_singleton_self _), hrq⟩

lemma taken_turn {e : Application.Event} (h : Turn b s e s') : Taken s s' := by
  cases h with
  | control client input last s₁ clients hasks => exact ⟨(taken_asks hasks).2.asked⟩
  | idle | accept | dispatcher | device | database =>
    exact ⟨[], by simp [deliver, afterDevice, afterDatabase], by simp⟩

lemma answered_of_asked {states : ℕ → Application} {events : ℕ → Application.Event}
    (h : Machine.Endless (Application.step b) states events) (hfair : Fair states events) {n : ℕ}
    {client : ClientId} {rq : Control.Request}
    (hasked : (client, rq) ∈ (states (n + 1)).asked.drop (states n).asked.length)
    (htype : Answerable rq.type) :
    AnsweredFrom states client rq.id (n + 1) ∨
      rq.type ∈ [.connectDevice, .disconnectDevice, .startCollecting, .stopCollecting] ∧
        AnsweredFrom states client "" (n + 1) := by
  obtain ⟨new, hnew, hall⟩ := (taken_turn (step_turn (h n))).asked
  rw [hnew, List.drop_left] at hasked
  obtain hunknown | ⟨write, message, entry, hentry, hhandler⟩ := hall _ hasked
  · rw [hunknown] at htype
    exact absurd htype (by decide)
  · obtain ⟨hclient, hid, haction⟩ := request_asked hhandler
    rw [← hid]
    obtain hanswered | ⟨hdevice, hanswered⟩ := answered_of_dispatcher h hfair
      (asksDispatcher_asked haction htype) hclient (holds_dispatcher hentry)
    · exact .inl hanswered
    · exact .inr ⟨deviceType_asked haction hdevice, hanswered⟩

end Asked

/-- In a fair run that does not end, every request that a client sends is followed by a status for
it, with its id, or without one when it is for a device that is not known. -/
theorem fair_answers (b : Backend) (states : ℕ → Application) (events : ℕ → Application.Event)
    (h : Machine.Endless (Application.step b) states events) (hfair : Fair states events) (n : ℕ)
    (client : ClientId) (rq : Control.Request)
    (hasked : (client, rq) ∈ (states (n + 1)).asked.drop (states n).asked.length)
    (htype : Answerable rq.type) :
    AnsweredFrom states client rq.id (n + 1) ∨
      rq.type ∈ [.connectDevice, .disconnectDevice, .startCollecting, .stopCollecting] ∧
        AnsweredFrom states client "" (n + 1) :=
  answered_of_asked h hfair hasked htype

/-- A loop that goes on by dispatching the dispatcher and the database in turns. -/
def inTurns (n : ℕ) : Application.Event := if n % 2 = 0 then dispatched else served

lemma fair_inTurns {b : Backend} {s t : Application} {is : List Application.Event}
    (hrun : Machine.run (Application.step b) s is = .ok t) (hempty : QueuesEmpty t)
    (hnone : Machine.Throughout (Application.step b) (fun s => s.collector.devices.isEmpty = true)
      s is) :
    Machine.Endless (Application.step b) (Machine.stateAfter (Application.step b) s t is)
        (Machine.inputsAfter inTurns is) ∧
      Fair (Machine.stateAfter (Application.step b) s t is) (Machine.inputsAfter inTurns is) := by
  constructor
  · apply Machine.endless_of_run hrun
    intro n
    unfold inTurns
    split
    · exact step_dispatcher_of_nil hempty.1
    · exact step_database_of_nil hempty.2.1
  · refine ⟨Machine.Recurring.after (fun n => ⟨2 * n, by omega, ?_⟩) is,
      Machine.Recurring.after (fun n => ⟨2 * n + 1, by omega, ?_⟩) is, fun hash n hknown => ?_⟩
    · rw [inTurns, if_pos (Nat.mul_mod_right 2 n)]
      trivial
    · rw [inTurns, if_neg (by omega)]
      trivial
    · have hdevices := Machine.stateAfter_of_throughout hrun hnone n
      rw [List.isEmpty_iff] at hdevices
      unfold known at hknown
      rw [hdevices] at hknown
      cases hknown

/-- A client asks for the devices, and then nothing more arrives. -/
theorem fair_answers_devices :
    ∃ states events, Machine.Endless (Application.step (plainBackend .sqlite3)) states events ∧
      Fair states events ∧ AnsweredFrom states 0 "1" 5 := by
  have hrun : ∃ t, Machine.run (Application.step (plainBackend .sqlite3))
      (Application.start (tablesWith []) false false)
      [served, served, served, .accept, asks 0 (requestFor "1" .getDevices ""), dispatched, served,
        dispatched] = .ok t ∧ QueuesEmpty t := ⟨_, rfl, by decide⟩
  obtain ⟨t, hrun, hempty⟩ := hrun
  obtain ⟨hendless, hfair⟩ := fair_inTurns hrun hempty (by decide)
  refine ⟨_, _, hendless, hfair, ?_⟩
  obtain hanswered | ⟨htype, -⟩ := fair_answers _ _ _ hendless hfair 4 0
    (requestFor "1" .getDevices "") List.mem_cons_self (by decide)
  · exact hanswered
  · exact absurd htype (by decide)

end TkmCollector.Proofs
