import Mathlib.Algebra.Order.Group.Multiset
import Mathlib.Tactic.Abel
import TkmCollector.Proofs.QueueContents

namespace TkmCollector.Proofs

open Application

/-- What a client waits for: the status of its request with an id. -/
abbrev Ticket := ClientId × String

/-- The status for a request goes to its client, with its id. -/
def ticketOf {Action : Type} (rq : Request Action) : Option Ticket :=
  rq.client.map fun client => (client, (rq.args.lookup .requestId).getD "")

section Owed

variable {Action : Type} (waits : Action → Prop) [DecidablePred waits]

/-- The tickets of the requests with an action that is answered. -/
def owed (requests : List (Request Action)) : Multiset Ticket :=
  (requests.filter fun rq => waits rq.action).filterMap ticketOf

@[simp] lemma owed_nil : owed waits [] = 0 := rfl

@[simp] lemma owed_append (l₁ l₂ : List (Request Action)) :
    owed waits (l₁ ++ l₂) = owed waits l₁ + owed waits l₂ := by
  simp [owed]

lemma owed_cons (rq : Request Action) (l : List (Request Action)) :
    owed waits (rq :: l) = owed waits [rq] + owed waits l :=
  owed_append waits [rq] l

lemma owed_single {rq : Request Action} (h : waits rq.action) :
    owed waits [rq] = (ticketOf rq).toList := by
  cases hticket : ticketOf rq <;> simp [owed, h, hticket]

lemma owed_eq_zero {l : List (Request Action)}
    (h : ∀ rq ∈ l, waits rq.action → rq.client = none) : owed waits l = 0 := by
  unfold owed
  rw [Multiset.coe_eq_zero, List.filterMap_eq_nil_iff]
  intro rq hrq
  rw [List.mem_filter] at hrq
  simp [ticketOf, h rq hrq.1 (by simpa using hrq.2)]

end Owed

/-- The requests of the dispatcher that are answered. -/
def AsksDispatcher (action : Dispatcher.Action) : Prop := action ∉ [.quitCollector, .quit]

instance : DecidablePred AsksDispatcher := fun _ => inferInstanceAs (Decidable (_ ∉ _))

/-- The types of the requests that a client may send and that do not end the collector. -/
def Answerable (type : Control.RequestType) : Prop := type ∉ [.unknown, .quitCollector]

instance : DecidablePred Answerable := fun _ => inferInstanceAs (Decidable (_ ∉ _))

/-- The requests of all device queues. -/
def deviceRequests (devices : DeviceManager) : List IDevice.Request :=
  devices.flatMap fun d => d.queue

/-- The tickets of all requests that were taken from the clients. -/
def issued (s : Application) : Multiset Ticket :=
  (s.asked.filter fun (_, rq) => Answerable rq.type).map fun (client, rq) => (client, rq.id)

/-- The tickets of the requests that stand in a queue. -/
def outstanding (s : Application) : Multiset Ticket :=
  owed AsksDispatcher (s.dispatcher.map fun e => e.request) +
    owed AsksDatabase (s.collector.queue.map fun e => e.request) +
    owed Asks (deviceRequests s.collector.devices)

/-- The ticket that a message pays. -/
def paidBy (x : Sent) : Option Ticket :=
  match x.message with
  | .status status => some (x.client, status.requestId)
  | .setSession _ | .deviceList _ | .sessionList _ => none

/-- The tickets that the statuses to the clients pay. -/
def paid (s : Application) : Multiset Ticket := s.sent.filterMap paidBy

/-- Nothing waits in any queue. -/
def QueuesEmpty (s : Application) : Prop := s.dispatcher = [] ∧ Drained s.collector

instance (s : Application) : Decidable (QueuesEmpty s) :=
  inferInstanceAs (Decidable (s.dispatcher = [] ∧ s.collector.queue = [] ∧
    ∀ d ∈ s.collector.devices, d.queue = []))

/-- Each status pays for one request of its client with its id, and once the queues are empty each
request is paid for by one status. -/
def OneAnswer (s : Application) : Prop :=
  paid s ≤ issued s ∧ (QueuesEmpty s → paid s = issued s)

instance (s : Application) : Decidable (QueuesEmpty s) := by
  unfold QueuesEmpty Drained
  infer_instance

instance (s : Application) : Decidable (OneAnswer s) := by
  unfold OneAnswer
  infer_instance

/-- A status is sent for the head of the dispatcher queue only, and says what the arguments of
that request say. -/
def StatusOfHead (s : Application) (_ : Application.Event) (s' : Application) : Prop :=
  ∃ new, s'.sent = s.sent ++ new ∧ ∀ x ∈ new, ∀ status, x.message = .status status →
    ∃ entry rest value, s.dispatcher = entry :: rest ∧ entry.request.client = some x.client ∧
      entry.request.args.lookup .status = some value ∧ status.what = Dispatcher.whatFor value ∧
      status.requestId = (entry.request.args.lookup .requestId).getD ""

/-- The request is for a device that the device manager does not know. -/
def ForUnknownDevice (known : String → Bool) (rq : Dispatcher.Request) : Prop :=
  rq.action ∈ [.connectDevice, .disconnectDevice, .startCollecting, .stopCollecting] ∧
    match rq.bulkData.castDeviceData with
    | .ok deviceData => known deviceData.hash = false
    | .error _ => False

instance (known : String → Bool) (rq : Dispatcher.Request) :
    Decidable (ForUnknownDevice known rq) := by
  unfold ForUnknownDevice
  split <;> infer_instance

/-- The dispatcher handles no request for an unknown device, unless the request has no id. -/
def AnswerGuard (s : Application) : Application.Event → Prop
  | .dispatcher _ => ∀ entry ∈ s.dispatcher.head?, ForUnknownDevice s.known entry.request →
      (entry.request.args.lookup .requestId).getD "" = ""
  | _ => True

instance (s : Application) (e : Application.Event) : Decidable (AnswerGuard s e) := by
  unfold AnswerGuard
  split <;> infer_instance

lemma ticketOf_congr {A B : Type} {rq : Request A} {rq' : Request B} (hclient : rq'.client = rq.client)
    (hid : rq'.args.lookup .requestId = rq.args.lookup .requestId) : ticketOf rq' = ticketOf rq := by
  unfold ticketOf
  rw [hclient, hid]

/-- A client's request becomes one request of the dispatcher with its ticket. -/
lemma owed_asked {client : ClientId} {rq : Control.Request} {write : Bool}
    {message : Option Control.Message} {nrq : Dispatcher.Request}
    (h : ControlClient.requestHandler client rq write = some (message, nrq)) :
    owed AsksDispatcher [nrq] = (if Answerable rq.type then {(client, rq.id)} else 0) ∧
      ∀ m ∈ message, ∀ ok, paidBy ⟨client, m, ok, none⟩ = none := by
  have hid := lookup_requestArgs rq
  unfold ControlClient.requestHandler at h
  cases htype : rq.type with
  | unknown => simp [htype] at h
  | requestSession =>
    simp only [htype, ControlClient.doRequestSession, Option.some.injEq, Prod.mk.injEq] at h
    obtain ⟨rfl, rfl⟩ := h
    constructor
    · cases write <;> simp [owed, AsksDispatcher, Answerable, ControlClient.request, ticketOf]
    · intro m hm ok
      rw [← Option.mem_some_iff.mp hm, paidBy]
  | _ =>
    simp only [htype, Option.some.injEq, Prod.mk.injEq] at h
    obtain ⟨rfl, rfl⟩ := h
    constructor
    · simp [owed, AsksDispatcher, Answerable, ticketOf, hid, ControlClient.request,
        ControlClient.doInitDatabase, ControlClient.doQuitCollector, ControlClient.doGetDevices,
        ControlClient.doGetSessions, ControlClient.doRemoveSession, ControlClient.doAddDevice,
        ControlClient.doRemoveDevice, ControlClient.doConnectDevice,
        ControlClient.doDisconnectDevice, ControlClient.doStartCollecting,
        ControlClient.doStopCollecting]
    · simp

/-- What a handler of the dispatcher pushes and pays. -/
def handedOn (o : Dispatcher.Outcome) (write : Bool) (served : Option Nat) : Multiset Ticket :=
  owed AsksDispatcher o.dispatcher + owed AsksDatabase o.database +
    owed Asks (o.device.map Prod.snd).toList +
    o.message.toList.filterMap fun (client, m) => paidBy ⟨client, m, write, served⟩

lemma handedOn_toDatabase {rq : Dispatcher.Request} {action : IDatabase.Action} {bulkData : BulkData}
    (hasks : AsksDispatcher rq.action) (haction : AsksDatabase action) (write : Bool)
    (served : Option Nat) :
    handedOn (Dispatcher.toDatabase rq action bulkData) write served = owed AsksDispatcher [rq] := by
  have hticket : ticketOf ⟨rq.client, action, rq.args, bulkData⟩ = ticketOf rq := ticketOf_congr rfl rfl
  unfold handedOn
  rw [owed_single _ hasks, ← hticket]
  simp [Dispatcher.toDatabase, owed_single, haction]

lemma asks_database {action : Dispatcher.Action} {action' : Collector.ClientAction}
    (h : databaseAction action = some action') :
    AsksDispatcher action ∧ AsksDatabase action'.toAction := by
  cases action with
  | initDatabase | getDevices | getSessions | removeSession | addDevice | removeDevice =>
    rw [← Option.some.inj h]
    decide
  | _ => cases h

lemma asks_device {action : Dispatcher.Action} {action' : IDevice.Action}
    (h : deviceAction action = some action') : AsksDispatcher action ∧ Asks action' ∧
      action ∈ [.connectDevice, .disconnectDevice, .startCollecting, .stopCollecting] := by
  cases action with
  | connectDevice | disconnectDevice | startCollecting | stopCollecting =>
    rw [← Option.some.inj h]
    decide
  | _ => cases h

/-- A handler of the dispatcher hands the ticket of its request on, or pays it. -/
lemma owed_dispatched {known : String → Bool} {rq : Dispatcher.Request} {o : Dispatcher.Outcome}
    (h : Dispatcher.requestHandler known rq = .ok o)
    (hguard : ForUnknownDevice known rq → (rq.args.lookup .requestId).getD "" = "") (write : Bool)
    (served : Option Nat) : handedOn o write served = owed AsksDispatcher [rq] := by
  have hstatus : AsksDispatcher .sendStatus := by decide
  cases requestHandler_dispatched h with
  | database action ha =>
    obtain ⟨hasks, haction⟩ := asks_database ha
    exact handedOn_toDatabase hasks haction write served
  | device action deviceData ha =>
    obtain ⟨hasks, haction, -⟩ := asks_device ha
    have hticket : ticketOf ⟨rq.client, action, rq.args, rq.bulkData⟩ = ticketOf rq :=
      ticketOf_congr rfl rfl
    unfold handedOn
    rw [owed_single _ hasks, ← hticket]
    simp [owed_single, haction]
  | unknown action deviceData ha hb hknown =>
    obtain ⟨hasks, -, hmem⟩ := asks_device ha
    -- the status for an unknown device is for the request without an id
    have hid : (rq.args.lookup .requestId).getD "" = "" := by
      apply hguard
      unfold ForUnknownDevice
      rw [hb]
      exact ⟨hmem, hknown⟩
    unfold handedOn
    rw [owed_single _ hasks]
    simp [owed_single, hstatus, ticketOf, hid, noSuchDevice]
  | quitting ha => simp [handedOn, Dispatcher.doQuitCollector, owed, AsksDispatcher, ha]
  | unheard ha hc =>
    rw [owed_single _ (ha ▸ hstatus)]
    simp [handedOn, ticketOf, hc]
  | answered client status ha hc =>
    rw [owed_single _ (ha ▸ hstatus)]
    simp [handedOn, ticketOf, hc, paidBy, statusMessage]

section Device

variable {d : MonitorDevice} {e : MonitorDevice.Event} {o : Outcome}

lemma owed_accepted {d' : MonitorDevice} (h : Relation.ReflTransGen Accept d d') :
    owed Asks d'.queue = owed Asks d.queue := by
  obtain ⟨added, streams, rfl, hadded⟩ := accepts_eq h
  have hzero : owed Asks added = 0 := by
    apply owed_eq_zero
    intro rq hrq
    cases hadded rq hrq with
    | session | data | status => exact fun _ => rfl
  simp [hzero]

lemma owed_device (hcontrol : ∀ action client args data, e ≠ .control action client args data)
    (h : d.step e = .ok o) :
    owed Asks o.device.queue + owed AsksDispatcher o.dispatcher = owed Asks d.queue := by
  cases e with
  | control action client args data => exact absurd rfl (hcontrol action client args data)
  | connection clock input last =>
    simp only [MonitorDevice.step] at h
    split at h
    · rw [← Except.ok.inj h]
      simp
    · rw [← Except.ok.inj h]
      have hread := owed_accepted (readEnvelopes_accepts clock last d input)
      split <;> simpa using hread
  | finalize =>
    simp only [MonitorDevice.step] at h
    split at h
    · rw [← Except.ok.inj h]
      simp
    · rw [← Except.ok.inj h]
      simp [finalize_fst]
  | timer timer =>
    simp only [MonitorDevice.step, MonitorDevice.update] at h
    split at h
    · split at h
      · rw [← Except.ok.inj h]
        simp
      · split at h
        · cases h
        · rw [← Except.ok.inj h]
          simp
    · rw [← Except.ok.inj h]
      simp
  | queue io =>
    simp only [MonitorDevice.step] at h
    cases hq : d.queue with
    | nil =>
      simp only [hq, Except.ok.injEq] at h
      rw [← h]
      simp [hq]
    | cons rq rest =>
      simp only [hq] at h
      have hadded : ∀ added : List IDevice.Request, (∀ x ∈ added, x.client = none) →
          owed Asks added = 0 := fun added hnone => owed_eq_zero _ fun x hx _ => hnone x hx
      rw [owed_cons]
      cases requestHandler_reply h with
      | answered status reason added ha hd hqueue hnone =>
        have hticket : ticketOf (MonitorDevice.sendStatus rq status reason) = ticketOf rq :=
          ticketOf_congr rfl (by simp [MonitorDevice.sendStatus])
        have hstatus : AsksDispatcher .sendStatus := by decide
        rw [hqueue, hd, owed_append, hadded added hnone, owed_single _ ha, owed_single _ hstatus,
          hticket, add_zero, add_comm]
      | requeued ha hd hqueue =>
        have hticket : ticketOf { rq with action := IDevice.Action.sendDescriptor } = ticketOf rq :=
          ticketOf_congr rfl rfl
        have hasks : Asks rq.action := by rw [ha]; decide
        have hrequeued : Asks IDevice.Action.sendDescriptor := by decide
        rw [hqueue, hd, owed_append, owed_single _ hasks, owed_single _ hrequeued, hticket, owed_nil,
          add_zero, add_comm]
      | silent added ha hd hqueue hnone =>
        have hzero : owed Asks [rq] = 0 :=
          owed_eq_zero _ fun x hx hasks => absurd (List.mem_singleton.mp hx ▸ hasks) ha
        rw [hqueue, hd, owed_append, hadded added hnone, hzero, owed_nil, add_zero, add_zero, zero_add]

end Device

lemma owed_database {b : Backend} {states : String → Option Control.DeviceState} {io : DbIo}
    {t : Tables} {rq : IDatabase.Request} {o : DbOutcome}
    (h : Database.requestHandler b states io t rq = .ok o) :
    owed AsksDispatcher o.dispatcher = owed AsksDatabase [rq] ∧ owed AsksDatabase o.database = 0 := by
  constructor
  · cases requestHandler_databaseReply h with
    | answered args ha hd hid =>
      have hticket : ticketOf (Database.sendStatus rq args) = ticketOf rq := ticketOf_congr rfl hid
      have hstatus : AsksDispatcher .sendStatus := by decide
      rw [hd, owed_single _ ha, owed_single _ hstatus, hticket]
    | silent ha hd =>
      rw [hd, owed_nil]
      symm
      exact owed_eq_zero _ fun x hx hasks => absurd (List.mem_singleton.mp hx ▸ hasks) ha
  · exact owed_eq_zero _ fun q hq _ => (requestHandler_pushes h q hq).1

/-- Every ticket stands in a queue or has been paid. -/
structure Balanced (s : Application) : Prop where
  distinct : DistinctDevices s.collector.devices
  books : issued s = outstanding s + paid s

lemma owed_update {devices : DeviceManager} {hash : String} {d : MonitorDevice}
    (hdistinct : DistinctDevices devices) (hget : devices.getDevice hash = some d)
    (d' : MonitorDevice) :
    owed Asks (deviceRequests (devices.update hash d')) + owed Asks d.queue =
      owed Asks (deviceRequests devices) + owed Asks d'.queue := by
  obtain ⟨front, back, hsplit, hupdate⟩ := getDevice_split hdistinct hget
  rw [hupdate d', hsplit]
  simp only [deviceRequests, List.flatMap_append, List.flatMap_cons, owed_append]
  abel

lemma owed_load (devices : DeviceManager) (rows : List Control.DeviceData) :
    owed Asks (deviceRequests (devices.load rows)) = owed Asks (deviceRequests devices) := by
  obtain ⟨added, hload, -⟩ := load_append devices rows
  have hfresh : (added.map MonitorDevice.loaded).flatMap (fun d => d.queue) = [] := by
    simp [MonitorDevice.loaded]
  rw [hload, deviceRequests, List.flatMap_append, hfresh, List.append_nil]
  rfl

lemma known_of_device {known : String → Bool} {rq : Dispatcher.Request} {o : Dispatcher.Outcome}
    {hash : String} {drq : IDevice.Request} (h : Dispatcher.requestHandler known rq = .ok o)
    (hdevice : o.device = some (hash, drq)) : known hash = true := by
  cases requestHandler_dispatched h with
  | device action deviceData _ _ hknown =>
    simp only [Option.some.injEq, Prod.mk.injEq] at hdevice
    rw [← hdevice.1, hknown]
  | _ => cases hdevice

section Application

variable {b : Backend} {s s' : Application}

lemma not_answerable {client : ClientId} {rq : Control.Request} {write : Bool}
    (h : ControlClient.requestHandler client rq write = none) : ¬ Answerable rq.type := by
  rw [requestHandler_eq_none.mp h]
  decide

lemma issued_asked (s : Application) (client : ClientId) (rq : Control.Request) :
    issued { s with asked := s.asked ++ [(client, rq)] } =
      issued s + (if Answerable rq.type then {(client, rq.id)} else 0) := by
  unfold issued
  by_cases hrq : Answerable rq.type <;> simp [hrq, ← Multiset.coe_add]

lemma balanced_ask {client : ClientId} (h : Ask client s s') (hs : Balanced s) : Balanced s' := by
  cases h with
  | unknown rq hrq =>
    refine ⟨hs.distinct, ?_⟩
    rw [issued_asked, if_neg (not_answerable (hrq true)), add_zero]
    exact hs.books
  | known rq write message nrq hrq =>
    obtain ⟨howed, hmessage⟩ := owed_asked hrq
    refine ⟨hs.distinct, ?_⟩
    have hissued : issued (s.ask client rq write message nrq) =
        issued s + owed AsksDispatcher [nrq] := by
      rw [howed]
      exact issued_asked s client rq
    have houtstanding : outstanding (s.ask client rq write message nrq) =
        outstanding s + owed AsksDispatcher [nrq] := by
      unfold outstanding ask
      simp only [List.map_append, owed_append, List.map_cons, List.map_nil]
      abel
    have hpaid : paid (s.ask client rq write message nrq) = paid s := by
      unfold paid ask
      cases message with
      | none => simp
      | some m => simp [hmessage m rfl write]
    rw [hissued, houtstanding, hpaid, hs.books]
    abel

lemma balanced_deliver {entry : DispatcherEntry} {rest : List DispatcherEntry}
    {o : Dispatcher.Outcome} {write : Bool} (hq : s.dispatcher = entry :: rest)
    (ho : Dispatcher.requestHandler s.known entry.request = .ok o)
    (hguard : AnswerGuard s (.dispatcher write)) (hs : Balanced s) :
    Balanced (deliver { s with dispatcher := rest } o write entry.served) := by
  have hticket : handedOn o write entry.served = owed AsksDispatcher [entry.request] := by
    apply owed_dispatched ho
    intro hunknown
    exact hguard entry (by rw [hq]; rfl) hunknown
  have hpaid : paid (deliver { s with dispatcher := rest } o write entry.served) = paid s +
      o.message.toList.filterMap fun (client, m) => paidBy ⟨client, m, write, entry.served⟩ := by
    unfold paid deliver
    cases o.message with
    | none => simp
    | some pair =>
      rw [List.filterMap_append, ← Multiset.coe_add]
      rfl
  have hrest : owed AsksDispatcher (s.dispatcher.map fun e => e.request) =
      owed AsksDispatcher [entry.request] + owed AsksDispatcher (rest.map fun e => e.request) := by
    rw [hq, List.map_cons, owed_cons]
  have hdevices : DistinctDevices
      (deliver { s with dispatcher := rest } o write entry.served).collector.devices ∧
      owed Asks (deviceRequests
        (deliver { s with dispatcher := rest } o write entry.served).collector.devices) =
      owed Asks (deviceRequests s.collector.devices) + owed Asks (o.device.map Prod.snd).toList := by
    cases hdevice : o.device with
    | none =>
      simp only [deliver, hdevice]
      exact ⟨hs.distinct, by simp⟩
    | some pair =>
      obtain ⟨hash, rq⟩ := pair
      obtain ⟨d, hget⟩ := Option.isSome_iff_exists.mp (known_of_device ho hdevice)
      simp only [deliver, hdevice, hget]
      have hhash : d.deviceData.hash = hash := getDevice_hash hget
      constructor
      · exact distinctDevices_update hs.distinct hget hhash
      · have hupdate := owed_update hs.distinct hget (d.pushRequest rq)
        have hqueue : owed Asks (d.pushRequest rq).queue = owed Asks d.queue + owed Asks [rq] := by
          simp [MonitorDevice.pushRequest]
        rw [hqueue, ← add_assoc, add_right_comm] at hupdate
        exact add_right_cancel hupdate
  refine ⟨hdevices.1, ?_⟩
  have houtstanding : outstanding (deliver { s with dispatcher := rest } o write entry.served) +
      (o.message.toList.filterMap fun (client, m) => paidBy ⟨client, m, write, entry.served⟩) =
      outstanding s := by
    unfold outstanding
    rw [hdevices.2, hrest, ← hticket]
    simp only [handedOn, deliver, List.map_append, owed_append, List.map_map, Function.comp_def,
      List.map_id']
    abel
  change issued s = _
  rw [hpaid, hs.books, ← houtstanding]
  abel

lemma balanced_device {hash : String} {event : MonitorDevice.Event} {d : MonitorDevice} {o : Outcome}
    (hcontrol : ∀ action client args data, event ≠ .control action client args data)
    (hget : s.collector.devices.getDevice hash = some d) (ho : d.step event = .ok o)
    (hs : Balanced s) : Balanced (afterDevice s hash o) := by
  have hhash : o.device.deviceData.hash = hash :=
    (dispatch_hash (step_dispatch ho)).trans (getDevice_hash hget)
  refine ⟨distinctDevices_update hs.distinct hget hhash, ?_⟩
  have hticket := owed_device hcontrol ho
  have hupdate := owed_update hs.distinct hget o.device
  have hnone : owed AsksDatabase o.database = 0 :=
    owed_eq_zero _ fun rq hrq _ => dispatch_client (step_dispatch ho) rq hrq
  have houtstanding : outstanding (afterDevice s hash o) = outstanding s := by
    apply add_right_cancel (b := owed Asks d.queue)
    have hbooks : outstanding (afterDevice s hash o) =
        owed AsksDispatcher (s.dispatcher.map fun e => e.request) + owed AsksDispatcher o.dispatcher +
          owed AsksDatabase (s.collector.queue.map fun e => e.request) +
          owed Asks (deviceRequests (s.collector.devices.update hash o.device)) := by
      simp only [outstanding, afterDevice, List.map_append, owed_append, List.map_map,
        Function.comp_def, List.map_id', hnone, add_zero]
    rw [hbooks, add_assoc, hupdate, ← hticket]
    unfold outstanding
    abel
  change issued s = outstanding (afterDevice s hash o) + paid s
  rw [houtstanding]
  exact hs.books

lemma balanced_database {io : DbIo} {entry : DbEntry} {rest : List DbEntry} {o : DbOutcome}
    (hq : s.collector.queue = entry :: rest)
    (ho : Database.requestHandler b s.collector.deviceState io s.collector.tables entry.request =
      .ok o)
    (hs : Balanced s) : Balanced (afterDatabase s entry rest o) := by
  obtain ⟨added, -, hdistinct⟩ := load_append s.collector.devices o.loaded
  obtain ⟨hanswer, hpushed⟩ := owed_database ho
  refine ⟨hdistinct hs.distinct, ?_⟩
  have houtstanding : outstanding (afterDatabase s entry rest o) = outstanding s := by
    have hrest : owed AsksDatabase (s.collector.queue.map fun e => e.request) =
        owed AsksDatabase [entry.request] + owed AsksDatabase (rest.map fun e => e.request) := by
      rw [hq, List.map_cons, owed_cons]
    unfold outstanding
    rw [hrest, ← hanswer]
    simp only [afterDatabase, owed_load, List.map_append, owed_append, List.map_map,
      Function.comp_def, List.map_id', hpushed, add_zero]
    abel
  have hpaid : paid (afterDatabase s entry rest o) = paid s := by
    have hlists : (o.lists.map fun p => (⟨p.1, p.2.message, true,
        some s.collector.handled.length⟩ : Sent)).filterMap paidBy = [] := by
      rw [List.filterMap_eq_nil_iff]
      intro x hx
      obtain ⟨⟨client, list⟩, -, rfl⟩ := List.mem_map.mp hx
      cases list <;> rfl
    unfold paid afterDatabase
    rw [List.filterMap_append, hlists, List.append_nil]
  change issued s = outstanding (afterDatabase s entry rest o) + paid (afterDatabase s entry rest o)
  rw [houtstanding, hpaid]
  exact hs.books

lemma deviceEvent_ne_control {e : Application.Event} {hash : String} {event : MonitorDevice.Event}
    (he : deviceEvent e = some (hash, event)) (action : MonitorDevice.ControlAction)
    (client : ClientId) (args : Args) (data : Control.DeviceData) :
    event ≠ .control action client args data := by
  rintro rfl
  unfold deviceEvent at he
  cases e <;> simp at he

lemma balanced_turn {e : Application.Event} (h : Turn b s e s') (hguard : AnswerGuard s e)
    (hs : Balanced s) : Balanced s' := by
  cases h with
  | idle => exact hs
  | accept => exact ⟨hs.distinct, hs.books⟩
  | control client input last s₁ clients hasks =>
    have hread : Balanced s₁ := by
      clear hguard
      induction hasks with
      | refl => exact hs
      | tail _ hlast ih => exact balanced_ask hlast ih
    exact ⟨hread.distinct, hread.books⟩
  | dispatcher write entry rest o hq ho => exact balanced_deliver hq ho hguard hs
  | device _ hash event d o he hget ho => exact balanced_device (deviceEvent_ne_control he) hget ho hs
  | database io entry rest o hq ho => exact balanced_database hq ho hs

lemma balanced_start (tables : Tables) (erase failed : Bool) :
    Balanced (Application.start tables erase failed) := by
  constructor
  · cases erase <;> simp [DistinctDevices, Application.start, Collector.start]
  · cases erase <;> cases failed <;> rfl

lemma oneAnswer_of_balanced (hs : Balanced s) : OneAnswer s := by
  have hbooks := hs.books
  constructor
  · rw [hbooks]
    exact Multiset.le_add_left _ _
  · rintro ⟨hdispatcher, hqueue, hdevices⟩
    have hnone : deviceRequests s.collector.devices = [] := by
      unfold deviceRequests
      rw [List.flatMap_eq_nil_iff]
      exact hdevices
    have houtstanding : outstanding s = 0 := by
      unfold outstanding
      rw [hdispatcher, hqueue, hnone]
      rfl
    rw [hbooks, houtstanding, zero_add]

end Application

section Application

variable {b : Backend} {s s' : Application}

lemma asks_sent {client : ClientId} (h : Relation.ReflTransGen (Ask client) s s') :
    ∃ new, s'.sent = s.sent ++ new ∧ ∀ x ∈ new, ∀ status, x.message ≠ .status status := by
  induction h with
  | refl => exact ⟨[], by simp, by simp⟩
  | tail _ hlast ih =>
    obtain ⟨new, hnew, hall⟩ := ih
    cases hlast with
    | unknown => exact ⟨new, hnew, hall⟩
    | known rq write message nrq hrq =>
      refine ⟨new ++ message.toList.map fun m => ⟨client, m, write, none⟩, ?_, ?_⟩
      · simp [ask, hnew]
      · intro x hx
        obtain hold | hx := List.mem_append.mp hx
        · exact hall x hold
        · obtain ⟨m, hm, rfl⟩ := List.mem_map.mp hx
          intro status hstatus
          have hpaid := (owed_asked hrq).2 m (Option.mem_toList.mp hm) write
          simp [paidBy, show m = .status status from hstatus] at hpaid

lemma statusOfHead_turn {e : Application.Event} (h : Turn b s e s') : StatusOfHead s e s' := by
  cases h with
  | idle | accept | device => exact ⟨[], by simp [afterDevice], by simp⟩
  | control client input last s₁ clients hasks =>
    obtain ⟨new, hnew, hall⟩ := asks_sent hasks
    exact ⟨new, hnew, fun x hx status hstatus => absurd hstatus (hall x hx status)⟩
  | dispatcher write entry rest o hq ho =>
    refine ⟨_, rfl, ?_⟩
    intro x hx status hstatus
    obtain ⟨⟨client, m⟩, hm, rfl⟩ := List.mem_map.mp hx
    obtain ⟨hclient, value, hvalue, hmessage⟩ := dispatched_status ho (Option.mem_toList.mp hm)
    obtain rfl := Control.Message.status.inj (hmessage.symm.trans hstatus)
    exact ⟨entry, rest, value, hq, hclient, hvalue, rfl, rfl⟩
  | database io entry rest o hq ho =>
    refine ⟨_, rfl, ?_⟩
    intro x hx status hstatus
    obtain ⟨⟨client, list⟩, -, rfl⟩ := List.mem_map.mp hx
    cases list <;> cases hstatus

end Application

/-- Each request is answered once, to its client and with its id, in a run in which the dispatcher
handles no request with an id for a device that it does not know. -/
theorem one_answer (b : Backend) (tables : Tables) (erase failed : Bool)
    (events : List Application.Event)
    (h : Machine.Guarded (Application.step b) AnswerGuard (Application.start tables erase failed)
      events) :
    Machine.Throughout (Application.step b) OneAnswer (Application.start tables erase failed)
        events ∧
      Machine.EachStep (Application.step b) StatusOfHead (Application.start tables erase failed)
        events := by
  have hstep : Machine.Preserves (Application.step b) AnswerGuard Balanced :=
    fun s e s' hs hguard h => balanced_turn (step_turn h) hguard hs
  have hstart := balanced_start tables erase failed
  constructor
  · exact (Machine.throughout_of_guarded hstep hstart h).mono fun s => oneAnswer_of_balanced
  · exact Machine.eachStep_of_guarded hstep (fun s e s' _ _ h => statusOfHead_turn (step_turn h))
      hstart h

/-- Two clients ask in turns for a connection and for the devices. -/
theorem one_answer_two :
    Machine.Throughout (Application.step (plainBackend .sqlite3)) OneAnswer
        (Application.start (tablesWith ["d"]) false false)
        [served, served, served, .accept, .accept, asks 0 (requestFor "1" .connectDevice "d"),
          asks 1 (requestFor "2" .getDevices ""), dispatched, dispatched, served, deviceServed "d",
          dispatched, deviceServed "d", dispatched] ∧
      Machine.EachStep (Application.step (plainBackend .sqlite3)) StatusOfHead
        (Application.start (tablesWith ["d"]) false false)
        [served, served, served, .accept, .accept, asks 0 (requestFor "1" .connectDevice "d"),
          asks 1 (requestFor "2" .getDevices ""), dispatched, dispatched, served, deviceServed "d",
          dispatched, deviceServed "d", dispatched] :=
  one_answer _ _ _ _ _ (by decide)

/-- The status for a device that is not known has no id. -/
theorem answer_without_id :
    ∃ s, Machine.run (Application.step (plainBackend .sqlite3))
        (Application.start (tablesWith []) false false)
        [served, served, served, .accept, asks 0 (requestFor "1" .connectDevice "d"), dispatched,
          dispatched] = .ok s ∧ issued s = {(0, "1")} ∧ paid s = {(0, "")} ∧ ¬ OneAnswer s :=
  ⟨_, rfl, by decide, by decide, by decide⟩

end TkmCollector.Proofs
