import TkmCollector.Proofs.FairAnswers

/-!
# Answers in order

What the clients ask of the database goes through one line: the queue of the dispatcher, the queue
of the database, and the queue of the dispatcher again. Nothing overtakes in it and nothing is lost,
so the answers are sent in the order in which the requests were read, whoever sent them.
-/

namespace TkmCollector.Proofs

open Application

section Line

variable {Action : Type} (waits : Action → Prop) [DecidablePred waits]

/-- The tickets of the requests with an action that is answered, in the order of the queue. -/
def line (requests : List (Request Action)) : List Ticket :=
  (requests.filter fun rq => waits rq.action).filterMap ticketOf

@[simp] lemma line_nil : line waits [] = [] := rfl

@[simp] lemma line_append (l₁ l₂ : List (Request Action)) :
    line waits (l₁ ++ l₂) = line waits l₁ ++ line waits l₂ := by
  simp [line]

lemma line_cons (rq : Request Action) (l : List (Request Action)) :
    line waits (rq :: l) = line waits [rq] ++ line waits l :=
  line_append waits [rq] l

lemma line_single {rq : Request Action} (h : waits rq.action) :
    line waits [rq] = (ticketOf rq).toList := by
  cases hticket : ticketOf rq <;> simp [line, h, hticket]

lemma line_eq_nil {l : List (Request Action)} (h : ∀ rq ∈ l, waits rq.action → rq.client = none) :
    line waits l = [] := by
  unfold line
  rw [List.filterMap_eq_nil_iff]
  intro rq hrq
  rw [List.mem_filter] at hrq
  simp [ticketOf, h rq hrq.1 (by simpa using hrq.2)]

end Line

/-- The requests that the dispatcher hands on to the database. -/
def ToDatabase (action : Dispatcher.Action) : Prop := (databaseAction action).isSome = true

instance : DecidablePred ToDatabase := fun _ => inferInstanceAs (Decidable (_ = true))

/-- The requests of the dispatcher that answer. -/
def Answers (action : Dispatcher.Action) : Prop := action = .sendStatus

instance : DecidablePred Answers := fun _ => inferInstanceAs (Decidable (_ = _))

/-- The types of the requests that are for the database. -/
def ForDatabase (type : Control.RequestType) : Prop :=
  ((askedAction type).bind databaseAction).isSome = true

instance : DecidablePred ForDatabase := fun _ => inferInstanceAs (Decidable (_ = true))

/-- The tickets of what the clients have asked of the database, in the order in which it was read. -/
def askedInOrder (s : Application) : List Ticket :=
  (s.asked.filter fun p => ForDatabase p.2.type).map fun p => (p.1, p.2.id)

/-- The tickets that were paid with a status of the database, in the order in which these were sent. -/
def answeredInOrder (s : Application) : List Ticket :=
  (s.sent.filter fun x => x.served.isSome).filterMap paidBy

/-- The answers of the database that wait for the dispatcher. -/
def answersWaiting (queue : List DispatcherEntry) : List Ticket :=
  line Answers ((queue.filter fun e => e.served.isSome).map fun e => e.request)

/-- The requests that wait for the dispatcher to hand them on. -/
def requestsWaiting (queue : List DispatcherEntry) : List Ticket :=
  line ToDatabase (queue.map fun e => e.request)

/-- The line of the tickets, the first that was asked in front. -/
def InLine (s : Application) : Prop :=
  askedInOrder s = answeredInOrder s ++ answersWaiting s.dispatcher ++
    line AsksDatabase (s.collector.queue.map fun e => e.request) ++ requestsWaiting s.dispatcher

section Queues

@[simp] lemma answersWaiting_append (l₁ l₂ : List DispatcherEntry) :
    answersWaiting (l₁ ++ l₂) = answersWaiting l₁ ++ answersWaiting l₂ := by
  simp [answersWaiting]

@[simp] lemma requestsWaiting_append (l₁ l₂ : List DispatcherEntry) :
    requestsWaiting (l₁ ++ l₂) = requestsWaiting l₁ ++ requestsWaiting l₂ := by
  simp [requestsWaiting]

lemma answersWaiting_unserved (requests : List Dispatcher.Request) :
    answersWaiting (requests.map fun rq => ⟨rq, none⟩) = [] := by
  have hnone : (requests.map fun rq => (⟨rq, none⟩ : DispatcherEntry)).filter
      (fun e => e.served.isSome) = [] := by
    rw [List.filter_eq_nil_iff]
    intro e he
    obtain ⟨rq, -, rfl⟩ := List.mem_map.mp he
    exact Bool.false_ne_true
  unfold answersWaiting
  rw [hnone]
  rfl

lemma requestsWaiting_statuses {requests : List Dispatcher.Request} {served : Option Nat}
    (h : ∀ rq ∈ requests, rq.action = .sendStatus) :
    requestsWaiting (requests.map fun rq => ⟨rq, served⟩) = [] := by
  unfold requestsWaiting
  rw [List.map_map]
  apply line_eq_nil
  intro rq hrq hwaits
  obtain ⟨x, hx, rfl⟩ := List.mem_map.mp hrq
  rw [Function.comp_apply, h x hx] at hwaits
  exact absurd hwaits (by decide)

end Queues

section Application

variable {b : Backend} {s s' : Application}

lemma toDatabase_asked {type : Control.RequestType} {action : Dispatcher.Action}
    (h : askedAction type = some action) : ToDatabase action ↔ ForDatabase type := by
  unfold ForDatabase
  rw [h]
  rfl

lemma ticketOf_asked {client : ClientId} {rq : Dispatcher.Request} (h : rq.client = some client) :
    ticketOf rq = some (client, idOf rq) := by
  rw [ticketOf, h]
  rfl

lemma askedInOrder_append (s : Application) (client : ClientId) (rq : Control.Request) :
    askedInOrder { s with asked := s.asked ++ [(client, rq)] } =
      askedInOrder s ++ if ForDatabase rq.type then [(client, rq.id)] else [] := by
  unfold askedInOrder
  by_cases hrq : ForDatabase rq.type <;> simp [hrq]

lemma inLine_ask {client : ClientId} (h : Ask client s s') (hs : InLine s) : InLine s' := by
  unfold InLine at hs ⊢
  cases h with
  | unknown rq hrq =>
    have htype : ¬ ForDatabase rq.type := by
      rw [requestHandler_eq_none.mp (hrq true)]
      decide
    rw [askedInOrder_append, if_neg htype, List.append_nil]
    exact hs
  | known rq write message nrq hrq =>
    obtain ⟨hclient, hid, haction⟩ := request_asked hrq
    have hasked : askedInOrder (s.ask client rq write message nrq) =
        askedInOrder s ++ if ForDatabase rq.type then [(client, rq.id)] else [] :=
      askedInOrder_append s client rq
    have hanswered : answeredInOrder (s.ask client rq write message nrq) = answeredInOrder s := by
      cases message <;> simp [answeredInOrder, ask]
    have hanswers : answersWaiting (s.ask client rq write message nrq).dispatcher =
        answersWaiting s.dispatcher := by
      change answersWaiting (s.dispatcher ++ [nrq].map fun rq => ⟨rq, none⟩) = _
      rw [answersWaiting_append, answersWaiting_unserved, List.append_nil]
    have hwaiting : requestsWaiting (s.ask client rq write message nrq).dispatcher =
        requestsWaiting s.dispatcher ++ if ForDatabase rq.type then [(client, rq.id)] else [] := by
      change requestsWaiting (s.dispatcher ++ [⟨nrq, none⟩]) = _
      rw [requestsWaiting_append]
      congr 1
      by_cases htype : ForDatabase rq.type
      · rw [if_pos htype]
        change line ToDatabase [nrq] = _
        rw [line_single _ ((toDatabase_asked haction).mpr htype), ticketOf_asked hclient, hid]
        rfl
      · rw [if_neg htype]
        apply line_eq_nil
        intro x hx hwaits
        rw [List.mem_singleton.mp hx] at hwaits
        exact absurd ((toDatabase_asked haction).mp hwaits) htype
    rw [hasked, hanswered, hanswers, hwaiting, hs]
    simp [ask]

lemma not_inLine {action : Dispatcher.Action}
    (h : (deviceAction action).isSome = true ∨ action = .quitCollector) :
    ¬ ToDatabase action ∧ ¬ Answers action := by
  revert h
  cases action <;> decide

lemma not_answers_toDatabase {action : Dispatcher.Action} (h : ToDatabase action) :
    ¬ Answers action := by
  revert h
  cases action <;> decide

lemma answersWaiting_eq_nil {entry : DispatcherEntry} (h : ¬ Answers entry.request.action) :
    answersWaiting [entry] = [] := by
  unfold answersWaiting
  apply line_eq_nil
  intro rq hrq hwaits
  obtain ⟨x, hx, rfl⟩ := List.mem_map.mp hrq
  rw [List.mem_singleton.mp (List.mem_of_mem_filter hx)] at hwaits
  exact absurd hwaits h

lemma requestsWaiting_eq_nil {entry : DispatcherEntry} (h : ¬ ToDatabase entry.request.action) :
    requestsWaiting [entry] = [] := by
  apply line_eq_nil
  intro rq hrq hwaits
  rw [List.mem_singleton.mp hrq] at hwaits
  exact absurd hwaits h

/-- The tickets of the message that a handler of the dispatcher has sent, when it is an answer of the
database. -/
def sentTickets (o : Dispatcher.Outcome) (write : Bool) (served : Option Nat) : List Ticket :=
  ((o.message.toList.map fun p => (⟨p.1, p.2, write, served⟩ : Sent)).filter
    fun x => x.served.isSome).filterMap paidBy

/-- What the dispatcher makes of the head of its queue: a request goes on to the database, an answer
of the database is sent, or the head is neither. -/
lemma line_dispatched {known : String → Bool} {entry : DispatcherEntry} {o : Dispatcher.Outcome}
    (ho : Dispatcher.requestHandler known entry.request = .ok o) (write : Bool) :
    line AsksDatabase o.database = requestsWaiting [entry] ∧
      sentTickets o write entry.served = answersWaiting [entry] ∧
      requestsWaiting (o.dispatcher.map fun rq => ⟨rq, none⟩) = [] := by
  cases requestHandler_dispatched ho with
  | database action ha =>
    have hto : ToDatabase entry.request.action := by
      unfold ToDatabase
      rw [ha]
      rfl
    have hticket : ticketOf (⟨entry.request.client, action.toAction, entry.request.args,
        databaseBulk entry.request⟩ : IDatabase.Request) = ticketOf entry.request :=
      ticketOf_congr rfl rfl
    refine ⟨?_, (answersWaiting_eq_nil (not_answers_toDatabase hto)).symm, rfl⟩
    change line AsksDatabase [_] = line ToDatabase [entry.request]
    rw [line_single _ hto, line_single _ (asks_database ha).2, hticket]
  | device action deviceData ha =>
    obtain ⟨hto, hanswers⟩ := not_inLine (.inl (Option.isSome_of_eq_some ha))
    exact ⟨(requestsWaiting_eq_nil hto).symm, (answersWaiting_eq_nil hanswers).symm, rfl⟩
  | unknown action deviceData ha =>
    obtain ⟨hto, hanswers⟩ := not_inLine (.inl (Option.isSome_of_eq_some ha))
    exact ⟨(requestsWaiting_eq_nil hto).symm, (answersWaiting_eq_nil hanswers).symm,
      requestsWaiting_statuses (by simp [noSuchDevice])⟩
  | quitting ha =>
    obtain ⟨hto, hanswers⟩ := not_inLine (.inr ha)
    exact ⟨(requestsWaiting_eq_nil hto).symm, (answersWaiting_eq_nil hanswers).symm, rfl⟩
  | unheard ha hc =>
    refine ⟨(requestsWaiting_eq_nil (by rw [ha]; decide)).symm, ?_, rfl⟩
    symm
    apply line_eq_nil
    intro rq hrq _
    obtain ⟨x, hx, rfl⟩ := List.mem_map.mp hrq
    rw [List.mem_singleton.mp (List.mem_of_mem_filter hx)]
    exact hc
  | answered client status ha hc hstatus =>
    refine ⟨(requestsWaiting_eq_nil (by rw [ha]; decide)).symm, ?_, rfl⟩
    cases hserved : entry.served with
    | none => simp [answersWaiting, sentTickets, hserved]
    | some n =>
      have hline : answersWaiting [entry] = line Answers [entry.request] := by
        simp [answersWaiting, hserved]
      have hpaid : paidBy ⟨client, statusMessage entry.request status, write, some n⟩ =
          some (client, idOf entry.request) := rfl
      rw [hline, line_single _ ha, ticketOf_asked hc]
      simp [sentTickets, hpaid]

lemma inLine_deliver {write : Bool} {entry : DispatcherEntry} {rest : List DispatcherEntry}
    {o : Dispatcher.Outcome} (hq : s.dispatcher = entry :: rest)
    (ho : Dispatcher.requestHandler s.known entry.request = .ok o) (hs : InLine s) :
    InLine (deliver { s with dispatcher := rest } o write entry.served) := by
  obtain ⟨hdatabase, hsent, hwaiting⟩ := line_dispatched ho write
  have hanswered : answeredInOrder (deliver { s with dispatcher := rest } o write entry.served) =
      answeredInOrder s ++ answersWaiting [entry] := by
    rw [← hsent]
    simp [answeredInOrder, deliver, sentTickets]
  have hqueue : line AsksDatabase
      ((deliver { s with dispatcher := rest } o write entry.served).collector.queue.map
        fun e => e.request) =
      line AsksDatabase (s.collector.queue.map fun e => e.request) ++ requestsWaiting [entry] := by
    rw [← hdatabase]
    simp [deliver, Function.comp_def]
  have hanswers : answersWaiting (deliver { s with dispatcher := rest } o write
      entry.served).dispatcher = answersWaiting rest := by
    change answersWaiting (rest ++ _) = _
    rw [answersWaiting_append, answersWaiting_unserved, List.append_nil]
  have hrequests : requestsWaiting (deliver { s with dispatcher := rest } o write
      entry.served).dispatcher = requestsWaiting rest := by
    change requestsWaiting (rest ++ _) = _
    rw [requestsWaiting_append, hwaiting, List.append_nil]
  unfold InLine at hs ⊢
  rw [hanswered, hqueue, hanswers, hrequests]
  change askedInOrder s = _
  rw [hs, hq, ← List.singleton_append, answersWaiting_append, requestsWaiting_append]
  -- the head is a request or an answer, and not both
  by_cases hto : ToDatabase entry.request.action
  · simp [answersWaiting_eq_nil (not_answers_toDatabase hto)]
  · simp [requestsWaiting_eq_nil hto]

lemma inLine_database {io : DbIo} {entry : DbEntry} {rest : List DbEntry} {o : DbOutcome}
    (hq : s.collector.queue = entry :: rest)
    (ho : Database.requestHandler b s.collector.deviceState io s.collector.tables entry.request =
      .ok o) (hs : InLine s) : InLine (afterDatabase s entry rest o) := by
  have hnone : line AsksDatabase o.database = [] :=
    line_eq_nil _ fun rq hrq _ => (requestHandler_pushes ho rq hrq).1
  have hanswered : answeredInOrder (afterDatabase s entry rest o) = answeredInOrder s := by
    have hlists : ((o.lists.map fun p => (⟨p.1, p.2.message, true,
        some s.collector.handled.length⟩ : Sent)).filter fun x => x.served.isSome).filterMap paidBy =
        [] := by
      rw [List.filterMap_eq_nil_iff]
      intro x hx
      obtain ⟨⟨client, list⟩, -, rfl⟩ := List.mem_map.mp (List.mem_of_mem_filter hx)
      cases list <;> rfl
    unfold answeredInOrder afterDatabase
    rw [List.filter_append, List.filterMap_append, hlists, List.append_nil]
  have hqueue : line AsksDatabase ((afterDatabase s entry rest o).collector.queue.map
      fun e => e.request) = line AsksDatabase (rest.map fun e => e.request) := by
    simp [afterDatabase, Function.comp_def, hnone]
  have hanswers : answersWaiting (afterDatabase s entry rest o).dispatcher =
      answersWaiting s.dispatcher ++ line AsksDatabase [entry.request] := by
    change answersWaiting (s.dispatcher ++ _) = _
    rw [answersWaiting_append]
    congr 1
    cases requestHandler_databaseReply ho with
    | silent ha hd =>
      rw [hd]
      symm
      exact line_eq_nil _ fun x hx hasks => absurd (List.mem_singleton.mp hx ▸ hasks) ha
    | answered args ha hd hid =>
      have hticket : ticketOf (Database.sendStatus entry.request args) = ticketOf entry.request :=
        ticketOf_congr rfl hid
      rw [hd]
      change line Answers [Database.sendStatus entry.request args] = _
      rw [line_single _ ha, ← hticket]
      exact line_single _ rfl
  have hrequests : requestsWaiting (afterDatabase s entry rest o).dispatcher =
      requestsWaiting s.dispatcher := by
    change requestsWaiting (s.dispatcher ++ _) = _
    rw [requestsWaiting_append, requestsWaiting_statuses (database_sendStatus ho), List.append_nil]
  unfold InLine at hs ⊢
  rw [hanswered, hqueue, hanswers, hrequests]
  change askedInOrder s = _
  rw [hs, hq, List.map_cons, line_cons]
  simp

lemma inLine_device {hash : String} {event : MonitorDevice.Event} {d : MonitorDevice} {o : Outcome}
    (ho : d.step event = .ok o) (hs : InLine s) : InLine (afterDevice s hash o) := by
  have hnone : line AsksDatabase o.database = [] :=
    line_eq_nil _ fun rq hrq _ => dispatch_client (step_dispatch ho) rq hrq
  have hqueue : line AsksDatabase ((afterDevice s hash o).collector.queue.map fun e => e.request) =
      line AsksDatabase (s.collector.queue.map fun e => e.request) := by
    simp [afterDevice, Function.comp_def, hnone]
  have hanswers : answersWaiting (afterDevice s hash o).dispatcher = answersWaiting s.dispatcher := by
    change answersWaiting (s.dispatcher ++ _) = _
    rw [answersWaiting_append, answersWaiting_unserved, List.append_nil]
  have hrequests : requestsWaiting (afterDevice s hash o).dispatcher =
      requestsWaiting s.dispatcher := by
    change requestsWaiting (s.dispatcher ++ _) = _
    rw [requestsWaiting_append, requestsWaiting_statuses (dispatcher_sendStatus ho), List.append_nil]
  unfold InLine at hs ⊢
  rw [hqueue, hanswers, hrequests]
  exact hs

lemma inLine_turn {e : Application.Event} (h : Turn b s e s') (hs : InLine s) : InLine s' := by
  cases h with
  | idle => exact hs
  | accept => exact hs
  | control client input last s₁ clients hasks =>
    have hread : InLine s₁ := by
      induction hasks with
      | refl => exact hs
      | tail _ hlast ih => exact inLine_ask hlast ih
    exact hread
  | dispatcher write entry rest o hq ho => exact inLine_deliver hq ho hs
  | device _ hash event d o he hget ho => exact inLine_device ho hs
  | database io entry rest o hq ho => exact inLine_database hq ho hs

lemma inLine_start (tables : Tables) (erase failed : Bool) :
    InLine (Application.start tables erase failed) := by
  unfold InLine
  cases erase <;> cases failed <;> rfl

end Application

/-- The answers to what the clients ask of the database are sent in the order in which the requests
were read, each once, and none is left out when the queues are empty. -/
theorem answers_in_order (b : Backend) (tables : Tables) (erase failed : Bool)
    (events : List Application.Event) (s : Application)
    (h : Machine.run (Application.step b) (Application.start tables erase failed) events = .ok s) :
    answeredInOrder s <+: askedInOrder s ∧ (QueuesEmpty s → answeredInOrder s = askedInOrder s) := by
  have hline : InLine s := Machine.invariant_run (fun _ _ _ hs _ hstep => inLine_turn (step_turn hstep) hs)
    (inLine_start tables erase failed) (Machine.guarded_true _ _) h
  unfold InLine at hline
  constructor
  · rw [hline, List.append_assoc, List.append_assoc]
    exact List.prefix_append _ _
  · rintro ⟨hdispatcher, hqueue, -⟩
    rw [hline, hdispatcher, hqueue]
    simp [answersWaiting, requestsWaiting]

/-- Two clients ask in turns, and the second of them has not got its answer yet. -/
theorem answers_in_order_two :
    ∃ s, Machine.run (Application.step (plainBackend .sqlite3))
        (Application.start (tablesWith []) false false)
        [.accept, .accept, asks 0 (requestFor "1" .getDevices ""), asks 1 (requestFor "2" .addDevice "d"),
          served, served, served, dispatched, dispatched, served, dispatched, served] = .ok s ∧
      answeredInOrder s = [(0, "1")] ∧ answeredInOrder s <+: [(0, "1"), (1, "2")] :=
  ⟨_, rfl, rfl, (answers_in_order (plainBackend .sqlite3) (tablesWith []) false false
    [.accept, .accept, asks 0 (requestFor "1" .getDevices ""), asks 1 (requestFor "2" .addDevice "d"),
      served, served, served, dispatched, dispatched, served, dispatched, served] _ rfl).1⟩

end TkmCollector.Proofs
