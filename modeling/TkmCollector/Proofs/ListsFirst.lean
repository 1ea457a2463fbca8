import TkmCollector.Proofs.QueueContents

namespace TkmCollector.Proofs

open Application

/-- A request for the devices, or for the sessions of the device with a hash. -/
structure ListRequest where
  client : ClientId
  id : String
  hash : Option String
  deriving DecidableEq

def namedHash : BulkData → Option String
  | .deviceData m => some m.hash
  | _ => none

/-- The request for a list that stands in a queue with the given actions. -/
def listRequest {Action : Type} [DecidableEq Action] (getDevices getSessions : Action)
    (rq : Request Action) : Option ListRequest :=
  let id := (rq.args.lookup .requestId).getD ""
  if rq.action = getDevices then rq.client.map fun client => ⟨client, id, none⟩
  else if rq.action = getSessions then rq.client.map fun client => ⟨client, id, namedHash rq.bulkData⟩
  else none

def dispatcherList (rq : Dispatcher.Request) : Option ListRequest :=
  listRequest .getDevices .getSessions rq

def databaseList (rq : IDatabase.Request) : Option ListRequest :=
  listRequest .getDevices .getSessions rq

/-- The request for a list that a client has sent. -/
def listAsked (client : ClientId) (rq : Control.Request) : Option ListRequest :=
  match rq.type with
  | .getDevices => some ⟨client, rq.id, none⟩
  | .getSessions => some ⟨client, rq.id, some rq.payload.unpackDeviceData.hash⟩
  | _ => none

/-- Every request for a list was handled by the database or waits for it, in the order in which the
requests were read from the clients. -/
def ListsInOrder (s : Application) : Prop :=
  s.asked.filterMap (fun (client, rq) => listAsked client rq) =
    s.collector.handled.filterMap (fun e => databaseList e.request) ++
      s.collector.queue.filterMap (fun e => databaseList e.request) ++
      s.dispatcher.filterMap fun e => dispatcherList e.request

lemma databaseList_none {rq : IDatabase.Request}
    (h : rq.action ∉ [.getDevices, .getSessions] ∨ rq.client = none) : databaseList rq = none := by
  unfold databaseList listRequest
  obtain h | h := h
  · simp only [List.mem_cons, List.not_mem_nil, or_false, not_or] at h
    simp [h.1, h.2]
  · simp [h]

lemma dispatcherList_none {rq : Dispatcher.Request} (h : rq.action ∉ [.getDevices, .getSessions]) :
    dispatcherList rq = none := by
  simp only [List.mem_cons, List.not_mem_nil, or_false, not_or] at h
  simp [dispatcherList, listRequest, h.1, h.2]

lemma dispatcherList_asked {client : ClientId} {rq : Control.Request} {write : Bool}
    {message : Option Control.Message} {nrq : Dispatcher.Request}
    (h : ControlClient.requestHandler client rq write = some (message, nrq)) :
    dispatcherList nrq = listAsked client rq := by
  have hid : ((ControlClient.requestArgs rq).lookup .requestId).getD "" = rq.id := by
    rw [lookup_requestArgs, Option.getD_some]
  unfold ControlClient.requestHandler at h
  cases htype : rq.type with
  | unknown => simp [htype] at h
  | getDevices =>
    simp only [htype, Option.some.injEq, Prod.mk.injEq] at h
    rw [← h.2]
    simp [dispatcherList, listRequest, listAsked, htype, ControlClient.doGetDevices,
      ControlClient.request]
  | getSessions =>
    simp only [htype, Option.some.injEq, Prod.mk.injEq] at h
    rw [← h.2]
    simp [dispatcherList, listRequest, listAsked, htype, ControlClient.doGetSessions,
      ControlClient.request, namedHash, hid]
  | _ =>
    simp only [htype, Option.some.injEq, Prod.mk.injEq] at h
    rw [← h.2]
    simp [dispatcherList, listRequest, listAsked, htype, ControlClient.doRequestSession,
      ControlClient.request, ControlClient.doInitDatabase, ControlClient.doQuitCollector,
      ControlClient.doRemoveSession, ControlClient.doAddDevice, ControlClient.doRemoveDevice,
      ControlClient.doConnectDevice, ControlClient.doDisconnectDevice,
      ControlClient.doStartCollecting, ControlClient.doStopCollecting]

/-- The dispatcher hands a request for a list on to the database, and no other. -/
lemma dispatcherList_dispatched {known : String → Bool} {rq : Dispatcher.Request}
    {o : Dispatcher.Outcome} (h : Dispatcher.requestHandler known rq = .ok o) :
    o.database.filterMap databaseList = (dispatcherList rq).toList ∧
      o.dispatcher.filterMap dispatcherList = [] := by
  have hnone : databaseAction rq.action = none → dispatcherList rq = none := by
    intro hdatabase
    unfold dispatcherList listRequest
    cases ha : rq.action with
    | getDevices | getSessions =>
      rw [ha] at hdatabase
      cases hdatabase
    | _ => simp
  cases requestHandler_dispatched h with
  | database action hdatabase =>
    refine ⟨?_, rfl⟩
    cases ha : rq.action with
    | getDevices | getSessions | initDatabase | removeSession | addDevice | removeDevice =>
      rw [ha] at hdatabase
      rw [← Option.some.inj hdatabase]
      cases hclient : rq.client <;>
        simp [databaseList, dispatcherList, listRequest, ha, hclient, Dispatcher.toDatabase,
          databaseBulk, Collector.ClientAction.toAction]
    | _ =>
      rw [ha] at hdatabase
      cases hdatabase
  | device action deviceData ha => exact ⟨by rw [hnone (databaseAction_of_device ha)]; rfl, rfl⟩
  | unknown action deviceData ha => exact ⟨by rw [hnone (databaseAction_of_device ha)]; rfl, rfl⟩
  | quitting ha | unheard ha | answered _ _ ha => exact ⟨by rw [hnone (by rw [ha]; rfl)]; rfl, rfl⟩

section Order

variable {b : Backend} {s s' : Application}

lemma listsInOrder_ask {client : ClientId} (h : Ask client s s') (hs : ListsInOrder s) :
    ListsInOrder s' := by
  unfold ListsInOrder at hs ⊢
  cases h with
  | unknown rq hrq =>
    have hnone : listAsked client rq = none := by
      unfold listAsked
      rw [requestHandler_eq_none.mp (hrq true)]
    rw [List.filterMap_append]
    simp [hs, hnone]
  | known rq write message nrq hrq =>
    have hlist := dispatcherList_asked hrq
    have hasked : (s.ask client rq write message nrq).asked = s.asked ++ [(client, rq)] := rfl
    have hdispatcher : (s.ask client rq write message nrq).dispatcher = s.dispatcher ++ [⟨nrq, none⟩] :=
      rfl
    have hcollector : (s.ask client rq write message nrq).collector = s.collector := rfl
    rw [hasked, hdispatcher, hcollector, List.filterMap_append, List.filterMap_append, hs,
      List.append_assoc]
    simp [List.filterMap_cons, hlist]

lemma listsInOrder_turn {e : Application.Event} (h : Turn b s e s') (hs : ListsInOrder s) :
    ListsInOrder s' := by
  unfold ListsInOrder at hs ⊢
  cases h with
  | idle => exact hs
  | accept => exact hs
  | control client input last s₁ clients hasks =>
    have hread : ListsInOrder s₁ := by
      induction hasks with
      | refl => exact hs
      | tail _ hlast ih => exact listsInOrder_ask hlast ih
    exact hread
  | dispatcher write entry rest o hq ho =>
    obtain ⟨hdatabase, hdispatcher⟩ := dispatcherList_dispatched ho
    have hhead : s.dispatcher.filterMap (fun e => dispatcherList e.request) =
        (dispatcherList entry.request).toList ++ rest.filterMap fun e => dispatcherList e.request := by
      rw [hq, List.filterMap_cons]
      cases dispatcherList entry.request <;> rfl
    have hqueue : (o.database.map fun rq => (⟨rq, none⟩ : DbEntry)).filterMap
        (fun e => databaseList e.request) = (dispatcherList entry.request).toList := by
      rw [List.filterMap_map]
      exact hdatabase
    have hpushed : (o.dispatcher.map fun rq => (⟨rq, none⟩ : DispatcherEntry)).filterMap
        (fun e => dispatcherList e.request) = [] := by
      rw [List.filterMap_map]
      exact hdispatcher
    simp only [deliver, List.filterMap_append]
    rw [hs, hhead, hqueue, hpushed, List.append_nil]
    simp only [List.append_assoc]
  | device _ hash event d o he hget ho =>
    have hnone : o.dispatcher.filterMap dispatcherList = [] := by
      rw [List.filterMap_eq_nil_iff]
      intro rq hrq
      exact dispatcherList_none (by rw [dispatcher_sendStatus ho rq hrq]; decide)
    have hqueue : o.database.filterMap databaseList = [] := by
      rw [List.filterMap_eq_nil_iff]
      intro rq hrq
      exact databaseList_none (.inr (dispatch_client (step_dispatch ho) rq hrq))
    simp only [afterDevice, List.filterMap_append, List.filterMap_map]
    rw [hs, show o.dispatcher.filterMap ((fun e => dispatcherList e.request) ∘ fun rq =>
      (⟨rq, none⟩ : DispatcherEntry)) = [] from hnone, show o.database.filterMap
      ((fun e => databaseList e.request) ∘ fun rq => (⟨rq, some hash⟩ : DbEntry)) = [] from hqueue]
    simp only [List.append_nil]
  | database io entry rest o hq ho =>
    have hhead : s.collector.queue.filterMap (fun e => databaseList e.request) =
        (databaseList entry.request).toList ++ rest.filterMap fun e => databaseList e.request := by
      rw [hq, List.filterMap_cons]
      cases databaseList entry.request <;> rfl
    have hentry : [entry].filterMap (fun e => databaseList e.request) =
        (databaseList entry.request).toList := by
      rw [List.filterMap_cons]
      cases databaseList entry.request <;> rfl
    have hqueue : (o.database.map fun rq => (⟨rq, none⟩ : DbEntry)).filterMap
        (fun e => databaseList e.request) = [] := by
      rw [List.filterMap_map, List.filterMap_eq_nil_iff]
      exact fun rq hrq => databaseList_none (.inr (requestHandler_pushes ho rq hrq).1)
    have hpushed : (o.dispatcher.map fun rq => (⟨rq, some s.collector.handled.length⟩ :
        DispatcherEntry)).filterMap (fun e => dispatcherList e.request) = [] := by
      rw [List.filterMap_map, List.filterMap_eq_nil_iff]
      exact fun rq hrq => dispatcherList_none (by rw [database_sendStatus ho rq hrq]; decide)
    simp only [afterDatabase, List.filterMap_append]
    rw [hs, hhead, hentry, hqueue, hpushed, List.append_nil, List.append_nil]
    simp only [List.append_assoc]

end Order

lemma listsInOrder_start (tables : Tables) (erase failed : Bool) :
    ListsInOrder (Application.start tables erase failed) := by
  cases erase <;> cases failed <;> rfl

/-- The messages that answer an entry of the database queue. -/
def answersTo (n : Nat) (s : Application) : List Sent := s.sent.filter fun x => x.served = some n

/-- The statuses for an entry of the database queue that are not sent yet. -/
def waitingFor (n : Nat) (s : Application) : List DispatcherEntry :=
  s.dispatcher.filter fun e => e.served = some n

/-- Answers are for entries that were handled, and those that wait are statuses. -/
structure Tagged (s : Application) : Prop where
  waiting : ∀ e ∈ s.dispatcher, ∀ n, e.served = some n →
    n < s.collector.handled.length ∧ e.request.action = .sendStatus
  sent : ∀ x ∈ s.sent, ∀ n, x.served = some n → n < s.collector.handled.length

section Tags

variable {b : Backend} {s s' : Application}

/-- What a dispatch does to the answers: none comes or goes, the head of the dispatcher queue is
sent, or the head of the database queue is answered. -/
inductive AnswerTurn (b : Backend) (s : Application) : Application.Event → Application → Prop where
  | quiet (e : Application.Event) (entries : List DispatcherEntry) (new : List Sent)
      (s' : Application) (hdispatcher : s'.dispatcher = s.dispatcher ++ entries)
      (hsent : s'.sent = s.sent ++ new) (hhandled : s'.collector.handled = s.collector.handled)
      (hentries : ∀ e ∈ entries, e.served = none) (hnew : ∀ x ∈ new, x.served = none) :
      AnswerTurn b s e s'
  | dispatched (write : Bool) (entry : DispatcherEntry) (rest : List DispatcherEntry)
      (o : Dispatcher.Outcome) (hq : s.dispatcher = entry :: rest)
      (ho : Dispatcher.requestHandler s.known entry.request = .ok o) :
      AnswerTurn b s (.dispatcher write) (deliver { s with dispatcher := rest } o write entry.served)
  | served (io : DbIo) (entry : DbEntry) (rest : List DbEntry) (o : DbOutcome)
      (hq : s.collector.queue = entry :: rest)
      (ho : Database.requestHandler b s.collector.deviceState io s.collector.tables entry.request =
        .ok o) :
      AnswerTurn b s (.database io) (afterDatabase s entry rest o)

lemma asks_answers {client : ClientId} (h : Relation.ReflTransGen (Ask client) s s') :
    ∃ entries new, s'.dispatcher = s.dispatcher ++ entries ∧ s'.sent = s.sent ++ new ∧
      s'.collector = s.collector ∧ (∀ e ∈ entries, e.served = none) ∧ ∀ x ∈ new, x.served = none := by
  induction h with
  | refl => exact ⟨[], [], by simp, by simp, rfl, by simp, by simp⟩
  | tail _ hlast ih =>
    obtain ⟨entries, new, hentries, hnew, hcollector, hall, hsent⟩ := ih
    cases hlast with
    | unknown => exact ⟨entries, new, hentries, hnew, hcollector, hall, hsent⟩
    | known rq write message nrq hrq =>
      refine ⟨entries ++ [⟨nrq, none⟩], new ++ message.toList.map fun m => ⟨client, m, write, none⟩,
        ?_, ?_, hcollector, ?_, ?_⟩
      · simp [ask, hentries]
      · simp [ask, hnew]
      · intro e he
        obtain hold | he := List.mem_append.mp he
        · exact hall e hold
        · rw [List.mem_singleton.mp he]
      · intro x hx
        obtain hold | hx := List.mem_append.mp hx
        · exact hsent x hold
        · obtain ⟨m, -, rfl⟩ := List.mem_map.mp hx
          rfl

lemma turn_answerTurn {e : Application.Event} (h : Turn b s e s') : AnswerTurn b s e s' := by
  cases h with
  | idle => exact .quiet _ [] [] s (by simp) (by simp) rfl (by simp) (by simp)
  | accept => exact .quiet _ [] [] _ (by simp) (by simp) rfl (by simp) (by simp)
  | control client input last s₁ clients hasks =>
    obtain ⟨entries, new, hentries, hnew, hcollector, hall, hsent⟩ := asks_answers hasks
    exact .quiet _ entries new _ hentries hnew (by simp [hcollector]) hall hsent
  | dispatcher write entry rest o hq ho => exact .dispatched write entry rest o hq ho
  | device _ hash event d o he hget ho =>
    refine .quiet _ (o.dispatcher.map fun rq => ⟨rq, none⟩) [] _ rfl (by simp [afterDevice]) rfl ?_
      (by simp)
    intro e he
    obtain ⟨rq, -, rfl⟩ := List.mem_map.mp he
    rfl
  | database io entry rest o hq ho => exact .served io entry rest o hq ho

lemma tagged_turn {e : Application.Event} (h : Turn b s e s') (hs : Tagged s) : Tagged s' := by
  cases turn_answerTurn h with
  | quiet _ entries new _ hdispatcher hsent hhandled hentries hnew =>
    constructor
    · rw [hdispatcher, hhandled]
      intro x hx n hn
      obtain hold | hx := List.mem_append.mp hx
      · exact hs.waiting x hold n hn
      · rw [hentries x hx] at hn
        cases hn
    · rw [hsent, hhandled]
      intro x hx n hn
      obtain hold | hx := List.mem_append.mp hx
      · exact hs.sent x hold n hn
      · rw [hnew x hx] at hn
        cases hn
  | dispatched write entry rest o hq ho =>
    constructor
    · intro x hx n hn
      obtain hold | hx := List.mem_append.mp hx
      · exact hs.waiting x (by rw [hq]; exact List.mem_cons_of_mem entry hold) n hn
      · obtain ⟨rq, -, rfl⟩ := List.mem_map.mp hx
        cases hn
    · intro x hx n hn
      obtain hold | hx := List.mem_append.mp hx
      · exact hs.sent x hold n hn
      · obtain ⟨pair, -, rfl⟩ := List.mem_map.mp hx
        exact (hs.waiting entry (by rw [hq]; exact List.mem_cons_self) n hn).1
  | served io entry rest o hq ho =>
    have hlength : (afterDatabase s entry rest o).collector.handled.length =
        s.collector.handled.length + 1 := by simp [afterDatabase]
    constructor
    · intro x hx n hn
      rw [hlength]
      obtain hold | hx := List.mem_append.mp hx
      · have hwaiting := hs.waiting x hold n hn
        exact ⟨by omega, hwaiting.2⟩
      · obtain ⟨rq, hrq, rfl⟩ := List.mem_map.mp hx
        obtain rfl : s.collector.handled.length = n := Option.some.inj hn
        exact ⟨by omega, database_sendStatus ho rq hrq⟩
    · intro x hx n hn
      rw [hlength]
      obtain hold | hx := List.mem_append.mp hx
      · have hsent := hs.sent x hold n hn
        omega
      · obtain ⟨pair, -, rfl⟩ := List.mem_map.mp hx
        obtain rfl : s.collector.handled.length = n := Option.some.inj hn
        omega

lemma tagged_start (tables : Tables) (erase failed : Bool) :
    Tagged (Application.start tables erase failed) := by
  constructor
  · intro e he n hn
    cases failed with
    | false => simp [Application.start] at he
    | true =>
      rw [List.mem_singleton.mp he] at hn
      cases hn
  · intro x hx
    simp [Application.start] at hx

/-- The answer to a request for a list: the list has been sent, and behind it the status, unless
that still waits for the dispatcher. -/
inductive Answering (client : ClientId) (id : String) (list : Control.Message) (n : Nat)
    (s : Application) : Prop where
  | waiting (entry : DispatcherEntry) (hn : n < s.collector.handled.length)
      (hsent : answersTo n s = [⟨client, list, true, some n⟩]) (hwaiting : waitingFor n s = [entry])
      (hclient : entry.request.client = some client)
      (hstatus : entry.request.args.lookup .status = some (valFor .statusOkay))
      (hid : (entry.request.args.lookup .requestId).getD "" = id)
  | answered (write : Bool) (reason : String) (hn : n < s.collector.handled.length)
      (hsent : answersTo n s = [⟨client, list, true, some n⟩,
        ⟨client, .status ⟨id, .ok, reason⟩, write, some n⟩]) (hwaiting : waitingFor n s = [])

lemma filter_append_of_none {α : Type} {p : α → Bool} {l new : List α} (h : ∀ x ∈ new, ¬ p x = true) :
    (l ++ new).filter p = l.filter p := by
  rw [List.filter_append, List.filter_eq_nil_iff.mpr h, List.append_nil]

lemma answersTo_append {s' : Application} {n : Nat} {new : List Sent} (hsent : s'.sent = s.sent ++ new)
    (hnew : ∀ x ∈ new, x.served ≠ some n) : answersTo n s' = answersTo n s := by
  unfold answersTo
  rw [hsent]
  exact filter_append_of_none (by simpa using hnew)

lemma answering_dispatched {client : ClientId} {id : String} {list : Control.Message} {n : Nat}
    {write : Bool} {entry : DispatcherEntry} {rest : List DispatcherEntry} {o : Dispatcher.Outcome}
    (hq : s.dispatcher = entry :: rest)
    (ho : Dispatcher.requestHandler s.known entry.request = .ok o) (ht : Tagged s)
    (hs : Answering client id list n s) :
    Answering client id list n (deliver { s with dispatcher := rest } o write entry.served) := by
  have hpushed : ∀ x ∈ o.dispatcher.map fun rq => (⟨rq, none⟩ : DispatcherEntry), x.served ≠ some n := by
    intro x hx
    obtain ⟨rq, -, rfl⟩ := List.mem_map.mp hx
    simp
  have hrest : waitingFor n (deliver { s with dispatcher := rest } o write entry.served) =
      rest.filter fun e => e.served = some n := by
    exact filter_append_of_none fun x hx => by simpa using hpushed x hx
  by_cases hentry : entry.served = some n
  · have hhead : waitingFor n s = entry :: rest.filter fun e => e.served = some n := by
      unfold waitingFor
      rw [hq, List.filter_cons_of_pos (by simpa using hentry)]
    cases hs with
    | waiting entry' hn hsent hwaiting hclient hstatus hid =>
      rw [hhead] at hwaiting
      obtain ⟨rfl, hnone⟩ := List.cons.inj hwaiting
      have haction := (ht.waiting entry (by rw [hq]; exact List.mem_cons_self) n hentry).2
      have hmessage : o.message = some (client, .status ⟨id, .ok,
          (entry.request.args.lookup .reason).getD ""⟩) := by
        unfold Dispatcher.requestHandler at ho
        simp only [haction, Dispatcher.doSendStatus, hclient, Args.atKey, hstatus,
          Except.ok.injEq] at ho
        rw [← ho, hid]
        rfl
      refine .answered write ((entry.request.args.lookup .reason).getD "") hn ?_ (hrest.trans hnone)
      have hanswers : answersTo n (deliver { s with dispatcher := rest } o write entry.served) =
          answersTo n s ++ [⟨client, .status ⟨id, .ok,
            (entry.request.args.lookup .reason).getD ""⟩, write, entry.served⟩] := by
        unfold answersTo deliver
        simp [hmessage, hentry]
      rw [hanswers, hsent, hentry]
      rfl
    | answered write' reason hn hsent hwaiting =>
      rw [hhead] at hwaiting
      cases hwaiting
  · have hsame : waitingFor n s = rest.filter fun e => e.served = some n := by
      unfold waitingFor
      rw [hq, List.filter_cons_of_neg (by simpa using hentry)]
    have hanswers : answersTo n (deliver { s with dispatcher := rest } o write entry.served) =
        answersTo n s := by
      apply answersTo_append rfl
      intro x hx
      obtain ⟨pair, -, rfl⟩ := List.mem_map.mp hx
      exact hentry
    cases hs with
    | waiting entry' hn hsent hwaiting hclient hstatus hid =>
      exact .waiting entry' hn (hanswers.trans hsent) (hrest.trans (hsame.symm.trans hwaiting)) hclient
        hstatus hid
    | answered write' reason hn hsent hwaiting =>
      exact .answered write' reason hn (hanswers.trans hsent) (hrest.trans (hsame.symm.trans hwaiting))

lemma answering_turn {client : ClientId} {id : String} {list : Control.Message} {n : Nat}
    {e : Application.Event} (h : Turn b s e s') (ht : Tagged s) (hs : Answering client id list n s) :
    Answering client id list n s' := by
  have hn : n < s.collector.handled.length := by
    cases hs with
    | waiting _ hn => exact hn
    | answered _ _ hn => exact hn
  have hkeep : ∀ s' : Application, answersTo n s' = answersTo n s → waitingFor n s' = waitingFor n s →
      n < s'.collector.handled.length → Answering client id list n s' := by
    intro s' hanswers hwaits hn'
    cases hs with
    | waiting entry _ hsent hwaiting hclient hstatus hid =>
      exact .waiting entry hn' (hanswers.trans hsent) (hwaits.trans hwaiting) hclient hstatus hid
    | answered write reason _ hsent hwaiting =>
      exact .answered write reason hn' (hanswers.trans hsent) (hwaits.trans hwaiting)
  cases turn_answerTurn h with
  | quiet _ entries new _ hdispatcher hsent hhandled hentries hnew =>
    apply hkeep
    · exact answersTo_append hsent fun x hx => by simp [hnew x hx]
    · unfold waitingFor
      rw [hdispatcher]
      exact filter_append_of_none fun x hx => by simp [hentries x hx]
    · rw [hhandled]
      exact hn
  | dispatched write entry rest o hq ho => exact answering_dispatched hq ho ht hs
  | served io entry rest o hq ho =>
    apply hkeep
    · apply answersTo_append rfl
      intro x hx
      obtain ⟨pair, -, rfl⟩ := List.mem_map.mp hx
      intro heq
      have hlength := Option.some.inj heq
      omega
    · apply filter_append_of_none
      intro x hx
      obtain ⟨rq, -, rfl⟩ := List.mem_map.mp hx
      simp only [decide_eq_true_eq, Option.some.injEq]
      omega
    · simp only [afterDatabase, List.length_append, List.length_singleton]
      omega

end Tags

/-- The query of a request for a list. -/
def listQuery (rq : IDatabase.Request) : Option Query.Call :=
  match rq.action, rq.bulkData with
  | .getDevices, _ => some .getDevices
  | .getSessions, .deviceData m =>
    some (if m.hash.isEmpty then .getSessions else .getSessionsOf m.hash)
  | _, _ => none

/-- The query of a request for a list succeeds. -/
def QuerySucceeds (b : Backend) (io : DbIo) (t : Tables) (rq : IDatabase.Request) : Prop :=
  ∃ call, listQuery rq = some call ∧ (Database.runQuery b io 0 t call).2 ≠ none

/-- The list is of the kind that the action asks for. -/
def ListFor (action : IDatabase.Action) (m : Control.Message) : Prop :=
  action = .getDevices ∧ (∃ list, m = .deviceList list) ∨
    action = .getSessions ∧ ∃ list, m = .sessionList list

lemma sendList_succeeds (t : Tables) (rq : IDatabase.Request) (client : ClientId) {io : DbIo}
    {reply : Option TkmCollector.Reply} (list : ControlList) (failure : String) (hreply : reply ≠ none)
    (hwrite : io.write = true) :
    ∃ args, Database.sendList t rq client io reply list failure =
        { Database.answer t rq args with lists := [(client, list)] } ∧
      args.lookup .status = some (valFor .statusOkay) ∧
      args.lookup .requestId = rq.args.lookup .requestId := by
  obtain ⟨r, rfl⟩ := Option.ne_none_iff_exists'.mp hreply
  unfold Database.sendList
  simp only [hwrite, if_true]
  exact ⟨_, rfl, by simp, by simp⟩

lemma requestHandler_sendList {b : Backend} {states : String → Option Control.DeviceState} {io : DbIo}
    {t : Tables} {rq : IDatabase.Request} {o : DbOutcome} {client : ClientId} {call : Query.Call}
    (h : Database.requestHandler b states io t rq = .ok o) (hclient : rq.client = some client)
    (hcall : listQuery rq = some call) :
    ∃ t' list failure, ListFor rq.action list.message ∧
      o = Database.sendList t' rq client io (Database.runQuery b io 0 t call).2 list failure := by
  unfold Database.requestHandler at h
  unfold listQuery at hcall
  cases ha : rq.action with
  | getDevices =>
    simp only [ha, Option.some.injEq] at hcall
    simp only [ha, Database.doGetDevices, hclient, hcall, Except.ok.injEq] at h
    exact ⟨_, _, _, .inl ⟨rfl, _, rfl⟩, h.symm⟩
  | getSessions =>
    cases hbulk : rq.bulkData with
    | deviceData m =>
      simp only [ha, hbulk, Option.some.injEq] at hcall
      simp only [ha, Database.doGetSessions, hclient, hbulk, BulkData.castDeviceData, hcall,
        Except.ok.injEq] at h
      exact ⟨_, _, _, .inr ⟨rfl, _, rfl⟩, h.symm⟩
    | _ => simp [ha, hbulk] at hcall
  | _ => simp [ha] at hcall

lemma requestHandler_list {b : Backend} {states : String → Option Control.DeviceState} {io : DbIo}
    {t : Tables} {rq : IDatabase.Request} {o : DbOutcome} {client : ClientId}
    (h : Database.requestHandler b states io t rq = .ok o) (hclient : rq.client = some client)
    (hquery : QuerySucceeds b io t rq) (hwrite : io.write = true) :
    ∃ list args, o.lists = [(client, list)] ∧ ListFor rq.action list.message ∧
      o.dispatcher = [Database.sendStatus rq args] ∧
      args.lookup .status = some (valFor .statusOkay) ∧
      args.lookup .requestId = rq.args.lookup .requestId := by
  obtain ⟨call, hcall, hreply⟩ := hquery
  obtain ⟨t', list, failure, hlist, ho⟩ := requestHandler_sendList h hclient hcall
  obtain ⟨args, hsend, hstatus, hid⟩ := sendList_succeeds t' rq client list failure hreply hwrite
  rw [hsend] at ho
  rw [ho]
  exact ⟨list, args, rfl, hlist, rfl, hstatus, hid⟩

lemma requestHandler_lists {b : Backend} {states : String → Option Control.DeviceState} {io : DbIo}
    {t : Tables} {rq : IDatabase.Request} {o : DbOutcome}
    (h : Database.requestHandler b states io t rq = .ok o) :
    ∀ x ∈ o.lists, rq.client = some x.1 ∧ ListFor rq.action x.2.message := by
  cases requestHandler_handled h with
  | devices t args client list ha _ hclient =>
    intro x hx
    rw [List.mem_singleton.mp hx]
    exact ⟨hclient, .inl ⟨ha, list, rfl⟩⟩
  | sessions t args client list ha _ hclient =>
    intro x hx
    rw [List.mem_singleton.mp hx]
    exact ⟨hclient, .inr ⟨ha, list, rfl⟩⟩
  | answered | added | quiet | loaded | cleaned =>
    intro x hx
    cases hx

section Answers

variable {b : Backend} {s s' : Application}

lemma answering_served {io : DbIo} {entry : DbEntry} {rest : List DbEntry} {client : ClientId}
    (hq : s.collector.queue = entry :: rest) (ht : Tagged s)
    (hclient : entry.request.client = some client)
    (hquery : QuerySucceeds b io s.collector.tables entry.request) (hwrite : io.write = true)
    (h : Application.step b s (.database io) = .ok s') :
    ∃ list, ListFor entry.request.action list ∧ Answering client
      ((entry.request.args.lookup .requestId).getD "") list s.collector.handled.length s' := by
  obtain ⟨o, ho, rfl⟩ := step_database hq h
  obtain ⟨list, args, hlists, hlist, hdispatcher, hstatus, hid⟩ :=
    requestHandler_list ho hclient hquery hwrite
  refine ⟨list.message, hlist, .waiting ⟨Database.sendStatus entry.request args,
    some s.collector.handled.length⟩ (by simp [afterDatabase]) ?_ ?_ hclient hstatus ?_⟩
  · have hold : s.sent.filter (fun x => x.served = some s.collector.handled.length) = [] := by
      rw [List.filter_eq_nil_iff]
      intro x hx hn
      have hlt := ht.sent x hx _ (by simpa using hn)
      omega
    simp [answersTo, afterDatabase, hlists, hold]
  · have hold : s.dispatcher.filter (fun e => e.served = some s.collector.handled.length) = [] := by
      rw [List.filter_eq_nil_iff]
      intro e he hn
      have hlt := (ht.waiting e he _ (by simpa using hn)).1
      omega
    simp [waitingFor, afterDatabase, hdispatcher, hold]
  · change (args.lookup .requestId).getD "" = _
    rw [hid]

end Answers

end TkmCollector.Proofs
