import TkmCollector.Proofs.ControlUtility
import TkmCollector.Proofs.ListsFirst

namespace TkmCollector.Proofs

open Application

/-- The requests that a client has sent. -/
def askedBy (client : ClientId) (s : Application) : List Control.Request :=
  (s.asked.filter fun (client', _) => client' = client).map fun (_, rq) => rq

/-- The messages that were handed to the writer of a client. -/
def sentTo (client : ClientId) (s : Application) : List Control.Message :=
  (s.sent.filter fun x => x.client = client).map fun x => x.message

def statusId : Control.Message → Option String
  | .status status => some status.requestId
  | .setSession _ | .deviceList _ | .sessionList _ => none

def requestId {Action : Type} (rq : Request Action) : String := (rq.args.lookup .requestId).getD ""

def dispatcherOf (client : ClientId) (s : Application) : List Dispatcher.Request :=
  (s.dispatcher.map fun e => e.request).filter fun rq => rq.client = some client

def queueOf (client : ClientId) (s : Application) : List IDatabase.Request :=
  (s.collector.queue.map fun e => e.request).filter fun rq => rq.client = some client

/-- The request introduces the client, or asks for a list with another id. -/
def Introduces (rq : Control.Request) : Prop :=
  rq.type = .requestSession ∧ rq.id = "RequestSession" ∨
    rq.type ∈ [.getDevices, .getSessions] ∧ rq.id ≠ "RequestSession"

/-- The books of a client that asks for lists. -/
structure ListClient (client : ClientId) (s : Application) : Prop where
  devices : ∀ d ∈ s.collector.devices, ∀ rq ∈ d.queue, rq.client ≠ some client
  dispatcher : ∀ rq ∈ dispatcherOf client s, rq.action = .sendStatus ∨
    rq.action ∈ [.getDevices, .getSessions] ∧ requestId rq ≠ "RequestSession"
  queue : ∀ rq ∈ queueOf client s,
    rq.action ∈ [.getDevices, .getSessions] ∧ requestId rq ≠ "RequestSession"
  books : ((askedBy client s).map (fun rq => rq.id) : Multiset String) =
    (dispatcherOf client s).map requestId + (queueOf client s).map requestId +
      (sentTo client s).filterMap statusId
  silent : askedBy client s = [] → sentTo client s = []
  lists : ListsFirst (sentTo client s)

/-- Nothing is done for the client, and no device has a request of it. -/
structure Untouched (client : ClientId) (s s' : Application) : Prop where
  devices : ∀ d ∈ s'.collector.devices, ∀ rq ∈ d.queue, rq.client ≠ some client
  dispatcher : dispatcherOf client s' = dispatcherOf client s
  queue : queueOf client s' = queueOf client s
  asked : askedBy client s' = askedBy client s
  sent : (s'.sent.filter fun x => x.client = client) = s.sent.filter fun x => x.client = client

/-- The client asks for no more than one list. -/
def AsksOnce (client : ClientId) (s : Application) : Prop :=
  (askedBy client s).countP (fun rq => rq.id ≠ "RequestSession") ≤ 1

/-- Nothing is for the client. -/
def NothingFor (client : ClientId) (o : Dispatcher.Outcome) : Prop :=
  (∀ x ∈ o.dispatcher, x.client ≠ some client) ∧ (∀ x ∈ o.database, x.client ≠ some client) ∧
    (∀ hash x, o.device = some (hash, x) → x.client ≠ some client) ∧
    ∀ c m, o.message = some (c, m) → c ≠ client

lemma sendStatus_pushes {known : String → Bool} {rq : Dispatcher.Request} {o : Dispatcher.Outcome}
    (h : Dispatcher.requestHandler known rq = .ok o) (ha : rq.action = .sendStatus) :
    o.dispatcher = [] ∧ o.database = [] ∧ o.device = none := by
  cases requestHandler_dispatched h with
  | unheard | answered => exact ⟨rfl, rfl, rfl⟩
  | quitting hquit => cases ha.symm.trans hquit
  | database action haction | device action deviceData haction | unknown action deviceData haction =>
    rw [ha] at haction
    cases haction

lemma nothingFor_dispatched {client : ClientId} {known : String → Bool} {rq : Dispatcher.Request}
    {o : Dispatcher.Outcome} (h : Dispatcher.requestHandler known rq = .ok o)
    (hclient : rq.client ≠ some client) : NothingFor client o := by
  cases requestHandler_dispatched h with
  | database => exact ⟨by simp [Dispatcher.toDatabase], by simpa [Dispatcher.toDatabase] using hclient,
      by simp [Dispatcher.toDatabase], by simp [Dispatcher.toDatabase]⟩
  | device =>
    refine ⟨by simp, by simp, ?_, by simp⟩
    rintro hash x ⟨⟩
    exact hclient
  | unknown => exact ⟨by simpa [noSuchDevice] using hclient, by simp, by simp, by simp⟩
  | quitting => simp [NothingFor, Dispatcher.doQuitCollector]
  | unheard => exact ⟨by simp, by simp, by simp, by simp⟩
  | answered client' status ha hc =>
    refine ⟨by simp, by simp, by simp, ?_⟩
    rintro c m ⟨⟩ rfl
    exact hclient hc

section ListClients

variable {b : Backend} {client : ClientId} {s s' : Application}

lemma sentTo_append {new : List Sent} (hsent : s'.sent = s.sent ++ new) :
    sentTo client s' = sentTo client s ++
      (new.filter fun x => x.client = client).map fun x => x.message := by
  simp [sentTo, hsent]

lemma sent_other {new : List Sent} (hsent : s'.sent = s.sent ++ new)
    (hnew : ∀ x ∈ new, x.client ≠ client) :
    (s'.sent.filter fun x => x.client = client) = s.sent.filter fun x => x.client = client := by
  rw [hsent, filter_append_of_none fun x hx => by simpa using hnew x hx]

lemma dispatcherOf_other {entries : List DispatcherEntry} {rest : List DispatcherEntry}
    (hdispatcher : s'.dispatcher = rest ++ entries)
    (hentries : ∀ e ∈ entries, e.request.client ≠ some client) :
    dispatcherOf client s' = (rest.map fun e => e.request).filter fun rq => rq.client = some client := by
  unfold dispatcherOf
  rw [hdispatcher, List.map_append, filter_append_of_none]
  intro rq hrq
  obtain ⟨e, he, rfl⟩ := List.mem_map.mp hrq
  simpa using hentries e he

lemma queueOf_other {entries rest : List DbEntry} (hqueue : s'.collector.queue = rest ++ entries)
    (hentries : ∀ e ∈ entries, e.request.client ≠ some client) :
    queueOf client s' = (rest.map fun e => e.request).filter fun rq => rq.client = some client := by
  unfold queueOf
  rw [hqueue, List.map_append, filter_append_of_none]
  intro rq hrq
  obtain ⟨e, he, rfl⟩ := List.mem_map.mp hrq
  simpa using hentries e he

lemma Untouched.sentTo_eq (h : Untouched client s s') : sentTo client s' = sentTo client s := by
  unfold sentTo
  rw [h.sent]

lemma ListClient.other (hs : ListClient client s) (h : Untouched client s s') :
    ListClient client s' where
  devices := h.devices
  dispatcher := by rw [h.dispatcher]; exact hs.dispatcher
  queue := by rw [h.queue]; exact hs.queue
  books := by rw [h.asked, h.sentTo_eq, h.dispatcher, h.queue, hs.books]
  silent := by rw [h.asked, h.sentTo_eq]; exact hs.silent
  lists := by rw [h.sentTo_eq]; exact hs.lists

lemma dispatcherOf_append {entries : List DispatcherEntry} {rest : List DispatcherEntry}
    (hdispatcher : s'.dispatcher = rest ++ entries)
    (hentries : ∀ e ∈ entries, e.request.client = some client) :
    dispatcherOf client s' = ((rest.map fun e => e.request).filter fun rq =>
      rq.client = some client) ++ entries.map fun e => e.request := by
  unfold dispatcherOf
  rw [hdispatcher, List.map_append, List.filter_append]
  congr 1
  rw [List.filter_eq_self]
  intro rq hrq
  obtain ⟨e, he, rfl⟩ := List.mem_map.mp hrq
  simpa using hentries e he

lemma listsFirst_append {l new : List Control.Message} (hl : ListsFirst l)
    (hnew : ∀ x ∈ new, ¬ IsList x) : ListsFirst (l ++ new) := by
  refine List.pairwise_append.mpr ⟨hl, ?_, fun _ _ x hx _ => hnew x hx⟩
  exact List.Pairwise.imp_of_mem (fun _ hx _ _ => hnew _ hx) (List.pairwise_of_forall fun _ _ => trivial)

lemma ListClient.asked_ne (hs : ListClient client s)
    (h : dispatcherOf client s ≠ [] ∨ queueOf client s ≠ []) : askedBy client s ≠ [] := by
  intro hnil
  have hcard := congrArg Multiset.card hs.books
  simp only [hnil, List.map_nil, Multiset.card_add, Multiset.coe_card, List.length_nil,
    List.length_map] at hcard
  obtain h | h := h
  · exact h (List.length_eq_zero_iff.mp (by omega))
  · exact h (List.length_eq_zero_iff.mp (by omega))

lemma asked_request {asking : ClientId} {rq : Control.Request} {write : Bool}
    {message : Option Control.Message} {nrq : Dispatcher.Request}
    (h : ControlClient.requestHandler asking rq write = some (message, nrq)) :
    nrq.client = some asking ∧ (Introduces rq → requestId nrq = rq.id ∧
      (nrq.action = .sendStatus ∨ nrq.action ∈ [.getDevices, .getSessions] ∧
        requestId nrq ≠ "RequestSession") ∧
      ∀ m ∈ message, statusId m = none ∧ ¬ IsList m) := by
  have hargs : ((ControlClient.requestArgs rq).lookup .requestId).getD "" = rq.id := by
    rw [lookup_requestArgs, Option.getD_some]
  unfold ControlClient.requestHandler at h
  cases htype : rq.type with
  | unknown => simp [htype] at h
  | requestSession =>
    simp only [htype, ControlClient.doRequestSession, Option.some.injEq, Prod.mk.injEq] at h
    obtain ⟨rfl, rfl⟩ := h
    refine ⟨rfl, fun _ => ⟨?_, .inl rfl, ?_⟩⟩
    · unfold requestId
      cases write <;> simp [ControlClient.request]
    · intro m hm
      rw [← Option.mem_some_iff.mp hm]
      exact ⟨rfl, id⟩
  | getDevices =>
    simp only [htype, Option.some.injEq, Prod.mk.injEq] at h
    obtain ⟨rfl, rfl⟩ := h
    have hid : requestId (ControlClient.doGetDevices asking rq) = rq.id := by
      simp [requestId, ControlClient.doGetDevices, ControlClient.request]
    refine ⟨rfl, fun hrq => ⟨hid, .inr ⟨by simp [ControlClient.doGetDevices, ControlClient.request], ?_⟩,
      by simp⟩⟩
    rw [hid]
    simpa [Introduces, htype] using hrq
  | getSessions =>
    simp only [htype, Option.some.injEq, Prod.mk.injEq] at h
    obtain ⟨rfl, rfl⟩ := h
    have hid : requestId (ControlClient.doGetSessions asking rq) = rq.id := hargs
    refine ⟨rfl, fun hrq => ⟨hid, .inr ⟨by simp [ControlClient.doGetSessions, ControlClient.request], ?_⟩,
      by simp⟩⟩
    rw [hid]
    simpa [Introduces, htype] using hrq
  | _ =>
    simp only [htype, Option.some.injEq, Prod.mk.injEq] at h
    obtain ⟨rfl, rfl⟩ := h
    refine ⟨rfl, fun hrq => ?_⟩
    simp [Introduces, htype] at hrq

lemma untouched_ask {asking : ClientId} (h : Ask asking s s') (hother : asking ≠ client)
    (hdevices : ∀ d ∈ s.collector.devices, ∀ rq ∈ d.queue, rq.client ≠ some client) :
    Untouched client s s' := by
  cases h with
  | unknown rq => exact ⟨hdevices, rfl, rfl, by simp [askedBy, hother], rfl⟩
  | known rq write message nrq hrq =>
    have hclient := (asked_request hrq).1
    have hdispatcher : (s.ask asking rq write message nrq).dispatcher = s.dispatcher ++ [⟨nrq, none⟩] :=
      rfl
    refine ⟨hdevices, ?_, rfl, by simp [askedBy, Application.ask, hother], ?_⟩
    · exact dispatcherOf_other hdispatcher (by simpa [hclient] using hother)
    · apply sent_other rfl
      intro x hx
      obtain ⟨m, -, rfl⟩ := List.mem_map.mp hx
      exact hother

lemma listClient_ask {asking : ClientId} (h : Ask asking s s')
    (hasks : ∀ rq, s'.asked = s.asked ++ [(asking, rq)] → asking = client → Introduces rq)
    (hs : ListClient client s) : ListClient client s' := by
  cases h with
  | unknown rq hrq =>
    have hother : asking ≠ client := by
      intro hclient
      have hunknown : rq.type = .unknown := requestHandler_eq_none.mp (hrq true)
      obtain ⟨htype, -⟩ | ⟨htype, -⟩ := hasks rq rfl hclient
      · simp [hunknown] at htype
      · simp [hunknown] at htype
    exact ListClient.other hs (untouched_ask (.unknown rq hrq) hother hs.devices)
  | known rq write message nrq hrq =>
    obtain ⟨hclient, hintro⟩ := asked_request hrq
    have hdispatcher : (s.ask asking rq write message nrq).dispatcher = s.dispatcher ++ [⟨nrq, none⟩] :=
      rfl
    have hsent : (s.ask asking rq write message nrq).sent =
        s.sent ++ message.toList.map fun m => ⟨asking, m, write, none⟩ := rfl
    by_cases hsame : asking = client
    · subst hsame
      obtain ⟨hid, haction, hmessage⟩ := hintro (hasks rq rfl rfl)
      have hasked : askedBy asking (s.ask asking rq write message nrq) = askedBy asking s ++ [rq] := by
        simp [askedBy, Application.ask]
      have hD : dispatcherOf asking (s.ask asking rq write message nrq) =
          dispatcherOf asking s ++ [nrq] := dispatcherOf_append hdispatcher (by simpa using hclient)
      have hS : sentTo asking (s.ask asking rq write message nrq) =
          sentTo asking s ++ message.toList := by
        rw [sentTo_append hsent]
        cases message <;> simp
      constructor
      · exact hs.devices
      · rw [hD]
        intro x hx
        obtain hold | hx := List.mem_append.mp hx
        · exact hs.dispatcher x hold
        · rw [List.mem_singleton.mp hx]
          exact haction
      · exact hs.queue
      · have hnone : message.toList.filterMap statusId = [] := by
          rw [List.filterMap_eq_nil_iff]
          exact fun m hm => (hmessage m (Option.mem_toList.mp hm)).1
        have hQ : queueOf asking (s.ask asking rq write message nrq) = queueOf asking s := rfl
        rw [hasked, hD, hQ, hS, List.filterMap_append, hnone, List.append_nil, List.map_append,
          List.map_append, ← Multiset.coe_add, ← Multiset.coe_add, hs.books, List.map_singleton,
          List.map_singleton, hid]
        abel
      · rw [hasked]
        intro hnil
        simp at hnil
      · rw [hS]
        exact listsFirst_append hs.lists fun m hm => (hmessage m (Option.mem_toList.mp hm)).2
    · exact ListClient.other hs (untouched_ask (.known rq write message nrq hrq) hsame hs.devices)

lemma sendStatus_message {known : String → Bool} {rq : Dispatcher.Request} {o : Dispatcher.Outcome}
    (h : Dispatcher.requestHandler known rq = .ok o) (ha : rq.action = .sendStatus)
    (hclient : rq.client = some client) :
    ∃ status, o.message = some (client, .status status) ∧ status.requestId = requestId rq := by
  cases requestHandler_dispatched h with
  | answered client' status _ hc =>
    obtain rfl : client' = client := Option.some.inj (hc.symm.trans hclient)
    exact ⟨_, rfl, rfl⟩
  | unheard _ hc => cases hc.symm.trans hclient
  | quitting hquit => cases ha.symm.trans hquit
  | database action haction | device action deviceData haction | unknown action deviceData haction =>
    rw [ha] at haction
    cases haction

/-- The dispatcher hands a client's request for a list on to the database. -/
lemma list_handedOn {known : String → Bool} {rq : Dispatcher.Request} {o : Dispatcher.Outcome}
    (h : Dispatcher.requestHandler known rq = .ok o) (ha : rq.action ∈ [.getDevices, .getSessions]) :
    ∃ nrq, o = ⟨[], [nrq], none, none⟩ ∧ nrq.client = rq.client ∧ requestId nrq = requestId rq ∧
      nrq.action ∈ [.getDevices, .getSessions] := by
  unfold Dispatcher.requestHandler at h
  simp only [List.mem_cons, List.not_mem_nil, or_false] at ha
  obtain ha | ha := ha
  · simp only [ha, Except.ok.injEq] at h
    exact ⟨_, h.symm, rfl, rfl, by simp⟩
  · simp only [ha, Except.ok.injEq] at h
    exact ⟨_, h.symm, rfl, rfl, by simp⟩

lemma untouched_deliver {write : Bool} {entry : DispatcherEntry} {rest : List DispatcherEntry}
    {o : Dispatcher.Outcome} (hq : s.dispatcher = entry :: rest)
    (ho : Dispatcher.requestHandler s.known entry.request = .ok o)
    (hclient : entry.request.client ≠ some client)
    (hdevices : ∀ d ∈ s.collector.devices, ∀ rq ∈ d.queue, rq.client ≠ some client) :
    Untouched client s (deliver { s with dispatcher := rest } o write entry.served) := by
  obtain ⟨hnoDispatcher, hnoDatabase, hnoDevice, hnoMessage⟩ := nothingFor_dispatched ho hclient
  constructor
  · intro x hx rq hrq
    obtain hold | ⟨d, hd, hash, nrq, hdevice, rfl⟩ := mem_deliver hx
    · exact hdevices x hold rq hrq
    · obtain hold | hnew := List.mem_append.mp hrq
      · exact hdevices d hd rq hold
      · rw [List.mem_singleton.mp hnew]
        exact hnoDevice hash nrq hdevice
  · rw [dispatcherOf_other rfl]
    · unfold dispatcherOf
      rw [hq, List.map_cons, List.filter_cons_of_neg (by simpa using hclient)]
    · intro e he
      obtain ⟨rq, hrq, rfl⟩ := List.mem_map.mp he
      exact hnoDispatcher rq hrq
  · rw [queueOf_other rfl]
    · rfl
    · intro e he
      obtain ⟨rq, hrq, rfl⟩ := List.mem_map.mp he
      exact hnoDatabase rq hrq
  · rfl
  · apply sent_other rfl
    intro x hx
    obtain ⟨⟨c, m⟩, hm, rfl⟩ := List.mem_map.mp hx
    exact hnoMessage c m (Option.mem_toList.mp hm)

lemma listClient_deliver {write : Bool} {entry : DispatcherEntry} {rest : List DispatcherEntry}
    {o : Dispatcher.Outcome} (hq : s.dispatcher = entry :: rest)
    (ho : Dispatcher.requestHandler s.known entry.request = .ok o) (hs : ListClient client s) :
    ListClient client (deliver { s with dispatcher := rest } o write entry.served) := by
  set s₁ := deliver { s with dispatcher := rest } o write entry.served with hs₁
  have hsent : s₁.sent = s.sent ++ o.message.toList.map fun p => ⟨p.1, p.2, write, entry.served⟩ :=
    rfl
  have hdispatcher : s₁.dispatcher = rest ++ o.dispatcher.map fun rq => ⟨rq, none⟩ := rfl
  have hqueue : s₁.collector.queue = s.collector.queue ++ o.database.map fun rq => ⟨rq, none⟩ := rfl
  have hasked : askedBy client s₁ = askedBy client s := rfl
  by_cases hclient : entry.request.client = some client
  · have hD : dispatcherOf client s = entry.request :: (rest.map fun e => e.request).filter fun rq =>
        rq.client = some client := by
      unfold dispatcherOf
      rw [hq, List.map_cons, List.filter_cons_of_pos (by simpa using hclient)]
    have hmem : entry.request ∈ dispatcherOf client s := by rw [hD]; exact List.mem_cons_self
    have hne : askedBy client s ≠ [] := hs.asked_ne (.inl (List.ne_nil_of_mem hmem))
    obtain ha | ⟨ha, hid⟩ := hs.dispatcher _ hmem
    · obtain ⟨hnone, hnoDatabase, hnoDevice⟩ := sendStatus_pushes ho ha
      obtain ⟨status, hmessage, hstatus⟩ := sendStatus_message ho ha hclient
      have hD' : dispatcherOf client s₁ = (rest.map fun e => e.request).filter fun rq =>
        rq.client = some client := dispatcherOf_other hdispatcher (by simp [hnone])
      have hQ' : queueOf client s₁ = queueOf client s := queueOf_other hqueue (by simp [hnoDatabase])
      have hS' : sentTo client s₁ = sentTo client s ++ [.status status] := by
        rw [sentTo_append hsent]
        simp [hmessage]
      constructor
      · intro d hd
        obtain hold | ⟨-, -, hash, rq, hdevice, -⟩ := mem_deliver hd
        · exact hs.devices d hold
        · rw [hnoDevice] at hdevice
          cases hdevice
      · rw [hD']
        exact fun rq hrq => hs.dispatcher rq (by rw [hD]; exact List.mem_cons_of_mem _ hrq)
      · rw [hQ']
        exact hs.queue
      · have hbooks := hs.books
        rw [hD, List.map_cons, ← Multiset.cons_coe, ← Multiset.singleton_add] at hbooks
        rw [hasked, hD', hQ', hS', List.filterMap_append, ← Multiset.coe_add, hbooks, ← hstatus]
        simp only [List.filterMap_cons, statusId, List.filterMap_nil, Multiset.coe_singleton]
        abel
      · rw [hasked]
        exact fun hnil => absurd hnil hne
      · rw [hS']
        exact listsFirst_append hs.lists (by simp [IsList])
    · obtain ⟨nrq, rfl, hnclient, hnid, hnaction⟩ := list_handedOn ho ha
      have hD' : dispatcherOf client s₁ = (rest.map fun e => e.request).filter fun rq =>
        rq.client = some client := dispatcherOf_other hdispatcher (by simp)
      have hQ' : queueOf client s₁ = queueOf client s ++ [nrq] := by
        unfold queueOf
        rw [hqueue, List.map_append, List.filter_append]
        simp [hnclient, hclient]
      have hS' : sentTo client s₁ = sentTo client s := by rw [sentTo_append hsent]; simp
      constructor
      · intro d hd
        obtain hold | ⟨-, -, hash, rq, hdevice, -⟩ := mem_deliver hd
        · exact hs.devices d hold
        · cases hdevice
      · rw [hD']
        exact fun rq hrq => hs.dispatcher rq (by rw [hD]; exact List.mem_cons_of_mem _ hrq)
      · rw [hQ']
        intro rq hrq
        obtain hold | hrq := List.mem_append.mp hrq
        · exact hs.queue rq hold
        · rw [List.mem_singleton.mp hrq, hnid]
          exact ⟨hnaction, hid⟩
      · have hbooks := hs.books
        rw [hD, List.map_cons, ← Multiset.cons_coe, ← Multiset.singleton_add] at hbooks
        rw [hasked, hD', hQ', hS', List.map_append, ← Multiset.coe_add, hbooks, ← hnid]
        simp only [List.map_cons, List.map_nil, Multiset.coe_singleton]
        abel
      · rw [hasked]
        exact fun hnil => absurd hnil hne
      · rw [hS']
        exact hs.lists
  · exact ListClient.other hs (untouched_deliver hq ho hclient hs.devices)

lemma device_clients {d : MonitorDevice} {event : MonitorDevice.Event} {o : Outcome}
    (hcontrol : ∀ action c args data, event ≠ .control action c args data)
    (h : d.step event = .ok o) (hd : ∀ rq ∈ d.queue, rq.client ≠ some client) :
    (∀ rq ∈ o.dispatcher, rq.client ≠ some client) ∧
      ∀ rq ∈ o.device.queue, rq.client ≠ some client := by
  cases event with
  | control action c args data => exact absurd rfl (hcontrol action c args data)
  | connection clock input last =>
    simp only [MonitorDevice.step] at h
    split at h
    · rw [← Except.ok.inj h]
      exact ⟨by simp, hd⟩
    · rw [← Except.ok.inj h]
      obtain ⟨added, streams, hread, hadded⟩ := accepts_eq (readEnvelopes_accepts clock last d input)
      have hnew : ∀ rq ∈ (MonitorDevice.readEnvelopes clock last d input).1.queue,
          rq.client ≠ some client := by
        rw [hread]
        intro rq hrq
        obtain hold | hrq := List.mem_append.mp hrq
        · exact hd rq hold
        · cases hadded rq hrq with
          | session => simp [sessionRequest]
          | data => simp [dataRequest]
          | status => simp [statusRequest]
      refine ⟨by simp, ?_⟩
      split
      · exact hnew
      · exact hnew
  | finalize =>
    simp only [MonitorDevice.step] at h
    split at h
    · rw [← Except.ok.inj h]
      exact ⟨by simp, hd⟩
    · rw [← Except.ok.inj h]
      exact ⟨by simp, by simpa [finalize_fst] using hd⟩
  | timer timer =>
    simp only [MonitorDevice.step, MonitorDevice.update] at h
    split at h
    · split at h
      · rw [← Except.ok.inj h]
        exact ⟨by simp, hd⟩
      · split at h
        · cases h
        · rw [← Except.ok.inj h]
          exact ⟨by simp, hd⟩
    · rw [← Except.ok.inj h]
      exact ⟨by simp, hd⟩
  | queue io =>
    simp only [MonitorDevice.step] at h
    cases hq : d.queue with
    | nil =>
      simp only [hq, Except.ok.injEq] at h
      rw [← h]
      exact ⟨by simp, hd⟩
    | cons rq rest =>
      simp only [hq] at h
      have hrq : rq.client ≠ some client := hd rq (by rw [hq]; exact List.mem_cons_self)
      have hrest : ∀ r ∈ rest, r.client ≠ some client := fun r hr => hd r (mem_of_popped hq hr)
      have hqueue : ∀ added : List IDevice.Request, (∀ x ∈ added, x.client ≠ some client) →
          ∀ r ∈ rest ++ added, r.client ≠ some client := by
        intro added hadded r hr
        obtain hold | hr := List.mem_append.mp hr
        · exact hrest r hold
        · exact hadded r hr
      cases requestHandler_reply h with
      | answered status reason added ha hdispatcher hd' hnone =>
        rw [hdispatcher, hd']
        refine ⟨?_, hqueue added fun x hx => by simp [hnone x hx]⟩
        intro r hr
        rw [List.mem_singleton.mp hr]
        exact hrq
      | requeued ha hdispatcher hd' =>
        rw [hdispatcher, hd']
        refine ⟨by simp, hqueue _ ?_⟩
        intro r hr
        rw [List.mem_singleton.mp hr]
        exact hrq
      | silent added ha hdispatcher hd' hnone =>
        rw [hdispatcher, hd']
        exact ⟨by simp, hqueue added fun x hx => by simp [hnone x hx]⟩

lemma not_control {e : Application.Event} {hash : String} {event : MonitorDevice.Event}
    (h : deviceEvent e = some (hash, event)) :
    ∀ action c args data, event ≠ .control action c args data := by
  rintro action c args data rfl
  cases e <;> simp [deviceEvent] at h

lemma untouched_device {hash : String} {event : MonitorDevice.Event} {d : MonitorDevice}
    {o : Outcome} (hcontrol : ∀ action c args data, event ≠ .control action c args data)
    (hget : s.collector.devices.getDevice hash = some d) (ho : d.step event = .ok o)
    (hdevices : ∀ d ∈ s.collector.devices, ∀ rq ∈ d.queue, rq.client ≠ some client) :
    Untouched client s (afterDevice s hash o) := by
  obtain ⟨hdispatcher, hqueue⟩ := device_clients hcontrol ho (hdevices d (mem_of_getDevice hget))
  refine ⟨?_, ?_, ?_, rfl, rfl⟩
  · intro x hx
    obtain hold | rfl := mem_update hx
    · exact hdevices x hold
    · exact hqueue
  · apply dispatcherOf_other rfl
    intro e he
    obtain ⟨rq, hrq, rfl⟩ := List.mem_map.mp he
    exact hdispatcher rq hrq
  · apply queueOf_other rfl
    intro e he
    obtain ⟨rq, hrq, rfl⟩ := List.mem_map.mp he
    simp [dispatch_client (step_dispatch ho) rq hrq]

/-- While a list is asked for, no status that ends the client has been sent. -/
lemma ListClient.not_ended (hs : ListClient client s) (honce : AsksOnce client s)
    (hqueue : queueOf client s ≠ []) : ∀ m ∈ sentTo client s, ¬ EndsControl m := by
  intro m hm hends
  obtain ⟨rq, hrq⟩ := List.exists_mem_of_ne_nil _ hqueue
  have hcount : Multiset.countP (fun id => id ≠ "RequestSession")
      ((askedBy client s).map (fun rq => rq.id) : Multiset String) ≤ 1 := by
    unfold AsksOnce at honce
    rw [Multiset.coe_countP, List.countP_map]
    exact honce
  rw [hs.books, Multiset.countP_add, Multiset.countP_add] at hcount
  have hasked : 0 < Multiset.countP (fun id => id ≠ "RequestSession")
      ((queueOf client s).map requestId : Multiset String) :=
    Multiset.countP_pos.mpr ⟨requestId rq, List.mem_map_of_mem hrq, (hs.queue rq hrq).2⟩
  have hstatus : 0 < Multiset.countP (fun id => id ≠ "RequestSession")
      ((sentTo client s).filterMap statusId : Multiset String) := by
    cases m with
    | status status =>
      exact Multiset.countP_pos.mpr ⟨status.requestId, List.mem_filterMap.mpr ⟨_, hm, rfl⟩, hends⟩
    | setSession | deviceList | sessionList => exact absurd hends id
  omega

lemma untouched_database {io : DbIo} {entry : DbEntry} {rest : List DbEntry} {o : DbOutcome}
    (hq : s.collector.queue = entry :: rest)
    (ho : Database.requestHandler b s.collector.deviceState io s.collector.tables entry.request =
      .ok o) (hclient : entry.request.client ≠ some client)
    (hdevices : ∀ d ∈ s.collector.devices, ∀ rq ∈ d.queue, rq.client ≠ some client) :
    Untouched client s (afterDatabase s entry rest o) := by
  refine ⟨?_, ?_, ?_, rfl, ?_⟩
  · intro d hd
    obtain hold | ⟨row, -, rfl⟩ := mem_load hd
    · exact hdevices d hold
    · simp [MonitorDevice.loaded]
  · apply dispatcherOf_other rfl
    intro e he
    obtain ⟨rq, hrq, rfl⟩ := List.mem_map.mp he
    cases requestHandler_databaseReply ho with
    | answered args ha hd =>
      rw [hd] at hrq
      rw [List.mem_singleton.mp hrq]
      exact hclient
    | silent ha hd =>
      rw [hd] at hrq
      cases hrq
  · rw [queueOf_other rfl]
    · unfold queueOf
      rw [hq, List.map_cons, List.filter_cons_of_neg (by simpa using hclient)]
    · intro e he
      obtain ⟨rq, hrq, rfl⟩ := List.mem_map.mp he
      simp [(requestHandler_pushes ho rq hrq).1]
  · apply sent_other rfl
    intro x hx
    obtain ⟨⟨c, list⟩, hlist, rfl⟩ := List.mem_map.mp hx
    rintro rfl
    exact hclient (requestHandler_lists ho _ hlist).1

lemma listClient_database {io : DbIo} {entry : DbEntry} {rest : List DbEntry} {o : DbOutcome}
    (hq : s.collector.queue = entry :: rest)
    (ho : Database.requestHandler b s.collector.deviceState io s.collector.tables entry.request =
      .ok o) (honce : AsksOnce client s)
    (hs : ListClient client s) : ListClient client (afterDatabase s entry rest o) := by
  set s₁ := afterDatabase s entry rest o with hs₁
  have hsent : s₁.sent = s.sent ++ o.lists.map fun p =>
    ⟨p.1, p.2.message, true, some s.collector.handled.length⟩ := rfl
  have hdispatcher : s₁.dispatcher = s.dispatcher ++ o.dispatcher.map fun rq =>
    ⟨rq, some s.collector.handled.length⟩ := rfl
  have hqueue : s₁.collector.queue = rest ++ o.database.map fun rq => ⟨rq, none⟩ := rfl
  have hpushed : ∀ e ∈ o.database.map fun rq => (⟨rq, none⟩ : DbEntry), e.request.client ≠ some client := by
    intro e he
    obtain ⟨rq, hrq, rfl⟩ := List.mem_map.mp he
    simp [(requestHandler_pushes ho rq hrq).1]
  have hQ' : queueOf client s₁ = (rest.map fun e => e.request).filter fun rq =>
    rq.client = some client := queueOf_other hqueue hpushed
  have hdevices : ∀ d ∈ s₁.collector.devices, ∀ rq ∈ d.queue, rq.client ≠ some client := by
    intro d hd
    obtain hold | ⟨row, -, rfl⟩ := mem_load hd
    · exact hs.devices d hold
    · simp [MonitorDevice.loaded]
  by_cases hclient : entry.request.client = some client
  · have hQ : queueOf client s = entry.request :: (rest.map fun e => e.request).filter fun rq =>
        rq.client = some client := by
      unfold queueOf
      rw [hq, List.map_cons, List.filter_cons_of_pos (by simpa using hclient)]
    have hne : queueOf client s ≠ [] := by rw [hQ]; exact List.cons_ne_nil _ _
    obtain ⟨haction, hid⟩ := hs.queue entry.request (by rw [hQ]; exact List.mem_cons_self)
    have hasks : AsksDatabase entry.request.action := by
      simp only [List.mem_cons, List.not_mem_nil, or_false] at haction
      obtain ha | ha := haction <;> simp [ha, AsksDatabase]
    cases requestHandler_databaseReply ho with
    | silent hno => exact absurd hasks hno
    | answered args _ hd hargs _ =>
      have hD' : dispatcherOf client s₁ =
          dispatcherOf client s ++ [Database.sendStatus entry.request args] := by
        rw [dispatcherOf_append hdispatcher (by simp [hd, Database.sendStatus, hclient])]
        simp [dispatcherOf, hd]
      have hlists : ∀ x ∈ o.lists, x.1 = client ∧ IsList x.2.message := by
        intro x hx
        refine ⟨Option.some.inj ((requestHandler_lists ho x hx).1.symm.trans hclient), ?_⟩
        obtain ⟨-, list, hlist⟩ | ⟨-, list, hlist⟩ := (requestHandler_lists ho x hx).2
        · rw [hlist]
          trivial
        · rw [hlist]
          trivial
      have hS' : sentTo client s₁ = sentTo client s ++ o.lists.map fun x => x.2.message := by
        rw [sentTo_append hsent, List.filter_eq_self.mpr]
        · simp
        · intro x hx
          obtain ⟨pair, hpair, rfl⟩ := List.mem_map.mp hx
          simpa using (hlists pair hpair).1
      have hnew : ∀ m ∈ o.lists.map fun x => x.2.message, IsList m := by
        intro m hm
        obtain ⟨pair, hpair, rfl⟩ := List.mem_map.mp hm
        exact (hlists pair hpair).2
      have hnotStatus : (o.lists.map fun x => x.2.message).filterMap statusId = [] := by
        rw [List.filterMap_eq_nil_iff]
        intro m hm
        have hlist := hnew m hm
        cases m with
        | setSession | deviceList | sessionList => rfl
        | status => exact absurd hlist id
      constructor
      · exact hdevices
      · rw [hD']
        intro rq hrq
        obtain hold | hrq := List.mem_append.mp hrq
        · exact hs.dispatcher rq hold
        · rw [List.mem_singleton.mp hrq]
          exact .inl rfl
      · rw [hQ']
        exact fun rq hrq => hs.queue rq (by rw [hQ]; exact List.mem_cons_of_mem _ hrq)
      · have hbooks := hs.books
        have hreply : requestId (Database.sendStatus entry.request args) = requestId entry.request := by
          unfold requestId
          rw [← hargs]
          rfl
        rw [hQ, List.map_cons, ← Multiset.cons_coe, ← Multiset.singleton_add] at hbooks
        rw [show askedBy client s₁ = askedBy client s from rfl, hD', hQ', hS', List.filterMap_append,
          hnotStatus, List.append_nil, List.map_append, ← Multiset.coe_add, hbooks, List.map_singleton,
          hreply, Multiset.coe_singleton]
        abel
      · exact fun hnil => absurd hnil (hs.asked_ne (.inr hne))
      · rw [hS']
        refine List.pairwise_append.mpr ⟨hs.lists, ?_, ?_⟩
        · refine List.Pairwise.imp_of_mem ?_ (List.pairwise_of_forall fun _ _ => trivial)
          intro m x hm _ _ hends
          have hlist := hnew m hm
          cases m with
          | status => exact absurd hlist id
          | setSession | deviceList | sessionList => exact absurd hends id
        · exact fun m hm x _ hends => absurd hends (hs.not_ended honce hne m hm)
  · exact ListClient.other hs (untouched_database hq ho hclient hs.devices)

lemma ask_asked {asking : ClientId} (h : Ask asking s s') :
    ∃ rq, s'.asked = s.asked ++ [(asking, rq)] := by
  cases h with
  | unknown rq => exact ⟨rq, rfl⟩
  | known rq => exact ⟨rq, rfl⟩

lemma askedBy_append {asking : ClientId} (rqs : List Control.Request)
    (h : s'.asked = s.asked ++ rqs.map fun rq => (asking, rq)) :
    askedBy client s' = askedBy client s ++ if asking = client then rqs else [] := by
  unfold askedBy
  rw [h, List.filter_append, List.map_append]
  congr 1
  split
  · rename_i hsame
    rw [List.filter_eq_self.mpr (by simp [hsame])]
    simp [Function.comp_def]
  · rename_i hother
    rw [List.filter_eq_nil_iff.mpr (by simp [hother])]
    rfl

lemma listClient_asks {asking : ClientId} (h : Relation.ReflTransGen (Ask asking) s s')
    (hintro : ∀ rq ∈ askedBy client s', Introduces rq) (hs : ListClient client s) :
    ListClient client s' := by
  induction h with
  | refl => exact hs
  | @tail t u _ hlast ih =>
    obtain ⟨rq, hasked⟩ := ask_asked hlast
    have happend : askedBy client u = askedBy client t ++ if asking = client then [rq] else [] :=
      askedBy_append [rq] hasked
    rw [happend] at hintro
    apply listClient_ask hlast
    · intro rq' hasked' hsame
      rw [hasked] at hasked'
      obtain rfl : rq = rq' := by simpa using hasked'
      exact hintro rq (List.mem_append_right _ (by simp [hsame]))
    · exact ih fun rq hrq => hintro rq (List.mem_append_left _ hrq)

lemma listClient_turn {e : Application.Event} (h : Turn b s e s')
    (hintro : ∀ rq ∈ askedBy client s', Introduces rq) (honce : AsksOnce client s)
    (hs : ListClient client s) : ListClient client s' := by
  cases h with
  | idle => exact hs
  | accept => exact ListClient.other hs ⟨hs.devices, rfl, rfl, rfl, rfl⟩
  | control asking input last s₁ clients hasks =>
    have hread : ListClient client s₁ := listClient_asks hasks hintro hs
    exact ListClient.other hread ⟨hread.devices, rfl, rfl, rfl, rfl⟩
  | dispatcher write entry rest o hq ho => exact listClient_deliver hq ho hs
  | device _ hash event d o he hget ho =>
    exact ListClient.other hs (untouched_device (not_control he) hget ho hs.devices)
  | database io entry rest o hq ho => exact listClient_database hq ho honce hs

end ListClients

lemma listClient_start (client : ClientId) (tables : Tables) (erase failed : Bool) :
    ListClient client (Application.start tables erase failed) := by
  have hdispatcher : dispatcherOf client (Application.start tables erase failed) = [] := by
    cases failed <;> simp [dispatcherOf, Application.start, quitRequest]
  have hqueue : queueOf client (Application.start tables erase failed) = [] := by
    cases erase <;>
      simp [queueOf, Application.start, Collector.start, Collector.startRequest, eraseRequest]
  constructor
  · intro d hd
    cases erase <;> simp [Application.start, Collector.start] at hd
  · simp [hdispatcher]
  · simp [hqueue]
  · rw [hdispatcher, hqueue]
    rfl
  · exact fun _ => rfl
  · exact List.Pairwise.nil

end TkmCollector.Proofs
