import TkmCollector.Proofs.ExchangeFrame

/-!
# The utility ends

`tkmcontrol` exits only when its queue tells it to, and what tells it to is in the end a message of
the collector. In a run of the two programs that is fair and in which no write fails, the session
is set, a command is sent and read, its status is sent and read, and the utility exits, whatever
the other clients and the devices do.
-/

namespace TkmCollector.Proofs

open Application Exchange

variable {b : Backend} {hashForDevice : Control.DeviceData → String} {client : ClientId}

/-- The collector dispatches a source of requests. -/
def Collects (source : Source) : Exchange.Event → Prop
  | .collector e => source.Dispatches e
  | .ask _ | .control _ | .receive _ => False

/-- The collector takes the utility on or ends, and both programs dispatch every source again and
again: the collector its requests and those of the utility, the utility its queue, its command and
the messages of the collector. -/
structure FairPrograms (client : ClientId) (states : ℕ → Exchange) (events : ℕ → Exchange.Event) :
    Prop where
  accepted : ∃ n, (states n).down = true ∨ client < (states n).collector.nextClient
  dispatcher : Machine.Recurring events (Collects .dispatcher)
  database : Machine.Recurring events (Collects .database)
  device : ∀ hash n, (states n).collector.known hash = true →
    Machine.Recurring events (Collects (.device hash))
  asks : Machine.Recurring events fun e => ∃ writes, e = .ask writes ∧ writes ≠ []
  queue : Machine.Recurring events fun e => ∃ io, e = .control (.queue io)
  command : Machine.Recurring events fun e => e = .control .command
  receives : Machine.Recurring events fun e => ∃ count, e = .receive count ∧ count ≠ 0

/-- The write of the utility succeeds, where it writes. -/
def WriteSucceeds : Exchange.Event → Prop
  | .control (.queue io) => io.write = true
  | .control .command | .control (.connection _ _) | .collector _ | .ask _ | .receive _ => True

instance : DecidablePred WriteSucceeds
  | .control (.queue io) => instDecidableEqBool io.write true
  | .control .command | .control (.connection _ _) | .collector _ | .ask _ | .receive _ =>
    .isTrue trivial

/-- No write between the collector and the utility fails. -/
structure Lossless (client : ClientId) (states : ℕ → Exchange) (events : ℕ → Exchange.Event) :
    Prop where
  utility : ∀ n, WriteSucceeds (events n)
  collector : ∀ n, ∀ x ∈ (states n).collector.sent, x.client = client → x.ok = true

/-- A run of the two programs from their start that is fair, loses nothing and goes on for ever. -/
structure Undisturbed (b : Backend) (hashForDevice : Control.DeviceData → String) (client : ClientId)
    (commands : List ControlApp.Command.Request) (states : ℕ → Exchange)
    (events : ℕ → Exchange.Event) : Prop where
  started : ∃ tables erase failed, states 0 = Exchange.start tables erase failed commands
  endless : Machine.Endless (Exchange.step b hashForDevice client) states events
  fair : FairPrograms client states events
  lossless : Lossless client states events

section Runs

variable {commands : List ControlApp.Command.Request} {states : ℕ → Exchange}
  {events : ℕ → Exchange.Event}

lemma Undisturbed.control_zero (h : Undisturbed b hashForDevice client commands states events) :
    (states 0).control = ControlApp.start commands := by
  obtain ⟨tables, erase, failed, hstart⟩ := h.started
  rw [hstart]
  rfl

lemma Undisturbed.collector_zero (h : Undisturbed b hashForDevice client commands states events) :
    ∃ tables erase failed, (states 0).collector = Application.start tables erase failed := by
  obtain ⟨tables, erase, failed, hstart⟩ := h.started
  exact ⟨tables, erase, failed, by rw [hstart]; rfl⟩

lemma Undisturbed.control (h : Undisturbed b hashForDevice client commands states events) (n : ℕ) :
    ControlApp.step hashForDevice (states n).control (controlEvent client (states n) (events n)) =
      .ok (states (n + 1)).control :=
  step_control (h.endless n)

lemma Undisturbed.wired (h : Undisturbed b hashForDevice client commands states events) (n : ℕ) :
    Wired hashForDevice client commands (states n) := by
  obtain ⟨tables, erase, failed, hstart⟩ := h.started
  exact h.endless.invariant (G := fun _ _ => True) (fun _ _ _ hs _ hstep => wired_step hs hstep)
    (hstart ▸ wired_start client tables erase failed) (fun _ => trivial) n

lemma Undisturbed.handled (h : Undisturbed b hashForDevice client commands states events)
    (hruns : ∀ n, (states n).control.exited = false) {n : ℕ} {rq : ControlApp.Dispatcher.Request}
    (hrq : rq ∈ (states n).control.queue) :
    ∃ m io rest, (states m).control.queue = rq :: rest ∧ io.write = true ∧
      ControlApp.requestHandler hashForDevice { (states m).control with queue := rest } rq io =
        .ok (states (m + 1)).control := by
  have hcounts : Machine.CountsDown (fun m => ∃ io, events m = .control (.queue io))
      (fun m => ∃ io rest, (states m).control.queue = rq :: rest ∧ io.write = true ∧
        ControlApp.requestHandler hashForDevice { (states m).control with queue := rest } rq io =
          .ok (states (m + 1)).control)
      fun m (ahead : ℕ) => (states m).control.queue[ahead]? = some rq := by
    intro m ahead hahead
    obtain ⟨io, x, rest, hevent, hq, hhandler⟩ | ⟨hempty, hprefix⟩ := step_queue (h.control m) (hruns m)
    · have hwrite : io.write = true := by
        have hsucceeds := h.lossless.utility m
        rwa [controlEvent_queue.mp hevent] at hsucceeds
      rw [hq] at hahead
      cases ahead with
      | zero =>
        obtain rfl := Option.some.inj hahead
        exact .inl ⟨io, rest, hq, hwrite, hhandler⟩
      | succ k =>
        obtain ⟨hk, rfl⟩ := List.getElem?_eq_some_iff.mp hahead
        have hnext := List.prefix_iff_getElem?.mp (handler_queue hhandler) k (Nat.lt_of_succ_lt_succ hk)
        exact .inr ⟨k, Nat.le_succ k, hnext, fun _ => Nat.lt_succ_self k⟩
    · obtain ⟨hk, hget⟩ := List.getElem?_eq_some_iff.mp hahead
      refine .inr ⟨ahead, le_rfl, ?_, ?_⟩
      · exact hget ▸ List.prefix_iff_getElem?.mp hprefix ahead hk
      · rintro ⟨io, hio⟩
        rw [hempty io (controlEvent_queue.mpr hio)] at hk
        cases hk
  obtain ⟨ahead, hahead⟩ := List.getElem?_of_mem hrq
  obtain ⟨m, -, hgoal⟩ := hcounts.met h.fair.queue hahead
  exact ⟨m, hgoal⟩

lemma Undisturbed.not_quit (h : Undisturbed b hashForDevice client commands states events)
    (hruns : ∀ n, (states n).control.exited = false) {n : ℕ} {rq : ControlApp.Dispatcher.Request}
    (hrq : rq ∈ (states n).control.queue) : rq.action ≠ .quit := by
  intro hquit
  obtain ⟨m, io, rest, -, -, hhandler⟩ := h.handled hruns hrq
  simp only [ControlApp.requestHandler, hquit, ControlApp.doQuit, Except.ok.injEq] at hhandler
  have hexited := hruns (m + 1)
  rw [← hhandler] at hexited
  cases hexited

lemma Undisturbed.attached (h : Undisturbed b hashForDevice client commands states events)
    (hruns : ∀ n, (states n).control.exited = false) (n : ℕ) :
    (states n).control.attached = true := by
  induction n with
  | zero =>
    rw [h.control_zero]
    rfl
  | succ n ih =>
    obtain hstays | ⟨rq, hrq, hquit⟩ := stays_attached (h.control n) ih
    · exact hstays
    · exact absurd hquit (h.not_quit hruns hrq)

lemma Undisturbed.introduces (h : Undisturbed b hashForDevice client commands states events)
    (hruns : ∀ n, (states n).control.exited = false) :
    (∃ n, (states n).control.connected = true) ∧ ∃ n, sessionAsked ∈ (states n).control.sent := by
  have hquits : ∀ n, ControlApp.request .quit ∉ (states n).control.queue :=
    fun n hquit => h.not_quit hruns hquit rfl
  have hconnect : ControlApp.request .connect ∈ (states 0).control.queue := by
    rw [h.control_zero]
    exact List.mem_cons_self
  obtain ⟨n, io, rest, -, -, hconnected⟩ := h.handled hruns hconnect
  simp only [ControlApp.requestHandler, ControlApp.request, ControlApp.doConnect, Except.ok.injEq]
    at hconnected
  split at hconnected
  · have hdescriptor : ControlApp.request .sendDescriptor ∈ (states (n + 1)).control.queue := by
      rw [← hconnected]
      exact List.mem_append_right _ List.mem_cons_self
    obtain ⟨m, io, rest, -, -, hdescribed⟩ := h.handled hruns hdescriptor
    simp only [ControlApp.requestHandler, ControlApp.request, ControlApp.doSendDescriptor,
      Except.ok.injEq] at hdescribed
    cases hsend : io.send with
    | false =>
      refine absurd ?_ (hquits (m + 1))
      rw [← hdescribed, hsend]
      exact List.mem_append_right _ List.mem_cons_self
    | true =>
      have hsession : ControlApp.request .requestSession ∈ (states (m + 1)).control.queue := by
        rw [← hdescribed, hsend]
        exact List.mem_append_right _ List.mem_cons_self
      obtain ⟨k, io, rest, -, hwrite, hasked⟩ := h.handled hruns hsession
      simp only [ControlApp.requestHandler, ControlApp.request, ControlApp.doRequestSession, write_eq,
        hwrite, if_true, Except.ok.injEq] at hasked
      refine ⟨⟨n + 1, by rw [← hconnected]; rfl⟩, k + 1, ?_⟩
      rw [← hasked]
      exact List.mem_append_right _ List.mem_cons_self
  · refine absurd ?_ (hquits (n + 1))
    rw [← hconnected]
    exact List.mem_append_right _ List.mem_cons_self

lemma Undisturbed.connected (h : Undisturbed b hashForDevice client commands states events)
    (hruns : ∀ n, (states n).control.exited = false) :
    ∃ start, ∀ n, start ≤ n → (states n).control.connected = true := by
  obtain ⟨start, hstart⟩ := (h.introduces hruns).1
  refine ⟨start, fun n hn => ?_⟩
  induction n, hn using Nat.le_induction with
  | base => exact hstart
  | succ n _ ih => exact stays_connected (h.wired n).session (step_utilityTurn (h.control n)) ih

lemma Undisturbed.up (h : Undisturbed b hashForDevice client commands states events)
    (hruns : ∀ n, (states n).control.exited = false) (n : ℕ) : (states n).down = false := by
  by_contra hdown
  rw [Bool.not_eq_false] at hdown
  obtain ⟨start, hconnected⟩ := h.connected hruns
  have hstays : ∀ m, n ≤ m → (states m).down = true := by
    intro m hm
    induction m, hm using Nat.le_induction with
    | base => exact hdown
    | succ m _ ih => exact (step_down (h.endless m) ih).1
  -- the messages that are left grow fewer, and behind the last one the connection is left
  have hcounts : Machine.CountsDown (fun m => ∃ count, events m = .receive count ∧ count ≠ 0)
      (fun _ => False) fun m left => max start n ≤ m ∧
        (stream client (states m).collector).length - (states m).control.received.length = left := by
    rintro m left ⟨hm, hleft⟩
    have hdown' := hstays m ((le_max_right start n).trans hm)
    have hsame := (step_down (h.endless m) hdown').2
    have hgrows := (utilityTurn_received (step_utilityTurn (h.control m))).1.length_le
    refine .inr ⟨_, ?_, ⟨by omega, rfl⟩, ?_⟩
    · rw [hsame]
      omega
    · rintro ⟨count, hevent, hcount⟩
      have hstep := h.endless m
      rw [hevent] at hstep
      obtain ⟨hreceived, hlast⟩ := step_receive hstep (hruns m)
        (hconnected m ((le_max_left start n).trans hm)) (h.attached hruns m)
      have hmore : ¬ (stream client (states m).collector).length ≤
          (states m).control.received.length + count := by
        intro hshort
        cases (hlast hdown' hshort).symm.trans (h.attached hruns (m + 1))
      rw [hsame, hreceived, List.length_append, List.length_take, List.length_drop]
      omega
  obtain ⟨_, -, hfalse⟩ := hcounts.met h.fair.receives ⟨le_rfl, rfl⟩
  exact hfalse

lemma Undisturbed.collector (h : Undisturbed b hashForDevice client commands states events)
    (hruns : ∀ n, (states n).control.exited = false) :
    Machine.Endless (Application.step b) (fun n => (states n).collector)
      fun n => collectorEvent client (states n) (events n) := by
  intro n
  obtain hstep | ⟨hdown, -⟩ := step_collector (h.endless n)
  · exact hstep
  · rw [h.up hruns (n + 1)] at hdown
    cases hdown

lemma dispatches_collectorEvent {source : Source} {s : Exchange} {e : Exchange.Event}
    (h : Collects source e) : source.Dispatches (collectorEvent client s e) := by
  cases e with
  | collector event =>
    have hother : ¬ reads client event = true := by
      cases event with
      | control => cases source <;> exact h.elim
      | _ => simp [reads]
    rw [collectorEvent, if_neg hother]
    exact h
  | _ => exact h.elim

lemma Undisturbed.collector_fair (h : Undisturbed b hashForDevice client commands states events) :
    Fair (fun n => (states n).collector) fun n => collectorEvent client (states n) (events n) := by
  have hsource : ∀ source, Machine.Recurring events (Collects source) →
      Machine.Recurring (fun n => collectorEvent client (states n) (events n)) source.Dispatches := by
    intro source hrecurs n
    obtain ⟨m, hm, hcollects⟩ := hrecurs n
    exact ⟨m, hm, dispatches_collectorEvent hcollects⟩
  exact ⟨hsource _ h.fair.dispatcher, hsource _ h.fair.database,
    fun hash n hknown => hsource _ (h.fair.device hash n hknown)⟩

lemma Undisturbed.keeps (h : Undisturbed b hashForDevice client commands states events)
    (hruns : ∀ n, (states n).control.exited = false) (n : ℕ) (input : List (ControlEnvelope × Bool))
    (last : MonitorDevice.ReadStatus)
    (hevent : collectorEvent client (states n) (events n) = .control client input last) :
    (Application.readEnvelopes client last (states n).collector input).2 = true := by
  have hnothing : Application.Event.control client [] .again = .control client input last →
      (Application.readEnvelopes client last (states n).collector input).2 = true := by
    intro heq
    cases heq
    rfl
  cases hcase : events n with
  | collector event =>
    rw [hcase, collectorEvent] at hevent
    split at hevent
    · exact hnothing hevent
    · rename_i hother
      rw [hevent] at hother
      simp [reads] at hother
  | ask writes =>
    rw [hcase, collectorEvent] at hevent
    obtain ⟨-, hinput, hlast⟩ := Application.Event.control.inj hevent
    obtain ⟨requests, hrequests, hmap⟩ := asking_requests (states n) writes
    rw [← hinput, hrequests, readEnvelopes_keeps, ← hlast]
    · simp [Exchange.asking, hruns n]
    · intro x hx
      have hmem : x.1 ∈ requests.map fun x => x.1 := List.mem_map_of_mem hx
      rw [hmap] at hmem
      exact (agenda_type ((h.wired n).session.sent_sublist.subset
        (List.mem_of_mem_drop (List.mem_of_mem_take hmem)))).1
  | control event =>
    rw [hcase, collectorEvent] at hevent
    exact hnothing hevent
  | receive count =>
    rw [hcase, collectorEvent] at hevent
    exact hnothing hevent

lemma Undisturbed.taken_on (h : Undisturbed b hashForDevice client commands states events)
    (hruns : ∀ n, (states n).control.exited = false) :
    ∃ start, ∀ n, start ≤ n → client ∈ (states n).collector.clients := by
  have hclient : ∀ n, client < (states n).collector.nextClient →
      client ∈ (states n).collector.clients := by
    intro n
    induction n with
    | zero =>
      obtain ⟨tables, erase, failed, hstart⟩ := h.collector_zero
      intro hlt
      rw [hstart] at hlt
      cases hlt
    | succ n ih => exact (keeps_client (h.collector hruns n) (h.keeps hruns n) ih).2
  obtain ⟨start, hdown | haccepted⟩ := h.fair.accepted
  · rw [h.up hruns start] at hdown
    cases hdown
  · refine ⟨start, fun n hn => hclient n ?_⟩
    induction n, hn using Nat.le_induction with
    | base => exact haccepted
    | succ n _ ih =>
      exact ih.trans_le (keeps_client (h.collector hruns n) (h.keeps hruns n) (hclient n)).1

lemma Undisturbed.asked (h : Undisturbed b hashForDevice client commands states events)
    (hruns : ∀ n, (states n).control.exited = false) {n : ℕ} {rq : Control.Request}
    (hrq : rq ∈ (states n).control.sent) :
    ∃ m, rq ∈ (askedBy client (states (m + 1)).collector).drop
      (askedBy client (states m).collector).length := by
  have hlength : ∀ m, (askedBy client (states m).collector).length = (states m).taken := by
    intro m
    rw [(h.wired m).taken, List.length_take, min_eq_left (h.wired m).bound]
  have hconveys : Machine.Conveys (fun n => (states n).control.sent)
      fun n => askedBy client (states n).collector := by
    refine ⟨fun n => utilityTurn_sent (step_utilityTurn (h.control n)),
      fun n => step_askedBy (h.collector hruns n), fun n => ?_, ?_⟩
    · rw [(h.wired n).taken]
      exact List.take_prefix _ _
    · obtain ⟨tables, erase, failed, hstart⟩ := h.collector_zero
      rw [hstart]
      rfl
  obtain ⟨start, hclient⟩ := h.taken_on hruns
  have hreads : ∀ m, start ≤ m → (∃ writes, events m = .ask writes ∧ writes ≠ []) →
      (askedBy client (states m).collector).length < (states m).control.sent.length →
      (askedBy client (states m).collector).length <
        (askedBy client (states (m + 1)).collector).length := by
    rintro m hm ⟨writes, hevent, hwrites⟩ hmore
    rw [hlength] at hmore ⊢
    rw [hlength]
    exact step_ask (hevent ▸ h.endless m) (h.up hruns (m + 1)) (hclient m hm) hwrites hmore
  exact hconveys.arrives hreads h.fair.asks hrq

lemma Undisturbed.message_handled (h : Undisturbed b hashForDevice client commands states events)
    (hruns : ∀ n, (states n).control.exited = false) {n : ℕ} {m : Control.Message}
    (hm : m ∈ stream client (states n).collector) :
    ∃ k io rest, (states k).control.queue = ControlApp.messageRequest m :: rest ∧ io.write = true ∧
      ControlApp.requestHandler hashForDevice { (states k).control with queue := rest }
        (ControlApp.messageRequest m) io = .ok (states (k + 1)).control := by
  have hconveys : Machine.Conveys (fun n => stream client (states n).collector)
      fun n => (states n).control.received := by
    refine ⟨fun n => step_stream client (h.collector hruns n),
      fun n => (utilityTurn_received (step_utilityTurn (h.control n))).1,
      fun n => (h.wired n).received, ?_⟩
    rw [h.control_zero]
    rfl
  obtain ⟨start, hconnected⟩ := h.connected hruns
  have hreads : ∀ k, start ≤ k → (∃ count, events k = .receive count ∧ count ≠ 0) →
      (states k).control.received.length < (stream client (states k).collector).length →
      (states k).control.received.length < (states (k + 1)).control.received.length := by
    rintro k hk ⟨count, hevent, hcount⟩ hmore
    have hstep := h.endless k
    rw [hevent] at hstep
    obtain ⟨hreceived, -⟩ := step_receive hstep (hruns k) (hconnected k hk) (h.attached hruns k)
    rw [hreceived, List.length_append, List.length_take, List.length_drop]
    omega
  obtain ⟨k, hk⟩ := hconveys.arrives hreads h.fair.receives hm
  exact h.handled hruns ((utilityTurn_received (step_utilityTurn (h.control k))).2 m hk)

lemma Undisturbed.written (h : Undisturbed b hashForDevice client commands states events) {n : ℕ}
    {x : Sent} (hx : x ∈ (states n).collector.sent) (hclient : x.client = client) :
    x.message ∈ stream client (states n).collector := by
  refine List.mem_map.mpr ⟨x, List.mem_filter.mpr ⟨hx, ?_⟩, rfl⟩
  simp [hclient, h.lossless.collector n x hx hclient]

lemma Undisturbed.no_status (h : Undisturbed b hashForDevice client commands states events)
    (hruns : ∀ n, (states n).control.exited = false) {n : ℕ} {x : Sent} {status : Control.Status}
    (hx : x ∈ (states n).collector.sent) (hclient : x.client = client)
    (hstatus : x.message = .status status) : status.requestId = "RequestSession" := by
  by_contra hother
  obtain ⟨m, io, rest, -, -, hhandler⟩ := h.message_handled hruns (hstatus ▸ h.written hx hclient)
  simp only [ControlApp.requestHandler, ControlApp.messageRequest, ControlApp.doCollectorStatus,
    if_neg hother, Except.ok.injEq] at hhandler
  have hquit : ControlApp.request .quit ∈ (states (m + 1)).control.queue := by
    rw [← hhandler]
    exact List.mem_append_right _ List.mem_cons_self
  exact h.not_quit hruns hquit rfl

lemma Undisturbed.no_command (h : Undisturbed b hashForDevice client commands states events)
    (hruns : ∀ n, (states n).control.exited = false) {n : ℕ} {rq : Control.Request}
    (hrq : rq ∈ (states n).control.sent) (htype : Answerable rq.type) : rq.id = "RequestSession" := by
  obtain ⟨m, hm⟩ := h.asked hruns hrq
  have hanswered := answered_of_asked (h.collector hruns) h.collector_fair
    (asked_of_askedBy (h.collector hruns m) hm) htype
  have hstatus : ∀ id, AnsweredFrom (fun n => (states n).collector) client id (m + 1) →
      id = "RequestSession" := by
    rintro id ⟨k, status, served, ok, -, hid, hsent⟩
    rw [← hid]
    have hmem : (⟨client, .status status, ok, served⟩ : Sent) ∈ (states (k + 1)).collector.sent := by
      rw [hsent]
      exact List.mem_append_right _ List.mem_cons_self
    exact h.no_status hruns hmem rfl rfl
  obtain hanswered | ⟨-, hanswered⟩ := hanswered
  · exact hstatus _ hanswered
  · have hempty : ("" : String) = "RequestSession" := hstatus _ hanswered
    exact absurd hempty (by decide)

lemma Undisturbed.commanded (h : Undisturbed b hashForDevice client commands states events)
    (hruns : ∀ n, (states n).control.exited = false) :
    ∃ n, (states n).control.command ≠ .done ∧ (states (n + 1)).control.command = .done := by
  have hsessions : ∀ n, SessionsSet (states n).collector := by
    obtain ⟨tables, erase, failed, hstart⟩ := h.collector_zero
    refine (h.collector hruns).invariant (G := fun _ _ => True)
      (fun _ _ _ hs _ hstep => sessionsSet_turn (step_turn hstep) hs) ?_ fun _ => trivial
    rw [hstart]
    intro x hx
    cases hx
  -- the request for a session is read, and the session is handled
  obtain ⟨-, n, hsent⟩ := h.introduces hruns
  obtain ⟨m, hm⟩ := h.asked hruns hsent
  have hasked := List.mem_of_mem_drop (asked_of_askedBy (h.collector hruns m) hm)
  obtain ⟨info, ok, served, hset⟩ := hsessions (m + 1) _ hasked rfl
  obtain ⟨k, io, rest, -, -, hhandler⟩ := h.message_handled hruns (h.written hset rfl)
  have htold : (states (k + 1)).control.command ≠ .waiting := by
    simp only [ControlApp.requestHandler, ControlApp.messageRequest, ControlApp.doSetSession,
      Except.ok.injEq] at hhandler
    rw [← hhandler]
    dsimp only
    split <;> simp
  have hstays : ∀ j, k + 1 ≤ j → (states j).control.command ≠ .waiting := by
    intro j hj
    induction j, hj using Nat.le_induction with
    | base => exact htold
    | succ j _ ih => exact (utilityTurn_command (step_utilityTurn (h.control j))).1 ih
  -- the command is dispatched, if it has not been before
  have hdone : ∃ j, (states j).control.command = .done := by
    obtain ⟨j, hj, hevent⟩ := h.fair.command (k + 1)
    cases hcommand : (states j).control.command with
    | waiting => exact absurd hcommand (hstays j hj)
    | done => exact ⟨j, hcommand⟩
    | triggered =>
      have hturn := h.control j
      rw [hevent] at hturn
      simp only [controlEvent, ControlApp.step, hruns j, Bool.false_eq_true, if_false, hcommand,
        if_true] at hturn
      obtain ⟨added, hadded⟩ := pushCommands_queue hturn
      exact ⟨j + 1, by rw [hadded]⟩
  have hfirst : ¬ (states 0).control.command = .done := by
    simp [h.control_zero, ControlApp.start]
  exact Nat.exists_not_and_succ_of_not_zero_of_exists hfirst hdone

end Runs

/-- In a run of the collector and a utility with a command that does not end with a fault of the
utility, is fair and loses nothing that one writes to the other, the utility exits, whatever the
other clients and the devices do, and also when the collector ends. -/
theorem utility_ends (b : Backend) (hashForDevice : Control.DeviceData → String) (client : ClientId)
    (tables : Tables) (erase failed : Bool) (commands : List ControlApp.Command.Request)
    (states : ℕ → Exchange) (events : ℕ → Exchange.Event)
    (h0 : states 0 = Exchange.start tables erase failed commands)
    (h : Machine.Endless (Exchange.step b hashForDevice client) states events)
    (hcommands : commands ≠ []) (hfair : FairPrograms client states events)
    (hlossless : Lossless client states events) : ∃ n, (states n).control.exited = true := by
  by_contra hnever
  simp only [not_exists, Bool.not_eq_true] at hnever
  have hrun : Undisturbed b hashForDevice client commands states events :=
    ⟨⟨tables, erase, failed, h0⟩, h, hfair, hlossless⟩
  obtain ⟨request, rest, rfl⟩ := List.exists_cons_of_ne_nil hcommands
  -- the first command joins the queue and is handled
  obtain ⟨n, hbefore, hafter⟩ := hrun.commanded hnever
  have hpushed := step_command (hrun.control n) hbefore hafter
  rw [(hrun.wired n).session.given] at hpushed
  obtain ⟨rq, hrq, hmem⟩ := pushCommands_first hpushed
  obtain ⟨m, io, rest', -, hwrite, hhandler⟩ := hrun.handled hnever hmem
  obtain hexited | ⟨x, hx, hquit⟩ | ⟨asked, hasked, htype, hid⟩ := handler_command hrq hwrite hhandler
  · cases (hnever (m + 1)).symm.trans hexited
  · exact hrun.not_quit hnever hx hquit
  · exact hid (hrun.no_command hnever hasked htype)

/-- The two programs go on by dispatching each of their sources in turns. -/
def allInTurns (n : ℕ) : Exchange.Event :=
  match n % 6 with
  | 0 => .collector dispatched
  | 1 => .collector served
  | 2 => .ask [true]
  | 3 => controlUp
  | 4 => .control .command
  | _ => .receive 1

lemma recurring_allInTurns {Kind : Exchange.Event → Prop} (turn : ℕ) (h : Kind (allInTurns turn)) :
    Machine.Recurring allInTurns Kind := by
  intro n
  refine ⟨6 * n + turn, by omega, ?_⟩
  rw [allInTurns, Nat.mul_add_mod]
  exact h

/-- Nothing changes any more when the utility has exited and the collector has let go of it. -/
lemma step_allInTurns {s : Exchange} (hexited : s.control.exited = true)
    (hempty : s.collector.dispatcher = [] ∧ s.collector.collector.queue = [])
    (hclient : client ∉ s.collector.clients) (n : ℕ) :
    Exchange.step b hashForDevice client s (allInTurns n) = .ok s := by
  have hcollector : ∀ e, reads client e = false → Application.step b s.collector e = .ok s.collector →
      Exchange.step b hashForDevice client s (.collector e) = .ok s := by
    intro e hreads he
    simp [Exchange.step, Exchange.onCollector, hreads, he]
  unfold allInTurns
  split
  · exact hcollector dispatched rfl (step_dispatcher_of_nil hempty.1)
  · exact hcollector served rfl (step_database_of_nil hempty.2)
  · simp [Exchange.step, hclient]
  · simp [controlUp, Exchange.step, Exchange.onControl, ControlApp.step, hexited]
  · simp [Exchange.step, Exchange.onControl, ControlApp.step, hexited]
  · simp [Exchange.step, Exchange.onControl, ControlApp.step, hexited]

/-- The user asks for the devices of a collector that has none. -/
theorem utility_ends_devices :
    ∃ states events, Machine.Endless (Exchange.step (plainBackend .sqlite3) (fun _ => "") 0) states
        events ∧ FairPrograms 0 states events ∧ Lossless 0 states events ∧
      ∃ n, (states n).control.exited = true := by
  let step := Exchange.step (plainBackend .sqlite3) (fun _ => "") 0
  let start := Exchange.start (tablesWith []) false false [⟨.getDevices, []⟩]
  let events : List Exchange.Event := [.collector served, .collector served, .collector served,
    .collector .accept, controlUp, controlUp, controlUp, .ask [true], .receive 1, controlUp,
    .control .command, controlUp, .ask [true], .collector dispatched, .collector dispatched,
    .collector served, .collector dispatched, .receive 3, controlUp, controlUp, controlUp, controlUp,
    .ask [true]]
  have hrun : Machine.EndsIn step (fun t => t.control.exited = true ∧
      (t.collector.dispatcher = [] ∧ t.collector.collector.queue = []) ∧ 0 ∉ t.collector.clients)
      start events := by decide +kernel
  obtain ⟨t, hrun, hexited, hempty, hclient⟩ := hrun
  have hendless := Machine.endless_of_run hrun (step_allInTurns hexited hempty hclient)
  have hnone : Machine.Throughout step (fun s => s.collector.collector.devices.isEmpty = true) start
      events := by decide +kernel
  have hsent : Machine.Throughout step
      (fun s => ∀ x ∈ s.collector.sent, x.client = 0 → x.ok = true) start events := by decide +kernel
  have hrecurs : ∀ {Kind : Exchange.Event → Prop} (turn : ℕ), Kind (allInTurns turn) →
      Machine.Recurring (Machine.inputsAfter allInTurns events) Kind :=
    fun turn h => (recurring_allInTurns turn h).after events
  have hfair : FairPrograms 0 (Machine.stateAfter step start t events)
      (Machine.inputsAfter allInTurns events) := by
    refine ⟨⟨4, .inr Nat.one_pos⟩, hrecurs 0 trivial, hrecurs 1 trivial, fun hash n hknown => ?_,
      hrecurs 2 ⟨_, rfl, by simp⟩, hrecurs 3 ⟨_, rfl⟩, hrecurs 4 rfl, hrecurs 5 ⟨_, rfl, by simp⟩⟩
    have hdevices := Machine.stateAfter_of_throughout hrun hnone n
    rw [List.isEmpty_iff] at hdevices
    unfold known at hknown
    rw [hdevices] at hknown
    cases hknown
  have hlossless : Lossless 0 (Machine.stateAfter step start t events)
      (Machine.inputsAfter allInTurns events) := by
    refine ⟨Machine.inputsAfter_of_forall (by decide) fun n => ?_,
      Machine.stateAfter_of_throughout hrun hsent⟩
    unfold allInTurns
    split <;> trivial
  exact ⟨_, _, hendless, hfair, hlossless, utility_ends _ _ _ (tablesWith []) false false
    [⟨.getDevices, []⟩] _ _ rfl hendless (by simp) hfair hlossless⟩

end TkmCollector.Proofs
