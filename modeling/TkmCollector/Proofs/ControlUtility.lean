import Mathlib.Algebra.Order.Group.Multiset
import Mathlib.Data.List.TakeWhile
import Mathlib.Tactic.Abel
import TkmCollector.ControlApp
import TkmCollector.Library.Machine

namespace TkmCollector.Proofs

open ControlApp

def IsList : Control.Message → Prop
  | .deviceList _ | .sessionList _ => True
  | .setSession _ | .status _ => False

instance : DecidablePred IsList := fun m => by
  unfold IsList
  split <;> infer_instance

/-- The status makes the utility quit. -/
def EndsControl : Control.Message → Prop
  | .status status => status.requestId ≠ "RequestSession"
  | .setSession _ | .deviceList _ | .sessionList _ => False

instance : DecidablePred EndsControl := fun m => by
  unfold EndsControl
  split <;> infer_instance

/-- No list stands behind a status that makes the utility quit. -/
def ListsFirst (messages : List Control.Message) : Prop :=
  messages.Pairwise fun m x => EndsControl m → ¬ IsList x

/-- What the utility prints for a list. -/
def listLines : Control.Message → List String
  | .deviceList list => ruler :: entryLines (list.map deviceLines)
  | .sessionList list => ruler :: entryLines (list.map sessionLines)
  | .setSession _ | .status _ => []

/-- Every entry of the list has been printed, in one piece. -/
def Printed (s : State) (m : Control.Message) : Prop := listLines m <:+: s.printed

/-- The request that every utility starts with. -/
def sessionAsked : Control.Request :=
  ⟨"RequestSession", .requestSession, false, .sessionInfo ⟨"Collector"⟩⟩

/-- What the collector will read for an entry of the queue, if all goes well. -/
def writes (rq : ControlApp.Dispatcher.Request) : Option Control.Request :=
  match rq.action with
  | .connect | .sendDescriptor | .requestSession => some sessionAsked
  | .getDevices => some ⟨"GetDevices", .getDevices, false, .other⟩
  | .getSessions => some ⟨"GetSessions", .getSessions, forced rq,
    .deviceData { (default : Control.DeviceData) with
      hash := (rq.args.lookup .deviceHash).getD "" }⟩
  | _ => none

def commandWrites (request : Command.Request) : Option Control.Request :=
  match request.toRequest with
  | .ok rq => writes rq
  | .error _ => none

/-- What the utility has still to write. -/
def upcoming (s : State) : Multiset Control.Request :=
  (s.queue.filterMap writes ++
    if s.command = .done then [] else s.commands.filterMap commandWrites)

/-- The user asks for lists only. -/
def AsksLists (commands : List Command.Request) : Prop :=
  ∀ request ∈ commands, request.action ∈ [.getDevices, .getSessions]

/-- The entries of the queue that do not come from the collector. -/
def Own (rq : ControlApp.Dispatcher.Request) : Prop :=
  rq.action ∈ [.connect, .sendDescriptor, .requestSession, .getDevices, .getSessions, .quit] ∧
    rq.bulkData = none

/-- An entry is the utility's own, or stands for a message that was read. -/
def Expected (s : State) (rq : ControlApp.Dispatcher.Request) : Prop :=
  Own rq ∨ ∃ m ∈ s.received, rq = messageRequest m

/-- The ways in which one dispatch changes the utility. -/
inductive ControlTurn (s : State) : ControlApp.Event → State → Prop where
  | idle (e : ControlApp.Event) : ControlTurn s e s
  | connected (io : ControlApp.Io) (rq : ControlApp.Dispatcher.Request)
      (rest : List ControlApp.Dispatcher.Request) (hq : s.queue = rq :: rest)
      (ha : rq.action = .connect) :
      ControlTurn s (.queue io)
        { s with queue := rest ++ [request .sendDescriptor], connected := true }
  | notConnected (io : ControlApp.Io) (rq : ControlApp.Dispatcher.Request)
      (rest : List ControlApp.Dispatcher.Request) (hq : s.queue = rq :: rest)
      (ha : rq.action = .connect) (lines : List String) :
      ControlTurn s (.queue io)
        { s with queue := rest ++ [request .quit], printed := s.printed ++ lines }
  | described (io : ControlApp.Io) (rq : ControlApp.Dispatcher.Request)
      (rest : List ControlApp.Dispatcher.Request) (hq : s.queue = rq :: rest)
      (ha : rq.action = .sendDescriptor) (hs : io.send = true) :
      ControlTurn s (.queue io) { s with queue := rest ++ [request .requestSession] }
  | notDescribed (io : ControlApp.Io) (rq : ControlApp.Dispatcher.Request)
      (rest : List ControlApp.Dispatcher.Request) (hq : s.queue = rq :: rest)
      (ha : rq.action = .sendDescriptor) (hs : io.send = false) :
      ControlTurn s (.queue io) { s with queue := rest ++ [request .quit] }
  | written (io : ControlApp.Io) (rq : ControlApp.Dispatcher.Request)
      (rest : List ControlApp.Dispatcher.Request) (hq : s.queue = rq :: rest)
      (ha : rq.action ∈ [.requestSession, .getDevices, .getSessions]) :
      ControlTurn s (.queue io)
        { s with queue := rest, sent := s.sent ++ if io.write then (writes rq).toList else [] }
  | sessionSet (io : ControlApp.Io) (info : Control.SessionInfo)
      (rest : List ControlApp.Dispatcher.Request)
      (hq : s.queue = messageRequest (.setSession info) :: rest) :
      ControlTurn s (.queue io) { s with
        queue := rest
        session := some info.id
        command := if s.command = .done then .done else .triggered }
  | passed (io : ControlApp.Io) (status : Control.Status) (rest : List ControlApp.Dispatcher.Request)
      (hq : s.queue = messageRequest (.status status) :: rest)
      (hid : status.requestId = "RequestSession") :
      ControlTurn s (.queue io) { s with queue := rest }
  | answered (io : ControlApp.Io) (status : Control.Status) (rest : List ControlApp.Dispatcher.Request)
      (lines : List String) (hq : s.queue = messageRequest (.status status) :: rest)
      (hid : status.requestId ≠ "RequestSession") :
      ControlTurn s (.queue io)
        { s with queue := rest ++ [request .quit], printed := s.printed ++ lines }
  | listed (io : ControlApp.Io) (m : Control.Message) (rest : List ControlApp.Dispatcher.Request)
      (hq : s.queue = messageRequest m :: rest) (hm : IsList m) :
      ControlTurn s (.queue io) { s with queue := rest, printed := s.printed ++ listLines m }
  | quit (io : ControlApp.Io) (rq : ControlApp.Dispatcher.Request)
      (rest : List ControlApp.Dispatcher.Request) (hq : s.queue = rq :: rest)
      (ha : rq.action = .quit) : ControlTurn s (.queue io) { s with queue := rest, exited := true }
  | read (input : List MessageEnvelope) (last : MonitorDevice.ReadStatus)
      (added : List Control.Message) (keep : Bool) (hc : s.connected = true)
      (ha : s.attached = true) (hread : readEnvelopes last s input = ({ s with
        received := s.received ++ added
        queue := s.queue ++ added.map messageRequest }, keep)) :
      ControlTurn s (.connection input last) { s with
        received := s.received ++ added
        queue := s.queue ++ added.map messageRequest ++ if keep then [] else [request .quit]
        attached := keep }
  | commanded (added : List ControlApp.Dispatcher.Request) (hc : s.command = .triggered)
      (hadded : added.filterMap writes = s.commands.filterMap commandWrites)
      (hown : ∀ rq ∈ added, Own rq ∧ rq.action ∈ [.getDevices, .getSessions]) :
      ControlTurn s .command { s with queue := s.queue ++ added, command := .done }

lemma readEnvelopes_added (last : MonitorDevice.ReadStatus) (s : State)
    (input : List MessageEnvelope) :
    ∃ added keep, readEnvelopes last s input = ({ s with
      received := s.received ++ added
      queue := s.queue ++ added.map messageRequest }, keep) := by
  induction input generalizing s with
  | nil => exact ⟨[], decide (last = .again), by simp [readEnvelopes]⟩
  | cons envelope rest ih =>
    rw [readEnvelopes]
    by_cases horigin : envelope.origin ≠ .collector
    · rw [if_pos horigin]
      exact ih s
    · rw [if_neg horigin]
      cases envelope.mesg with
      | none => exact ⟨[], false, by simp⟩
      | some message =>
        obtain ⟨added, keep, h⟩ := ih ({ s with received := s.received ++ [message] }.pushRequest
          (messageRequest message))
        refine ⟨message :: added, keep, ?_⟩
        simp only [State.pushRequest] at h ⊢
        simp [h]

lemma readEnvelopes_messages (last : MonitorDevice.ReadStatus) (s : State)
    (messages : List Control.Message) :
    readEnvelopes last s (messages.map fun m => ⟨.collector, some m⟩) = ({ s with
      received := s.received ++ messages
      queue := s.queue ++ messages.map messageRequest }, decide (last = .again)) := by
  induction messages generalizing s with
  | nil => simp [readEnvelopes]
  | cons message rest ih =>
    rw [List.map_cons, readEnvelopes, if_neg (by simp)]
    simp [ih, State.pushRequest]

section Turns

variable {hashForDevice : Control.DeviceData → String} {s s' : State} {e : ControlApp.Event}

lemma write_eq (s : State) (io : ControlApp.Io) (rq : Control.Request) :
    s.write io rq = { s with sent := s.sent ++ if io.write then [rq] else [] } := by
  unfold State.write
  split <;> simp

lemma pushCommands_eq {commands : List Command.Request} (hlists : AsksLists commands)
    (h : pushCommands s commands = .ok s') :
    ∃ added, s' = { s with queue := s.queue ++ added } ∧
      added.filterMap writes = commands.filterMap commandWrites ∧
      ∀ rq ∈ added, Own rq ∧ rq.action ∈ [.getDevices, .getSessions] := by
  induction commands generalizing s with
  | nil =>
    rw [pushCommands, Except.ok.injEq] at h
    exact ⟨[], by simp [← h], rfl, by simp⟩
  | cons request rest ih =>
    have haction := hlists request List.mem_cons_self
    rw [pushCommands] at h
    cases hrq : request.toRequest with
    | error fault => simp [hrq] at h
    | ok rq =>
      simp only [hrq] at h
      obtain ⟨added, rfl, hwrites, hown⟩ := ih (fun r hr => hlists r (List.mem_cons_of_mem _ hr)) h
      have hrqOwn : Own rq ∧ rq.action ∈ [.getDevices, .getSessions] := by
        unfold Command.Request.toRequest at hrq
        simp only [List.mem_cons, List.not_mem_nil, or_false] at haction
        obtain ha | ha := haction
        · simp only [ha, Command.Request.push, copyArgs, Except.ok.injEq] at hrq
          rw [← hrq]
          simp [Own]
        · simp only [ha, Except.ok.injEq] at hrq
          rw [← hrq]
          simp [Own]
      refine ⟨rq :: added, by simp [State.pushRequest], ?_, ?_⟩
      · have hcommand : commandWrites request = writes rq := by simp [commandWrites, hrq]
        rw [List.filterMap_cons, List.filterMap_cons, hcommand, hwrites]
      · intro r hr
        obtain rfl | hr := List.mem_cons.mp hr
        · exact hrqOwn
        · exact hown r hr

lemma queue_controlTurn {io : ControlApp.Io} {rq : ControlApp.Dispatcher.Request}
    {rest : List ControlApp.Dispatcher.Request} (hq : s.queue = rq :: rest) (hrq : Expected s rq)
    (h : requestHandler hashForDevice { s with queue := rest } rq io = .ok s') :
    ControlTurn s (.queue io) s' := by
  obtain ⟨haction, hnone⟩ | ⟨m, -, rfl⟩ := hrq
  · unfold requestHandler at h
    simp only [List.mem_cons, List.not_mem_nil, or_false] at haction
    obtain ha | ha | ha | ha | ha | ha := haction
    · simp only [ha, doConnect, Except.ok.injEq] at h
      rw [← h]
      split
      · exact .connected io rq rest hq ha
      · exact .notConnected io rq rest hq ha _
    · simp only [ha, doSendDescriptor, Except.ok.injEq] at h
      rw [← h]
      cases hsend : io.send with
      | true => exact .described io rq rest hq ha hsend
      | false => exact .notDescribed io rq rest hq ha hsend
    · simp only [ha, doRequestSession, write_eq, Except.ok.injEq] at h
      rw [← h]
      have hturn := ControlTurn.written io rq rest hq (by simp [ha])
      simpa [writes, ha, sessionAsked] using hturn
    · simp only [ha, doGetDevices, write_eq, Except.ok.injEq] at h
      rw [← h]
      have hturn := ControlTurn.written io rq rest hq (by simp [ha])
      simpa [writes, ha] using hturn
    · simp only [ha, doGetSessions, write_eq, Except.ok.injEq] at h
      rw [← h]
      have hturn := ControlTurn.written io rq rest hq (by simp [ha])
      simpa [writes, ha] using hturn
    · simp only [ha, doQuit, Except.ok.injEq] at h
      rw [← h]
      exact .quit io rq rest hq ha
  · cases m with
    | setSession info =>
      simp only [requestHandler, messageRequest, doSetSession, Except.ok.injEq] at h
      rw [← h]
      exact .sessionSet io info rest hq
    | status status =>
      simp only [requestHandler, messageRequest, doCollectorStatus] at h
      split at h
      · rename_i hid
        rw [← Except.ok.inj h]
        exact .passed io status rest hq hid
      · rename_i hid
        rw [← Except.ok.inj h]
        exact .answered io status rest _ hq hid
    | deviceList list =>
      simp only [requestHandler, messageRequest, doDeviceList, Except.ok.injEq] at h
      rw [← h]
      exact .listed io _ rest hq trivial
    | sessionList list =>
      simp only [requestHandler, messageRequest, doSessionList, Except.ok.injEq] at h
      rw [← h]
      exact .listed io _ rest hq trivial

/-- Every dispatch that does not end in a fault makes one of the listed changes. -/
theorem step_controlTurn (hlists : AsksLists s.commands) (hqueue : ∀ rq ∈ s.queue, Expected s rq)
    (h : ControlApp.step hashForDevice s e = .ok s') : ControlTurn s e s' := by
  unfold ControlApp.step at h
  split at h
  · rw [← Except.ok.inj h]
    exact .idle e
  · cases e with
    | queue io =>
      cases hq : s.queue with
      | nil =>
        simp only [hq, Except.ok.injEq] at h
        rw [← h]
        exact .idle _
      | cons rq rest =>
        simp only [hq] at h
        exact queue_controlTurn hq (hqueue rq (by rw [hq]; exact List.mem_cons_self)) h
    | connection input last =>
      obtain ⟨added, keep, hread⟩ := readEnvelopes_added last s input
      simp only [hread] at h
      split at h
      · rw [← Except.ok.inj h]
        exact .idle _
      · rename_i hopen
        simp only [not_or, Bool.not_eq_false] at hopen
        rw [← Except.ok.inj h]
        have hturn := ControlTurn.read input last added keep hopen.1 hopen.2 hread
        cases keep with
        | true => simpa [hopen.2] using hturn
        | false => simpa [State.pushRequest] using hturn
    | command =>
      simp only at h
      split at h
      · rename_i hc
        obtain ⟨added, rfl, hadded, hown⟩ := pushCommands_eq hlists h
        exact .commanded added hc hadded hown
      · rw [← Except.ok.inj h]
        exact .idle _

end Turns

lemma messageRequest_inj {m x : Control.Message} (h : messageRequest m = messageRequest x) : m = x :=
  Option.some.inj (congrArg ControlApp.Dispatcher.Request.bulkData h)

lemma messageRequest_ne_quit (m : Control.Message) :
    (messageRequest m).action ≠ .quit ∧ (messageRequest m).action ≠ .connect := by
  cases m <;> simp [messageRequest]

/-- The message stands in the queue, in front of every request to quit. -/
def Waits (queue : List ControlApp.Dispatcher.Request) (m : Control.Message) : Prop :=
  messageRequest m ∈ queue.takeWhile fun rq => rq.action ≠ .quit

/-- The books of the utility: what was read is printed or waits for it, and the utility has a
reason to quit. -/
structure Orderly (s : State) : Prop where
  commands : AsksLists s.commands
  expected : ∀ rq ∈ s.queue, Expected s rq
  prints : ListsFirst s.received → ∀ m ∈ s.received, IsList m → Printed s m ∨ Waits s.queue m
  reason : (∃ rq ∈ s.queue, rq.action = .quit) ∨ s.exited = true →
    (∃ m ∈ s.received, EndsControl m) ∨ s.attached = false ∨ s.connected = false
  exits : s.exited = true → ListsFirst s.received → ∀ m ∈ s.received, IsList m → Printed s m
  once : s.connected = true → ∀ rq ∈ s.queue, rq.action ≠ .connect
  fresh : s.connected = false → s.received = [] ∧ s.sent = [] ∧ s.command = .waiting ∧
    (s.queue = [request .connect] ∧ s.exited = false ∨ ∀ rq ∈ s.queue, rq.action = .quit)

/-- The descriptor reaches the collector. -/
def DescriptorSent : ControlApp.Event → Prop
  | .queue io => io.send = true
  | .connection _ _ | .command => True

instance : DecidablePred DescriptorSent := fun e => by
  unfold DescriptorSent
  split <;> infer_instance

lemma waits_append {queue : List ControlApp.Dispatcher.Request} {m : Control.Message}
    (h : Waits queue m) (added : List ControlApp.Dispatcher.Request) : Waits (queue ++ added) m := by
  unfold Waits at h ⊢
  rw [List.takeWhile_append]
  split
  · exact List.mem_append_left _ ((List.takeWhile_prefix _).subset h)
  · exact h

lemma waits_tail {rq : ControlApp.Dispatcher.Request} {rest : List ControlApp.Dispatcher.Request}
    {m : Control.Message} (h : Waits (rq :: rest) m) : messageRequest m = rq ∨ Waits rest m := by
  unfold Waits at h
  rw [List.takeWhile_cons] at h
  split at h
  · exact List.mem_cons.mp h
  · cases h

lemma waits_new {queue added : List ControlApp.Dispatcher.Request} {m : Control.Message}
    (hquiet : ∀ rq ∈ queue, rq.action ≠ .quit) (h : Waits added m) : Waits (queue ++ added) m := by
  unfold Waits at h ⊢
  rw [List.takeWhile_append_of_pos (by simpa using hquiet)]
  exact List.mem_append_right _ h

section Utility

variable {hashForDevice : Control.DeviceData → String} {s s' : State} {e : ControlApp.Event}

lemma Orderly.own (hs : Orderly s) {rq : ControlApp.Dispatcher.Request}
    {rest : List ControlApp.Dispatcher.Request} (hq : s.queue = rq :: rest) (hown : Own rq)
    (hlists : ListsFirst s.received) {m : Control.Message} (hm : m ∈ s.received) (hlist : IsList m) :
    Printed s m ∨ Waits rest m := by
  obtain hprinted | hwaits := hs.prints hlists m hm hlist
  · exact .inl hprinted
  · rw [hq] at hwaits
    obtain rfl | hrest := waits_tail hwaits
    · exact absurd hown.2 (by simp [messageRequest])
    · exact .inr hrest

lemma Orderly.message (hs : Orderly s) {x : Control.Message}
    {rest : List ControlApp.Dispatcher.Request} (hq : s.queue = messageRequest x :: rest)
    (hlists : ListsFirst s.received) {m : Control.Message} (hm : m ∈ s.received) (hlist : IsList m) :
    Printed s m ∨ m = x ∨ Waits rest m := by
  obtain hprinted | hwaits := hs.prints hlists m hm hlist
  · exact .inl hprinted
  · rw [hq] at hwaits
    obtain heq | hrest := waits_tail hwaits
    · exact .inr (.inl (messageRequest_inj heq))
    · exact .inr (.inr hrest)

lemma Orderly.expected_rest (hs : Orderly s) {rq : ControlApp.Dispatcher.Request}
    {rest : List ControlApp.Dispatcher.Request} (hq : s.queue = rq :: rest) :
    ∀ r ∈ rest, Expected s r :=
  fun r hr => hs.expected r (by rw [hq]; exact List.mem_cons_of_mem rq hr)

lemma Orderly.connected (hs : Orderly s) {rq : ControlApp.Dispatcher.Request}
    {rest : List ControlApp.Dispatcher.Request} (hq : s.queue = rq :: rest)
    (ha : rq.action ≠ .connect ∧ rq.action ≠ .quit) : s.connected = true := by
  by_contra hc
  obtain ⟨-, -, -, ⟨hqueue, -⟩ | hquit⟩ := hs.fresh (by simpa using hc)
  · rw [hq] at hqueue
    obtain ⟨rfl, -⟩ := List.cons.inj hqueue
    exact ha.1 rfl
  · exact ha.2 (hquit rq (by rw [hq]; exact List.mem_cons_self))

/-- Entries join the queue of a connected utility, the messages that it reads among them. -/
lemma Orderly.joined (hs : Orderly s) (hx : s.exited = false) (hc : s.connected = true)
    (added : List ControlApp.Dispatcher.Request) (messages : List Control.Message)
    (hqueue : s'.queue = s.queue ++ added) (hreceived : s'.received = s.received ++ messages)
    (hsame : s'.commands = s.commands ∧ s'.printed = s.printed ∧ s'.exited = s.exited ∧
      s'.connected = s.connected) (hattached : s.attached = false → s'.attached = false)
    (hadded : ∀ r ∈ added, Expected s' r ∧ r.action ≠ .connect)
    (hquit : (∃ r ∈ added, r.action = .quit) →
      (∃ m ∈ s.received, EndsControl m) ∨ s'.attached = false)
    (hwaits : ListsFirst s'.received → ∀ m ∈ messages, IsList m → Waits s'.queue m) :
    Orderly s' := by
  obtain ⟨hcommands, hprinted, hexited, hconnected⟩ := hsame
  have hold : ∀ m ∈ s.received, m ∈ s'.received := by
    intro m hm
    rw [hreceived]
    exact List.mem_append_left _ hm
  constructor
  · rw [hcommands]
    exact hs.commands
  · intro r hr
    rw [hqueue] at hr
    obtain hwaited | hnew := List.mem_append.mp hr
    · obtain hown | ⟨m, hm, rfl⟩ := hs.expected r hwaited
      · exact .inl hown
      · exact .inr ⟨m, hold m hm, rfl⟩
    · exact (hadded r hnew).1
  · intro hlists m hm hlist
    rw [hreceived] at hm
    obtain hm | hm := List.mem_append.mp hm
    · have hfirst : ListsFirst s.received := by
        rw [hreceived] at hlists
        exact (List.pairwise_append.mp hlists).1
      obtain hdone | hwaiting := hs.prints hfirst m hm hlist
      · left
        unfold Printed
        rw [hprinted]
        exact hdone
      · right
        rw [hqueue]
        exact waits_append hwaiting added
    · exact .inr (hwaits hlists m hm hlist)
  · have hreason : (∃ m ∈ s.received, EndsControl m) ∨ s.attached = false ∨ s.connected = false →
        (∃ m ∈ s'.received, EndsControl m) ∨ s'.attached = false ∨ s'.connected = false := by
      rintro (⟨m, hm, hends⟩ | hno | hno)
      · exact .inl ⟨m, hold m hm, hends⟩
      · exact .inr (.inl (hattached hno))
      · exact .inr (.inr (hconnected.trans hno))
    rintro (⟨r, hr, ha⟩ | hfalse)
    · rw [hqueue] at hr
      obtain hwaited | hnew := List.mem_append.mp hr
      · exact hreason (hs.reason (.inl ⟨r, hwaited, ha⟩))
      · obtain ⟨m, hm, hends⟩ | hno := hquit ⟨r, hnew, ha⟩
        · exact .inl ⟨m, hold m hm, hends⟩
        · exact .inr (.inl hno)
    · exact hreason (hs.reason (.inr (hexited.symm.trans hfalse)))
  · rw [hexited, hx]
    intro hfalse
    cases hfalse
  · rw [hqueue]
    intro _ r hr
    obtain hwaited | hnew := List.mem_append.mp hr
    · exact hs.once hc r hwaited
    · exact (hadded r hnew).2
  · rw [hconnected, hc]
    intro hfalse
    cases hfalse

lemma Orderly.taken (hs : Orderly s) (hx : s.exited = false) {rq : ControlApp.Dispatcher.Request}
    {rest : List ControlApp.Dispatcher.Request} (hq : s.queue = rq :: rest)
    (hqueue : s'.queue = rest) (hsame : s'.commands = s.commands ∧ s'.received = s.received ∧
      s'.attached = s.attached ∧ s'.exited = s.exited ∧ s'.connected = s.connected)
    (hc : s.connected = true)
    (hprints : ListsFirst s.received → ∀ m ∈ s.received, IsList m → Printed s' m ∨ Waits rest m) :
    Orderly s' := by
  obtain ⟨hcommands, hreceived, hattached, hexited, hconnected⟩ := hsame
  have htail : ∀ r ∈ rest, r ∈ s.queue := by
    intro r hr
    rw [hq]
    exact List.mem_cons_of_mem rq hr
  constructor
  · rw [hcommands]
    exact hs.commands
  · intro r hr
    rw [hqueue] at hr
    unfold Expected
    rw [hreceived]
    exact hs.expected r (htail r hr)
  · rw [hreceived, hqueue]
    exact hprints
  · rw [hreceived, hattached, hconnected, hqueue, hexited]
    rintro (⟨r, hr, ha⟩ | hfalse)
    · exact hs.reason (.inl ⟨r, htail r hr, ha⟩)
    · exact hs.reason (.inr hfalse)
  · rw [hexited, hx]
    intro hfalse
    cases hfalse
  · rw [hqueue]
    exact fun _ r hr => hs.once hc r (htail r hr)
  · rw [hconnected, hc]
    intro hfalse
    cases hfalse

/-- The head of a connected utility is taken, and entries of its own may join the queue. -/
lemma Orderly.took (hs : Orderly s) (hx : s.exited = false) {rq : ControlApp.Dispatcher.Request}
    {rest : List ControlApp.Dispatcher.Request} (hq : s.queue = rq :: rest)
    (added : List ControlApp.Dispatcher.Request) (hqueue : s'.queue = rest ++ added)
    (hsame : s'.commands = s.commands ∧ s'.received = s.received ∧ s'.attached = s.attached ∧
      s'.exited = s.exited ∧ s'.connected = s.connected) (hc : s.connected = true)
    (hown : ∀ r ∈ added, Own r ∧ r.action ≠ .connect)
    (hquit : (∃ r ∈ added, r.action = .quit) → ∃ m ∈ s.received, EndsControl m)
    (hprints : ListsFirst s.received → ∀ m ∈ s.received, IsList m → Printed s' m ∨ Waits rest m) :
    Orderly s' := by
  have htaken : Orderly { s' with queue := rest } := hs.taken hx hq rfl hsame hc hprints
  obtain ⟨-, hreceived, -, hexited, hconnected⟩ := hsame
  refine htaken.joined (hexited.trans hx) (hconnected.trans hc) added [] hqueue (by simp)
    ⟨rfl, rfl, rfl, rfl⟩ id ?_ ?_ ?_
  · exact fun r hr => ⟨.inl (hown r hr).1, (hown r hr).2⟩
  · intro h
    rw [← hreceived] at hquit
    exact .inl (hquit h)
  · intro _ m hm
    cases hm

lemma Orderly.took_message (hs : Orderly s) (hx : s.exited = false) {x : Control.Message}
    {rest : List ControlApp.Dispatcher.Request} (hq : s.queue = messageRequest x :: rest)
    (added : List ControlApp.Dispatcher.Request) (hqueue : s'.queue = rest ++ added)
    (hsame : s'.commands = s.commands ∧ s'.received = s.received ∧ s'.attached = s.attached ∧
      s'.exited = s.exited ∧ s'.connected = s.connected)
    (hown : ∀ r ∈ added, Own r ∧ r.action ≠ .connect)
    (hquit : (∃ r ∈ added, r.action = .quit) → ∃ m ∈ s.received, EndsControl m)
    (hgrown : s.printed <+: s'.printed) (hprinted : IsList x → Printed s' x) : Orderly s' := by
  have hc : s.connected = true := hs.connected hq (by cases x <;> simp [messageRequest])
  refine hs.took hx hq added hqueue hsame hc hown hquit ?_
  intro hlists m hm hlist
  obtain hbefore | rfl | hwaits := hs.message hq hlists hm hlist
  · exact .inl (hbefore.trans hgrown.isInfix)
  · exact .inl (hprinted hlist)
  · exact .inr hwaits

lemma Orderly.connecting (hs : Orderly s) {rq : ControlApp.Dispatcher.Request}
    {rest : List ControlApp.Dispatcher.Request} (hq : s.queue = rq :: rest)
    (ha : rq.action = .connect) :
    rest = [] ∧ s.connected = false ∧ s.received = [] ∧ s.sent = [] ∧ s.command = .waiting := by
  have hmem : rq ∈ s.queue := by rw [hq]; exact List.mem_cons_self
  have hc : s.connected = false := by
    by_contra hc
    exact hs.once (by simpa using hc) rq hmem ha
  obtain ⟨hreceived, hsent, hcommand, ⟨hqueue, -⟩ | hquit⟩ := hs.fresh hc
  · rw [hq] at hqueue
    exact ⟨(List.cons.inj hqueue).2, hc, hreceived, hsent, hcommand⟩
  · rw [hquit rq hmem] at ha
    cases ha

lemma Orderly.own_of_action (hs : Orderly s) {rq : ControlApp.Dispatcher.Request}
    {rest : List ControlApp.Dispatcher.Request} (hq : s.queue = rq :: rest)
    (ha : rq.action ∈ [.sendDescriptor, .requestSession, .getDevices, .getSessions]) : Own rq := by
  obtain hown | ⟨m, -, rfl⟩ := hs.expected rq (by rw [hq]; exact List.mem_cons_self)
  · exact hown
  · cases m <;> simp [messageRequest] at ha

lemma Orderly.received_of_head (hs : Orderly s) {m : Control.Message}
    {rest : List ControlApp.Dispatcher.Request} (hq : s.queue = messageRequest m :: rest) :
    m ∈ s.received := by
  obtain hown | ⟨x, hx, heq⟩ := hs.expected (messageRequest m) (by rw [hq]; exact List.mem_cons_self)
  · exact absurd hown.2 (by simp [messageRequest])
  · rw [messageRequest_inj heq]
    exact hx

lemma Orderly.followed (hs : Orderly s) (hcommands : s'.commands = s.commands)
    (hreceived : s'.received = []) (hexited : s'.exited = false)
    {action : ControlApp.Dispatcher.Action} (hqueue : s'.queue = [request action])
    (hown : Own (request action)) (hconnect : action ≠ .connect)
    (hquit : action = .quit → s'.connected = false)
    (hfresh : s'.connected = false → s'.sent = [] ∧ s'.command = .waiting ∧ action = .quit) :
    Orderly s' := by
  have honly : ∀ r ∈ s'.queue, r = request action := by
    intro r hr
    rw [hqueue] at hr
    exact List.mem_singleton.mp hr
  constructor
  · rw [hcommands]
    exact hs.commands
  · intro r hr
    rw [honly r hr]
    exact .inl hown
  · intro _ m hm
    rw [hreceived] at hm
    cases hm
  · rintro (⟨r, hr, ha⟩ | hfalse)
    · rw [honly r hr] at ha
      exact .inr (.inr (hquit ha))
    · rw [hexited] at hfalse
      cases hfalse
  · rw [hexited]
    intro hfalse
    cases hfalse
  · intro _ r hr
    rw [honly r hr]
    exact hconnect
  · intro hc
    obtain ⟨hwritten, hcommand, ha⟩ := hfresh hc
    refine ⟨hreceived, hwritten, hcommand, .inr fun r hr => ?_⟩
    rw [honly r hr]
    exact ha

lemma orderly_turn (h : ControlTurn s e s') (hx : s.exited = false) (hsent : DescriptorSent e)
    (hs : Orderly s) : Orderly s' := by
  cases h with
  | idle => exact hs
  | connected io rq rest hq ha =>
    obtain ⟨rfl, -, hreceived, -, -⟩ := hs.connecting hq ha
    refine hs.followed rfl hreceived hx rfl ⟨by decide, rfl⟩ (by decide) ?_ ?_
    · intro hquit
      cases hquit
    · intro hfalse
      cases hfalse
  | notConnected io rq rest hq ha lines =>
    obtain ⟨rfl, hc, hreceived, hwritten, hcommand⟩ := hs.connecting hq ha
    refine hs.followed rfl hreceived hx rfl ⟨by decide, rfl⟩ (by decide) ?_ ?_
    · exact fun _ => hc
    · exact fun _ => ⟨hwritten, hcommand, rfl⟩
  | described io rq rest hq ha =>
    have hc := hs.connected hq (by rw [ha]; decide)
    have hown := hs.own_of_action hq (by rw [ha]; decide)
    refine hs.took hx hq [request .requestSession] rfl ⟨rfl, rfl, rfl, rfl, rfl⟩ hc ?_ ?_ ?_
    · intro r hr
      rw [List.mem_singleton.mp hr]
      exact ⟨⟨by decide, rfl⟩, by decide⟩
    · rintro ⟨r, hr, hquit⟩
      rw [List.mem_singleton.mp hr] at hquit
      cases hquit
    · exact fun hlists m hm hlist => hs.own hq hown hlists hm hlist
  | notDescribed io rq rest hq ha hfails =>
    rw [hsent] at hfails
    cases hfails
  | written io rq rest hq ha =>
    have hown : Own rq := by
      apply hs.own_of_action hq
      simp only [List.mem_cons] at ha ⊢
      exact .inr ha
    have hc : s.connected = true := by
      apply hs.connected hq
      simp only [List.mem_cons, List.not_mem_nil, or_false] at ha
      obtain ha | ha | ha := ha <;> simp [ha]
    refine hs.took hx hq [] (by simp) ⟨rfl, rfl, rfl, rfl, rfl⟩ hc (by simp) (by simp) ?_
    exact fun hlists m hm hlist => hs.own hq hown hlists hm hlist
  | sessionSet io info rest hq =>
    refine hs.took_message hx hq [] (by simp) ⟨rfl, rfl, rfl, rfl, rfl⟩ (by simp) (by simp)
      List.prefix_rfl ?_
    intro hlist
    cases hlist
  | passed io status rest hq hid =>
    refine hs.took_message hx hq [] (by simp) ⟨rfl, rfl, rfl, rfl, rfl⟩ (by simp) (by simp)
      List.prefix_rfl ?_
    intro hlist
    cases hlist
  | answered io status rest lines hq hid =>
    refine hs.took_message hx hq [request .quit] rfl ⟨rfl, rfl, rfl, rfl, rfl⟩ ?_ ?_
      (List.prefix_append _ _) ?_
    · intro r hr
      rw [List.mem_singleton.mp hr]
      exact ⟨⟨by decide, rfl⟩, by decide⟩
    · exact fun _ => ⟨.status status, hs.received_of_head hq, hid⟩
    · intro hlist
      cases hlist
  | listed io m rest hq hm =>
    refine hs.took_message hx hq [] (by simp) ⟨rfl, rfl, rfl, rfl, rfl⟩ (by simp) (by simp)
      (List.prefix_append _ _) ?_
    exact fun _ => (List.suffix_append _ _).isInfix
  | quit io rq rest hq ha =>
    have hall : ListsFirst s.received → ∀ m ∈ s.received, IsList m → Printed s m := by
      intro hlists m hm hlist
      obtain hprinted | hwaits := hs.prints hlists m hm hlist
      · exact hprinted
      · unfold Waits at hwaits
        rw [hq, List.takeWhile_cons_of_neg (by simp [ha])] at hwaits
        cases hwaits
    have hmem : rq ∈ s.queue := by rw [hq]; exact List.mem_cons_self
    constructor
    · exact hs.commands
    · exact hs.expected_rest hq
    · exact fun hlists m hm hlist => .inl (hall hlists m hm hlist)
    · exact fun _ => hs.reason (.inl ⟨rq, hmem, ha⟩)
    · exact fun _ => hall
    · exact fun hc r hr => hs.once hc r (by rw [hq]; exact List.mem_cons_of_mem rq hr)
    · intro hc
      obtain ⟨hreceived, hwritten, hcommand, ⟨hqueue, -⟩ | hquit⟩ := hs.fresh hc
      · rw [hq] at hqueue
        rw [(List.cons.inj hqueue).1] at ha
        cases ha
      · exact ⟨hreceived, hwritten, hcommand,
          .inr fun r hr => hquit r (by rw [hq]; exact List.mem_cons_of_mem rq hr)⟩
  | read input last added keep hc ha hread =>
    -- a request to quit would have its reason among what was read before
    have hquiet : ListsFirst (s.received ++ added) → ∀ m ∈ added, IsList m →
        ∀ rq ∈ s.queue, rq.action ≠ .quit := by
      intro hlists m hm hlist rq hrq hquit
      obtain ⟨x, hx, hends⟩ | hno | hno := hs.reason (.inl ⟨rq, hrq, hquit⟩)
      · exact (List.pairwise_append.mp hlists).2.2 x hx m hm hends hlist
      · rw [ha] at hno
        cases hno
      · rw [hc] at hno
        cases hno
    have hnew : ∀ r ∈ added.map messageRequest, r.action ≠ .quit ∧ r.action ≠ .connect := by
      intro r hr
      obtain ⟨m, -, rfl⟩ := List.mem_map.mp hr
      exact messageRequest_ne_quit m
    refine hs.joined hx hc (added.map messageRequest ++ if keep then [] else [request .quit]) added
      (List.append_assoc ..) rfl ⟨rfl, rfl, rfl, rfl⟩ (by simp [ha]) ?_ ?_ ?_
    · intro r hr
      obtain hr | hlast := List.mem_append.mp hr
      · obtain ⟨m, hm, rfl⟩ := List.mem_map.mp hr
        exact ⟨.inr ⟨m, List.mem_append_right _ hm, rfl⟩, (hnew _ hr).2⟩
      · rw [List.mem_singleton.mp (List.mem_ite_nil_left.mp hlast).2]
        exact ⟨.inl ⟨by decide, rfl⟩, by decide⟩
    · rintro ⟨r, hr, hquit⟩
      obtain hr | hlast := List.mem_append.mp hr
      · exact absurd hquit (hnew r hr).1
      · exact .inr (by simpa using (List.mem_ite_nil_left.mp hlast).1)
    · intro hlists m hm hlist
      refine waits_append (waits_new (hquiet hlists m hm hlist) ?_) _
      unfold Waits
      rw [List.takeWhile_eq_self_iff.mpr fun r hr => by simpa using (hnew r hr).1]
      exact List.mem_map_of_mem hm
  | commanded added hc hadded hown =>
    have hgets : ∀ r ∈ added, r.action ≠ .quit ∧ r.action ≠ .connect := by
      intro r hr
      have haction := (hown r hr).2
      simp only [List.mem_cons, List.not_mem_nil, or_false] at haction
      obtain ha | ha := haction <;> simp [ha]
    have hconnected : s.connected = true := by
      by_contra hno
      obtain ⟨-, -, hcommand, -⟩ := hs.fresh (by simpa using hno)
      rw [hcommand] at hc
      cases hc
    refine hs.joined hx hconnected added [] rfl (by simp) ⟨rfl, rfl, rfl, rfl⟩ id ?_ ?_ ?_
    · exact fun r hr => ⟨.inl (hown r hr).1, (hgets r hr).2⟩
    · rintro ⟨r, hr, hquit⟩
      exact absurd hquit (hgets r hr).1
    · intro _ m hm
      cases hm

/-- What the command has still to ask for. -/
def reserved (s : State) : List Control.Request :=
  if s.command = .done then [] else s.commands.filterMap commandWrites

lemma reserved_le (hcommands : s'.commands = s.commands) (hdone : s.command = .done → s'.command = .done) :
    (reserved s' : Multiset Control.Request) ≤ reserved s := by
  unfold reserved
  by_cases hc : s.command = .done
  · rw [if_pos hc, if_pos (hdone hc)]
  · rw [if_neg hc, hcommands]
    split
    · exact Multiset.zero_le _
    · exact le_refl _

lemma upcoming_took {rq : ControlApp.Dispatcher.Request} {rest : List ControlApp.Dispatcher.Request}
    (hq : s.queue = rq :: rest) (added : List ControlApp.Dispatcher.Request)
    (new : List Control.Request) (hqueue : s'.queue = rest ++ added)
    (hsent : s'.sent = s.sent ++ new) (hcommands : s'.commands = s.commands)
    (hdone : s.command = .done → s'.command = .done)
    (hw : (↑(new ++ added.filterMap writes) : Multiset Control.Request) ≤ ↑(writes rq).toList) :
    s'.sent + upcoming s' ≤ s.sent + upcoming s := by
  have hhead : s.queue.filterMap writes = (writes rq).toList ++ rest.filterMap writes := by
    rw [hq, List.filterMap_cons]
    cases writes rq <;> rfl
  have hnew : s'.sent + upcoming s' = (↑(s.sent ++ rest.filterMap writes) +
      ↑(new ++ added.filterMap writes) + ↑(reserved s') : Multiset Control.Request) := by
    unfold upcoming
    rw [hqueue, hsent]
    simp only [List.filterMap_append, ← Multiset.coe_add, reserved]
    abel
  have hold : s.sent + upcoming s = (↑(s.sent ++ rest.filterMap writes) +
      ↑(writes rq).toList + ↑(reserved s) : Multiset Control.Request) := by
    unfold upcoming
    rw [hhead]
    simp only [← Multiset.coe_add, reserved]
    abel
  rw [hnew, hold]
  exact add_le_add (add_le_add_right hw _) (reserved_le hcommands hdone)

lemma upcoming_turn (h : ControlTurn s e s') :
    s'.sent + upcoming s' ≤ s.sent + upcoming s := by
  have hmessage : ∀ m, writes (messageRequest m) = none := fun m => by cases m <;> rfl
  have hquit : ∀ rq, (([] ++ [request .quit].filterMap writes : List Control.Request) :
      Multiset Control.Request) ≤ (writes rq).toList := fun rq => Multiset.zero_le _
  cases h with
  | idle => exact le_refl _
  | connected io rq rest hq ha =>
    refine upcoming_took hq [request .sendDescriptor] [] rfl (by simp) rfl id ?_
    simp [writes, ha, request]
  | notConnected io rq rest hq ha lines =>
    exact upcoming_took hq [request .quit] [] rfl (by simp) rfl id (hquit _)
  | described io rq rest hq ha =>
    refine upcoming_took hq [request .requestSession] [] rfl (by simp) rfl id ?_
    simp [writes, ha, request]
  | notDescribed io rq rest hq ha =>
    exact upcoming_took hq [request .quit] [] rfl (by simp) rfl id (hquit _)
  | written io rq rest hq ha =>
    refine upcoming_took hq [] _ (by simp) rfl rfl id ?_
    split
    · simp
    · exact Multiset.zero_le _
  | sessionSet io info rest hq =>
    refine upcoming_took hq [] [] (by simp) (by simp) rfl ?_ (Multiset.zero_le _)
    intro hdone
    simp [hdone]
  | passed io status rest hq hid =>
    exact upcoming_took hq [] [] (by simp) (by simp) rfl id (Multiset.zero_le _)
  | answered io status rest lines hq hid =>
    exact upcoming_took hq [request .quit] [] rfl (by simp) rfl id (hquit _)
  | listed io m rest hq hm =>
    exact upcoming_took hq [] [] (by simp) (by simp) rfl id (Multiset.zero_le _)
  | quit io rq rest hq ha => exact upcoming_took hq [] [] (by simp) (by simp) rfl id (Multiset.zero_le _)
  | read input last added keep hc ha hread =>
    have hnone : (added.map messageRequest ++ if keep then [] else [request .quit]).filterMap writes =
        [] := by
      rw [List.filterMap_append, List.filterMap_map]
      have hadded : added.filterMap (writes ∘ messageRequest) = [] :=
        List.filterMap_eq_nil_iff.mpr fun m _ => hmessage m
      rw [hadded]
      cases keep <;> simp [writes, request]
    have hsame : upcoming { s with
        received := s.received ++ added
        queue := s.queue ++ added.map messageRequest ++ if keep then [] else [request .quit]
        attached := keep } = upcoming s := by
      unfold upcoming
      rw [List.append_assoc, List.filterMap_append, hnone, List.append_nil]
    rw [hsame]
  | commanded added hc hadded hown =>
    have hsame : upcoming { s with queue := s.queue ++ added, command := .done } = upcoming s := by
      unfold upcoming
      rw [List.filterMap_append, hadded, if_pos rfl, List.append_nil, if_neg (by simp [hc])]
    rw [hsame]

end Utility

section Runs

variable {hashForDevice : Control.DeviceData → String} {s s' : State} {e : ControlApp.Event}

lemma step_exited (h : ControlApp.step hashForDevice s e = .ok s') (hx : s.exited = true) : s' = s := by
  unfold ControlApp.step at h
  rw [if_pos hx] at h
  exact (Except.ok.inj h).symm

lemma orderly_step (hs : Orderly s) (hsent : DescriptorSent e)
    (h : ControlApp.step hashForDevice s e = .ok s') : Orderly s' := by
  by_cases hx : s.exited = true
  · rw [step_exited h hx]
    exact hs
  · exact orderly_turn (step_controlTurn hs.commands hs.expected h) (by simpa using hx) hsent hs

lemma orderly_start {commands : List Command.Request} (h : AsksLists commands) :
    Orderly (ControlApp.start commands) := by
  have hqueue : ∀ rq ∈ [request .connect], rq = request .connect := fun rq hrq =>
    List.mem_singleton.mp hrq
  constructor
  · exact h
  · intro rq hrq
    rw [hqueue rq hrq]
    exact .inl ⟨by decide, rfl⟩
  · intro _ m hm
    cases hm
  · exact fun _ => .inr (.inr rfl)
  · intro hx
    cases hx
  · intro hc
    cases hc
  · exact fun _ => ⟨rfl, rfl, rfl, .inl ⟨rfl, rfl⟩⟩

end Runs

end TkmCollector.Proofs
