import TkmCollector.Proofs.ListsPrinted

namespace TkmCollector.Proofs

open ControlApp

variable (hashForDevice : Control.DeviceData → String)

/-- What an entry of the queue asks of the collector. -/
def asksFor (rq : ControlApp.Dispatcher.Request) : Option Control.Request :=
  let named (key : Arg) : String := (rq.args.lookup key).getD ""
  let forDevice (id : String) (type : Control.RequestType) : Option Control.Request :=
    some ⟨id, type, forced rq, .deviceData { (default : Control.DeviceData) with hash := named .deviceHash }⟩
  match rq.action with
  | .connect | .sendDescriptor | .requestSession => some sessionAsked
  | .initDatabase => some ⟨"InitDatabase", .initDatabase, forced rq, .other⟩
  | .quitCollector => some ⟨"QuitCollector", .quitCollector, forced rq, .other⟩
  | .getDevices => some ⟨"GetDevices", .getDevices, false, .other⟩
  | .getSessions => forDevice "GetSessions" .getSessions
  | .removeSession => some ⟨"RemoveSession", .removeSession, forced rq,
      .sessionData { (default : Control.SessionData) with hash := named .sessionHash }⟩
  | .addDevice =>
    match stoi (named .devicePort) with
    | .error _ => none
    | .ok port =>
      let deviceData : Control.DeviceData := { (default : Control.DeviceData) with
        name := named .deviceName, address := named .deviceAddress, port := port }
      some ⟨"AddDevice", .addDevice, forced rq,
        .deviceData { deviceData with hash := hashForDevice deviceData }⟩
  | .removeDevice => forDevice "RemoveDevice" .removeDevice
  | .connectDevice => forDevice "ConnectDevice" .connectDevice
  | .disconnectDevice => forDevice "DisconnectDevice" .disconnectDevice
  | .startCollecting => forDevice "StartCollecting" .startCollecting
  | .stopCollecting => forDevice "StartCollecting" .stopCollecting
  | .setSession | .collectorStatus | .deviceList | .sessionList | .quit => none

/-- What a command of the user asks of the collector. -/
def commandAsks (request : Command.Request) : Option Control.Request :=
  match request.toRequest with
  | .ok rq => asksFor hashForDevice rq
  | .error _ => none

/-- All that a utility with the commands asks for. -/
def agenda (commands : List Command.Request) : List Control.Request :=
  sessionAsked :: commands.filterMap (commandAsks hashForDevice)

/-- The entries with which a utility comes up. -/
def Introducing (rq : ControlApp.Dispatcher.Request) : Prop :=
  rq.action ∈ [.connect, .sendDescriptor]

/-- The ways in which one dispatch changes what the utility has sent and will send. -/
inductive UtilityTurn (s : State) : ControlApp.Event → State → Prop where
  | idle (e : ControlApp.Event) : UtilityTurn s e s
  | introduced (io : ControlApp.Io) (rq next : ControlApp.Dispatcher.Request)
      (rest : List ControlApp.Dispatcher.Request) (connected : Bool) (printed : List String) (hq : s.queue = rq :: rest) (ha : Introducing rq)
      (hnext : next.action ∈ [.sendDescriptor, .requestSession, .quit])
      (hlast : rq.action = .sendDescriptor → ¬ Introducing next)
      (hconnected : rq.action = .sendDescriptor → connected = s.connected) :
      UtilityTurn s (.queue io) { s with queue := rest ++ [next], connected := connected, printed := printed }
  | asked (io : ControlApp.Io) (rq : ControlApp.Dispatcher.Request)
      (rest quits : List ControlApp.Dispatcher.Request) (asked : Control.Request) (printed : List String) (hq : s.queue = rq :: rest)
      (ha : ¬ Introducing rq) (hrq : asksFor hashForDevice rq = some asked)
      (hquits : ∀ rq ∈ quits, rq.action = .quit) :
      UtilityTurn s (.queue io) { s with
        queue := rest ++ quits, sent := s.sent ++ (if io.write then [asked] else []), printed := printed }
  | told (io : ControlApp.Io) (rq : ControlApp.Dispatcher.Request) (info : Control.SessionInfo)
      (rest : List ControlApp.Dispatcher.Request) (hq : s.queue = rq :: rest)
      (hrq : rq.action = .setSession) (hinfo : rq.bulkData = some (.setSession info)) :
      UtilityTurn s (.queue io) { s with
        queue := rest, session := some info.id
        command := if s.command = .done then .done else .triggered }
  | noted (io : ControlApp.Io) (rq : ControlApp.Dispatcher.Request)
      (rest quits : List ControlApp.Dispatcher.Request) (printed : List String) (exited : Bool) (hq : s.queue = rq :: rest)
      (hrq : asksFor hashForDevice rq = none) (hquits : ∀ rq ∈ quits, rq.action = .quit) :
      UtilityTurn s (.queue io) { s with queue := rest ++ quits, printed := printed, exited := exited }
  | read (input : List MessageEnvelope) (last : MonitorDevice.ReadStatus)
      (added : List Control.Message) (attached : Bool) (quits : List ControlApp.Dispatcher.Request)
      (hconnected : s.connected = true) (hquits : ∀ rq ∈ quits, rq.action = .quit)
      (hread : (readEnvelopes last s input).1.received = s.received ++ added) :
      UtilityTurn s (.connection input last) { s with
        received := s.received ++ added, queue := s.queue ++ added.map messageRequest ++ quits
        attached := attached }
  | commanded (added : List ControlApp.Dispatcher.Request) (hc : s.command = .triggered)
      (hadded : added.filterMap (asksFor hashForDevice) =
        s.commands.filterMap (commandAsks hashForDevice))
      (hcommands : ∀ rq ∈ added, ¬ Introducing rq ∧ rq.action ≠ .setSession) :
      UtilityTurn s .command { s with queue := s.queue ++ added, command := .done }

section Turns

variable {hashForDevice} {s s' : State} {e : ControlApp.Event}

lemma UtilityTurn.written {rq : ControlApp.Dispatcher.Request}
    {rest : List ControlApp.Dispatcher.Request} {io : ControlApp.Io} {asked : Control.Request}
    (hq : s.queue = rq :: rest) (ha : ¬ Introducing rq)
    (hrq : asksFor hashForDevice rq = some asked) :
    UtilityTurn hashForDevice s (.queue io) ({ s with queue := rest }.write io asked) := by
  have hturn := UtilityTurn.asked io rq rest [] asked s.printed hq ha hrq (by simp)
  rw [write_eq]
  simpa using hturn

lemma UtilityTurn.shown {rq : ControlApp.Dispatcher.Request}
    {rest : List ControlApp.Dispatcher.Request} {io : ControlApp.Io} {printed : List String}
    (hq : s.queue = rq :: rest) (hrq : asksFor hashForDevice rq = none) :
    UtilityTurn hashForDevice s (.queue io) { s with queue := rest, printed := printed } := by
  simpa using UtilityTurn.noted io rq rest [] printed s.exited hq hrq (by simp)

lemma atKey_ok {args : Args} {key : Arg} {value : String} (h : args.atKey key = .ok value) :
    args.lookup key = some value := by
  unfold Args.atKey at h
  split at h
  · rename_i v hv
    rw [hv, Except.ok.inj h]
  · cases h

lemma writeForDevice_turn {rq : ControlApp.Dispatcher.Request}
    {rest : List ControlApp.Dispatcher.Request} {io : ControlApp.Io} {id : String}
    {type : Control.RequestType} (hq : s.queue = rq :: rest) (ha : ¬ Introducing rq)
    (hrq : asksFor hashForDevice rq = some ⟨id, type, forced rq, .deviceData
      { (default : Control.DeviceData) with hash := (rq.args.lookup .deviceHash).getD "" }⟩)
    (h : writeForDevice { s with queue := rest } rq io id type = .ok s') :
    UtilityTurn hashForDevice s (.queue io) s' := by
  unfold writeForDevice at h
  cases hkey : rq.args.atKey .deviceHash with
  | error fault => simp [hkey] at h
  | ok hash =>
    simp only [hkey, Except.ok.injEq] at h
    rw [← h]
    rw [atKey_ok hkey] at hrq
    exact .written hq ha hrq

lemma queue_utilityTurn {io : ControlApp.Io} {rq : ControlApp.Dispatcher.Request}
    {rest : List ControlApp.Dispatcher.Request} (hq : s.queue = rq :: rest)
    (h : ControlApp.requestHandler hashForDevice { s with queue := rest } rq io = .ok s') :
    UtilityTurn hashForDevice s (.queue io) s' := by
  unfold ControlApp.requestHandler at h
  cases ha : rq.action with
  | connect =>
    simp only [ha, doConnect, Except.ok.injEq] at h
    rw [← h]
    split
    · exact .introduced io rq (request .sendDescriptor) rest true s.printed hq (by simp [Introducing, ha])
        (by simp [request]) (by simp [ha]) (by simp [ha])
    · exact .introduced io rq (request .quit) rest s.connected _ hq (by simp [Introducing, ha])
        (by simp [request]) (by simp [ha]) (by simp [ha])
  | sendDescriptor =>
    simp only [ha, doSendDescriptor, Except.ok.injEq] at h
    rw [← h]
    have hnext : (request (if io.send then .requestSession else .quit)).action ∈
        [ControlApp.Dispatcher.Action.sendDescriptor, .requestSession, .quit] := by
      cases io.send <;> simp [request]
    refine .introduced io rq _ rest s.connected s.printed hq (by simp [Introducing, ha]) hnext ?_ ?_
    · intro _
      cases io.send <;> simp [Introducing, request]
    · exact fun _ => rfl
  | requestSession =>
    simp only [ha, doRequestSession, Except.ok.injEq] at h
    rw [← h]
    exact .written hq (by simp [Introducing, ha]) (by simp [asksFor, ha, sessionAsked])
  | setSession =>
    simp only [ha, doSetSession] at h
    split at h
    · rename_i info hinfo
      rw [← Except.ok.inj h]
      exact .told io rq info rest hq ha hinfo
    · cases h
  | initDatabase =>
    simp only [ha, doInitDatabase, Except.ok.injEq] at h
    rw [← h]
    exact .written hq (by simp [Introducing, ha]) (by simp [asksFor, ha])
  | getDevices =>
    simp only [ha, doGetDevices, Except.ok.injEq] at h
    rw [← h]
    exact .written hq (by simp [Introducing, ha]) (by simp [asksFor, ha])
  | getSessions =>
    simp only [ha, doGetSessions, Except.ok.injEq] at h
    rw [← h]
    exact .written hq (by simp [Introducing, ha]) (by simp [asksFor, ha])
  | removeSession =>
    simp only [ha, doRemoveSession] at h
    cases hkey : rq.args.atKey .sessionHash with
    | error fault => simp [hkey] at h
    | ok hash =>
      simp only [hkey, Except.ok.injEq] at h
      rw [← h]
      exact .written hq (by simp [Introducing, ha]) (by simp [asksFor, ha, atKey_ok hkey])
  | addDevice =>
    simp only [ha, doAddDevice] at h
    split at h
    · rename_i name address port hname haddress hport
      split at h
      · cases h
      · rename_i value hvalue
        rw [← Except.ok.inj h]
        refine .written hq (by simp [Introducing, ha]) ?_
        simp [asksFor, ha, atKey_ok hname, atKey_ok haddress, atKey_ok hport, hvalue]
    all_goals cases h
  | removeDevice | connectDevice | disconnectDevice | startCollecting | stopCollecting =>
    simp only [ha] at h
    exact writeForDevice_turn hq (by simp [Introducing, ha]) (by simp [asksFor, ha]) h
  | quitCollector =>
    simp only [ha, doQuitCollector, write_eq, Except.ok.injEq] at h
    rw [← h]
    exact .asked io rq rest [request .quit] _ _ hq (by simp [Introducing, ha])
      (by simp [asksFor, ha]) (by simp [request])
  | collectorStatus =>
    simp only [ha, doCollectorStatus] at h
    split at h
    · split at h
      · rw [← Except.ok.inj h]
        exact .shown hq (by simp [asksFor, ha])
      · rw [← Except.ok.inj h]
        exact .noted io rq rest [request .quit] _ s.exited hq (by simp [asksFor, ha]) (by simp [request])
    · cases h
  | deviceList =>
    simp only [ha, doDeviceList] at h
    split at h
    · rw [← Except.ok.inj h]
      exact .shown hq (by simp [asksFor, ha])
    · cases h
  | sessionList =>
    simp only [ha, doSessionList] at h
    split at h
    · rw [← Except.ok.inj h]
      exact .shown hq (by simp [asksFor, ha])
    · cases h
  | quit =>
    simp only [ha, doQuit, Except.ok.injEq] at h
    rw [← h]
    simpa using UtilityTurn.noted io rq rest [] s.printed true hq (by simp [asksFor, ha]) (by simp)

lemma toRequest_own {request : Command.Request} {rq : ControlApp.Dispatcher.Request}
    (h : request.toRequest = .ok rq) : ¬ Introducing rq ∧ rq.action ≠ .setSession := by
  have hpush : ∀ {action keys}, action ∉ [ControlApp.Dispatcher.Action.connect, .sendDescriptor] →
      action ≠ .setSession → request.push action keys = .ok rq →
      ¬ Introducing rq ∧ rq.action ≠ .setSession := by
    intro action keys hown hset hrq
    unfold Command.Request.push at hrq
    split at hrq
    · cases hrq
    · rw [← Except.ok.inj hrq]
      exact ⟨hown, hset⟩
  unfold Command.Request.toRequest at h
  cases ha : request.action with
  | getSessions | quit =>
    simp only [ha, Except.ok.injEq] at h
    rw [← h]
    exact ⟨by simp [Introducing], by simp⟩
  | _ =>
    simp only [ha] at h
    exact hpush (by simp) (by simp) h

lemma pushCommands_asks {commands : List Command.Request} (h : pushCommands s commands = .ok s') :
    ∃ added, s' = { s with queue := s.queue ++ added } ∧
      added.filterMap (asksFor hashForDevice) = commands.filterMap (commandAsks hashForDevice) ∧
      ∀ rq ∈ added, ¬ Introducing rq ∧ rq.action ≠ .setSession := by
  induction commands generalizing s with
  | nil =>
    rw [pushCommands, Except.ok.injEq] at h
    exact ⟨[], by simp [← h], rfl, by simp⟩
  | cons request rest ih =>
    rw [pushCommands] at h
    cases hrq : request.toRequest with
    | error fault => simp [hrq] at h
    | ok rq =>
      simp only [hrq] at h
      obtain ⟨added, rfl, hasks, hown⟩ := ih h
      refine ⟨rq :: added, by simp [State.pushRequest], ?_, ?_⟩
      · have hcommand : commandAsks hashForDevice request = asksFor hashForDevice rq := by
          simp [commandAsks, hrq]
        rw [List.filterMap_cons, List.filterMap_cons, hcommand, hasks]
      · intro r hr
        obtain rfl | hr := List.mem_cons.mp hr
        · exact toRequest_own hrq
        · exact hown r hr

/-- Every dispatch that does not end in a fault makes one of the listed changes. -/
theorem step_utilityTurn (h : ControlApp.step hashForDevice s e = .ok s') :
    UtilityTurn hashForDevice s e s' := by
  unfold ControlApp.step at h
  split at h
  · rw [← Except.ok.inj h]
    exact .idle _
  · cases e with
    | queue io =>
      cases hq : s.queue with
      | nil =>
        simp only [hq, Except.ok.injEq] at h
        rw [← h]
        exact .idle _
      | cons rq rest =>
        simp only [hq] at h
        exact queue_utilityTurn hq h
    | connection input last =>
      obtain ⟨added, keep, hread⟩ := readEnvelopes_added last s input
      simp only [hread] at h
      split at h
      · rw [← Except.ok.inj h]
        exact .idle _
      · rename_i hopen
        simp only [not_or, Bool.not_eq_false] at hopen
        rw [← Except.ok.inj h]
        cases keep with
        | true => simpa using UtilityTurn.read input last added s.attached [] hopen.1 (by simp) (by rw [hread])
        | false => exact .read input last added false [request .quit] hopen.1 (by simp [request]) (by rw [hread])
    | command =>
      simp only at h
      split at h
      · rename_i hc
        obtain ⟨added, rfl, hadded, hcommands⟩ := pushCommands_asks h
        exact .commanded added hc hadded hcommands
      · rw [← Except.ok.inj h]
        exact .idle _

end Turns

/-! ### The agenda -/

/-- What was sent and what waits in the queue. -/
def underway (s : State) : List Control.Request := s.sent ++ s.queue.filterMap (asksFor hashForDevice)

/-- The entry with which the utility comes up stands in front of everything else, and nothing was
sent before it. While it has to connect there is nothing else. -/
structure ComingUp (s : State) (rq : ControlApp.Dispatcher.Request) : Prop where
  waiting : s.command = .waiting
  sent : s.sent = []
  first : ∃ rest, s.queue = rq :: rest ∧
    (∀ x ∈ rest, asksFor hashForDevice x = none ∧ ¬ Introducing x) ∧
    (rq.action = .connect → s.connected = false ∧ rest = [])

/-- The commands come behind the request for a session, once the collector has set one. -/
structure SessionFirst (commands : List Command.Request) (s : State) : Prop where
  given : s.commands = commands
  waiting : s.command ≠ .done → (underway hashForDevice s).Sublist [sessionAsked]
  done : s.command = .done → (underway hashForDevice s).Sublist (agenda hashForDevice commands)
  told : s.command ≠ .waiting → ∃ info, Control.Message.setSession info ∈ s.received
  heard : ∀ rq ∈ s.queue, rq.action = .setSession → ∀ m ∈ rq.bulkData, m ∈ s.received
  comingUp : ∀ rq ∈ s.queue, Introducing rq → ComingUp hashForDevice s rq

section Agenda

variable {hashForDevice} {commands : List Command.Request} {s s' : State}

lemma asksFor_quits {quits : List ControlApp.Dispatcher.Request}
    (h : ∀ rq ∈ quits, rq.action = .quit) : quits.filterMap (asksFor hashForDevice) = [] := by
  rw [List.filterMap_eq_nil_iff]
  intro rq hrq
  simp [asksFor, h rq hrq]

@[simp] lemma asksFor_message (m : Control.Message) :
    asksFor hashForDevice (messageRequest m) = none := by
  cases m <;> rfl

lemma not_introducing_message (m : Control.Message) : ¬ Introducing (messageRequest m) := by
  cases m <;> simp [Introducing, messageRequest]

lemma SessionFirst.shorter (hs : SessionFirst hashForDevice commands s)
    (hcommands : s'.commands = s.commands) (hcommand : s'.command = .done ↔ s.command = .done)
    (htold : s'.command ≠ .waiting → ∃ info, Control.Message.setSession info ∈ s'.received)
    (hunderway : (underway hashForDevice s').Sublist (underway hashForDevice s))
    (hheard : ∀ rq ∈ s'.queue, rq.action = .setSession → ∀ m ∈ rq.bulkData, m ∈ s'.received)
    (hcomingUp : ∀ rq ∈ s'.queue, Introducing rq → ComingUp hashForDevice s' rq) :
    SessionFirst hashForDevice commands s' where
  given := hcommands.trans hs.given
  waiting h := hunderway.trans (hs.waiting (mt hcommand.mpr h))
  done h := hunderway.trans (hs.done (hcommand.mp h))
  told := htold
  heard := hheard
  comingUp := hcomingUp

/-- An entry that is taken from the front is not followed by one with which the utility comes up. -/
lemma SessionFirst.rest (hs : SessionFirst hashForDevice commands s)
    {rq x : ControlApp.Dispatcher.Request} {rest : List ControlApp.Dispatcher.Request}
    (hq : s.queue = rq :: rest) (hx : x ∈ rest) : ¬ Introducing x := by
  intro hintroducing
  have hup := hs.comingUp x (by rw [hq]; exact List.mem_cons_of_mem rq hx) hintroducing
  obtain ⟨rest', hq', hnone, -⟩ := hup.first
  obtain ⟨-, rfl⟩ := List.cons.inj (hq.symm.trans hq')
  exact (hnone x hx).2 hintroducing

lemma sessionFirst_introduced {rq next : ControlApp.Dispatcher.Request}
    {rest : List ControlApp.Dispatcher.Request} {connected : Bool} {printed : List String}
    (hs : SessionFirst hashForDevice commands s) (hq : s.queue = rq :: rest) (ha : Introducing rq)
    (hnext : next.action ∈ [.sendDescriptor, .requestSession, .quit])
    (hlast : rq.action = .sendDescriptor → ¬ Introducing next) :
    SessionFirst hashForDevice commands
      { s with queue := rest ++ [next], connected := connected, printed := printed } := by
  obtain ⟨hwaiting, hsent, rest', hq', hnone, hconnect⟩ :=
    hs.comingUp rq (by rw [hq]; exact List.mem_cons_self) ha
  obtain ⟨-, rfl⟩ := List.cons.inj (hq.symm.trans hq')
  have hrest : rest.filterMap (asksFor hashForDevice) = [] :=
    List.filterMap_eq_nil_iff.mpr fun x hx => (hnone x hx).1
  simp only [List.mem_cons, List.not_mem_nil, or_false] at hnext
  refine ⟨hs.given, ?_, ?_, hs.told, ?_, ?_⟩
  · intro _
    unfold underway
    simp only [hsent, List.nil_append, List.filterMap_append, hrest]
    obtain h | h | h := hnext <;> simp [asksFor, h]
  · intro hdone
    cases hwaiting.symm.trans hdone
  · intro x hx hset
    obtain hold | hnew := List.mem_append.mp hx
    · exact hs.heard x (by rw [hq]; exact List.mem_cons_of_mem rq hold) hset
    · rw [List.mem_singleton.mp hnew] at hset
      obtain h | h | h := hnext <;> cases h.symm.trans hset
  · intro x hx hintroducing
    obtain hold | hnew := List.mem_append.mp hx
    · exact absurd hintroducing (hs.rest hq hold)
    · rw [List.mem_singleton.mp hnew] at hintroducing ⊢
      -- what comes next is the descriptor, behind the connection and nothing else
      have hfirst : rq.action = .connect := by
        unfold Introducing at ha
        simp only [List.mem_cons, List.not_mem_nil, or_false] at ha
        exact ha.resolve_right fun h => hlast h hintroducing
      obtain ⟨-, rfl⟩ := hconnect hfirst
      refine ⟨hwaiting, hsent, [], rfl, by simp, ?_⟩
      intro hagain
      obtain h | h | h := hnext <;> cases h.symm.trans hagain

lemma sessionFirst_turn {e : ControlApp.Event} (h : UtilityTurn hashForDevice s e s')
    (hs : SessionFirst hashForDevice commands s) : SessionFirst hashForDevice commands s' := by
  cases h with
  | idle => exact hs
  | introduced io rq next rest connected printed hq ha hnext hlast =>
    exact sessionFirst_introduced hs hq ha hnext hlast
  | asked io rq rest quits asked printed hq ha hrq hquits =>
    refine hs.shorter rfl Iff.rfl hs.told ?_ ?_ ?_
    · unfold underway
      simp only [hq, List.filterMap_append, asksFor_quits hquits, List.append_nil,
        List.filterMap_cons, hrq, List.append_assoc]
      apply (List.Sublist.refl _).append
      cases io.write <;> simp
    · intro x hx hset
      obtain hold | hnew := List.mem_append.mp hx
      · exact hs.heard x (by rw [hq]; exact List.mem_cons_of_mem rq hold) hset
      · cases (hquits x hnew).symm.trans hset
    · intro x hx hintroducing
      obtain hold | hnew := List.mem_append.mp hx
      · exact absurd hintroducing (hs.rest hq hold)
      · simp [Introducing, hquits x hnew] at hintroducing
  | told io rq info rest hq hrq hinfo =>
    have hmem : rq ∈ s.queue := by
      rw [hq]
      exact List.mem_cons_self
    refine hs.shorter rfl ?_ ?_ ?_ ?_ ?_
    · dsimp only
      split <;> simp_all
    · exact fun _ => ⟨info, hs.heard rq hmem hrq _ hinfo⟩
    · unfold underway
      simp [hq, asksFor, hrq]
    · exact fun x hx => hs.heard x (by rw [hq]; exact List.mem_cons_of_mem rq hx)
    · exact fun x hx hintroducing => absurd hintroducing (hs.rest hq hx)
  | noted io rq rest quits printed exited hq hrq hquits =>
    refine hs.shorter rfl Iff.rfl hs.told ?_ ?_ ?_
    · unfold underway
      simp [hq, List.filterMap_append, asksFor_quits hquits, hrq]
    · intro x hx hset
      obtain hold | hnew := List.mem_append.mp hx
      · exact hs.heard x (by rw [hq]; exact List.mem_cons_of_mem rq hold) hset
      · cases (hquits x hnew).symm.trans hset
    · intro x hx hintroducing
      obtain hold | hnew := List.mem_append.mp hx
      · exact absurd hintroducing (hs.rest hq hold)
      · simp [Introducing, hquits x hnew] at hintroducing
  | read input last added attached quits hconnected hquits =>
    refine hs.shorter rfl Iff.rfl ?_ ?_ ?_ ?_
    · intro hcommand
      obtain ⟨info, hinfo⟩ := hs.told hcommand
      exact ⟨info, List.mem_append_left _ hinfo⟩
    · unfold underway
      simp [asksFor_quits hquits]
    · intro x hx hset m hm
      obtain hx | hnew := List.mem_append.mp hx
      · obtain hold | hnew := List.mem_append.mp hx
        · exact List.mem_append_left _ (hs.heard x hold hset m hm)
        · obtain ⟨m', hm', rfl⟩ := List.mem_map.mp hnew
          rw [← Option.some.inj hm]
          exact List.mem_append_right _ hm'
      · cases (hquits x hnew).symm.trans hset
    · intro x hx hintroducing
      obtain hx | hnew := List.mem_append.mp hx
      · obtain hold | hnew := List.mem_append.mp hx
        · obtain ⟨hwaiting, hsent, rest, hq, hnone, hconnect⟩ := hs.comingUp x hold hintroducing
          refine ⟨hwaiting, hsent, rest ++ added.map messageRequest ++ quits, by simp [hq], ?_, ?_⟩
          · intro y hy
            obtain hy | hy := List.mem_append.mp hy
            · obtain hy | hy := List.mem_append.mp hy
              · exact hnone y hy
              · obtain ⟨m, -, rfl⟩ := List.mem_map.mp hy
                exact ⟨asksFor_message m, not_introducing_message m⟩
            · exact ⟨by simp [asksFor, hquits y hy], by simp [Introducing, hquits y hy]⟩
          · -- nothing is read before the utility is connected
            intro haction
            cases (hconnect haction).1.symm.trans hconnected
        · obtain ⟨m, -, rfl⟩ := List.mem_map.mp hnew
          exact absurd hintroducing (not_introducing_message m)
      · simp [Introducing, hquits x hnew] at hintroducing
  | commanded added hc hadded hcommands =>
    have hundone : s.command ≠ .done := by rw [hc]; simp
    refine ⟨hs.given, by simp, ?_, ?_, ?_, ?_⟩
    · intro _
      have hahead := hs.waiting hundone
      unfold underway at hahead ⊢
      rw [List.filterMap_append, hadded, hs.given, ← List.append_assoc]
      exact hahead.append (List.Sublist.refl _)
    · exact fun _ => hs.told (by rw [hc]; simp)
    · intro x hx hset
      obtain hold | hnew := List.mem_append.mp hx
      · exact hs.heard x hold hset
      · exact absurd hset (hcommands x hnew).2
    · intro x hx hintroducing
      obtain hold | hnew := List.mem_append.mp hx
      · cases hc.symm.trans (hs.comingUp x hold hintroducing).waiting
      · exact absurd hintroducing (hcommands x hnew).1

lemma sessionFirst_start (commands : List Command.Request) :
    SessionFirst hashForDevice commands (ControlApp.start commands) := by
  refine ⟨rfl, ?_, ?_, ?_, ?_, ?_⟩
  · intro _
    simp [underway, ControlApp.start, request, asksFor]
  · intro h
    cases h
  · intro h
    exact absurd rfl h
  · intro rq hrq hset
    rw [List.mem_singleton.mp hrq] at hset
    cases hset
  · intro rq hrq _
    rw [List.mem_singleton.mp hrq]
    exact ⟨rfl, rfl, [], rfl, by simp, fun _ => ⟨rfl, rfl⟩⟩

end Agenda

/-! ### The collector -/

/-- The collector sets a session only for a client that has asked for one. -/
def Granted (s : Application) : Prop :=
  ∀ x ∈ s.sent, ∀ info, x.message = .setSession info →
    ∃ rq, (x.client, rq) ∈ s.asked ∧ rq.type = .requestSession

section Granted

open Application

variable {b : Backend} {s s' : Application}

lemma message_asked {client : ClientId} {rq : Control.Request} {write : Bool} {m : Control.Message}
    {nrq : Dispatcher.Request}
    (h : ControlClient.requestHandler client rq write = some (some m, nrq)) :
    rq.type = .requestSession := by
  unfold ControlClient.requestHandler at h
  cases htype : rq.type with
  | requestSession => rfl
  | _ => simp [htype] at h

lemma granted_turn {e : Application.Event} (h : Turn b s e s') (hs : Granted s) : Granted s' := by
  have hnone : ∀ new : List Sent, (∀ x ∈ new, ∀ info, x.message ≠ .setSession info) →
      ∀ x ∈ s.sent ++ new, ∀ info, x.message = .setSession info →
        ∃ rq, (x.client, rq) ∈ s.asked ∧ rq.type = .requestSession := by
    intro new hnew x hx info hinfo
    obtain hold | hx := List.mem_append.mp hx
    · exact hs x hold info hinfo
    · exact absurd hinfo (hnew x hx info)
  cases h with
  | idle => exact hs
  | accept => exact hs
  | control client input last s₁ clients hasks =>
    have hread : Granted s₁ := by
      clear hnone
      induction hasks with
      | refl => exact hs
      | tail _ hlast ih =>
        cases hlast with
        | unknown rq hrq =>
          intro x hx info hinfo
          obtain ⟨rq', hasked, htype⟩ := ih x hx info hinfo
          exact ⟨rq', List.mem_append_left _ hasked, htype⟩
        | known rq write message nrq hrq =>
          intro x hx info hinfo
          obtain hold | hnew := List.mem_append.mp hx
          · obtain ⟨rq', hasked, htype⟩ := ih x hold info hinfo
            exact ⟨rq', List.mem_append_left _ hasked, htype⟩
          · obtain ⟨m, hm, rfl⟩ := List.mem_map.mp hnew
            rw [Option.mem_toList] at hm
            rw [hm] at hrq
            exact ⟨rq, List.mem_append_right _ List.mem_cons_self, message_asked hrq⟩
    exact hread
  | dispatcher write entry rest o hq ho =>
    refine hnone _ ?_
    intro x hx info
    obtain ⟨⟨client, m⟩, hm, rfl⟩ := List.mem_map.mp hx
    cases requestHandler_dispatched ho with
    | answered client' status =>
      rw [← Option.some.inj (Option.mem_toList.mp hm)]
      simp [statusMessage]
    | _ => cases hm
  | device => exact hs
  | database io entry rest o hq ho =>
    refine hnone _ ?_
    intro x hx info
    obtain ⟨⟨client, list⟩, -, rfl⟩ := List.mem_map.mp hx
    cases list <;> simp [ControlList.message]

lemma granted_start (tables : Tables) (erase failed : Bool) :
    Granted (Application.start tables erase failed) := fun _ hx => nomatch hx

end Granted

/-! ### The two programs -/

/-- The collector has read the first requests of the utility, and the utility the first messages of
the collector. -/
structure Wired (client : ClientId) (commands : List Command.Request) (s : Exchange) : Prop where
  session : SessionFirst hashForDevice commands s.control
  granted : Granted s.collector
  bound : s.taken ≤ s.control.sent.length
  taken : askedBy client s.collector = s.control.sent.take s.taken
  received : s.control.received <+: Exchange.stream client s.collector

section Exchanges

variable {hashForDevice} {b : Backend} {client : ClientId} {commands : List Command.Request}
  {s s' : Exchange}

lemma SessionFirst.sent_sublist {s : State} (hs : SessionFirst hashForDevice commands s) :
    s.sent.Sublist (agenda hashForDevice commands) := by
  have hsent : s.sent.Sublist (underway hashForDevice s) := List.sublist_append_left _ _
  by_cases hdone : s.command = .done
  · exact hsent.trans (hs.done hdone)
  · have hfirst : [sessionAsked].Sublist (agenda hashForDevice commands) := by simp [agenda]
    exact hsent.trans ((hs.waiting hdone).trans hfirst)

lemma asksFor_type {rq : ControlApp.Dispatcher.Request} {asked : Control.Request}
    (h : asksFor hashForDevice rq = some asked) :
    asked.type ≠ .unknown ∧ (asked.type = .requestSession → asked = sessionAsked) := by
  unfold asksFor at h
  cases ha : rq.action with
  | addDevice =>
    simp only [ha] at h
    split at h
    · cases h
    · rw [← Option.some.inj h]
      simp
  | setSession | collectorStatus | deviceList | sessionList | quit => simp [ha] at h
  | _ =>
    simp only [ha, Option.some.injEq] at h
    rw [← h]
    simp [sessionAsked]

lemma agenda_type {rq : Control.Request} (h : rq ∈ agenda hashForDevice commands) :
    rq.type ≠ .unknown ∧ (rq.type = .requestSession → rq = sessionAsked) := by
  obtain rfl | h := List.mem_cons.mp h
  · exact ⟨by simp [sessionAsked], fun _ => rfl⟩
  · obtain ⟨command, -, hasks⟩ := List.mem_filterMap.mp h
    unfold commandAsks at hasks
    split at hasks
    · exact asksFor_type hasks
    · cases hasks

lemma wired_control {e : ControlApp.Event} {c : ControlApp.State}
    (hs : Wired hashForDevice client commands s)
    (h : ControlApp.step hashForDevice s.control e = .ok c)
    (hreceived : c.received <+: Exchange.stream client s.collector) :
    Wired hashForDevice client commands { s with control := c } := by
  have hturn := step_utilityTurn h
  have hprefix : s.control.sent <+: c.sent := by
    cases hturn with
    | asked => exact List.prefix_append _ _
    | _ => exact List.prefix_rfl
  refine ⟨sessionFirst_turn hturn hs.session, hs.granted, hs.bound.trans hprefix.length_le, ?_,
    hreceived⟩
  obtain ⟨new, hnew⟩ := hprefix
  dsimp only
  rw [hs.taken, ← hnew, List.take_append_of_le_length hs.bound]

lemma wired_collector {e : Application.Event} {c : Application}
    (hs : Wired hashForDevice client commands s) (h : Application.step b s.collector e = .ok c)
    (count : ℕ) (hbound : s.taken + count ≤ s.control.sent.length)
    (hasked : askedBy client c = s.control.sent.take (s.taken + count)) :
    Wired hashForDevice client commands { s with collector := c, taken := s.taken + count } :=
  ⟨hs.session, granted_turn (step_turn h) hs.granted, hbound, hasked,
    hs.received.trans (step_stream client h)⟩

lemma wired_receive {count : ℕ} {c : ControlApp.State} (hs : Wired hashForDevice client commands s)
    (h : UtilityTurn hashForDevice s.control (.connection (Exchange.receiving client s count).1
      (Exchange.receiving client s count).2) c) :
    c.received <+: Exchange.stream client s.collector := by
  obtain ⟨rest, hrest⟩ := hs.received
  have hdrop : (Exchange.stream client s.collector).drop s.control.received.length = rest := by
    rw [← hrest, List.drop_left]
  cases h with
  | idle => exact hs.received
  | read input last added attached quits hconnected hquits hread =>
    simp only [Exchange.receiving, hdrop] at hread
    rw [readEnvelopes_messages] at hread
    dsimp only at hread ⊢
    rw [← hread, ← hrest]
    exact (List.prefix_append_right_inj _).mpr (List.take_prefix _ _)

lemma wired_step {e : Exchange.Event} (hs : Wired hashForDevice client commands s)
    (h : Exchange.step b hashForDevice client s e = .ok s') :
    Wired hashForDevice client commands s' := by
  have hdown : Wired hashForDevice client commands { s with down := true } :=
    ⟨hs.session, hs.granted, hs.bound, hs.taken, hs.received⟩
  cases e with
  | collector event =>
    simp only [Exchange.step] at h
    split at h
    · rw [← Except.ok.inj h]
      exact hs
    · rename_i hup
      simp only [not_or, Bool.not_eq_true] at hup
      rw [← Except.ok.inj h]
      unfold Exchange.onCollector
      split
      · rename_i c hc
        apply wired_collector hs hc 0 hs.bound
        rw [Nat.add_zero, ← hs.taken]
        exact askedBy_other hc hup.2
      · exact hdown
  | ask writes =>
    simp only [Exchange.step] at h
    split at h
    · rw [← Except.ok.inj h]
      exact hs
    · rename_i hup
      simp only [not_or, Bool.not_eq_true, not_not] at hup
      rw [← Except.ok.inj h]
      obtain ⟨requests, hinput, hrequests⟩ := asking_requests s writes
      have hlength : requests.length ≤ (s.control.sent.drop s.taken).length := by
        have hlen := congrArg List.length hrequests
        rw [List.length_map, List.length_take] at hlen
        omega
      rw [List.length_drop] at hlength
      have hbound := hs.bound
      unfold Exchange.onCollector
      split
      · rename_i c hc
        have hcount : (s.asking writes).1.length = requests.length := by rw [hinput, List.length_map]
        rw [hcount]
        apply wired_collector hs hc requests.length (by omega)
        rw [hinput] at hc
        rw [step_known hup.2 ?_ hc, hs.taken, hrequests, List.take_add]
        intro x hx
        have hmem : x.1 ∈ requests.map fun x => x.1 := List.mem_map_of_mem hx
        rw [hrequests] at hmem
        exact (agenda_type (hs.session.sent_sublist.subset
          (List.mem_of_mem_drop (List.mem_of_mem_take hmem)))).1
      · exact hdown
  | control event =>
    have hother : s.onControl hashForDevice event = .ok s' →
        (∀ input last, event ≠ .connection input last) → Wired hashForDevice client commands s' := by
      intro hevent hevents
      unfold Exchange.onControl at hevent
      split at hevent
      · rename_i c hc
        rw [← Except.ok.inj hevent]
        refine wired_control hs hc ?_
        have hsame : c.received = s.control.received := by
          cases step_utilityTurn hc with
          | read input last => exact absurd rfl (hevents input last)
          | _ => rfl
        rw [hsame]
        exact hs.received
      · cases hevent
    cases event with
    | connection input last =>
      rw [← Except.ok.inj h]
      exact hs
    | queue io =>
      apply hother h
      intro _ _ hevent
      cases hevent
    | command =>
      apply hother h
      intro _ _ hevent
      cases hevent
  | receive count =>
    simp only [Exchange.step, Exchange.onControl] at h
    split at h
    · rename_i c hc
      rw [← Except.ok.inj h]
      exact wired_control hs hc (wired_receive hs (step_utilityTurn hc))
    · cases h

lemma wired_start (client : ClientId) (tables : Tables) (erase failed : Bool) :
    Wired hashForDevice client commands (Exchange.start tables erase failed commands) :=
  ⟨sessionFirst_start commands, granted_start tables erase failed, Nat.le_refl _, rfl,
    List.prefix_rfl⟩

end Exchanges

/-- In every interleaving of a utility with the collector and its other clients, the collector reads
what the utility has sent so far, which is the request for a session and the commands of the user in
their order, each at most once; and no command is sent before the collector has read the request
for a session. -/
theorem utility_session (b : Backend) (client : ClientId) (tables : Tables) (erase failed : Bool)
    (commands : List Command.Request) (events : List Exchange.Event) (s : Exchange)
    (h : Machine.run (Exchange.step b hashForDevice client)
      (Exchange.start tables erase failed commands) events = .ok s) :
    askedBy client s.collector <+: s.control.sent ∧
      s.control.sent.Sublist (agenda hashForDevice commands) ∧
      ∀ rq ∈ s.control.sent, rq ≠ sessionAsked → sessionAsked ∈ askedBy client s.collector := by
  have hs : Wired hashForDevice client commands s :=
    Machine.invariant_run (fun _ _ _ hs _ hstep => wired_step hs hstep)
      (wired_start client tables erase failed) (Machine.guarded_true _ _) h
  refine ⟨hs.taken ▸ List.take_prefix _ _, hs.session.sent_sublist, ?_⟩
  intro rq hrq hne
  -- the commands have been triggered by a session of the collector
  have hdone : s.control.command = .done := by
    by_contra hundone
    have hmem := (hs.session.waiting hundone).subset (List.mem_append_left _ hrq)
    exact hne (List.mem_singleton.mp hmem)
  obtain ⟨info, hinfo⟩ := hs.session.told (by rw [hdone]; simp)
  have hstream := (stream_sublist client s.collector).subset (hs.received.subset hinfo)
  obtain ⟨x, hx, hmessage⟩ := List.mem_map.mp hstream
  obtain ⟨hsent, hclient⟩ := List.mem_filter.mp hx
  obtain ⟨first, hasked, htype⟩ := hs.granted x hsent info hmessage
  have hby : first ∈ askedBy client s.collector :=
    List.mem_map.mpr ⟨_, List.mem_filter.mpr ⟨hasked, hclient⟩, rfl⟩
  have hagenda : first ∈ agenda hashForDevice commands := by
    rw [hs.taken] at hby
    exact hs.session.sent_sublist.subset (List.mem_of_mem_take hby)
  rw [(agenda_type hagenda).2 htype] at hby
  exact hby

/-- The user removes a device, and the request is sent behind the session. -/
theorem utility_session_remove :
    let commands : List Command.Request := [⟨.removeDevice, [(.deviceHash, "d")]⟩]
    let events : List Exchange.Event := [.collector .accept, controlUp, controlUp, controlUp,
      .ask [true], .receive 1, controlUp, .control .command, controlUp]
    ∃ s, Machine.run (Exchange.step (plainBackend .sqlite3) (fun _ => "") 0)
        (Exchange.start (tablesWith ["d"]) false false commands) events = .ok s ∧
      s.control.sent.map (fun rq => rq.id) = ["RequestSession", "RemoveDevice"] ∧
      ∀ rq ∈ s.control.sent, rq ≠ sessionAsked → sessionAsked ∈ askedBy 0 s.collector := by
  intro commands events
  exact ⟨_, rfl, rfl, (utility_session (fun _ => "") (plainBackend .sqlite3) 0 (tablesWith ["d"]) false
    false commands events _ rfl).2.2⟩

end TkmCollector.Proofs
