import TkmCollector.Proofs.ApplicationFrame
import TkmCollector.Proofs.DispatcherFrame

namespace TkmCollector.Proofs

open Application

/-- What the handlers of the dispatcher, and those it hands a request to, take for granted. -/
def DispatcherReady (rq : Dispatcher.Request) : Prop :=
  match rq.action with
  | .initDatabase | .getDevices => rq.client ≠ none
  | .getSessions | .addDevice | .removeDevice | .connectDevice | .disconnectDevice
  | .startCollecting | .stopCollecting => rq.client ≠ none ∧ ∃ m, rq.bulkData = .deviceData m
  | .removeSession => rq.client ≠ none ∧ ∃ m, rq.bulkData = .sessionData m
  | .sendStatus => rq.client ≠ none → rq.args.count .status = true
  | .quitCollector | .quit => True

/-- What the handlers of the database take for granted. -/
def DatabaseReady (rq : IDatabase.Request) : Prop :=
  match rq.action with
  | .getDevices => rq.client ≠ none
  | .getSessions | .addDevice | .removeDevice => rq.client ≠ none ∧ ∃ m, rq.bulkData = .deviceData m
  | .remSession => rq.client ≠ none ∧ ∃ m, rq.bulkData = .sessionData m
  | .addSession => (∃ m, rq.bulkData = .sessionInfo m) ∧ rq.args.count .deviceHash = true
  | .endSession => rq.args.count .sessionHash = true
  | .addData => (∃ m, rq.bulkData = .data m) ∧ rq.args.count .sessionHash = true
  | .checkDatabase | .initDatabase | .connect | .disconnect | .loadDevices | .cleanSessions => True

/-- What the handlers of a device, and those it hands a request to, take for granted. -/
def DeviceReady (rq : IDevice.Request) : Prop :=
  match rq.action with
  | .setSession => ∃ m, rq.bulkData = .sessionInfo m
  | .processData => ∃ m, rq.bulkData = .data m
  | .status => ∃ m, rq.bulkData = .status m
  | .connect | .disconnect | .sendDescriptor | .requestSession | .startCollecting
  | .stopCollecting | .startStream | .stopStream => True

/-- Every queue holds requests that their handlers can take. -/
structure QueuesReady (s : Application) : Prop where
  dispatcher : ∀ e ∈ s.dispatcher, DispatcherReady e.request
  database : ∀ e ∈ s.collector.queue, DatabaseReady e.request
  devices : ∀ d ∈ s.collector.devices, ∀ rq ∈ d.queue, DeviceReady rq

/-- A fault of a handler that finds something else in its request. -/
def FromRequest (fault : Fault) : Prop :=
  fault ∈ [.badAnyCast, .outOfRange, .invalidArguments, .nullClient]

/-! ### The producers -/

lemma ready_asked {client : ClientId} {rq : Control.Request} {write : Bool}
    {message : Option Control.Message} {nrq : Dispatcher.Request}
    (h : ControlClient.requestHandler client rq write = some (message, nrq)) : DispatcherReady nrq := by
  unfold ControlClient.requestHandler at h
  cases htype : rq.type with
  | unknown => simp [htype] at h
  | requestSession =>
    simp only [htype, ControlClient.doRequestSession, Option.some.injEq, Prod.mk.injEq] at h
    rw [← h.2]
    intro _
    cases write <;> rfl
  | initDatabase | quitCollector | getDevices =>
    simp only [htype, Option.some.injEq, Prod.mk.injEq] at h
    rw [← h.2]
    simp [DispatcherReady, ControlClient.doInitDatabase, ControlClient.doQuitCollector,
      ControlClient.doGetDevices, ControlClient.request]
  | _ =>
    simp only [htype, Option.some.injEq, Prod.mk.injEq] at h
    rw [← h.2]
    exact ⟨by simp [ControlClient.doGetSessions, ControlClient.doRemoveSession,
      ControlClient.doAddDevice, ControlClient.doRemoveDevice, ControlClient.doConnectDevice,
      ControlClient.doDisconnectDevice, ControlClient.doStartCollecting,
      ControlClient.doStopCollecting, ControlClient.request], _, rfl⟩

/-- What the dispatcher pushes for a request that it can take. -/
structure OutcomeReady (o : Dispatcher.Outcome) : Prop where
  dispatcher : ∀ rq ∈ o.dispatcher, DispatcherReady rq
  database : ∀ rq ∈ o.database, DatabaseReady rq
  device : ∀ hash rq, o.device = some (hash, rq) → DeviceReady rq

lemma ready_noSuchDevice (client : Option ClientId) : DispatcherReady (noSuchDevice client) :=
  fun _ => rfl

lemma ready_device {action : Dispatcher.Action} {rq : IDevice.Request}
    (h : deviceAction action = some rq.action) : DeviceReady rq := by
  unfold DeviceReady
  cases haction : rq.action with
  | setSession | processData | status =>
    rw [haction] at h
    cases action <;> cases h
  | _ => trivial

lemma ready_toDatabase {rq : Dispatcher.Request} {action : Collector.ClientAction}
    (hready : DispatcherReady rq) (h : databaseAction rq.action = some action) :
    DatabaseReady ⟨rq.client, action.toAction, rq.args, databaseBulk rq⟩ := by
  unfold DispatcherReady at hready
  unfold databaseBulk
  cases haction : rq.action with
  | initDatabase =>
    rw [haction] at h
    rw [← Option.some.inj h]
    trivial
  | getDevices | getSessions | removeSession | addDevice | removeDevice =>
    rw [haction] at h hready
    rw [← Option.some.inj h]
    exact hready
  | _ =>
    rw [haction] at h
    cases h

lemma ready_dispatched {known : String → Bool} {rq : Dispatcher.Request} {o : Dispatcher.Outcome}
    (hready : DispatcherReady rq) (h : Dispatcher.requestHandler known rq = .ok o) : OutcomeReady o := by
  cases requestHandler_dispatched h with
  | database action ha =>
    refine ⟨by simp [Dispatcher.toDatabase], ?_, by simp [Dispatcher.toDatabase]⟩
    intro x hx
    rw [List.mem_singleton.mp hx]
    exact ready_toDatabase hready ha
  | device action deviceData ha =>
    refine ⟨by simp, by simp, ?_⟩
    rintro hash x ⟨⟩
    exact ready_device ha
  | unknown =>
    refine ⟨?_, by simp, by simp⟩
    intro x hx
    rw [List.mem_singleton.mp hx]
    exact ready_noSuchDevice rq.client
  | quitting =>
    refine ⟨?_, by simp [Dispatcher.doQuitCollector], by simp [Dispatcher.doQuitCollector]⟩
    intro x hx
    rw [List.mem_singleton.mp hx]
    trivial
  | unheard | answered => exact ⟨by simp, by simp, by simp⟩

section Device

variable {d d' : MonitorDevice} {e : MonitorDevice.Event} {dbrq : List IDatabase.Request} {o : Outcome}

lemma ready_monitor {rq : IDevice.Request} (h : FromMonitor rq) : DeviceReady rq := by
  cases h with
  | session info => exact ⟨info, rfl⟩
  | data data => exact ⟨data, rfl⟩
  | status status => exact ⟨status, rfl⟩

/-- The queue keeps what it held, but for its head, and gets requests that can be taken. -/
lemma ready_queue (h : Dispatch d e d' dbrq) (hd : ∀ rq ∈ d.queue, DeviceReady rq) :
    ∀ rq ∈ d'.queue, DeviceReady rq := by
  have hpushed : ∀ {rq new : IDevice.Request} {rest : List IDevice.Request}, d.queue = rq :: rest →
      DeviceReady new → ∀ x ∈ rest ++ [new], DeviceReady x := by
    intro rq new rest hq hnew x hx
    obtain hold | hx := List.mem_append.mp hx
    · exact hd x (mem_of_popped hq hold)
    · rw [List.mem_singleton.mp hx]
      exact hnew
  cases h with
  | idle => exact hd
  | control action client args data =>
    intro rq hrq
    obtain hold | hrq := List.mem_append.mp hrq
    · exact hd rq hold
    · rw [List.mem_singleton.mp hrq]
      cases action <;> trivial
  | read clock input last d₁ keep hc hr hacc =>
    obtain ⟨added, streams, rfl, hadded⟩ := accepts_eq hacc
    have hread : ∀ rq ∈ d.queue ++ added, DeviceReady rq := by
      intro rq hrq
      obtain hold | hnew := List.mem_append.mp hrq
      · exact hd rq hold
      · exact ready_monitor (hadded rq hnew)
    cases keep <;> exact hread
  | finalize =>
    rw [finalize_fst]
    exact hd
  | dropped io rq rest hq => exact fun x hx => hd x (mem_of_popped hq hx)
  | connectFailed io rq rest hq =>
    rw [connectFailed_fst]
    exact fun x hx => hd x (mem_of_popped hq hx)
  | connected io rq rest hq => exact hpushed hq trivial
  | descriptorSent io rq rest hq => exact fun x hx => hd x (mem_of_popped hq hx)
  | sessionSet io rq rest info hq => exact hpushed hq trivial
  | disconnecting io rq rest c hq =>
    rw [remConnectionSource_eq]
    exact fun x hx => hd x (mem_of_popped hq hx)
  | streamStarted io rq rest hq => exact fun x hx => hd x (mem_of_popped hq hx)
  | streamStopped io rq rest hq =>
    rw [stopUpdateLanes_eq]
    exact fun x hx => hd x (mem_of_popped hq hx)
  | requested io rq rest action hq ha hs =>
    apply hpushed hq
    obtain ⟨rfl, -⟩ | ⟨rfl, -⟩ | ⟨rfl, -⟩ := hs <;> trivial
  | dataProcessed io rq rest hq => exact fun x hx => hd x (mem_of_popped hq hx)

lemma ready_database (h : Dispatch d e d' dbrq) (hd : ∀ rq ∈ d.queue, DeviceReady rq) :
    ∀ rq ∈ dbrq, DatabaseReady rq := by
  cases dispatch_database h with
  | nothing => simp
  | ended =>
    intro x hx
    rw [List.mem_singleton.mp hx]
    rfl
  | opened io rq rest info =>
    intro x hx
    rw [List.mem_singleton.mp hx]
    exact ⟨⟨info, rfl⟩, rfl⟩
  | stored io rq rest hq ha =>
    intro x hx
    rw [List.mem_singleton.mp hx]
    have hready := hd rq (by rw [hq]; exact List.mem_cons_self)
    unfold DeviceReady at hready
    rw [ha] at hready
    exact ⟨hready, rfl⟩

lemma dispatch_client (h : Dispatch d e d' dbrq) : ∀ rq ∈ dbrq, rq.client = none := by
  cases dispatch_database h with
  | nothing => simp
  | ended | opened | stored =>
    intro rq hrq
    rw [List.mem_singleton.mp hrq]
    rfl

lemma ready_status (rq : IDevice.Request) (status : Val) (reason : String) :
    DispatcherReady (MonitorDevice.sendStatus rq status reason) := by
  intro _
  simp [MonitorDevice.sendStatus, Args.count]

/-- The actions whose requests come from a client. -/
def Asks (action : IDevice.Action) : Prop :=
  action ∈ [.connect, .disconnect, .sendDescriptor, .startCollecting, .stopCollecting]

instance (action : IDevice.Action) : Decidable (Asks action) := inferInstanceAs (Decidable (_ ∈ _))

/-- What becomes of the head of a device queue: the client gets a status, or the request goes back
to the queue, or no client waits for it. What is pushed besides has no client. -/
inductive Reply (rq : IDevice.Request) (rest : List IDevice.Request) (o : Outcome) : Prop where
  | answered (status : Val) (reason : String) (added : List IDevice.Request) (ha : Asks rq.action)
      (hd : o.dispatcher = [MonitorDevice.sendStatus rq status reason])
      (hq : o.device.queue = rest ++ added) (hadded : ∀ x ∈ added, x.client = none)
  | requeued (ha : rq.action = .connect) (hd : o.dispatcher = [])
      (hq : o.device.queue = rest ++ [{ rq with action := .sendDescriptor }])
  | silent (added : List IDevice.Request) (ha : ¬ Asks rq.action) (hd : o.dispatcher = [])
      (hq : o.device.queue = rest ++ added) (hadded : ∀ x ∈ added, x.client = none)

lemma requestHandler_reply {rq : IDevice.Request} {rest : List IDevice.Request} {io : Io}
    (h : MonitorDevice.requestHandler (popped d rest) rq io = .ok o) : Reply rq rest o := by
  have hinternal : ∀ action, ∀ x ∈ [MonitorDevice.internalRequest action], x.client = none := by
    intro action x hx
    rw [List.mem_singleton.mp hx]
    rfl
  have hnone : ∀ x ∈ ([] : List IDevice.Request), x.client = none := by simp
  unfold MonitorDevice.requestHandler at h
  cases ha : rq.action with
  | connect =>
    have hasks : Asks rq.action := by rw [ha]; decide
    simp only [ha, MonitorDevice.doConnect, MonitorDevice.createConnection] at h
    cases hc : (popped d rest).connection with
    | some c =>
      simp only [hc, Except.ok.injEq] at h
      rw [← h]
      exact .answered _ _ [] hasks rfl (List.append_nil _).symm hnone
    | none =>
      simp only [hc] at h
      split at h
      · cases h
      · cases hio : io.connect with
        | unresolved => simp [hio] at h
        | failed =>
          simp only [hio, Except.ok.injEq] at h
          rw [← h]
          apply Reply.answered _ _ [] hasks rfl _ hnone
          change (connecting (popped d rest)).deleteConnection.disconnect.1.queue = rest ++ []
          rw [connectFailed_fst, List.append_nil]
        | established =>
          simp only [hio, Except.ok.injEq] at h
          rw [← h]
          exact .requeued ha rfl rfl
  | disconnect =>
    have hasks : Asks rq.action := by rw [ha]; decide
    simp only [ha, MonitorDevice.doDisconnect] at h
    split at h
    · split at h
      · cases h
      · rw [← Except.ok.inj h, remConnectionSource_eq]
        exact .answered _ _ [] hasks rfl (List.append_nil _).symm hnone
    · rw [← Except.ok.inj h]
      exact .answered _ _ [] hasks rfl (List.append_nil _).symm hnone
  | sendDescriptor =>
    have hasks : Asks rq.action := by rw [ha]; decide
    simp only [ha, MonitorDevice.doSendDescriptor] at h
    split at h
    · cases h
    · split at h
      · rw [← Except.ok.inj h]
        exact .answered _ _ [] hasks rfl (List.append_nil _).symm hnone
      · rw [← Except.ok.inj h]
        exact .answered _ _ [] hasks rfl (List.append_nil _).symm hnone
  | requestSession =>
    have hasks : ¬ Asks rq.action := by rw [ha]; decide
    simp only [ha, MonitorDevice.doRequestSession] at h
    split at h
    · cases h
    · rw [← Except.ok.inj h]
      exact .silent [] hasks rfl (List.append_nil _).symm hnone
  | setSession =>
    have hasks : ¬ Asks rq.action := by rw [ha]; decide
    simp only [ha, MonitorDevice.doSetSession] at h
    split at h
    · cases h
    · rw [← Except.ok.inj h]
      exact .silent [MonitorDevice.internalRequest .startStream] hasks rfl rfl (hinternal _)
  | startCollecting =>
    have hasks : Asks rq.action := by rw [ha]; decide
    simp only [ha, MonitorDevice.doStartCollecting] at h
    split at h
    · rw [← Except.ok.inj h]
      exact .answered _ _ [MonitorDevice.internalRequest .requestSession] hasks rfl rfl (hinternal _)
    · split at h
      · rw [← Except.ok.inj h]
        exact .answered _ _ [MonitorDevice.internalRequest .startStream] hasks rfl rfl (hinternal _)
      · rw [← Except.ok.inj h]
        exact .answered _ _ [] hasks rfl (List.append_nil _).symm hnone
  | stopCollecting =>
    have hasks : Asks rq.action := by rw [ha]; decide
    simp only [ha, MonitorDevice.doStopCollecting] at h
    split at h
    · rw [← Except.ok.inj h]
      exact .answered _ _ [MonitorDevice.internalRequest .stopStream] hasks rfl rfl (hinternal _)
    · rw [← Except.ok.inj h]
      exact .answered _ _ [] hasks rfl (List.append_nil _).symm hnone
  | startStream =>
    have hasks : ¬ Asks rq.action := by rw [ha]; decide
    simp only [ha, MonitorDevice.doStartStream, Except.ok.injEq] at h
    rw [← h]
    exact .silent [] hasks rfl (List.append_nil _).symm hnone
  | stopStream =>
    have hasks : ¬ Asks rq.action := by rw [ha]; decide
    simp only [ha, MonitorDevice.doStopStream, Except.ok.injEq] at h
    rw [← h, stopUpdateLanes_eq]
    exact .silent [] hasks rfl (List.append_nil _).symm hnone
  | processData =>
    have hasks : ¬ Asks rq.action := by rw [ha]; decide
    simp only [ha, MonitorDevice.doProcessData, Except.ok.injEq] at h
    rw [← h]
    exact .silent [] hasks rfl (List.append_nil _).symm hnone
  | status =>
    have hasks : ¬ Asks rq.action := by rw [ha]; decide
    simp only [ha, MonitorDevice.doStatus] at h
    split at h
    · cases h
    · rw [← Except.ok.inj h]
      exact .silent [] hasks rfl (List.append_nil _).symm hnone

end Device

section Database

variable {b : Backend} {states : String → Option Control.DeviceState} {io : DbIo} {t : Tables}
  {rq : IDatabase.Request} {o : DbOutcome}

/-- The actions of the database whose requests are answered. -/
def AsksDatabase (action : IDatabase.Action) : Prop :=
  action ∈ [.initDatabase, .getDevices, .addDevice, .removeDevice, .getSessions, .remSession]

instance (action : IDatabase.Action) : Decidable (AsksDatabase action) :=
  inferInstanceAs (Decidable (_ ∈ _))

/-- The arguments of a status for the client of a request. -/
def StatusFor (rq : IDatabase.Request) (args : Args) : Prop :=
  args.lookup .requestId = rq.args.lookup .requestId ∧ args.count .status = true

/-- What a handler of the database leaves behind, besides the tables. -/
inductive Handled (rq : IDatabase.Request) : DbOutcome → Prop where
  | answered (t : Tables) (args : Args) (ha : AsksDatabase rq.action) (hargs : StatusFor rq args) :
      Handled rq (Database.answer t rq args)
  | added (t : Tables) (args : Args) (ha : rq.action = .addDevice) (hargs : StatusFor rq args) :
      Handled rq { Database.answer t rq args with database := [⟨none, .loadDevices, [], .int 0⟩] }
  | devices (t : Tables) (args : Args) (client : ClientId) (list : List Control.DeviceData)
      (ha : rq.action = .getDevices) (hargs : StatusFor rq args) (hclient : rq.client = some client) :
      Handled rq { Database.answer t rq args with lists := [(client, .devices list)] }
  | sessions (t : Tables) (args : Args) (client : ClientId) (list : List Control.SessionData)
      (ha : rq.action = .getSessions) (hargs : StatusFor rq args) (hclient : rq.client = some client) :
      Handled rq { Database.answer t rq args with lists := [(client, .sessions list)] }
  | quiet (t : Tables) (ha : ¬ AsksDatabase rq.action) : Handled rq (Database.quiet t)
  | loaded (t : Tables) (devices : List Control.DeviceData) (ha : ¬ AsksDatabase rq.action) :
      Handled rq { Database.quiet t with loaded := devices }
  | cleaned (t : Tables) (opened : List Control.SessionData) (ha : ¬ AsksDatabase rq.action) :
      Handled rq { Database.quiet t with
        database := opened.map fun session =>
          ⟨none, .endSession, Args.emplace [] .sessionHash session.hash, .int 0⟩ }

lemma sendList_handled {rq : IDatabase.Request} (t : Tables) (client : ClientId) (io : DbIo)
    (reply : Option TkmCollector.Reply) (list : ControlList) (failure : String)
    (ha : AsksDatabase rq.action)
    (hsent : ∀ args, StatusFor rq args →
      Handled rq { Database.answer t rq args with lists := [(client, list)] }) :
    Handled rq (Database.sendList t rq client io reply list failure) := by
  unfold Database.sendList
  split
  · exact .answered _ _ ha ⟨by simp, by simp [Args.count]⟩
  · cases io.write with
    | true => exact hsent _ ⟨by simp, by simp [Args.count]⟩
    | false => exact .answered _ _ ha ⟨by simp, by simp [Args.count]⟩

lemma addDevice_handled {rq : IDatabase.Request} (t : Tables) (args : Args) (added : Bool)
    (ha : rq.action = .addDevice) (hargs : StatusFor rq args) :
    Handled rq { Database.answer t rq args with
      database := if added then [⟨none, .loadDevices, [], .int 0⟩] else [] } := by
  cases added with
  | true => exact .added t args ha hargs
  | false => exact .answered t args (by rw [ha]; decide) hargs

lemma requestHandler_handled (h : Database.requestHandler b states io t rq = .ok o) :
    Handled rq o := by
  unfold Database.requestHandler at h
  cases ha : rq.action with
  | initDatabase =>
    have hasks : AsksDatabase rq.action := by rw [ha]; decide
    simp only [ha, Database.doInitDatabase] at h
    split at h
    · rw [← Except.ok.inj h]
      exact .answered _ _ hasks ⟨by simp, by simp [Args.count]⟩
    · rw [← Except.ok.inj h]
      exact .answered _ _ hasks ⟨by simp, by simp [Args.count]⟩
    · rw [← Except.ok.inj h]
      exact .answered _ _ hasks ⟨by simp, by simp [Args.count]⟩
    · cases h
    · rw [← Except.ok.inj h]
      exact .answered _ _ hasks ⟨by simp, by simp [Args.count]⟩
  | getDevices =>
    simp only [ha, Database.doGetDevices] at h
    split at h
    · cases h
    · rename_i client hclient
      rw [← Except.ok.inj h]
      apply sendList_handled _ _ _ _ _ _ (by rw [ha]; decide)
      exact fun args hargs => .devices _ args client _ ha hargs hclient
  | getSessions =>
    simp only [ha, Database.doGetSessions] at h
    split at h
    · cases h
    · cases h
    · rename_i client _ hclient _
      rw [← Except.ok.inj h]
      apply sendList_handled _ _ _ _ _ _ (by rw [ha]; decide)
      exact fun args hargs => .sessions _ args client _ ha hargs hclient
  | addDevice =>
    have hasks : AsksDatabase rq.action := by rw [ha]; decide
    simp only [ha, Database.doAddDevice] at h
    split at h
    · cases h
    · cases h
    · split at h
      · rw [← Except.ok.inj h]
        exact .answered _ _ hasks ⟨by simp, by simp [Args.count]⟩
      · split at h
        · rw [← Except.ok.inj h]
          exact .answered _ _ hasks ⟨by simp, by simp [Args.count]⟩
        · rw [← Except.ok.inj h]
          exact addDevice_handled _ _ _ ha ⟨by simp, by simp [Args.count]⟩
  | removeDevice =>
    have hasks : AsksDatabase rq.action := by rw [ha]; decide
    simp only [ha, Database.doRemoveDevice] at h
    split at h
    · cases h
    · cases h
    · split at h
      · rw [← Except.ok.inj h]
        exact .answered _ _ hasks ⟨by simp, by simp [Args.count]⟩
      · rw [← Except.ok.inj h]
        refine .answered _ _ hasks ⟨?_, ?_⟩
        · split <;> simp
        · split <;> simp [Args.count]
  | remSession =>
    have hasks : AsksDatabase rq.action := by rw [ha]; decide
    simp only [ha, Database.doRemSession] at h
    split at h
    · cases h
    · cases h
    · split at h
      · rw [← Except.ok.inj h]
        exact .answered _ _ hasks ⟨by simp, by simp [Args.count]⟩
      · split at h
        · rw [← Except.ok.inj h]
          exact .answered _ _ hasks ⟨by simp, by simp [Args.count]⟩
        · rw [← Except.ok.inj h]
          refine .answered _ _ hasks ⟨?_, ?_⟩
          · split <;> simp
          · split <;> simp [Args.count]
  | checkDatabase | disconnect =>
    simp only [ha, Except.ok.injEq] at h
    rw [← h]
    exact .quiet _ (by rw [ha]; decide)
  | connect =>
    simp only [ha, Database.doConnect] at h
    split at h
    · cases h
    · rw [← Except.ok.inj h]
      exact .quiet _ (by rw [ha]; decide)
  | loadDevices =>
    simp only [ha, Database.doLoadDevices, Except.ok.injEq] at h
    rw [← h]
    exact .loaded _ _ (by rw [ha]; decide)
  | cleanSessions =>
    simp only [ha, Database.doCleanSessions, Except.ok.injEq] at h
    rw [← h]
    exact .cleaned _ _ (by rw [ha]; decide)
  | addSession =>
    simp only [ha, Database.doAddSession] at h
    split at h
    · cases h
    · cases h
    · rw [← Except.ok.inj h]
      exact .quiet _ (by rw [ha]; decide)
  | endSession =>
    simp only [ha, Database.doEndSession] at h
    split at h
    · cases h
    · rw [← Except.ok.inj h]
      exact .quiet _ (by rw [ha]; decide)
  | addData =>
    simp only [ha, Database.doAddData] at h
    split at h
    · cases h
    · cases h
    · split at h
      · rw [← Except.ok.inj h]
        exact .quiet _ (by rw [ha]; decide)
      · rw [← Except.ok.inj h]
        exact .quiet _ (by rw [ha]; decide)

/-- What becomes of the head of the database queue: its client gets a status with its id, or no
client waits for it. -/
inductive DatabaseReply (rq : IDatabase.Request) (o : DbOutcome) : Prop where
  | answered (args : Args) (ha : AsksDatabase rq.action)
      (hd : o.dispatcher = [Database.sendStatus rq args])
      (hid : args.lookup .requestId = rq.args.lookup .requestId) (hstatus : args.count .status = true)
  | silent (ha : ¬ AsksDatabase rq.action) (hd : o.dispatcher = [])

lemma requestHandler_databaseReply (h : Database.requestHandler b states io t rq = .ok o) :
    DatabaseReply rq o := by
  cases requestHandler_handled h with
  | answered t args ha hargs => exact .answered args ha rfl hargs.1 hargs.2
  | added t args ha hargs => exact .answered args (by rw [ha]; decide) rfl hargs.1 hargs.2
  | devices t args client list ha hargs =>
    exact .answered args (by rw [ha]; decide) rfl hargs.1 hargs.2
  | sessions t args client list ha hargs =>
    exact .answered args (by rw [ha]; decide) rfl hargs.1 hargs.2
  | quiet t ha | loaded t devices ha | cleaned t opened ha => exact .silent ha rfl

lemma requestHandler_pushes (h : Database.requestHandler b states io t rq = .ok o) :
    ∀ q ∈ o.database, q.client = none ∧ DatabaseReady q := by
  cases requestHandler_handled h with
  | added =>
    intro q hq
    rw [List.mem_singleton.mp hq]
    exact ⟨rfl, trivial⟩
  | cleaned =>
    intro q hq
    obtain ⟨session, -, rfl⟩ := List.mem_map.mp hq
    exact ⟨rfl, rfl⟩
  | answered | devices | sessions | quiet | loaded =>
    intro q hq
    cases hq

/-! ### The consumers -/

/-- A handler of the database that can take its request dies of nothing but its connection. -/
lemma databaseReady_error {fault : Fault} (hready : DatabaseReady rq)
    (h : Database.requestHandler b states io t rq = .error fault) : fault = .brokenConnection := by
  unfold Database.requestHandler at h
  unfold DatabaseReady at hready
  cases ha : rq.action with
  | initDatabase =>
    simp only [ha, Database.doInitDatabase] at h
    split at h
    · cases h
    · cases h
    · cases h
    · exact (Except.error.inj h).symm
    · cases h
  | connect =>
    simp only [ha, Database.doConnect] at h
    split at h
    · exact (Except.error.inj h).symm
    · cases h
  | getDevices =>
    simp only [ha] at hready
    obtain ⟨client, hclient⟩ := Option.ne_none_iff_exists'.mp hready
    simp [ha, Database.doGetDevices, hclient] at h
  | getSessions =>
    simp only [ha] at hready
    obtain ⟨client, hclient⟩ := Option.ne_none_iff_exists'.mp hready.1
    obtain ⟨m, hm⟩ := hready.2
    simp [ha, Database.doGetSessions, hclient, hm, BulkData.castDeviceData] at h
  | addDevice =>
    simp only [ha] at hready
    obtain ⟨client, hclient⟩ := Option.ne_none_iff_exists'.mp hready.1
    obtain ⟨m, hm⟩ := hready.2
    simp only [ha, Database.doAddDevice, hclient, hm, BulkData.castDeviceData] at h
    split at h
    · cases h
    · split at h <;> cases h
  | removeDevice =>
    simp only [ha] at hready
    obtain ⟨client, hclient⟩ := Option.ne_none_iff_exists'.mp hready.1
    obtain ⟨m, hm⟩ := hready.2
    simp only [ha, Database.doRemoveDevice, hclient, hm, BulkData.castDeviceData] at h
    split at h <;> cases h
  | remSession =>
    simp only [ha] at hready
    obtain ⟨client, hclient⟩ := Option.ne_none_iff_exists'.mp hready.1
    obtain ⟨m, hm⟩ := hready.2
    simp only [ha, Database.doRemSession, hclient, hm, BulkData.castSessionData] at h
    split at h
    · cases h
    · split at h <;> cases h
  | addSession =>
    simp only [ha] at hready
    obtain ⟨⟨m, hm⟩, hkey⟩ := hready
    obtain ⟨deviceHash, hhash⟩ := Option.isSome_iff_exists.mp hkey
    simp [ha, Database.doAddSession, hm, hhash, BulkData.castSessionInfo] at h
  | endSession =>
    simp only [ha] at hready
    obtain ⟨sessionHash, hhash⟩ := Option.isSome_iff_exists.mp hready
    simp [ha, Database.doEndSession, hhash] at h
  | addData =>
    simp only [ha] at hready
    obtain ⟨⟨m, hm⟩, hkey⟩ := hready
    obtain ⟨sessionHash, hhash⟩ := Option.isSome_iff_exists.mp hkey
    simp only [ha, Database.doAddData, hm, hhash, BulkData.castData] at h
    split at h <;> cases h
  | checkDatabase | disconnect => simp [ha] at h
  | loadDevices => simp [ha, Database.doLoadDevices] at h
  | cleanSessions => simp [ha, Database.doCleanSessions] at h

end Database

lemma dispatched_status {known : String → Bool} {rq : Dispatcher.Request} {o : Dispatcher.Outcome}
    {client : ClientId} {message : Control.Message} (h : Dispatcher.requestHandler known rq = .ok o)
    (hmessage : o.message = some (client, message)) :
    rq.client = some client ∧ ∃ value, rq.args.lookup .status = some value ∧
      message = .status {
        requestId := (rq.args.lookup .requestId).getD ""
        what := Dispatcher.whatFor value
        reason := (rq.args.lookup .reason).getD "" } := by
  cases requestHandler_dispatched h with
  | answered client' status ha hc hs =>
    simp only [Option.some.injEq, Prod.mk.injEq] at hmessage
    exact ⟨by rw [hc, hmessage.1], status, hs, hmessage.2.symm⟩
  | _ => cases hmessage

lemma dispatcherReady_error {known : String → Bool} {rq : Dispatcher.Request} {fault : Fault}
    (hready : DispatcherReady rq) : Dispatcher.requestHandler known rq ≠ .error (.fault fault) := by
  intro h
  unfold Dispatcher.requestHandler at h
  unfold DispatcherReady at hready
  cases ha : rq.action with
  | connectDevice | disconnectDevice | startCollecting | stopCollecting =>
    simp only [ha] at hready
    obtain ⟨m, hm⟩ := hready.2
    simp only [ha, Dispatcher.doConnectDevice, Dispatcher.doDisconnectDevice,
      Dispatcher.doStartCollecting, Dispatcher.doStopCollecting, Dispatcher.toDevice, hm,
      BulkData.castDeviceData] at h
    split at h <;> cases h
  | sendStatus =>
    simp only [ha] at hready
    simp only [ha, Dispatcher.doSendStatus, Args.atKey] at h
    cases hclient : rq.client with
    | none => simp [hclient] at h
    | some client =>
      obtain ⟨status, hstatus⟩ := Option.isSome_iff_exists.mp (hready (by simp [hclient]))
      simp [hclient, hstatus] at h
  | quit => simp [ha, Dispatcher.doQuit] at h
  | _ => simp [ha] at h

lemma deviceReady_error {d : MonitorDevice} {e : MonitorDevice.Event} {fault : Fault}
    (hd : ∀ rq ∈ d.queue, DeviceReady rq) (h : d.step e = .error fault) : ¬ FromRequest fault := by
  cases e with
  | control action client args data => simp [MonitorDevice.step] at h
  | connection clock input last =>
    simp only [MonitorDevice.step] at h
    split at h <;> cases h
  | finalize =>
    simp only [MonitorDevice.step] at h
    split at h <;> cases h
  | timer timer =>
    simp only [MonitorDevice.step, MonitorDevice.update] at h
    split at h
    · split at h
      · cases h
      · split at h
        · rw [← Except.error.inj h]
          simp [FromRequest]
        · cases h
    · cases h
  | queue io =>
    simp only [MonitorDevice.step] at h
    cases hq : d.queue with
    | nil => simp [hq] at h
    | cons rq rest =>
      have hready := hd rq (by rw [hq]; exact List.mem_cons_self)
      simp only [hq] at h
      unfold MonitorDevice.requestHandler at h
      unfold DeviceReady at hready
      cases ha : rq.action with
      | connect =>
        simp only [ha, MonitorDevice.doConnect] at h
        split at h
        · cases h
        · split at h
          · rw [← Except.error.inj h]
            simp [FromRequest]
          · split at h
            · rw [← Except.error.inj h]
              simp [FromRequest]
            · cases h
            · cases h
      | disconnect =>
        simp only [ha, MonitorDevice.doDisconnect] at h
        split at h
        · split at h
          · rw [← Except.error.inj h]
            simp [FromRequest]
          · cases h
        · cases h
      | sendDescriptor =>
        simp only [ha, MonitorDevice.doSendDescriptor] at h
        split at h
        · rw [← Except.error.inj h]
          simp [FromRequest]
        · split at h <;> cases h
      | requestSession =>
        simp only [ha, MonitorDevice.doRequestSession] at h
        split at h
        · rw [← Except.error.inj h]
          simp [FromRequest]
        · cases h
      | setSession =>
        simp only [ha] at hready
        obtain ⟨m, hm⟩ := hready
        simp [ha, MonitorDevice.doSetSession, hm, BulkData.castSessionInfo] at h
      | startCollecting =>
        simp only [ha, MonitorDevice.doStartCollecting] at h
        split at h
        · cases h
        · split at h <;> cases h
      | stopCollecting =>
        simp only [ha, MonitorDevice.doStopCollecting] at h
        split at h <;> cases h
      | startStream => simp [ha, MonitorDevice.doStartStream] at h
      | stopStream => simp [ha, MonitorDevice.doStopStream] at h
      | processData => simp [ha, MonitorDevice.doProcessData] at h
      | status =>
        simp only [ha] at hready
        obtain ⟨m, hm⟩ := hready
        simp [ha, MonitorDevice.doStatus, hm, BulkData.castStatus] at h

/-! ### The whole application -/

section Application

variable {b : Backend} {s s' : Application}

lemma queuesReady_ask {client : ClientId} (h : Ask client s s') (hs : QueuesReady s) : QueuesReady s' := by
  cases h with
  | unknown => exact ⟨hs.dispatcher, hs.database, hs.devices⟩
  | known rq write message nrq hrq =>
    refine ⟨?_, hs.database, hs.devices⟩
    intro e he
    obtain hold | he := List.mem_append.mp he
    · exact hs.dispatcher e hold
    · rw [List.mem_singleton.mp he]
      exact ready_asked hrq

lemma queuesReady_deliver {rest : List DispatcherEntry} {o : Dispatcher.Outcome} {write : Bool}
    {served : Option Nat} (hs : QueuesReady s) (hrest : rest ⊆ s.dispatcher) (ho : OutcomeReady o) :
    QueuesReady (deliver { s with dispatcher := rest } o write served) := by
  constructor
  · intro e he
    obtain hold | hnew := List.mem_append.mp he
    · exact hs.dispatcher e (hrest hold)
    · obtain ⟨rq, hrq, rfl⟩ := List.mem_map.mp hnew
      exact ho.dispatcher rq hrq
  · intro e he
    obtain hold | hnew := List.mem_append.mp he
    · exact hs.database e hold
    · obtain ⟨rq, hrq, rfl⟩ := List.mem_map.mp hnew
      exact ho.database rq hrq
  · intro x hx rq' hrq'
    obtain hold | ⟨d, hd, hash, rq, hdevice, rfl⟩ := mem_deliver hx
    · exact hs.devices x hold rq' hrq'
    · obtain hold | hnew := List.mem_append.mp hrq'
      · exact hs.devices d hd rq' hold
      · rw [List.mem_singleton.mp hnew]
        exact ho.device hash rq hdevice

lemma dispatcher_device {d : MonitorDevice} {e : MonitorDevice.Event} {o : Outcome}
    (h : d.step e = .ok o) : ∀ rq ∈ o.dispatcher, DispatcherReady rq := by
  have hquiet : o.dispatcher = [] → ∀ rq ∈ o.dispatcher, DispatcherReady rq := by
    intro hnil
    rw [hnil]
    simp
  cases e with
  | control action client args data =>
    simp only [MonitorDevice.step, Except.ok.injEq] at h
    exact hquiet (by rw [← h])
  | connection clock input last =>
    simp only [MonitorDevice.step] at h
    split at h <;> exact hquiet (by rw [← Except.ok.inj h])
  | finalize =>
    simp only [MonitorDevice.step] at h
    split at h <;> exact hquiet (by rw [← Except.ok.inj h])
  | timer timer =>
    simp only [MonitorDevice.step, MonitorDevice.update] at h
    split at h
    · split at h
      · exact hquiet (by rw [← Except.ok.inj h])
      · split at h
        · cases h
        · exact hquiet (by rw [← Except.ok.inj h])
    · exact hquiet (by rw [← Except.ok.inj h])
  | queue io =>
    simp only [MonitorDevice.step] at h
    cases hq : d.queue with
    | nil =>
      simp only [hq, Except.ok.injEq] at h
      exact hquiet (by rw [← h])
    | cons rq rest =>
      simp only [hq] at h
      cases requestHandler_reply h with
      | answered status reason added ha hd =>
        rw [hd]
        intro rq' hrq'
        rw [List.mem_singleton.mp hrq']
        exact ready_status rq status reason
      | requeued ha hd => exact hquiet hd
      | silent added ha hd => exact hquiet hd

lemma queuesReady_turn {e : Application.Event} (h : Turn b s e s') (hs : QueuesReady s) :
    QueuesReady s' := by
  cases h with
  | idle => exact hs
  | accept => exact ⟨hs.dispatcher, hs.database, hs.devices⟩
  | control client input last s₁ clients hasks =>
    have hread : QueuesReady s₁ := by
      induction hasks with
      | refl => exact hs
      | tail _ hlast ih => exact queuesReady_ask hlast ih
    exact ⟨hread.dispatcher, hread.database, hread.devices⟩
  | dispatcher write entry rest o hq ho =>
    have hready := hs.dispatcher entry (by rw [hq]; exact List.mem_cons_self)
    apply queuesReady_deliver hs _ (ready_dispatched hready ho)
    rw [hq]
    exact List.subset_cons_self entry rest
  | device _ hash event d o he hget ho =>
    have hd := hs.devices d (mem_of_getDevice hget)
    have hdispatch := step_dispatch ho
    constructor
    · intro x hx
      obtain hold | hnew := List.mem_append.mp hx
      · exact hs.dispatcher x hold
      · obtain ⟨rq, hrq, rfl⟩ := List.mem_map.mp hnew
        exact dispatcher_device ho rq hrq
    · intro x hx
      obtain hold | hnew := List.mem_append.mp hx
      · exact hs.database x hold
      · obtain ⟨rq, hrq, rfl⟩ := List.mem_map.mp hnew
        exact ready_database hdispatch hd rq hrq
    · intro x hx
      obtain hold | rfl := mem_update hx
      · exact hs.devices x hold
      · exact ready_queue hdispatch hd
  | database io entry rest o hq ho =>
    constructor
    · intro x hx
      obtain hold | hnew := List.mem_append.mp hx
      · exact hs.dispatcher x hold
      · obtain ⟨rq, hrq, rfl⟩ := List.mem_map.mp hnew
        cases requestHandler_databaseReply ho with
        | answered args ha hd hid hstatus =>
          rw [hd, List.mem_singleton] at hrq
          rw [hrq]
          exact fun _ => hstatus
        | silent ha hd =>
          rw [hd] at hrq
          cases hrq
    · intro x hx
      obtain hold | hnew := List.mem_append.mp hx
      · exact hs.database x (by rw [hq]; exact List.mem_cons_of_mem entry hold)
      · obtain ⟨rq, hrq, rfl⟩ := List.mem_map.mp hnew
        exact (requestHandler_pushes ho rq hrq).2
    · intro x hx
      obtain hold | ⟨row, -, rfl⟩ := mem_load hx
      · exact hs.devices x hold
      · simp [MonitorDevice.loaded]

lemma queuesReady_start (tables : Tables) (erase failed : Bool) :
    QueuesReady (Application.start tables erase failed) := by
  refine ⟨?_, ?_, ?_⟩
  · cases failed with
    | false => simp [Application.start]
    | true =>
      intro e he
      rw [List.mem_singleton.mp he]
      trivial
  · have hstart : ∀ e ∈ (Collector.start tables).queue, DatabaseReady e.request := by
      intro e he
      simp only [Collector.start, List.mem_cons, List.not_mem_nil, or_false] at he
      obtain rfl | rfl | rfl := he <;> trivial
    cases erase with
    | false => exact hstart
    | true =>
      intro e he
      obtain hold | he := List.mem_append.mp he
      · exact hstart e hold
      · rw [List.mem_singleton.mp he]
        trivial
  · cases erase <;> simp [Application.start, Collector.start]

lemma step_not_fromRequest (hs : QueuesReady s) (e : Application.Event) {fault : Fault}
    (hfault : FromRequest fault) : Application.step b s e ≠ .error (.fault fault) := by
  have hdevice : ∀ hash event served, onCollector b s (.device hash event) served ≠
      .error (.fault fault) := by
    intro hash event served h
    unfold onCollector Collector.step at h
    cases hget : s.collector.devices.getDevice hash with
    | none => simp [hget] at h
    | some d =>
      cases ho : d.step event with
      | ok o => simp [hget, ho] at h
      | error fault' =>
        simp only [hget, ho, Except.error.injEq, Stop.fault.injEq] at h
        rw [h] at ho
        exact deviceReady_error (hs.devices d (mem_of_getDevice hget)) ho hfault
  intro h
  cases e with
  | accept => simp [Application.step] at h
  | control client input last =>
    simp only [Application.step] at h
    split at h <;> cases h
  | dispatcher write =>
    simp only [Application.step] at h
    cases hq : s.dispatcher with
    | nil => simp [hq] at h
    | cons entry rest =>
      have hready := hs.dispatcher entry (by rw [hq]; exact List.mem_cons_self)
      cases ho : Dispatcher.requestHandler s.known entry.request with
      | ok o => simp [hq, ho] at h
      | error stop =>
        simp only [hq, ho, Except.error.injEq] at h
        rw [h] at ho
        exact dispatcherReady_error hready ho
  | connection hash clock input last => exact hdevice _ _ _ h
  | finalize hash => exact hdevice _ _ _ h
  | queue hash io => exact hdevice _ _ _ h
  | timer hash timer => exact hdevice _ _ _ h
  | database io =>
    simp only [Application.step, onCollector, Collector.step] at h
    cases hq : s.collector.queue with
    | nil => simp [hq] at h
    | cons entry rest =>
      have hready := hs.database entry (by rw [hq]; exact List.mem_cons_self)
      cases ho : Database.requestHandler b s.collector.deviceState io s.collector.tables
          entry.request with
      | ok o => simp [hq, ho] at h
      | error fault' =>
        simp only [hq, ho, Except.error.injEq, Stop.fault.injEq] at h
        rw [databaseReady_error hready ho] at h
        rw [← h] at hfault
        simp [FromRequest] at hfault

end Application

lemma dispatcher_sendStatus {d : MonitorDevice} {e : MonitorDevice.Event} {o : Outcome}
    (h : d.step e = .ok o) : ∀ rq ∈ o.dispatcher, rq.action = .sendStatus := by
  cases e with
  | control action client args data =>
    simp only [MonitorDevice.step, Except.ok.injEq] at h
    simp [← h]
  | connection clock input last =>
    simp only [MonitorDevice.step] at h
    split at h <;> simp [← Except.ok.inj h]
  | finalize =>
    simp only [MonitorDevice.step] at h
    split at h <;> simp [← Except.ok.inj h]
  | timer timer =>
    simp only [MonitorDevice.step, MonitorDevice.update] at h
    split at h
    · split at h
      · simp [← Except.ok.inj h]
      · split at h
        · cases h
        · simp [← Except.ok.inj h]
    · simp [← Except.ok.inj h]
  | queue io =>
    simp only [MonitorDevice.step] at h
    cases hq : d.queue with
    | nil =>
      simp only [hq, Except.ok.injEq] at h
      simp [← h]
    | cons rq rest =>
      simp only [hq] at h
      cases requestHandler_reply h with
      | answered status reason added ha hd =>
        rw [hd]
        intro rq' hrq'
        rw [List.mem_singleton.mp hrq']
        rfl
      | requeued ha hd => simp [hd]
      | silent added ha hd => simp [hd]

lemma database_sendStatus {b : Backend} {states : String → Option Control.DeviceState} {io : DbIo}
    {t : Tables} {rq : IDatabase.Request} {o : DbOutcome}
    (h : Database.requestHandler b states io t rq = .ok o) :
    ∀ x ∈ o.dispatcher, x.action = .sendStatus := by
  intro x hx
  cases requestHandler_databaseReply h with
  | answered args ha hd =>
    rw [hd] at hx
    rw [List.mem_singleton.mp hx]
    rfl
  | silent ha hd =>
    rw [hd] at hx
    cases hx

lemma queuesReady_preserves (b : Backend) :
    Machine.Preserves (Application.step b) (fun _ _ => True) QueuesReady :=
  fun _ _ _ hs _ h => queuesReady_turn (step_turn h) hs

/-- In every run, from any tables and with any flags at start, every queued request holds what its
handler takes for granted, and no handler dies of what a request holds. -/
theorem queue_contents (b : Backend) (tables : Tables) (erase failed : Bool)
    (events : List Application.Event) :
    Machine.Throughout (Application.step b) QueuesReady (Application.start tables erase failed)
        events ∧
      ∀ fault, FromRequest fault →
        Machine.run (Application.step b) (Application.start tables erase failed) events ≠
          .error (.fault fault) := by
  have hstep := queuesReady_preserves b
  constructor
  · exact Machine.throughout_of_guarded hstep (queuesReady_start tables erase failed)
      (Machine.guarded_true _ _)
  · intro fault hfault
    exact Machine.run_ne_error hstep (fun s e hs _ => step_not_fromRequest hs e hfault)
      (queuesReady_start tables erase failed) (Machine.guarded_true _ _)

end TkmCollector.Proofs
