import Mathlib.Data.Prod.Lex
import Mathlib.Data.List.Count
import TkmCollector.Library.Progress
import TkmCollector.Proofs.HandlerResults
import TkmCollector.Proofs.MalformedPayloads
import TkmCollector.Proofs.OneAnswer

/-!
# The queues drain

A handler pushes requests of its own, but none of them goes round. Each request has a cost, which
bounds the dispatches that it can cause; only `CleanSessions` has none, since it ends every session
that was left open, and it is pushed at start only. While nothing arrives from outside, the queues
run empty.
-/

namespace TkmCollector.Proofs

open Application

/-- The dispatch takes a request from a queue, or takes a connection out of the loop. -/
def Dispatching (s : Application) : Application.Event → Prop
  | .dispatcher _ => s.dispatcher ≠ []
  | .database _ => s.collector.queue ≠ []
  | .queue hash _ => ∃ d ∈ s.collector.devices.getDevice hash, d.queue ≠ []
  | .finalize hash =>
    ∃ d ∈ s.collector.devices.getDevice hash, d.loop.connection ≠ none ∧ d.loop.removing = true
  | .accept | .control _ _ _ | .connection _ _ _ _ | .timer _ _ => False

instance (s : Application) : (e : Application.Event) → Decidable (Dispatching s e)
  | .dispatcher _ => inferInstanceAs (Decidable (s.dispatcher ≠ []))
  | .database _ => inferInstanceAs (Decidable (s.collector.queue ≠ []))
  | .queue hash _ =>
    inferInstanceAs (Decidable (∃ d ∈ s.collector.devices.getDevice hash, d.queue ≠ []))
  | .finalize hash =>
    inferInstanceAs (Decidable (∃ d ∈ s.collector.devices.getDevice hash,
      d.loop.connection ≠ none ∧ d.loop.removing = true))
  | .accept | .control _ _ _ | .connection _ _ _ _ | .timer _ _ => .isFalse id

/-! ### What a request can cause -/

/-- The dispatches that a request of a device can cause, its own included. -/
def deviceCost : IDevice.Action → ℕ
  | .disconnect => 4
  | .connect | .setSession | .startCollecting | .stopCollecting => 3
  | .sendDescriptor | .processData => 2
  | .requestSession | .startStream | .stopStream | .status => 1

/-- `CleanSessions` stands for itself only. -/
def databaseCost : IDatabase.Action → ℕ
  | .addDevice => 3
  | .initDatabase | .getDevices | .removeDevice | .getSessions | .remSession => 2
  | .checkDatabase | .connect | .disconnect | .loadDevices | .addSession | .endSession
  | .cleanSessions | .addData => 1

def dispatcherCost : Dispatcher.Action → ℕ
  | .initDatabase | .getDevices | .getSessions | .removeSession | .addDevice | .removeDevice
  | .connectDevice | .disconnectDevice | .startCollecting | .stopCollecting => 5
  | .quitCollector => 2
  | .sendStatus | .quit => 1

/-- The costs of the requests of a queue. -/
def costs {Action : Type} (cost : Action → ℕ) (requests : List (Request Action)) : ℕ :=
  (requests.map fun rq => cost rq.action).sum

section Costs

variable {Action : Type} (cost : Action → ℕ)

@[simp] lemma costs_nil : costs cost [] = 0 := rfl

@[simp] lemma costs_cons (rq : Request Action) (l : List (Request Action)) :
    costs cost (rq :: l) = cost rq.action + costs cost l := by
  simp [costs]

@[simp] lemma costs_append (l₁ l₂ : List (Request Action)) :
    costs cost (l₁ ++ l₂) = costs cost l₁ + costs cost l₂ := by
  simp [costs]

end Costs

/-- A connection that waits to be taken out is one dispatch, which may end a session. -/
def deviceLoad (d : MonitorDevice) : ℕ :=
  costs deviceCost d.queue + 2 * d.loop.removing.toNat

/-- The dispatches that what stands in the queues can cause. -/
def load (s : Application) : ℕ :=
  costs dispatcherCost (s.dispatcher.map fun e => e.request) +
    costs databaseCost (s.collector.queue.map fun e => e.request) +
    (s.collector.devices.map deviceLoad).sum

/-- The number of requests that end the sessions that were left open. -/
def cleaning (requests : List IDatabase.Request) : ℕ :=
  requests.countP fun rq => rq.action = .cleanSessions

/-- The requests that clean come first, then what all others can cause. -/
def drainRank (s : Application) : ℕ ×ₗ ℕ :=
  toLex (cleaning (s.collector.queue.map fun e => e.request), load s)

section Device

variable {d : MonitorDevice} {o : Outcome}

lemma costs_deviceRequests {e : MonitorDevice.Event} {dbrq : List IDatabase.Request}
    (h : DeviceRequests d e dbrq) : costs databaseCost dbrq ≤ 1 ∧ cleaning dbrq = 0 := by
  cases h with
  | nothing => exact ⟨Nat.zero_le 1, rfl⟩
  | ended | opened | stored => exact ⟨le_rfl, rfl⟩

/-- What a handler adds to the queue and asks of the others, against the cost of its request. With
`k` it may ask the loop to take the connection out. -/
lemma load_lt {rq : IDevice.Request} {rest added : List IDevice.Request} (k : ℕ)
    (hq : d.queue = rq :: rest) (hqueue : o.device.queue = rest ++ added)
    (hremoving : o.device.loop.removing.toNat ≤ d.loop.removing.toNat + k)
    (hcost : costs deviceCost added + 2 * k + costs dispatcherCost o.dispatcher +
      costs databaseCost o.database < deviceCost rq.action) :
    deviceLoad o.device + costs dispatcherCost o.dispatcher + costs databaseCost o.database <
      deviceLoad d := by
  rw [deviceLoad, deviceLoad, hq, hqueue, costs_append, costs_cons]
  omega

lemma load_requestHandler {rq : IDevice.Request} {rest : List IDevice.Request} {io : Io}
    (hq : d.queue = rq :: rest)
    (h : MonitorDevice.requestHandler (popped d rest) rq io = .ok o) :
    deviceLoad o.device + costs dispatcherCost o.dispatcher + costs databaseCost o.database <
      deviceLoad d := by
  have hdatabase := (costs_deviceRequests (dispatch_database (requestHandler_dispatch hq h))).1
  have hsilent : ∀ added : List IDevice.Request, o.device.queue = rest ++ added →
      o.device.loop.removing.toNat ≤ d.loop.removing.toNat → o.dispatcher = [] →
      costs deviceCost added + costs databaseCost o.database < deviceCost rq.action →
      deviceLoad o.device + costs dispatcherCost o.dispatcher + costs databaseCost o.database <
        deviceLoad d := by
    intro added hqueue hremoving hnone hcost
    apply load_lt 0 hq hqueue hremoving
    simpa [hnone] using hcost
  have hanswered : ∀ (added : List IDevice.Request) (k : ℕ) (status : Val) (reason : String),
      o.device.queue = rest ++ added →
      o.device.loop.removing.toNat ≤ d.loop.removing.toNat + k →
      o.dispatcher = [MonitorDevice.sendStatus rq status reason] →
      costs deviceCost added + 2 * k + 1 + costs databaseCost o.database < deviceCost rq.action →
      deviceLoad o.device + costs dispatcherCost o.dispatcher + costs databaseCost o.database <
        deviceLoad d := by
    intro added k status reason hqueue hremoving hstatus hcost
    apply load_lt k hq hqueue hremoving
    rw [hstatus]
    exact hcost
  unfold MonitorDevice.requestHandler at h
  cases ha : rq.action with
  | connect =>
    rw [ha] at hanswered hsilent
    simp only [ha, MonitorDevice.doConnect, MonitorDevice.createConnection] at h
    cases hc : (popped d rest).connection with
    | some c =>
      simp only [hc, Except.ok.injEq] at h
      subst h
      exact hanswered [] 0 _ _ (List.append_nil _).symm le_rfl rfl (show 1 < 3 by decide)
    | none =>
      simp only [hc] at h
      split at h
      · cases h
      · cases hio : io.connect with
        | unresolved => simp [hio] at h
        | failed =>
          simp only [hio, Except.ok.injEq] at h
          subst h
          refine hanswered [] 0 _ _ ?_ ?_ rfl (by rw [deviceCost, costs_nil]; omega)
          · change (connecting (popped d rest)).deleteConnection.disconnect.1.queue = _
            rw [connectFailed_fst, List.append_nil]
          · change (connecting (popped d rest)).deleteConnection.disconnect.1.loop.removing.toNat ≤ _
            rw [connectFailed_fst]
            exact le_rfl
        | established =>
          simp only [hio, Except.ok.injEq] at h
          subst h
          exact hsilent [_] rfl (Nat.zero_le _) rfl (by simp [deviceCost])
  | disconnect =>
    rw [ha] at hanswered
    simp only [ha, MonitorDevice.doDisconnect] at h
    split at h
    · split at h
      · cases h
      · rename_i c _
        obtain rfl := Except.ok.inj h
        -- the connection now waits to be taken out
        refine hanswered [] 1 _ _ ?_ ?_ rfl (show 3 < 4 by decide)
        · rw [remConnectionSource_eq, List.append_nil]
          rfl
        · exact (Bool.toNat_le _).trans (Nat.le_add_left 1 _)
    · obtain rfl := Except.ok.inj h
      exact hanswered [] 0 _ _ (List.append_nil _).symm le_rfl rfl (show 1 < 4 by decide)
  | sendDescriptor =>
    rw [ha] at hanswered
    simp only [ha, MonitorDevice.doSendDescriptor] at h
    split at h
    · cases h
    · split at h
      · obtain rfl := Except.ok.inj h
        exact hanswered [] 0 _ _ (List.append_nil _).symm le_rfl rfl (show 1 < 2 by decide)
      · obtain rfl := Except.ok.inj h
        exact hanswered [] 0 _ _ (List.append_nil _).symm le_rfl rfl (show 1 < 2 by decide)
  | requestSession =>
    rw [ha] at hsilent
    simp only [ha, MonitorDevice.doRequestSession] at h
    split at h
    · cases h
    · obtain rfl := Except.ok.inj h
      exact hsilent [] (List.append_nil _).symm le_rfl rfl (show 0 < 1 by decide)
  | setSession =>
    rw [ha] at hsilent
    simp only [ha, MonitorDevice.doSetSession] at h
    split at h
    · cases h
    · obtain rfl := Except.ok.inj h
      refine hsilent [_] rfl le_rfl rfl ?_
      rw [costs_cons, costs_nil, deviceCost]
      exact Nat.lt_of_le_of_lt (Nat.add_le_add_left hdatabase _) (by decide)
  | startCollecting =>
    rw [ha] at hanswered
    simp only [ha, MonitorDevice.doStartCollecting] at h
    split at h
    · obtain rfl := Except.ok.inj h
      exact hanswered [_] 0 _ _ rfl le_rfl rfl (show 2 < 3 by decide)
    · split at h
      · obtain rfl := Except.ok.inj h
        exact hanswered [_] 0 _ _ rfl le_rfl rfl (show 2 < 3 by decide)
      · obtain rfl := Except.ok.inj h
        exact hanswered [] 0 _ _ (List.append_nil _).symm le_rfl rfl (show 1 < 3 by decide)
  | stopCollecting =>
    rw [ha] at hanswered
    simp only [ha, MonitorDevice.doStopCollecting] at h
    split at h
    · obtain rfl := Except.ok.inj h
      exact hanswered [_] 0 _ _ rfl le_rfl rfl (show 2 < 3 by decide)
    · obtain rfl := Except.ok.inj h
      exact hanswered [] 0 _ _ (List.append_nil _).symm le_rfl rfl (show 1 < 3 by decide)
  | startStream =>
    rw [ha] at hsilent
    simp only [ha, MonitorDevice.doStartStream, Except.ok.injEq] at h
    subst h
    exact hsilent [] (List.append_nil _).symm le_rfl rfl (show 0 < 1 by decide)
  | stopStream =>
    rw [ha] at hsilent
    simp only [ha, MonitorDevice.doStopStream, Except.ok.injEq] at h
    subst h
    refine hsilent [] ?_ ?_ rfl (show 0 < 1 by decide)
    · rw [stopUpdateLanes_eq, List.append_nil]
      rfl
    · rw [stopUpdateLanes_eq]
      exact le_rfl
  | processData =>
    rw [ha] at hsilent
    simp only [ha, MonitorDevice.doProcessData, Except.ok.injEq] at h
    subst h
    refine hsilent [] (List.append_nil _).symm le_rfl rfl ?_
    rw [costs_nil, deviceCost]
    exact Nat.lt_of_le_of_lt (Nat.add_le_add_left hdatabase _) (by decide)
  | status =>
    rw [ha] at hsilent
    simp only [ha, MonitorDevice.doStatus] at h
    split at h
    · cases h
    · obtain rfl := Except.ok.inj h
      exact hsilent [] (List.append_nil _).symm le_rfl rfl (show 0 < 1 by decide)

end Device

section Database

variable {b : Backend} {states : String → Option Control.DeviceState} {io : DbIo} {t : Tables}
  {rq : IDatabase.Request} {o : DbOutcome}

lemma database_of_silent (hasks : ¬ AsksDatabase rq.action) (hclean : rq.action ≠ .cleanSessions)
    (h : Database.requestHandler b states io t rq = .ok o) : o.database = [] := by
  unfold Database.requestHandler at h
  cases ha : rq.action with
  | initDatabase | getDevices | addDevice | removeDevice | getSessions | remSession =>
    rw [ha] at hasks
    exact absurd (by decide) hasks
  | cleanSessions => exact absurd ha hclean
  | checkDatabase | disconnect =>
    simp only [ha, Except.ok.injEq] at h
    rw [← h]
    rfl
  | connect =>
    simp only [ha, Database.doConnect] at h
    split at h
    · cases h
    · rw [← Except.ok.inj h]
      rfl
  | loadDevices =>
    simp only [ha, Database.doLoadDevices, Except.ok.injEq] at h
    rw [← h]
    rfl
  | addSession =>
    simp only [ha, Database.doAddSession] at h
    split at h
    · cases h
    · cases h
    · rw [← Except.ok.inj h]
      rfl
  | endSession =>
    simp only [ha, Database.doEndSession] at h
    split at h
    · cases h
    · rw [← Except.ok.inj h]
      rfl
  | addData =>
    simp only [ha, Database.doAddData] at h
    split at h
    · cases h
    · cases h
    · split at h
      · rw [← Except.ok.inj h]
        rfl
      · rw [← Except.ok.inj h]
        rfl

lemma cleaning_database (h : Database.requestHandler b states io t rq = .ok o) :
    cleaning o.database = 0 := by
  unfold cleaning
  rw [List.countP_eq_zero]
  cases requestHandler_handled h with
  | added =>
    intro q hq
    rw [List.mem_singleton.mp hq]
    decide
  | cleaned =>
    intro q hq
    obtain ⟨session, -, rfl⟩ := List.mem_map.mp hq
    simp
  | answered | devices | sessions | quiet | loaded =>
    intro q hq
    cases hq

lemma costs_database (hclean : rq.action ≠ .cleanSessions)
    (h : Database.requestHandler b states io t rq = .ok o) :
    costs dispatcherCost o.dispatcher + costs databaseCost o.database < databaseCost rq.action := by
  have hasked : AsksDatabase rq.action → 2 ≤ databaseCost rq.action := by
    intro hasks
    cases ha : rq.action <;> rw [ha] at hasks <;> revert hasks <;> decide
  have hown : 1 ≤ databaseCost rq.action := by
    cases rq.action <;> decide
  cases requestHandler_handled h with
  | answered t args ha => exact hasked ha
  | devices t args client list ha | sessions t args client list ha =>
    rw [ha]
    exact Nat.lt_succ_self 1
  | added t args ha =>
    rw [ha]
    exact Nat.lt_succ_self 2
  | quiet | loaded => exact hown
  | cleaned t opened ha =>
    rw [database_of_silent ha hclean h]
    exact hown

end Database

lemma cost_toDatabase {action : Dispatcher.Action} {action' : Collector.ClientAction}
    (h : databaseAction action = some action') :
    databaseCost action'.toAction < dispatcherCost action ∧ action'.toAction ≠ .cleanSessions := by
  cases action with
  | initDatabase | getDevices | getSessions | removeSession | addDevice | removeDevice =>
    rw [← Option.some.inj h]
    decide
  | _ => cases h

lemma cost_toDevice {action : Dispatcher.Action} {action' : IDevice.Action}
    (h : deviceAction action = some action') :
    deviceCost action' < dispatcherCost action ∧ dispatcherCost .sendStatus < dispatcherCost action := by
  cases action with
  | connectDevice | disconnectDevice | startCollecting | stopCollecting =>
    rw [← Option.some.inj h]
    decide
  | _ => cases h

lemma costs_dispatched {known : String → Bool} {rq : Dispatcher.Request} {o : Dispatcher.Outcome}
    (h : Dispatcher.requestHandler known rq = .ok o) :
    costs dispatcherCost o.dispatcher + costs databaseCost o.database +
        costs deviceCost (o.device.map Prod.snd).toList < dispatcherCost rq.action ∧
      cleaning o.database = 0 := by
  cases requestHandler_dispatched h with
  | database action ha =>
    obtain ⟨hcost, hclean⟩ := cost_toDatabase ha
    exact ⟨by simpa [Dispatcher.toDatabase] using hcost, by simp [cleaning, Dispatcher.toDatabase, hclean]⟩
  | device action deviceData ha => exact ⟨by simpa using (cost_toDevice ha).1, rfl⟩
  | unknown action deviceData ha =>
    exact ⟨by simpa [noSuchDevice] using (cost_toDevice ha).2, rfl⟩
  | quitting ha =>
    rw [ha]
    exact ⟨Nat.lt_succ_self 1, rfl⟩
  | unheard ha | answered client status ha =>
    rw [ha]
    exact ⟨Nat.lt_succ_self 0, rfl⟩

/-! ### What a dispatch leaves in the queues -/

section Application

variable {b : Backend} {s s' : Application}

lemma load_update {devices : DeviceManager} {hash : String} {d : MonitorDevice}
    (hdistinct : DistinctDevices devices) (hget : devices.getDevice hash = some d)
    (d' : MonitorDevice) :
    ((devices.update hash d').map deviceLoad).sum + deviceLoad d =
      (devices.map deviceLoad).sum + deviceLoad d' := by
  obtain ⟨front, back, hsplit, hupdate⟩ := getDevice_split hdistinct hget
  rw [hupdate d', hsplit]
  simp only [List.map_append, List.map_cons, List.sum_append, List.sum_cons]
  omega

lemma load_loaded (devices : DeviceManager) (rows : List Control.DeviceData) :
    ((devices.load rows).map deviceLoad).sum = (devices.map deviceLoad).sum := by
  obtain ⟨added, hload, -⟩ := load_append devices rows
  have hidle : (added.map MonitorDevice.loaded).map deviceLoad = added.map fun _ => 0 := by
    rw [List.map_map]
    rfl
  rw [hload, List.map_append, List.sum_append, hidle]
  simp

lemma onCollector_known {hash : String} {event : MonitorDevice.Event} {d : MonitorDevice}
    (hget : s.collector.devices.getDevice hash = some d)
    (h : onCollector b s (.device hash event) none = .ok s') :
    ∃ o, d.step event = .ok o ∧ s' = afterDevice s hash o := by
  rw [onCollector_of_get hget] at h
  cases ho : d.step event with
  | error fault => simp [ho] at h
  | ok o =>
    rw [ho] at h
    exact ⟨o, rfl, (Except.ok.inj h).symm⟩

lemma drainRank_device {hash : String} {d : MonitorDevice} {o : Outcome}
    (hdistinct : DistinctDevices s.collector.devices)
    (hget : s.collector.devices.getDevice hash = some d) (hclean : cleaning o.database = 0)
    (hload : deviceLoad o.device + costs dispatcherCost o.dispatcher + costs databaseCost o.database <
      deviceLoad d) : drainRank (afterDevice s hash o) < drainRank s := by
  have hupdate := load_update hdistinct hget o.device
  have hcleaning : cleaning ((afterDevice s hash o).collector.queue.map fun e => e.request) =
      cleaning (s.collector.queue.map fun e => e.request) := by
    simp only [afterDevice, List.map_append, List.map_map, Function.comp_def, List.map_id', cleaning,
      List.countP_append]
    unfold cleaning at hclean
    omega
  unfold drainRank
  rw [Prod.Lex.toLex_lt_toLex]
  refine .inr ⟨hcleaning, ?_⟩
  simp only [load, afterDevice, List.map_append, costs_append, List.map_map, Function.comp_def,
    List.map_id']
  omega

lemma drainRank_database {io : DbIo} {entry : DbEntry} {rest : List DbEntry} {o : DbOutcome}
    (hq : s.collector.queue = entry :: rest)
    (ho : Database.requestHandler b s.collector.deviceState io s.collector.tables entry.request =
      .ok o) : drainRank (afterDatabase s entry rest o) < drainRank s := by
  have hpushed := cleaning_database ho
  unfold cleaning at hpushed
  have hleft : cleaning ((afterDatabase s entry rest o).collector.queue.map fun e => e.request) =
      cleaning (rest.map fun e => e.request) := by
    simp only [afterDatabase, List.map_append, List.map_map, Function.comp_def, List.map_id',
      cleaning, List.countP_append]
    omega
  unfold drainRank
  rw [Prod.Lex.toLex_lt_toLex, hleft, hq, List.map_cons]
  by_cases hclean : entry.request.action = .cleanSessions
  · exact .inl (by simp [cleaning, hclean])
  · refine .inr ⟨by simp [cleaning, hclean], ?_⟩
    have hcost := costs_database hclean ho
    have hdevices := load_loaded s.collector.devices o.loaded
    simp only [load, hq, afterDatabase, List.map_append, List.map_cons, costs_append, costs_cons,
      List.map_map, Function.comp_def, List.map_id']
    omega

lemma load_deliver (hdistinct : DistinctDevices s.collector.devices) (o : Dispatcher.Outcome)
    (write : Bool) (served : Option Nat) :
    ((deliver s o write served).collector.devices.map deviceLoad).sum ≤
      (s.collector.devices.map deviceLoad).sum + costs deviceCost (o.device.map Prod.snd).toList := by
  cases hdevice : o.device with
  | none => simp [deliver, hdevice]
  | some pair =>
    obtain ⟨hash, rq⟩ := pair
    cases hget : s.collector.devices.getDevice hash with
    | none => simp [deliver, hdevice, hget]
    | some d =>
      have hupdate := load_update hdistinct hget (d.pushRequest rq)
      have hpushed : deviceLoad (d.pushRequest rq) = deviceLoad d + costs deviceCost [rq] := by
        simp only [deviceLoad, MonitorDevice.pushRequest, costs_append]
        omega
      simp only [deliver, hdevice, hget, Option.map_some, Option.toList_some]
      omega

lemma drainRank_dispatcher {write : Bool} {entry : DispatcherEntry} {rest : List DispatcherEntry}
    {o : Dispatcher.Outcome} (hdistinct : DistinctDevices s.collector.devices)
    (hq : s.dispatcher = entry :: rest)
    (ho : Dispatcher.requestHandler s.known entry.request = .ok o) :
    drainRank (deliver { s with dispatcher := rest } o write entry.served) < drainRank s := by
  obtain ⟨hcost, hclean⟩ := costs_dispatched ho
  have hdevices : ((deliver { s with dispatcher := rest } o write entry.served).collector.devices.map
      deviceLoad).sum ≤ (s.collector.devices.map deviceLoad).sum +
        costs deviceCost (o.device.map Prod.snd).toList :=
    load_deliver hdistinct o write entry.served
  unfold drainRank
  rw [Prod.Lex.toLex_lt_toLex]
  right
  constructor
  · unfold cleaning at hclean
    simp only [deliver, List.map_append, List.map_map, Function.comp_def, List.map_id', cleaning,
      List.countP_append]
    omega
  · simp only [load, hq, List.map_cons, costs_cons]
    change costs dispatcherCost ((rest ++ o.dispatcher.map _).map _) +
      costs databaseCost ((s.collector.queue ++ o.database.map _).map _) + _ < _
    simp only [List.map_append, costs_append, List.map_map, Function.comp_def, List.map_id']
    omega

lemma drainRank_step {e : Application.Event} (hdistinct : DistinctDevices s.collector.devices)
    (he : Dispatching s e) (h : Application.step b s e = .ok s') : drainRank s' < drainRank s := by
  cases e with
  | accept | control | connection | timer => exact he.elim
  | dispatcher write =>
    obtain ⟨entry, rest, hq⟩ := List.exists_cons_of_ne_nil he
    rw [step_dispatcher_of_entry hq] at h
    cases ho : Dispatcher.requestHandler s.known entry.request with
    | error stop => simp [ho] at h
    | ok o =>
      rw [ho] at h
      rw [← Except.ok.inj h]
      exact drainRank_dispatcher hdistinct hq ho
  | database io =>
    obtain ⟨entry, rest, hq⟩ := List.exists_cons_of_ne_nil he
    obtain ⟨o, ho, rfl⟩ := step_database hq h
    exact drainRank_database hq ho
  | queue hash io =>
    obtain ⟨d, hget, hqueue⟩ := he
    obtain ⟨rq, rest, hq⟩ := List.exists_cons_of_ne_nil hqueue
    obtain ⟨o, ho, rfl⟩ := onCollector_known hget h
    have hclean := (costs_deviceRequests (dispatch_database (step_dispatch ho))).2
    simp only [MonitorDevice.step, hq] at ho
    exact drainRank_device hdistinct hget hclean (load_requestHandler hq ho)
  | finalize hash =>
    obtain ⟨d, hget, hconnection, hremoving⟩ := he
    obtain ⟨o, ho, rfl⟩ := onCollector_known hget h
    obtain ⟨hcost, hclean⟩ := costs_deviceRequests (dispatch_database (step_dispatch ho))
    apply drainRank_device hdistinct hget hclean
    simp only [MonitorDevice.step, hconnection, hremoving, or_self, if_false, Bool.true_eq_false,
      Except.ok.injEq] at ho
    subst ho
    have hfinal : deviceLoad d.finalize.1 = costs deviceCost d.queue := by
      rw [finalize_fst]
      rfl
    have hbefore : deviceLoad d = costs deviceCost d.queue + 2 := by
      rw [deviceLoad, hremoving]
      rfl
    rw [hfinal, hbefore, costs_nil]
    omega

/-- The queue that is dispatched has not been removed. -/
def InLoop (s : EventLoop) (e : Application.Event) : Prop :=
  ∀ queue ∈ EventLoop.queueOf e, queue ∉ s.removed

instance (s : EventLoop) (e : Application.Event) : Decidable (InLoop s e) :=
  inferInstanceAs (Decidable (∀ queue ∈ EventLoop.queueOf e, _))

/-- The dispatch takes a request from a queue of the loop, or takes a connection out. -/
def LoopDispatching (s : EventLoop) (e : Application.Event) : Prop := InLoop s e ∧ Dispatching s.app e

instance (s : EventLoop) (e : Application.Event) : Decidable (LoopDispatching s e) :=
  inferInstanceAs (Decidable (_ ∧ _))

/-- All queues of the loop are empty, and no connection waits to be taken out. -/
structure Idle (s : EventLoop) : Prop where
  dispatcher : .dispatcher ∉ s.removed → s.app.dispatcher = []
  database : .database ∉ s.removed → s.app.collector.queue = []
  devices : ∀ d ∈ s.app.collector.devices, .device d.deviceData.hash ∉ s.removed → d.queue = []
  connections : ∀ d ∈ s.app.collector.devices, d.loop.connection ≠ none → d.loop.removing = false

/-- The devices are distinct, and the queues hold what their handlers can take. -/
structure Sane (s : Application) : Prop where
  distinct : DistinctDevices s.collector.devices
  ready : QueuesReady s

lemma sane_start (tables : Tables) (erase failed : Bool) :
    Sane (Application.start tables erase failed) := by
  refine ⟨?_, queuesReady_start tables erase failed⟩
  cases erase <;> exact List.nodup_nil

lemma sane_step {e : Application.Event} (hs : Sane s) (h : Application.step b s e = .ok s') : Sane s' :=
  ⟨distinctDevices_turn (step_turn h) hs.distinct, queuesReady_turn (step_turn h) hs.ready⟩

section Loop

variable {l l' : EventLoop}

lemma dispatch_step {e : Application.Event} (h : EventLoop.dispatch b l e = .ok l') :
    l' = l ∨ Application.step b l.app e = .ok l'.app ∧
      l'.removed = if EventLoop.result b l.app e then l.removed
        else l.removed ++ (EventLoop.queueOf e).toList := by
  unfold EventLoop.dispatch at h
  split at h
  · exact .inl (Except.ok.inj h).symm
  · cases hstep : Application.step b l.app e with
    | error stop => simp [hstep] at h
    | ok app =>
      rw [hstep] at h
      obtain rfl := Except.ok.inj h
      exact .inr ⟨rfl, rfl⟩

lemma dispatch_inLoop {e : Application.Event} (hin : InLoop l e) :
    EventLoop.dispatch b l e = (Application.step b l.app e).map fun app =>
      ⟨app, if EventLoop.result b l.app e then l.removed
        else l.removed ++ (EventLoop.queueOf e).toList⟩ := by
  have hnone : ¬ ∃ queue ∈ EventLoop.queueOf e, queue ∈ l.removed := by
    rintro ⟨queue, hqueue, hremoved⟩
    exact hin queue hqueue hremoved
  unfold EventLoop.dispatch
  rw [if_neg hnone]
  cases Application.step b l.app e <;> rfl

lemma sane_dispatch {e : Application.Event} (hs : Sane l.app)
    (h : EventLoop.dispatch b l e = .ok l') : Sane l'.app := by
  obtain rfl | ⟨hstep, -⟩ := dispatch_step h
  · exact hs
  · exact sane_step hs hstep

lemma sane_loop {tables : Tables} {erase failed : Bool} {events : List Process.Event}
    (h : Machine.run (EventLoop.step b) (EventLoop.start tables erase failed) events = .ok l) :
    Sane l.app := by
  have hpreserves : Machine.Preserves (EventLoop.step b) (fun _ _ => True) fun l => Sane l.app := by
    intro l e l' hs _ hstep
    cases e with
    | app e => exact sane_dispatch hs hstep
    | restart erase failed =>
      rw [← Except.ok.inj hstep]
      exact sane_start _ erase failed
  exact Machine.invariant_run hpreserves (sane_start tables erase failed) (Machine.guarded_true _ _) h

lemma drainRank_dispatch {e : Application.Event} (hs : Sane l.app) (he : LoopDispatching l e)
    (h : EventLoop.dispatch b l e = .ok l') : drainRank l'.app < drainRank l.app := by
  rw [dispatch_inLoop he.1] at h
  cases hstep : Application.step b l.app e with
  | error stop => simp [hstep] at h
  | ok app =>
    rw [hstep] at h
    rw [← Except.ok.inj h]
    exact drainRank_step hs.distinct he.2 hstep

lemma drainRank_lowers (b : Backend) :
    Machine.Lowers (EventLoop.dispatch b) LoopDispatching (fun l => Sane l.app)
      fun l => drainRank l.app where
  preserves _ _ _ hs _ h := sane_dispatch hs h
  lowers _ _ _ hs he h := drainRank_dispatch hs he h

lemma load_lowers (b : Backend) :
    Machine.Lowers (EventLoop.dispatch b) LoopDispatching
      (fun l => Sane l.app ∧ cleaning (l.app.collector.queue.map fun e => e.request) = 0)
      fun l => load l.app := by
  have hboth : ∀ l e l', Sane l.app ∧ cleaning (l.app.collector.queue.map fun e => e.request) = 0 →
      LoopDispatching l e → EventLoop.dispatch b l e = .ok l' →
      cleaning (l'.app.collector.queue.map fun e => e.request) = 0 ∧ load l'.app < load l.app := by
    rintro l e l' ⟨hs, hclean⟩ he h
    have hlower := drainRank_dispatch hs he h
    unfold drainRank at hlower
    rw [Prod.Lex.toLex_lt_toLex] at hlower
    obtain hless | ⟨hsame, hless⟩ := hlower
    · omega
    · exact ⟨hsame.trans hclean, hless⟩
  exact ⟨fun l e l' hs he h => ⟨sane_dispatch hs.1 h, (hboth l e l' hs he h).1⟩,
    fun l e l' hs he h => (hboth l e l' hs he h).2⟩

lemma removed_dispatch {e : Application.Event} (hs : Sane l.app) (hwrite : WriteGuard l.app e)
    (h : EventLoop.dispatch b l e = .ok l') : l'.removed = l.removed := by
  obtain rfl | ⟨hstep, hremoved⟩ := dispatch_step h
  · rfl
  · have hreturns := (returnsTrue_iff hs.ready).mpr hwrite _ hstep
    rw [hremoved, if_pos (result_of_returnsTrue hreturns)]

lemma getDevice_of_mem {devices : DeviceManager} {d : MonitorDevice} (hdistinct : DistinctDevices devices)
    (hd : d ∈ devices) : devices.getDevice d.deviceData.hash = some d := by
  have hfound : (devices.getDevice d.deviceData.hash).isSome = true := by
    unfold DeviceManager.getDevice
    rw [List.find?_isSome]
    exact ⟨d, List.mem_reverse.mpr hd, by simp⟩
  obtain ⟨d', hd'⟩ := Option.isSome_iff_exists.mp hfound
  rw [hd', List.inj_on_of_nodup_map hdistinct (mem_of_getDevice hd') hd (getDevice_hash hd')]

lemma idle_of_not_dispatching (hdistinct : DistinctDevices l.app.collector.devices)
    (h : ∀ e, ¬ LoopDispatching l e) (io : Io) (dbIo : DbIo) : Idle l := by
  refine ⟨?_, ?_, ?_, ?_⟩
  · intro hin
    by_contra hne
    exact h (.dispatcher true) ⟨by simpa [InLoop, EventLoop.queueOf] using hin, hne⟩
  · intro hin
    by_contra hne
    exact h (.database dbIo) ⟨by simpa [InLoop, EventLoop.queueOf] using hin, hne⟩
  · intro d hd hin
    by_contra hne
    exact h (.queue d.deviceData.hash io)
      ⟨by simpa [InLoop, EventLoop.queueOf] using hin, d, getDevice_of_mem hdistinct hd, hne⟩
  · intro d hd hconnection
    by_contra hne
    exact h (.finalize d.deviceData.hash) ⟨by simp [InLoop, EventLoop.queueOf],
      d, getDevice_of_mem hdistinct hd, hconnection, by simpa using hne⟩

/-- Where no dispatch can be taken, everything is served, or the next dispatch ends the process for
a reason that is not a request. -/
lemma idle_of_atRest (hs : Sane l.app) (hrest : Machine.AtRest (EventLoop.dispatch b) LoopDispatching l) :
    Idle l ∨ ∃ e stop, LoopDispatching l e ∧ Application.step b l.app e = .error stop ∧
      ∀ fault, stop = .fault fault → ¬ FromRequest fault := by
  by_cases h : ∃ e, LoopDispatching l e
  · obtain ⟨e, he⟩ := h
    cases hstep : Application.step b l.app e with
    | ok app =>
      have hdispatch := dispatch_inLoop (b := b) he.1
      rw [hstep] at hdispatch
      exact absurd hdispatch (hrest e _ he)
    | error stop =>
      refine .inr ⟨e, stop, he, hstep, ?_⟩
      rintro fault rfl hfault
      exact step_not_fromRequest hs.ready e hfault hstep
  · exact .inl (idle_of_not_dispatching hs.distinct (not_exists.mp h) ⟨true, .established, true, true⟩
      ⟨1, Nat.one_pos, [], true, .isOpen⟩)

end Loop

end Application

end TkmCollector.Proofs
