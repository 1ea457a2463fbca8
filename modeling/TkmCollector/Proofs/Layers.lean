import TkmCollector.Library.Simulation
import TkmCollector.Proofs.CollectorFrame
import TkmCollector.Proofs.QueuedOrders

/-!
# The layers of the model

What is proved of a collector on its own, and of a device on its own, holds inside of the whole
process: the collector of an application runs as a collector, on the events that the clients, the
dispatcher and the loop make for it, and each of its devices runs as a device, from the row that it
was loaded from, and has asked the database for exactly what this run asks for.
-/

namespace TkmCollector.Proofs

open Application

/-- What a request of the dispatcher is for a device. -/
def controlAction : Dispatcher.Action → Option MonitorDevice.ControlAction
  | .connectDevice => some .connect
  | .disconnectDevice => some .disconnect
  | .startCollecting => some .startCollecting
  | .stopCollecting => some .stopCollecting
  | .initDatabase | .getDevices | .getSessions | .removeSession | .addDevice | .removeDevice
  | .quitCollector | .sendStatus | .quit => none

/-- What the collector gets of a request that the dispatcher handles. -/
def forwarded (rq : Dispatcher.Request) : List Collector.Event :=
  match rq.client, databaseAction rq.action, controlAction rq.action, rq.bulkData with
  | some client, some action, _, _ => [.request action client rq.args (databaseBulk rq)]
  | some client, none, some action, .deviceData deviceData =>
    [.device deviceData.hash (.control action client rq.args deviceData)]
  | _, _, _, _ => []

/-- What an event of the application is for its collector. -/
def collectorEvents (s : Application) : Application.Event → List Collector.Event
  | .accept | .control _ _ _ => []
  | .dispatcher _ => (s.dispatcher.head?.toList.map DispatcherEntry.request).flatMap forwarded
  | .connection hash clock input last => [.device hash (.connection clock input last)]
  | .finalize hash => [.device hash .finalize]
  | .queue hash io => [.device hash (.queue io)]
  | .timer hash timer => [.device hash (.timer timer)]
  | .database io => [.database io]

/-- The fault of a handler is that of the collector. -/
def faultOf : Stop → Option Fault
  | .fault fault => some fault
  | .exit => none

section Collectors

variable {b : Backend} {s s' : Application}

lemma deviceAction_control (action : Dispatcher.Action) :
    deviceAction action = (controlAction action).map MonitorDevice.ControlAction.toAction := by
  cases action <;> rfl

lemma onCollector_ok {e : Collector.Event} {served : Option Nat}
    (h : onCollector b s e served = .ok s') :
    Machine.run (Collector.step b) s.collector [e] = .ok s'.collector := by
  unfold onCollector at h
  cases hc : Collector.step b s.collector e with
  | error fault => simp [hc] at h
  | ok c =>
    simp only [hc, Except.ok.injEq] at h
    rw [Machine.run_cons_ok _ hc, ← h]
    rfl

lemma onCollector_error {e : Collector.Event} {served : Option Nat} {stop : Stop} {fault : Fault}
    (h : onCollector b s e served = .error stop) (hfault : fault ∈ faultOf stop) :
    Machine.run (Collector.step b) s.collector [e] = .error fault := by
  unfold onCollector at h
  cases hc : Collector.step b s.collector e with
  | error fault' =>
    simp only [hc, Except.error.injEq] at h
    rw [← h] at hfault
    rw [Machine.run_cons_error _ hc, Option.some.inj hfault]
  | ok c => simp [hc] at h

lemma ready_client {rq : Dispatcher.Request} (hready : DispatcherReady rq)
    (h : databaseAction rq.action ≠ none ∨ controlAction rq.action ≠ none) :
    ∃ client, rq.client = some client := by
  rw [← Option.ne_none_iff_exists']
  unfold DispatcherReady at hready
  cases haction : rq.action with
  | initDatabase | getDevices =>
    rw [haction] at hready
    exact hready
  | quitCollector | sendStatus | quit =>
    rw [haction] at h
    simp [databaseAction, controlAction] at h
  | _ =>
    rw [haction] at hready
    exact hready.1

lemma forwarded_nil {rq : Dispatcher.Request} (h : databaseAction rq.action = none)
    (h' : controlAction rq.action = none) : forwarded rq = [] := by
  unfold forwarded
  rw [h, h']
  split <;> simp_all

lemma forwarded_database {rq : Dispatcher.Request} {client : ClientId}
    {action : Collector.ClientAction} (hclient : rq.client = some client)
    (h : databaseAction rq.action = some action) :
    forwarded rq = [.request action client rq.args (databaseBulk rq)] := by
  unfold forwarded
  rw [hclient, h]

lemma forwarded_device {rq : Dispatcher.Request} {client : ClientId}
    {action : MonitorDevice.ControlAction} {deviceData : Control.DeviceData}
    (hclient : rq.client = some client) (h : controlAction rq.action = some action)
    (hb : rq.bulkData.castDeviceData = .ok deviceData) :
    rq.bulkData = .deviceData deviceData ∧
      forwarded rq = [.device deviceData.hash (.control action client rq.args deviceData)] := by
  have hnone : databaseAction rq.action = none :=
    databaseAction_of_device (by rw [deviceAction_control, h]; rfl)
  unfold forwarded
  rw [hclient, h, hnone]
  cases hbulk : rq.bulkData with
  | deviceData m =>
    rw [hbulk] at hb
    rw [Except.ok.inj hb]
    exact ⟨rfl, rfl⟩
  | _ =>
    rw [hbulk] at hb
    cases hb

/-- A request that carries what its handler takes for granted comes to the collector as it is. -/
lemma forwarded_run {entry : DispatcherEntry} {rest : List DispatcherEntry} {o : Dispatcher.Outcome}
    {write : Bool} (hready : DispatcherReady entry.request)
    (ho : Dispatcher.requestHandler s.known entry.request = .ok o) :
    Machine.run (Collector.step b) s.collector (forwarded entry.request) =
      .ok (deliver { s with dispatcher := rest } o write entry.served).collector := by
  have hcontrol : ∀ action, deviceAction entry.request.action = some action →
      ∃ control, controlAction entry.request.action = some control ∧ control.toAction = action :=
    fun action ha => Option.map_eq_some_iff.mp ((deviceAction_control _).symm.trans ha)
  cases requestHandler_dispatched ho with
  | database action ha =>
    obtain ⟨client, hclient⟩ := ready_client hready (.inl (by simp [ha]))
    rw [forwarded_database hclient ha]
    simp [Machine.run, Collector.step, deliver, Dispatcher.toDatabase, hclient]
  | device action deviceData ha hb hknown =>
    obtain ⟨control, hcontrol, rfl⟩ := hcontrol action ha
    obtain ⟨client, hclient⟩ := ready_client hready (.inr (by simp [hcontrol]))
    obtain ⟨hbulk, hevents⟩ := forwarded_device hclient hcontrol hb
    obtain ⟨d, hget⟩ := Option.isSome_iff_exists.mp hknown
    rw [hevents]
    simp [Machine.run, Collector.step, deliver, hget, MonitorDevice.step, hclient, hbulk]
  | unknown action deviceData ha hb hknown =>
    obtain ⟨control, hcontrol, rfl⟩ := hcontrol action ha
    obtain ⟨client, hclient⟩ := ready_client hready (.inr (by simp [hcontrol]))
    have hget : s.collector.devices.getDevice deviceData.hash = none := by
      simpa [known] using hknown
    rw [(forwarded_device hclient hcontrol hb).2]
    simp [Machine.run, Collector.step, deliver, hget]
  | quitting ha =>
    rw [forwarded_nil (by rw [ha]; rfl) (by rw [ha]; rfl)]
    simp [Machine.run, deliver, Dispatcher.doQuitCollector]
  | unheard ha | answered client status ha =>
    rw [forwarded_nil (by rw [ha]; rfl) (by rw [ha]; rfl)]
    simp [Machine.run, deliver]

lemma read_collector {client : ClientId} {last : MonitorDevice.ReadStatus}
    {input : List (ControlEnvelope × Bool)} :
    (readEnvelopes client last s input).1.collector = s.collector :=
  asks_collector (readEnvelopes_asks client last s input)

/-- Each dispatch of the application is for its collector a dispatch or two of its own, or none. -/
theorem application_simulates (b : Backend) : Machine.Simulates (Application.step b)
    (Collector.step b) QueuesReady Application.collector collectorEvents faultOf where
  ok s e s' hs h := by
    cases e with
    | accept =>
      rw [← Except.ok.inj h]
      rfl
    | control client input last =>
      simp only [Application.step] at h
      split at h
      · rw [← Except.ok.inj h]
        rfl
      · rw [← Except.ok.inj h]
        split <;> exact congrArg Except.ok read_collector.symm
    | dispatcher write =>
      simp only [Application.step] at h
      unfold collectorEvents
      cases hq : s.dispatcher with
      | nil =>
        simp only [hq, Except.ok.injEq] at h
        rw [← h]
        rfl
      | cons entry rest =>
        cases ho : Dispatcher.requestHandler s.known entry.request with
        | error stop => simp [hq, ho] at h
        | ok o =>
          simp only [hq, ho, Except.ok.injEq] at h
          have hready := hs.dispatcher entry (by rw [hq]; exact List.mem_cons_self)
          rw [← h]
          simpa using forwarded_run hready ho
    | connection | finalize | queue | timer | database => exact onCollector_ok h
  error s e stop hs h fault hfault := by
    cases e with
    | accept => cases h
    | control client input last =>
      simp only [Application.step] at h
      split at h <;> cases h
    | dispatcher write =>
      simp only [Application.step] at h
      cases hq : s.dispatcher with
      | nil => simp [hq] at h
      | cons entry rest =>
        have hready := hs.dispatcher entry (by rw [hq]; exact List.mem_cons_self)
        cases ho : Dispatcher.requestHandler s.known entry.request with
        | ok o => simp [hq, ho] at h
        | error stop' =>
          cases stop' with
          | fault fault' => exact absurd ho (dispatcherReady_error hready)
          | exit =>
            simp only [hq, ho, Except.error.injEq] at h
            rw [← h] at hfault
            cases hfault
    | connection | finalize | queue | timer | database => exact onCollector_error h hfault

end Collectors

/-- What an event of the collector is for the device with the hash. -/
def eventFor (k : String) : Collector.Event → Option MonitorDevice.Event
  | .device hash e => if hash = k then some e else none
  | .database _ | .request _ _ _ _ => none

/-- What the device with the hash has asked of the database, in a part of the journal. -/
def askedOf (k : String) (entries : List DbEntry) : List IDatabase.Request :=
  (entries.filter fun e => e.device = some k).map DbEntry.request

/-- What a device asks of the database while it runs. -/
def emitted : MonitorDevice → List MonitorDevice.Event → List IDatabase.Request
  | _, [] => []
  | d, e :: es =>
    match d.step e with
    | .ok o => o.database ++ emitted o.device es
    | .error _ => []

/-- The last of the inputs served a `LoadDevices`, and the row is the first one with its hash in the
table that it read. The manager did not know the hash before. -/
def RowLoaded (b : Backend) (start : Collector) (inputs : List Collector.Event)
    (row : Control.DeviceData) : Prop :=
  ∃ earlier io c entry rest, inputs = earlier ++ [.database io] ∧
    Machine.run (Collector.step b) start earlier = .ok c ∧ c.queue = entry :: rest ∧
    entry.request.action = .loadDevices ∧ c.devices.getDevice row.hash = none ∧
    (c.tables.devices.map Database.DeviceRow.toData).find? (fun r => r.hash = row.hash) = some row

/-- The device is what has become of a row by its own events, since it was loaded. -/
def Lived (b : Backend) (start : Collector) (inputs : List Collector.Event) (k : String)
    (d : MonitorDevice) (requests : List IDatabase.Request) : Prop :=
  ∃ row before after, inputs = before ++ after ∧ row.hash = k ∧ RowLoaded b start before row ∧
    Machine.run MonitorDevice.next (MonitorDevice.loaded row) (after.filterMap (eventFor k)) = .ok d ∧
    requests = emitted (MonitorDevice.loaded row) (after.filterMap (eventFor k))

section Devices

variable {b : Backend} {start c c' : Collector} {d d' : MonitorDevice} {inputs : List Collector.Event}
  {e : Collector.Event} {k : String} {requests : List IDatabase.Request}

lemma next_of_step {event : MonitorDevice.Event} {o : Outcome}
    (h : d.step event = .ok o) : d.next event = .ok o.device := by
  unfold MonitorDevice.next
  rw [h]
  rfl

lemma emitted_concat {es : List MonitorDevice.Event} {event : MonitorDevice.Event}
    {o : Outcome} (hrun : Machine.run MonitorDevice.next d es = .ok d')
    (ho : d'.step event = .ok o) : emitted d (es ++ [event]) = emitted d es ++ o.database := by
  induction es generalizing d with
  | nil =>
    obtain rfl : d = d' := by simpa using hrun
    simp [emitted, ho]
  | cons first es ih =>
    obtain ⟨u, hu, hrest⟩ := Machine.run_cons_ok_iff.mp hrun
    rw [List.cons_append, emitted, emitted]
    cases hstep : d.step first with
    | error fault => simp [MonitorDevice.next, hstep, Except.map] at hu
    | ok o' =>
      obtain rfl : o'.device = u := Except.ok.inj ((next_of_step hstep).symm.trans hu)
      dsimp only
      rw [ih hrest, List.append_assoc]

lemma lived_other (h : Lived b start inputs k d requests) (he : eventFor k e = none) :
    Lived b start (inputs ++ [e]) k d requests := by
  obtain ⟨row, before, after, rfl, hk, hloaded, hrun, hrequests⟩ := h
  have hsame : (after ++ [e]).filterMap (eventFor k) = after.filterMap (eventFor k) := by
    simp [he]
  refine ⟨row, before, after ++ [e], List.append_assoc _ _ _, hk, hloaded, ?_, ?_⟩
  · rw [hsame]
    exact hrun
  · rw [hsame]
    exact hrequests

lemma lived_step {event : MonitorDevice.Event} {o : Outcome}
    (h : Lived b start inputs k d requests) (ho : d.step event = .ok o) :
    Lived b start (inputs ++ [.device k event]) k o.device (requests ++ o.database) := by
  obtain ⟨row, before, after, rfl, hk, hloaded, hrun, hrequests⟩ := h
  have hmore : (after ++ [Collector.Event.device k event]).filterMap (eventFor k) =
      after.filterMap (eventFor k) ++ [event] := by
    simp [eventFor]
  refine ⟨row, before, after ++ [.device k event], List.append_assoc _ _ _, hk, hloaded, ?_, ?_⟩
  · rw [hmore, Machine.run_append _ hrun, Machine.run_cons_ok _ (next_of_step ho)]
    rfl
  · rw [hmore, emitted_concat hrun ho, hrequests]

lemma loaded_rows {states : String → Option Control.DeviceState} {io : DbIo} {t : Tables}
    {rq : IDatabase.Request} {o : DbOutcome} (h : Database.requestHandler b states io t rq = .ok o) :
    o.loaded = [] ∨
      rq.action = .loadDevices ∧ o.loaded = t.devices.map Database.DeviceRow.toData := by
  unfold Database.requestHandler at h
  cases haction : rq.action with
  | loadDevices =>
    simp only [haction, Database.doLoadDevices, run_getDevices, Except.ok.injEq] at h
    rw [← h]
    by_cases hfails : (0, 0) ∈ io.fails
    · exact .inl (by simp [hfails, Database.Reply.deviceList])
    · exact .inr ⟨rfl, by simp [hfails, Database.Reply.deviceList]⟩
  | initDatabase =>
    simp only [haction] at h
    exact .inl (initDatabase_follows h).2
  | addDevice =>
    simp only [haction] at h
    exact .inl (addDevice_follows h).2
  | connect =>
    simp only [haction, Database.doConnect] at h
    split at h
    · cases h
    · rw [← Except.ok.inj h]
      exact .inl rfl
  | getDevices =>
    simp only [haction, Database.doGetDevices] at h
    split at h
    · cases h
    · rw [← Except.ok.inj h]
      exact .inl (sendList_follows _ _ _ _ _ _ _).2
  | getSessions =>
    simp only [haction, Database.doGetSessions] at h
    split at h
    · cases h
    · cases h
    · rw [← Except.ok.inj h]
      exact .inl (sendList_follows _ _ _ _ _ _ _).2
  | removeDevice =>
    simp only [haction, Database.doRemoveDevice] at h
    split at h
    · cases h
    · cases h
    · split at h
      · rw [← Except.ok.inj h]
        exact .inl rfl
      · rw [← Except.ok.inj h]
        exact .inl rfl
  | remSession =>
    simp only [haction, Database.doRemSession] at h
    split at h
    · cases h
    · cases h
    · split at h
      · rw [← Except.ok.inj h]
        exact .inl rfl
      · split at h
        · rw [← Except.ok.inj h]
          exact .inl rfl
        · rw [← Except.ok.inj h]
          exact .inl rfl
  | addSession =>
    simp only [haction, Database.doAddSession] at h
    split at h
    · cases h
    · cases h
    · rw [← Except.ok.inj h]
      exact .inl rfl
  | endSession =>
    simp only [haction, Database.doEndSession] at h
    split at h
    · cases h
    · rw [← Except.ok.inj h]
      exact .inl rfl
  | addData =>
    simp only [haction, Database.doAddData] at h
    split at h
    · cases h
    · cases h
    · split at h
      · rw [← Except.ok.inj h]
        exact .inl rfl
      · rw [← Except.ok.inj h]
        exact .inl rfl
  | checkDatabase | disconnect =>
    simp only [haction] at h
    rw [← Except.ok.inj h]
    exact .inl rfl
  | cleanSessions =>
    simp only [haction, Database.doCleanSessions] at h
    rw [← Except.ok.inj h]
    exact .inl rfl

lemma lived_loaded {row : Control.DeviceData} (h : RowLoaded b start inputs row) :
    Lived b start inputs row.hash (MonitorDevice.loaded row) [] :=
  ⟨row, inputs, [], (List.append_nil _).symm, rfl, h, rfl, rfl⟩

lemma askedOf_append (entries entries' : List DbEntry) :
    askedOf k (entries ++ entries') = askedOf k entries ++ askedOf k entries' := by
  simp [askedOf]

lemma askedOf_pushed (hash : String) (pushed : List IDatabase.Request) :
    askedOf k (pushed.map fun rq => ⟨rq, some hash⟩) = if hash = k then pushed else [] := by
  unfold askedOf
  rw [List.filter_map]
  split
  · rename_i hk
    simp [hk, Function.comp_def]
  · rename_i hk
    simp [hk, Function.comp_def]

lemma askedOf_client (pushed : List IDatabase.Request) :
    askedOf k (pushed.map fun rq => ⟨rq, none⟩) = [] := by
  simp [askedOf]

/-- Every device of the collector has lived its own life, and what it has asked of the database is
in the journal. No one asks in the name of a device that is not there. -/
structure Living (b : Backend) (start : Collector) (inputs : List Collector.Event) (c : Collector) :
    Prop where
  run : Machine.run (Collector.step b) start inputs = .ok c
  known : ∀ k d, c.devices.getDevice k = some d → Lived b start inputs k d (askedOf k (journal c))
  unknown : ∀ k, c.devices.getDevice k = none → askedOf k (journal c) = []

lemma living_device {hash : String} {event : MonitorDevice.Event} {o : Outcome}
    (hget : c.devices.getDevice hash = some d) (ho : d.step event = .ok o)
    (hs : Living b start inputs c) :
    Living b start (inputs ++ [.device hash event]) { c with
      devices := c.devices.update hash o.device
      queue := c.queue ++ o.database.map fun rq => ⟨rq, some hash⟩ } := by
  have hhash : o.device.deviceData.hash = hash :=
    (dispatch_hash (step_dispatch ho)).trans (getDevice_hash hget)
  have hjournal : ∀ k, askedOf k (journal { c with
      devices := c.devices.update hash o.device
      queue := c.queue ++ o.database.map fun rq => ⟨rq, some hash⟩ }) =
        askedOf k (journal c) ++ if hash = k then o.database else [] := by
    intro k
    unfold journal
    rw [← List.append_assoc, askedOf_append, askedOf_pushed]
  have hstep : c.step b (.device hash event) = .ok { c with
      devices := c.devices.update hash o.device
      queue := c.queue ++ o.database.map fun rq => ⟨rq, some hash⟩ } := by
    unfold Collector.step
    simp only [hget, ho]
  refine ⟨?_, fun k d' hd' => ?_, fun k hnone => ?_⟩
  · rw [Machine.run_append _ hs.run, Machine.run_cons_ok _ hstep]
    rfl
  · rw [hjournal]
    by_cases hk : hash = k
    · subst hk
      obtain rfl := Option.some.inj ((getDevice_update_self hhash hget).symm.trans hd')
      rw [if_pos rfl]
      exact lived_step (hs.known _ d hget) ho
    · rw [getDevice_update_ne hhash (Ne.symm hk)] at hd'
      rw [if_neg hk, List.append_nil]
      exact lived_other (hs.known k d' hd') (if_neg hk)
  · rw [hjournal]
    by_cases hk : hash = k
    · subst hk
      rw [getDevice_update_self hhash hget] at hnone
      cases hnone
    · rw [getDevice_update_ne hhash (Ne.symm hk)] at hnone
      rw [if_neg hk, List.append_nil]
      exact hs.unknown k hnone

lemma living_step (h : Collector.step b c e = .ok c') (hs : Living b start inputs c) :
    Living b start (inputs ++ [e]) c' := by
  have hrun : Machine.run (Collector.step b) start (inputs ++ [e]) = .ok c' := by
    rw [Machine.run_append _ hs.run, Machine.run_cons_ok _ h]
    rfl
  cases e with
  | device hash event =>
    unfold Collector.step at h
    cases hget : c.devices.getDevice hash with
    | none =>
      simp only [hget, Except.ok.injEq] at h
      rw [← h] at hrun ⊢
      refine ⟨hrun, fun k d hd => lived_other (hs.known k d hd) (if_neg ?_), hs.unknown⟩
      rintro rfl
      rw [hget] at hd
      cases hd
    | some d =>
      cases ho : d.step event with
      | error fault => simp [hget, ho] at h
      | ok o =>
        simp only [hget, ho, Except.ok.injEq] at h
        rw [← h]
        exact living_device hget ho hs
  | request action client args bulkData =>
    rw [← Except.ok.inj h] at hrun ⊢
    have hjournal : ∀ k, askedOf k (c.handled ++ (c.queue ++ [(⟨⟨some client, action.toAction, args,
        bulkData⟩, none⟩ : DbEntry)])) = askedOf k (journal c) := by
      intro k
      rw [← List.append_assoc, askedOf_append]
      exact List.append_nil _
    refine ⟨hrun, fun k d hd => ?_, fun k hnone => (hjournal k).trans (hs.unknown k hnone)⟩
    change Lived _ _ _ k d (askedOf k (c.handled ++ _))
    rw [hjournal]
    exact lived_other (hs.known k d hd) rfl
  | database io =>
    unfold Collector.step at h
    cases hq : c.queue with
    | nil =>
      simp only [hq, Except.ok.injEq] at h
      rw [← h] at hrun ⊢
      exact ⟨hrun, fun k d hd => lived_other (hs.known k d hd) rfl, hs.unknown⟩
    | cons entry rest =>
      cases ho : Database.requestHandler b c.deviceState io c.tables entry.request with
      | error fault => simp [hq, ho] at h
      | ok o =>
        simp only [hq, ho, Except.ok.injEq] at h
        rw [← h] at hrun ⊢
        have hjournal : ∀ k, askedOf k (c.handled ++ [entry] ++ (rest ++ o.database.map fun rq =>
            (⟨rq, none⟩ : DbEntry))) = askedOf k (journal c) := by
          intro k
          rw [← List.append_assoc, askedOf_append, askedOf_client, List.append_nil, journal, hq,
            List.append_assoc]
          rfl
        refine ⟨hrun, fun k d hd => ?_, fun k hnone => (hjournal k).trans (hs.unknown k ?_)⟩
        · change Lived _ _ _ k d (askedOf k (c.handled ++ [entry] ++ _))
          rw [hjournal]
          obtain hold | ⟨hnone, row, hrow, rfl⟩ := getDevice_load_first hd
          · exact lived_other (hs.known k d hold) rfl
          · have hk : row.hash = k := by simpa using List.find?_some hrow
            subst hk
            rw [hs.unknown _ hnone]
            obtain hempty | ⟨haction, hloaded⟩ := loaded_rows ho
            · rw [hempty] at hrow
              cases hrow
            · rw [hloaded] at hrow
              exact lived_loaded ⟨inputs, io, c, entry, rest, rfl, hs.run, hq, haction, hnone, hrow⟩
        · cases hold : c.devices.getDevice k with
          | none => rfl
          | some d =>
            have hkept : (c.devices.load o.loaded).getDevice k = some d := getDevice_load_of_some hold
            rw [hkept] at hnone
            cases hnone

lemma living_start (tables : Tables) (erase failed : Bool) :
    Living b (Application.start tables erase failed).collector []
      (Application.start tables erase failed).collector := by
  refine ⟨rfl, fun k d hd => ?_, fun k _ => ?_⟩
  · cases erase <;> cases hd
  · cases erase <;> rfl

end Devices

/-- The layers agree. For every run of the application, the collector inside of it has run as a
collector on the inputs that `collectorEvents` lists; every device that it knows is reached by a run
of the device alone, from the row of the table that a `LoadDevices` of the run read, on the inputs
that name it since then, and the database has been asked in its name for just what that run asks for,
in this order. And when the run ends with the fault of a handler, that fault ends the collector's run
on those inputs. -/
theorem layers_agree (b : Backend) (tables : Tables) (erase failed : Bool)
    (events : List Application.Event) :
    let start := Application.start tables erase failed
    let inputs := Machine.inputs (Application.step b) collectorEvents start events
    (∀ s, Machine.run (Application.step b) start events = .ok s →
      Machine.run (Collector.step b) start.collector inputs = .ok s.collector ∧
        ∀ k d, s.collector.devices.getDevice k = some d →
          Lived b start.collector inputs k d (askedOf k (journal s.collector))) ∧
      ∀ fault, Machine.run (Application.step b) start events = .error (.fault fault) →
        Machine.run (Collector.step b) start.collector inputs = .error fault := by
  intro start inputs
  have hready : QueuesReady start := queuesReady_start tables erase failed
  have hsimulates := application_simulates b
  refine ⟨fun s h => ?_, fun fault h => ?_⟩
  · have hcollector := hsimulates.run_ok (queuesReady_preserves b) hready h
    have hliving : Living b start.collector inputs s.collector :=
      Machine.run_induction (living_start tables erase failed)
        (fun _ _ _ _ hs hstep => living_step hstep hs) hcollector
    exact ⟨hcollector, hliving.known⟩
  · exact hsimulates.run_error (queuesReady_preserves b) hready h rfl

end TkmCollector.Proofs
