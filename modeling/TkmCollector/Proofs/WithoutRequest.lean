import TkmCollector.Proofs.DeviceQueues
import TkmCollector.Proofs.ApplicationFrame

/-!
# The application without one of its requests

A `Trace` is the place of a request in one of the queues. `bare` takes the request out of the
application, and clears the history variables. As long as the request is not handled, the
application does the same without it.
-/

namespace TkmCollector.Proofs

open Application Unwinding

/-! ### The device manager -/

section Devices

variable {f g h : MonitorDevice → MonitorDevice} {devices : DeviceManager} {k : String}

lemma getDevice_map (hf : ∀ d, (f d).deviceData.hash = d.deviceData.hash) :
    DeviceManager.getDevice (devices.map f) k = (devices.getDevice k).map f := by
  have hp : ((fun entry : MonitorDevice => decide (entry.deviceData.hash = k)) ∘ f) =
      fun entry => decide (entry.deviceData.hash = k) := by
    funext entry
    simp [hf]
  unfold DeviceManager.getDevice
  rw [← List.map_reverse, List.find?_map, hp]

lemma update_map (hf : ∀ d, (f d).deviceData.hash = d.deviceData.hash)
    (hother : ∀ d, d.deviceData.hash ≠ k → g (f d) = h d) {d d' : MonitorDevice} (hd : g d = h d') :
    (DeviceManager.update (devices.map f) k d).map g = (devices.update k d').map h := by
  unfold DeviceManager.update
  rw [List.map_map, List.map_map, List.map_map]
  apply List.map_congr_left
  intro entry _
  by_cases hk : entry.deviceData.hash = k
  · simp [hf, hk, hd]
  · simp [hf, hk, hother entry hk]

lemma load_map (hf : ∀ d, (f d).deviceData.hash = d.deviceData.hash)
    (hloaded : ∀ row, f (MonitorDevice.loaded row) = MonitorDevice.loaded row)
    (rows : List Control.DeviceData) :
    DeviceManager.load (devices.map f) rows = (devices.load rows).map f := by
  induction rows generalizing devices with
  | nil => rfl
  | cons row rows ih =>
    rw [DeviceManager.load, DeviceManager.load, getDevice_map hf]
    cases hget : devices.getDevice row.hash with
    | some d => exact ih
    | none =>
      have hnone : DeviceManager.getDevice (devices.map f) row.hash = none := by
        rw [getDevice_map hf, hget]
        rfl
      have hadd := addDevice_of_none (d := MonitorDevice.loaded row) hget
      have hadd' := addDevice_of_none (d := MonitorDevice.loaded row) hnone
      change DeviceManager.load _ rows = (DeviceManager.load _ rows).map f
      rw [hadd, hadd', ← ih, List.map_append, List.map_singleton, hloaded]

end Devices

/-! ### Traces -/

/-- A request in one of the queues. -/
inductive AnyRequest where
  | device (rq : IDevice.Request)
  | dispatcher (rq : Dispatcher.Request)
  | database (rq : IDatabase.Request)
  deriving DecidableEq

/-- The place of a request in the queue of a device, of the dispatcher or of the database, by the
number of requests in front of it. -/
inductive Trace where
  | device (hash : String) (ahead : Nat)
  | dispatcher (ahead : Nat)
  | database (ahead : Nat)
  | gone
  deriving DecidableEq

namespace Trace

/-- The place in the queue of the device with a hash. -/
def inDevice (k : String) : Trace → Option Nat
  | .device hash ahead => if hash = k then some ahead else none
  | .dispatcher _ | .database _ | .gone => none

def inDispatcher : Trace → Option Nat
  | .dispatcher ahead => some ahead
  | .device _ _ | .database _ | .gone => none

def inDatabase : Trace → Option Nat
  | .database ahead => some ahead
  | .device _ _ | .dispatcher _ | .gone => none

@[simp] lemma inDevice_gone (k : String) : Trace.gone.inDevice k = none := rfl

@[simp] lemma inDispatcher_gone : Trace.gone.inDispatcher = none := rfl

@[simp] lemma inDatabase_gone : Trace.gone.inDatabase = none := rfl

/-- The request at the place. -/
def request (s : Application) : Trace → Option AnyRequest
  | .device hash ahead =>
    ((s.collector.devices.getDevice hash).bind fun d => d.queue[ahead]?).map .device
  | .dispatcher ahead => s.dispatcher[ahead]?.map fun entry => .dispatcher entry.request
  | .database ahead => s.collector.queue[ahead]?.map fun entry => .database entry.request
  | .gone => none

/-- The dispatch handles the request. -/
def due : Trace → Application.Event → Bool
  | .device hash 0, .queue k _ => k = hash
  | .dispatcher 0, .dispatcher _ => true
  | .database 0, .database _ => true
  | _, _ => false

/-- The place after a dispatch that does not handle the request. -/
def shifted (trace : Trace) : Application.Event → Trace
  | .queue k _ =>
    match trace with
    | .device hash ahead => .device hash (if k = hash then ahead - 1 else ahead)
    | .dispatcher _ | .database _ | .gone => trace
  | .dispatcher _ =>
    match trace with
    | .dispatcher ahead => .dispatcher (ahead - 1)
    | .device _ _ | .database _ | .gone => trace
  | .database _ =>
    match trace with
    | .database ahead => .database (ahead - 1)
    | .device _ _ | .dispatcher _ | .gone => trace
  | .accept | .control _ _ _ | .connection _ _ _ _ | .finalize _ | .timer _ _ => trace

/-- Where the handler of a request at the head of its queue hands it on to. -/
def handedOn (s : Application) : AnyRequest → Trace
  | .device rq =>
    match rq.action with
    | .processData => .database s.collector.queue.length
    | .connect | .disconnect | .startCollecting | .stopCollecting =>
      .dispatcher s.dispatcher.length
    | .sendDescriptor | .requestSession | .setSession | .startStream | .stopStream | .status => .gone
  | .dispatcher rq =>
    match rq.action with
    | .initDatabase | .getDevices | .getSessions | .removeSession | .addDevice | .removeDevice =>
      .database s.collector.queue.length
    | .connectDevice | .disconnectDevice | .startCollecting | .stopCollecting =>
      match rq.bulkData.castDeviceData with
      | .error _ => .gone
      | .ok deviceData =>
        match s.collector.devices.getDevice deviceData.hash with
        | none => .dispatcher s.dispatcher.tail.length
        | some d => .device deviceData.hash d.queue.length
    | .quitCollector => .dispatcher s.dispatcher.tail.length
    | .sendStatus | .quit => .gone
  | .database rq =>
    match rq.action with
    | .initDatabase | .getDevices | .addDevice | .removeDevice | .getSessions | .remSession =>
      .dispatcher s.dispatcher.length
    | .checkDatabase | .connect | .disconnect | .loadDevices | .addSession | .endSession
    | .cleanSessions | .addData => .gone

/-- The place after a dispatch. -/
def next (s : Application) (trace : Trace) (e : Application.Event) : Trace :=
  if trace.due e then
    match trace.request s with
    | none => .gone
    | some rq => handedOn s rq
  else trace.shifted e

/-- The request is in its queue. -/
def Placed (s : Application) (trace : Trace) : Prop :=
  trace = .gone ∨ ∃ rq, trace.request s = some rq

variable {s : Application} {trace : Trace}

lemma next_of_not_due {e : Application.Event} (h : trace.due e = false) :
    trace.next s e = trace.shifted e := by
  unfold Trace.next
  rw [h]
  rfl

lemma Placed.inDevice (h : trace.Placed s) {k : String} {d : MonitorDevice}
    (hget : s.collector.devices.getDevice k = some d) : Within (trace.inDevice k) d.queue := by
  apply within_of_getElem?
  intro n hn hnone
  cases trace with
  | device hash ahead =>
    by_cases hk : hash = k
    · subst hk
      obtain h | ⟨rq, h⟩ := h
      · cases h
      · have hahead : ahead = n := by simpa [Trace.inDevice] using hn
        simp [request, hget, hahead, hnone] at h
    · simp [Trace.inDevice, hk] at hn
  | _ => simp [Trace.inDevice] at hn

lemma Placed.unknown (h : trace.Placed s) {k : String}
    (hget : s.collector.devices.getDevice k = none) : trace.inDevice k = none := by
  cases trace with
  | device hash ahead =>
    have hk : hash ≠ k := by
      rintro rfl
      obtain h | ⟨rq, h⟩ := h
      · cases h
      · simp [request, hget] at h
    simp [Trace.inDevice, hk]
  | _ => rfl

lemma Placed.inDispatcher (h : trace.Placed s) : Within trace.inDispatcher s.dispatcher := by
  apply within_of_getElem?
  intro n hn hnone
  cases trace with
  | dispatcher ahead =>
    obtain h | ⟨rq, h⟩ := h
    · cases h
    · have hahead : ahead = n := by simpa [Trace.inDispatcher] using hn
      simp [request, hahead, hnone] at h
  | _ => simp [Trace.inDispatcher] at hn

lemma Placed.inDatabase (h : trace.Placed s) : Within trace.inDatabase s.collector.queue := by
  apply within_of_getElem?
  intro n hn hnone
  cases trace with
  | database ahead =>
    obtain h | ⟨rq, h⟩ := h
    · cases h
    · have hahead : ahead = n := by simpa [Trace.inDatabase] using hn
      simp [request, hahead, hnone] at h
  | _ => simp [Trace.inDatabase] at hn

end Trace

def bareEntry (entry : DbEntry) : DbEntry := ⟨bareRequest entry.request, none⟩

def bareDispatcher (entry : DispatcherEntry) : DispatcherEntry := ⟨entry.request, none⟩

def bareDevices (trace : Trace) (devices : DeviceManager) : DeviceManager :=
  devices.map fun d => bareDevice (trace.inDevice d.deviceData.hash) d

/-- The application without its history and without a request. -/
def bare (trace : Trace) (s : Application) : Application where
  collector := {
    devices := bareDevices trace s.collector.devices
    tables := s.collector.tables
    queue := (leaveOut trace.inDatabase s.collector.queue).map bareEntry
    handled := [] }
  dispatcher := (leaveOut trace.inDispatcher s.dispatcher).map bareDispatcher
  clients := s.clients
  nextClient := s.nextClient
  asked := []
  sent := []

@[simp] lemma bareEntry_bare (entry : DbEntry) : bareEntry (bareEntry entry) = bareEntry entry := by
  simp [bareEntry]

@[simp] lemma bareDispatcher_bare (entry : DispatcherEntry) :
    bareDispatcher (bareDispatcher entry) = bareDispatcher entry := rfl

lemma map_bareEntry_bare (entries : List DbEntry) :
    (entries.map bareEntry).map bareEntry = entries.map bareEntry := by
  simp

lemma map_bareDispatcher_bare (entries : List DispatcherEntry) :
    (entries.map bareDispatcher).map bareDispatcher = entries.map bareDispatcher := by
  simp

@[simp] lemma bareDevice_none_bare (place : Option Nat) (d : MonitorDevice) :
    bareDevice none (bareDevice place d) = bareDevice place d := by
  simp [bareDevice]

@[simp] lemma bareDevice_loaded (place : Option Nat) (row : Control.DeviceData) :
    bareDevice place (MonitorDevice.loaded row) = MonitorDevice.loaded row := by
  simp [bareDevice, MonitorDevice.loaded]

lemma map_bareEntry_joined (requests : List IDatabase.Request) (device : Option String) :
    (requests.map fun rq => (⟨rq, device⟩ : DbEntry)).map bareEntry =
      (requests.map bareRequest).map fun rq => ⟨rq, none⟩ := by
  simp [bareEntry]

lemma map_bareDispatcher_joined (requests : List Dispatcher.Request) (served : Option Nat) :
    (requests.map fun rq => (⟨rq, served⟩ : DispatcherEntry)).map bareDispatcher =
      requests.map fun rq => ⟨rq, none⟩ := by
  simp [bareDispatcher]

/-- What joins the database queue stays behind the request that is left out. -/
lemma leaveOut_joined {place : Option Nat} {queue : List DbEntry} (h : Within place queue)
    {requests requests' : List IDatabase.Request}
    (heq : requests'.map bareRequest = requests.map bareRequest) (device device' : Option String) :
    ((leaveOut place queue).map bareEntry ++
        requests'.map fun rq => (⟨rq, device'⟩ : DbEntry)).map bareEntry =
      (leaveOut place (queue ++ requests.map fun rq => ⟨rq, device⟩)).map bareEntry := by
  rw [leaveOut_append h, List.map_append, List.map_append, map_bareEntry_bare, map_bareEntry_joined,
    map_bareEntry_joined, heq]

lemma leaveOut_sent {place : Option Nat} {queue : List DispatcherEntry} (h : Within place queue)
    (requests : List Dispatcher.Request) (served served' : Option Nat) :
    ((leaveOut place queue).map bareDispatcher ++
        requests.map fun rq => (⟨rq, served'⟩ : DispatcherEntry)).map bareDispatcher =
      (leaveOut place (queue ++ requests.map fun rq => ⟨rq, served⟩)).map bareDispatcher := by
  rw [leaveOut_append h, List.map_append, List.map_append, map_bareDispatcher_bare,
    map_bareDispatcher_joined, map_bareDispatcher_joined]

/-! ### A dispatch -/

section Steps

variable {b : Backend} {s s' : Application} {trace trace' : Trace}

/-- What is left of two applications is the same when it is in each of their parts. -/
lemma bare_eq
    (hdevices : bareDevices trace s.collector.devices = bareDevices trace' s'.collector.devices)
    (htables : s.collector.tables = s'.collector.tables)
    (hqueue : (leaveOut trace.inDatabase s.collector.queue).map bareEntry =
      (leaveOut trace'.inDatabase s'.collector.queue).map bareEntry)
    (hdispatcher : (leaveOut trace.inDispatcher s.dispatcher).map bareDispatcher =
      (leaveOut trace'.inDispatcher s'.dispatcher).map bareDispatcher)
    (hclients : s.clients = s'.clients) (hnext : s.nextClient = s'.nextClient) :
    bare trace s = bare trace' s' := by
  unfold bare
  rw [hdevices, htables, hqueue, hdispatcher, hclients, hnext]

lemma bareDevices_congr (h : ∀ k, trace.inDevice k = trace'.inDevice k) :
    bareDevices trace = bareDevices trace' := by
  funext devices
  unfold bareDevices
  simp only [h]

lemma bare_congr (hdevice : ∀ k, trace.inDevice k = trace'.inDevice k)
    (hdispatcher : trace.inDispatcher = trace'.inDispatcher)
    (hdatabase : trace.inDatabase = trace'.inDatabase) : bare trace s = bare trace' s := by
  apply bare_eq
  · rw [bareDevices_congr hdevice]
  · rfl
  · rw [hdatabase]
  · rw [hdispatcher]
  · rfl
  · rfl

@[simp] lemma bareDevices_gone_bare (devices : DeviceManager) :
    bareDevices .gone (bareDevices trace devices) = bareDevices trace devices := by
  simp [bareDevices]

@[simp] lemma bare_gone_bare : bare .gone (bare trace s) = bare trace s := by
  simp [bare]

lemma getDevice_bare (k : String) :
    (bare trace s).collector.devices.getDevice k =
      (s.collector.devices.getDevice k).map (bareDevice (trace.inDevice k)) := by
  have hmap : (bareDevices trace s.collector.devices).getDevice k =
      (s.collector.devices.getDevice k).map fun d =>
        bareDevice (trace.inDevice d.deviceData.hash) d := getDevice_map fun _ => rfl
  refine hmap.trans ?_
  cases hget : s.collector.devices.getDevice k with
  | none => rfl
  | some d => simp [getDevice_hash hget]

lemma onCollector_of_get {hash : String} {event : MonitorDevice.Event} {d : MonitorDevice}
    (hget : s.collector.devices.getDevice hash = some d) :
    onCollector b s (.device hash event) none =
      match d.step event with
      | .error fault => .error (.fault fault)
      | .ok o => .ok (afterDevice s hash o) := by
  unfold onCollector Collector.step Collector.answers Collector.lists
  cases ho : d.step event with
  | error fault => simp [hget, ho]
  | ok o => simp [hget, ho, afterDevice]

lemma onCollector_of_unknown {hash : String} {event : MonitorDevice.Event}
    (hget : s.collector.devices.getDevice hash = none) :
    onCollector b s (.device hash event) none = .ok s := by
  simp [onCollector, Collector.step, Collector.answers, Collector.lists, hget]

/-- The places other than the one in the queue of a device are the same. -/
structure Trace.SameBut (hash : String) (trace trace' : Trace) : Prop where
  device : ∀ k, k ≠ hash → trace'.inDevice k = trace.inDevice k
  dispatcher : trace'.inDispatcher = trace.inDispatcher
  database : trace'.inDatabase = trace.inDatabase

lemma bare_afterDevice {hash : String} {o o' : Outcome} (h : trace.Placed s)
    (hhash : o.device.deviceData.hash = hash) (hsame : trace.SameBut hash trace')
    (heq : bareOutcome none o' = bareOutcome (trace'.inDevice hash) o) :
    bare .gone (afterDevice (bare trace s) hash o') = bare trace' (afterDevice s hash o) := by
  have hdevice := congrArg Outcome.device heq
  have hdatabase := congrArg Outcome.database heq
  have hdispatcher : o.dispatcher = o'.dispatcher := (congrArg Outcome.dispatcher heq).symm
  apply bare_eq
  · apply update_map
    · intro x
      rfl
    · intro x hx
      simp [hsame.device _ hx]
    · rw [hhash]
      exact hdevice
  · rfl
  · rw [hsame.database]
    exact leaveOut_joined h.inDatabase hdatabase (some hash) (some hash)
  · rw [hsame.dispatcher]
    have hpushed := leaveOut_sent h.inDispatcher o.dispatcher none none
    rw [hdispatcher] at hpushed
    refine hpushed.trans ?_
    rw [← hdispatcher]
    rfl
  · rfl
  · rfl

lemma bare_onDevice {hash : String} {event : MonitorDevice.Event} (h : trace.Placed s)
    (hdue : ∀ io, event = .queue io → trace.inDevice hash ≠ some 0)
    (hplace : trace'.inDevice hash = nextPlace (trace.inDevice hash) event)
    (hsame : trace.SameBut hash trace') :
    (onCollector b (bare trace s) (.device hash event) none).map (bare .gone) =
      (onCollector b s (.device hash event) none).map (bare trace') := by
  cases hget : s.collector.devices.getDevice hash with
  | none =>
    have hget' : (bare trace s).collector.devices.getDevice hash = none := by
      rw [getDevice_bare, hget]
      rfl
    have hnone : nextPlace (trace.inDevice hash) event = none := by
      rw [h.unknown hget]
      cases event <;> rfl
    have hall : ∀ k, trace.inDevice k = trace'.inDevice k := by
      intro k
      by_cases hk : k = hash
      · rw [hk, hplace, hnone, h.unknown hget]
      · exact (hsame.device k hk).symm
    rw [onCollector_of_unknown hget, onCollector_of_unknown hget', map_ok, map_ok, bare_gone_bare,
      bare_congr hall hsame.dispatcher.symm hsame.database.symm]
  | some d =>
    have hget' : (bare trace s).collector.devices.getDevice hash =
        some (bareDevice (trace.inDevice hash) d) := by
      rw [getDevice_bare, hget]
      rfl
    have hstep := step_bareDevice (h.inDevice hget) hdue
    rw [onCollector_of_get hget, onCollector_of_get hget']
    cases ho : d.step event with
    | error fault =>
      rw [ho] at hstep
      cases ho' : (bareDevice (trace.inDevice hash) d).step event with
      | error fault' =>
        rw [ho'] at hstep
        simpa using hstep
      | ok o' =>
        rw [ho'] at hstep
        simp at hstep
    | ok o =>
      rw [ho] at hstep
      cases ho' : (bareDevice (trace.inDevice hash) d).step event with
      | error fault' =>
        rw [ho'] at hstep
        simp at hstep
      | ok o' =>
        rw [ho', ← hplace] at hstep
        have hhash : o.device.deviceData.hash = hash := by
          rw [dispatch_hash (step_dispatch ho), getDevice_hash hget]
        exact congrArg Except.ok (bare_afterDevice h hhash hsame (Except.ok.inj hstep))

/-- The handlers of the database do not read the history of a message. -/
lemma databaseHandler_bareRequest (states : String → Option Control.DeviceState) (io : DbIo)
    (t : Tables) (rq : IDatabase.Request) :
    Database.requestHandler b states io t (bareRequest rq) =
      Database.requestHandler b states io t rq := by
  obtain ⟨client, action, args, bulkData⟩ := rq
  cases bulkData with
  | data m =>
    cases action with
    | addData =>
      change Database.doAddData b io t _ = Database.doAddData b io t _
      unfold Database.doAddData
      cases hhash : args.lookup .sessionHash with
      | none => simp [bareRequest, bareData, BulkData.castData, hhash]
      | some hash =>
        simp only [bareRequest, bareData, BulkData.castData, hhash]
        rfl
    | _ => rfl
  | _ => rfl

lemma deviceState_bare : (bare trace s).collector.deviceState = s.collector.deviceState := by
  funext hash
  unfold Collector.deviceState
  rw [getDevice_bare, Option.map_map]
  rfl

lemma known_bare : (bare trace s).known = s.known := by
  funext hash
  unfold known
  rw [getDevice_bare, Option.isSome_map]

lemma step_database_of_entry {io : DbIo} {entry : DbEntry} {rest : List DbEntry}
    (hq : s.collector.queue = entry :: rest) :
    Application.step b s (.database io) =
      match Database.requestHandler b s.collector.deviceState io s.collector.tables entry.request with
      | .error fault => .error (.fault fault)
      | .ok o => .ok (afterDatabase s entry rest o) := by
  unfold Application.step onCollector Collector.step Collector.answers Collector.lists
  cases ho : Database.requestHandler b s.collector.deviceState io s.collector.tables
      entry.request with
  | error fault => simp [hq, ho]
  | ok o => simp [hq, ho, afterDatabase]

lemma step_database_of_nil {io : DbIo} (hq : s.collector.queue = []) :
    Application.step b s (.database io) = .ok s := by
  simp [Application.step, onCollector, Collector.step, Collector.answers, Collector.lists, hq]

lemma bareDevices_load (rows : List Control.DeviceData) (devices : DeviceManager) :
    bareDevices .gone ((bareDevices trace devices).load rows) =
      bareDevices trace (devices.load rows) := by
  have hload : (bareDevices trace devices).load rows = bareDevices trace (devices.load rows) := by
    apply load_map
    · intro d
      rfl
    · intro row
      exact bareDevice_loaded _ row
  rw [hload, bareDevices_gone_bare]

lemma bare_queue {entry : DbEntry} {rest : List DbEntry} (hq : s.collector.queue = entry :: rest)
    (hdue : trace.inDatabase ≠ some 0) :
    (bare trace s).collector.queue =
      bareEntry entry :: (leaveOut (trace.inDatabase.map (· - 1)) rest).map bareEntry := by
  change (leaveOut trace.inDatabase s.collector.queue).map bareEntry = _
  rw [hq, leaveOut_cons hdue, List.map_cons]

lemma bare_onDatabase {io : DbIo} (h : trace.Placed s) (hdue : trace.inDatabase ≠ some 0)
    (hdevice : ∀ k, trace'.inDevice k = trace.inDevice k)
    (hdispatcher : trace'.inDispatcher = trace.inDispatcher)
    (hplace : trace'.inDatabase = trace.inDatabase.map (· - 1)) :
    (Application.step b (bare trace s) (.database io)).map (bare .gone) =
      (Application.step b s (.database io)).map (bare trace') := by
  cases hq : s.collector.queue with
  | nil =>
    have hnone : trace.inDatabase = none := by
      have hwithin := h.inDatabase
      rw [hq] at hwithin
      exact hwithin.eq_none
    have hq' : (bare trace s).collector.queue = [] := by simp [bare, hq]
    have hall : trace.inDatabase = trace'.inDatabase := by rw [hplace, hnone]; rfl
    rw [step_database_of_nil hq, step_database_of_nil hq', map_ok, map_ok, bare_gone_bare,
      bare_congr (fun k => (hdevice k).symm) hdispatcher.symm hall]
  | cons entry rest =>
    have hwithin := h.inDatabase
    rw [hq] at hwithin
    rw [step_database_of_entry hq, step_database_of_entry (bare_queue hq hdue), deviceState_bare]
    change Except.map _ (match Database.requestHandler b _ io s.collector.tables
      (bareRequest entry.request) with | .error _ => _ | .ok _ => _) = _
    rw [databaseHandler_bareRequest]
    cases Database.requestHandler b s.collector.deviceState io s.collector.tables entry.request with
    | error fault => rfl
    | ok o =>
      rw [map_ok, map_ok]
      apply congrArg Except.ok
      apply bare_eq
      · rw [bareDevices_congr hdevice]
        exact bareDevices_load o.loaded s.collector.devices
      · rfl
      · rw [hplace]
        exact leaveOut_joined (hwithin.tail hdue) rfl none none
      · rw [hdispatcher]
        exact leaveOut_sent h.inDispatcher o.dispatcher _ _
      · rfl
      · rfl

lemma step_dispatcher_of_entry {write : Bool} {entry : DispatcherEntry} {rest : List DispatcherEntry}
    (hq : s.dispatcher = entry :: rest) :
    Application.step b s (.dispatcher write) =
      match Dispatcher.requestHandler s.known entry.request with
      | .error stop => .error stop
      | .ok o => .ok (deliver { s with dispatcher := rest } o write entry.served) := by
  cases ho : Dispatcher.requestHandler s.known entry.request with
  | error stop => simp [Application.step, hq, ho]
  | ok o => simp [Application.step, hq, ho]

lemma step_dispatcher_of_nil {write : Bool} (hq : s.dispatcher = []) :
    Application.step b s (.dispatcher write) = .ok s := by
  simp only [Application.step, hq]

lemma bareDevices_pushed (h : trace.Placed s) (device : Option (String × IDevice.Request)) :
    bareDevices .gone (match device with
      | none => (bare trace s).collector.devices
      | some (hash, rq) =>
        match (bare trace s).collector.devices.getDevice hash with
        | none => (bare trace s).collector.devices
        | some d => (bare trace s).collector.devices.update hash (d.pushRequest rq)) =
      bareDevices trace (match device with
        | none => s.collector.devices
        | some (hash, rq) =>
          match s.collector.devices.getDevice hash with
          | none => s.collector.devices
          | some d => s.collector.devices.update hash (d.pushRequest rq)) := by
  cases device with
  | none => exact bareDevices_gone_bare s.collector.devices
  | some pair =>
    obtain ⟨hash, rq⟩ := pair
    dsimp only
    rw [getDevice_bare]
    cases hget : s.collector.devices.getDevice hash with
    | none => exact bareDevices_gone_bare s.collector.devices
    | some d =>
      apply update_map
      · intro x
        rfl
      · intro x _
        simp
      · change _ = bareDevice (trace.inDevice d.deviceData.hash) _
        rw [getDevice_hash hget]
        simp [bareDevice, MonitorDevice.pushRequest, leaveOut_append (h.inDevice hget)]

lemma bare_onDispatcher {write : Bool} (h : trace.Placed s) (hdue : trace.inDispatcher ≠ some 0)
    (hdevice : ∀ k, trace'.inDevice k = trace.inDevice k)
    (hdatabase : trace'.inDatabase = trace.inDatabase)
    (hplace : trace'.inDispatcher = trace.inDispatcher.map (· - 1)) :
    (Application.step b (bare trace s) (.dispatcher write)).map (bare .gone) =
      (Application.step b s (.dispatcher write)).map (bare trace') := by
  cases hq : s.dispatcher with
  | nil =>
    have hnone : trace.inDispatcher = none := by
      have hwithin := h.inDispatcher
      rw [hq] at hwithin
      exact hwithin.eq_none
    have hq' : (bare trace s).dispatcher = [] := by simp [bare, hq]
    have hall : trace.inDispatcher = trace'.inDispatcher := by rw [hplace, hnone]; rfl
    rw [step_dispatcher_of_nil hq, step_dispatcher_of_nil hq', map_ok, map_ok, bare_gone_bare,
      bare_congr (fun k => (hdevice k).symm) hall hdatabase.symm]
  | cons entry rest =>
    have hwithin := h.inDispatcher
    rw [hq] at hwithin
    have hq' : (bare trace s).dispatcher = bareDispatcher entry ::
        (leaveOut (trace.inDispatcher.map (· - 1)) rest).map bareDispatcher := by
      change (leaveOut trace.inDispatcher s.dispatcher).map bareDispatcher = _
      rw [hq, leaveOut_cons hdue, List.map_cons]
    rw [step_dispatcher_of_entry hq, step_dispatcher_of_entry hq', known_bare]
    change Except.map _ (match Dispatcher.requestHandler s.known entry.request with
      | .error _ => _ | .ok _ => _) = _
    cases Dispatcher.requestHandler s.known entry.request with
    | error stop => rfl
    | ok o =>
      rw [map_ok, map_ok]
      apply congrArg Except.ok
      apply bare_eq
      · rw [bareDevices_congr hdevice]
        exact bareDevices_pushed h o.device
      · rfl
      · rw [hdatabase]
        exact leaveOut_joined h.inDatabase rfl none none
      · rw [hplace]
        exact leaveOut_sent (hwithin.tail hdue) o.dispatcher none none
      · rfl
      · rfl

/-- The requests that the read loop makes of the envelopes of a client, and whether it reads on. -/
def askedRequests (client : ClientId) (last : MonitorDevice.ReadStatus) :
    List (ControlEnvelope × Bool) → List Dispatcher.Request × Bool
  | [] => ([], last = .again)
  | (envelope, write) :: rest =>
    if envelope.origin ≠ .control then askedRequests client last rest
    else match ControlClient.requestHandler client envelope.mesg write with
      | none => ([], false)
      | some (_, nrq) =>
        let later := askedRequests client last rest
        (nrq :: later.1, later.2)

lemma readEnvelopes_asked (client : ClientId) (last : MonitorDevice.ReadStatus) (s : Application)
    (input : List (ControlEnvelope × Bool)) :
    ∃ asked sent, readEnvelopes client last s input =
      ({ s with
        dispatcher := s.dispatcher ++
          (askedRequests client last input).1.map fun rq => ⟨rq, none⟩
        asked := asked
        sent := sent }, (askedRequests client last input).2) := by
  induction input generalizing s with
  | nil => exact ⟨s.asked, s.sent, by simp [readEnvelopes, askedRequests]⟩
  | cons pair rest ih =>
    obtain ⟨envelope, write⟩ := pair
    rw [readEnvelopes, askedRequests]
    by_cases horigin : envelope.origin ≠ .control
    · rw [if_pos horigin, if_pos horigin]
      exact ih s
    · rw [if_neg horigin, if_neg horigin]
      cases hrq : ControlClient.requestHandler client envelope.mesg write with
      | none => exact ⟨s.asked ++ [(client, envelope.mesg)], s.sent, by simp⟩
      | some result =>
        obtain ⟨message, nrq⟩ := result
        obtain ⟨asked, sent, hread⟩ := ih (s.ask client envelope.mesg write message nrq)
        refine ⟨asked, sent, hread.trans ?_⟩
        simp [ask]

lemma bare_asked (h : trace.Placed s) (requests : List Dispatcher.Request) (clients : List ClientId)
    (asked asked' : List (ClientId × Control.Request)) (sent sent' : List Sent) :
    bare .gone { bare trace s with
      dispatcher := (bare trace s).dispatcher ++ requests.map fun rq => ⟨rq, none⟩
      clients := clients
      asked := asked
      sent := sent } =
      bare trace { s with
        dispatcher := s.dispatcher ++ requests.map fun rq => ⟨rq, none⟩
        clients := clients
        asked := asked'
        sent := sent' } := by
  apply bare_eq
  · exact bareDevices_gone_bare s.collector.devices
  · rfl
  · exact map_bareEntry_bare _
  · exact leaveOut_sent h.inDispatcher requests none none
  · rfl
  · rfl

lemma bare_onControl {client : ClientId} {input : List (ControlEnvelope × Bool)}
    {last : MonitorDevice.ReadStatus} (h : trace.Placed s) :
    (Application.step b (bare trace s) (.control client input last)).map (bare .gone) =
      (Application.step b s (.control client input last)).map (bare trace) := by
  simp only [Application.step]
  by_cases hclient : client ∉ s.clients
  · have hclient' : client ∉ (bare trace s).clients := hclient
    rw [if_pos hclient, if_pos hclient', map_ok, map_ok, bare_gone_bare]
  · have hclient' : ¬ client ∉ (bare trace s).clients := hclient
    rw [if_neg hclient, if_neg hclient']
    obtain ⟨asked, sent, hread⟩ := readEnvelopes_asked client last s input
    obtain ⟨asked', sent', hread'⟩ := readEnvelopes_asked client last (bare trace s) input
    rw [hread, hread']
    cases (askedRequests client last input).2 with
    | true => exact congrArg Except.ok (bare_asked h _ s.clients asked' asked sent' sent)
    | false => exact congrArg Except.ok (bare_asked h _ _ asked' asked sent' sent)

/-- A dispatch does the same without a request that it does not handle. -/
theorem step_bare (h : trace.Placed s) {e : Application.Event} (hdue : trace.due e = false) :
    (Application.step b (bare trace s) e).map (bare .gone) =
      (Application.step b s e).map (bare (trace.next s e)) := by
  -- a device that does not handle a request leaves all places
  have hdevice : ∀ hash event, (∀ io, event ≠ MonitorDevice.Event.queue io) →
      (onCollector b (bare trace s) (.device hash event) none).map (bare .gone) =
        (onCollector b s (.device hash event) none).map (bare trace) := by
    intro hash event hevent
    apply bare_onDevice h
    · intro io hio
      exact absurd hio (hevent io)
    · cases event with
      | queue io => exact absurd rfl (hevent io)
      | _ => rfl
    · exact ⟨fun k _ => rfl, rfl, rfl⟩
  rw [Trace.next_of_not_due hdue]
  cases e with
  | accept =>
    apply congrArg Except.ok
    apply bare_eq
    · exact bareDevices_gone_bare s.collector.devices
    · rfl
    · exact map_bareEntry_bare _
    · exact map_bareDispatcher_bare _
    · rfl
    · rfl
  | control client input last =>
    exact bare_onControl h
  | dispatcher write =>
    apply bare_onDispatcher h
    · rintro hzero
      cases trace with
      | dispatcher ahead =>
        have hahead : ahead = 0 := by simpa [Trace.inDispatcher] using hzero
        subst hahead
        cases hdue
      | _ => simp [Trace.inDispatcher] at hzero
    · intro k
      cases trace <;> rfl
    · cases trace <;> rfl
    · cases trace <;> rfl
  | connection hash clock input last =>
    exact hdevice hash _ (by simp)
  | finalize hash =>
    exact hdevice hash _ (by simp)
  | queue hash io =>
    apply bare_onDevice h
    · rintro io' - hzero
      cases trace with
      | device k ahead =>
        by_cases hk : k = hash
        · have hahead : ahead = 0 := by simpa [Trace.inDevice, hk] using hzero
          subst hahead
          simp [Trace.due, hk] at hdue
        · simp [Trace.inDevice, hk] at hzero
      | _ => simp [Trace.inDevice] at hzero
    · cases trace with
      | device k ahead =>
        by_cases hk : k = hash
        · simp [Trace.shifted, Trace.inDevice, nextPlace, hk]
        · simp [Trace.shifted, Trace.inDevice, nextPlace, hk]
      | _ => rfl
    · refine ⟨fun j hj => ?_, ?_, ?_⟩
      · cases trace with
        | device k ahead =>
          by_cases hk : k = j
          · have hne : hash ≠ k := fun he => hj (hk.symm.trans he.symm)
            simp [Trace.shifted, Trace.inDevice, hne]
          · simp [Trace.shifted, Trace.inDevice, hk]
        | _ => rfl
      · cases trace <;> rfl
      · cases trace <;> rfl
  | timer hash timer =>
    exact hdevice hash _ (by simp)
  | database io =>
    apply bare_onDatabase h
    · rintro hzero
      cases trace with
      | database ahead =>
        have hahead : ahead = 0 := by simpa [Trace.inDatabase] using hzero
        subst hahead
        cases hdue
      | _ => simp [Trace.inDatabase] at hzero
    · intro k
      cases trace <;> rfl
    · cases trace <;> rfl
    · cases trace <;> rfl

/-- What a dispatch leaves of the dispatcher queue. -/
def dispatcherLeft (queue : List DispatcherEntry) : Application.Event → List DispatcherEntry
  | .dispatcher _ => queue.tail
  | _ => queue

/-- What a dispatch leaves of the database queue. -/
def databaseLeft (queue : List DbEntry) : Application.Event → List DbEntry
  | .database _ => queue.tail
  | _ => queue

/-- What a dispatch leaves of the queue of the device with a hash. -/
def deviceLeft (hash : String) (queue : List IDevice.Request) :
    Application.Event → List IDevice.Request
  | .queue k _ => if k = hash then queue.tail else queue
  | _ => queue

/-- Every queue of the application has been served and has grown. -/
structure Serves (s : Application) (e : Application.Event) (s' : Application) : Prop where
  dispatcher : ∃ new, s'.dispatcher = dispatcherLeft s.dispatcher e ++ new
  database : ∃ new, s'.collector.queue = databaseLeft s.collector.queue e ++ new
  device : ∀ hash d, s.collector.devices.getDevice hash = some d →
    ∃ d' new, s'.collector.devices.getDevice hash = some d' ∧
      d'.queue = deviceLeft hash d.queue e ++ new

lemma serves_idle {e : Application.Event} (hdispatcher : s'.dispatcher = s.dispatcher)
    (hcollector : s'.collector = s.collector)
    (htaken : dispatcherLeft s.dispatcher e = s.dispatcher)
    (htaken' : databaseLeft s.collector.queue e = s.collector.queue)
    (hleft : ∀ hash d, s.collector.devices.getDevice hash = some d →
      deviceLeft hash d.queue e = d.queue) : Serves s e s' := by
  refine ⟨⟨[], ?_⟩, ⟨[], ?_⟩, fun hash d hget => ⟨d, [], ?_, ?_⟩⟩
  · rw [hdispatcher, htaken, List.append_nil]
  · rw [hcollector, htaken', List.append_nil]
  · rw [hcollector, hget]
  · rw [hleft hash d hget, List.append_nil]

lemma serves_device {e : Application.Event} {hash : String} {event : MonitorDevice.Event}
    (he : deviceEvent e = some (hash, event))
    (hs : onCollector b s (.device hash event) none = .ok s') : Serves s e s' := by
  have hdispatcher : dispatcherLeft s.dispatcher e = s.dispatcher := by
    cases e with
    | dispatcher write => cases he
    | _ => rfl
  have hdatabase : databaseLeft s.collector.queue e = s.collector.queue := by
    cases e with
    | database io => cases he
    | _ => rfl
  have hother : ∀ k d, k ≠ hash → deviceLeft k d e = d := by
    intro k d hk
    cases e with
    | queue j io =>
      obtain ⟨rfl, rfl⟩ := Prod.mk.inj (Option.some.inj he)
      exact if_neg fun hj => hk hj.symm
    | _ => rfl
  cases hget : s.collector.devices.getDevice hash with
  | none =>
    rw [onCollector_of_unknown hget] at hs
    obtain rfl := Except.ok.inj hs
    apply serves_idle rfl rfl hdispatcher hdatabase
    intro k d hk
    apply hother k
    rintro rfl
    simp [hget] at hk
  | some d =>
    rw [onCollector_of_get hget] at hs
    cases ho : d.step event with
    | error fault => simp [ho] at hs
    | ok o =>
      rw [ho] at hs
      obtain rfl := Except.ok.inj hs
      have hhash : o.device.deviceData.hash = hash := by
        rw [dispatch_hash (step_dispatch ho), getDevice_hash hget]
      refine ⟨⟨_, by rw [hdispatcher]; rfl⟩, ⟨_, by rw [hdatabase]; rfl⟩, fun k d' hk => ?_⟩
      by_cases hne : k = hash
      · subst hne
        obtain rfl : d = d' := Option.some.inj (hget.symm.trans hk)
        obtain ⟨added, hadded⟩ := step_remaining ho
        refine ⟨o.device, added, getDevice_update_self hhash hget, ?_⟩
        rw [hadded]
        cases e with
        | queue j io =>
          obtain ⟨rfl, rfl⟩ := Prod.mk.inj (Option.some.inj he)
          simp [remaining, deviceLeft]
        | connection | finalize | timer =>
          obtain ⟨rfl, rfl⟩ := Prod.mk.inj (Option.some.inj he)
          rfl
        | _ => cases he
      · refine ⟨d', [], (getDevice_update_ne hhash hne).trans hk, ?_⟩
        rw [hother k _ hne, List.append_nil]

lemma getDevice_deliver {o : Dispatcher.Outcome} {write : Bool} {served : Option Nat} {hash : String}
    {d : MonitorDevice} (hget : s.collector.devices.getDevice hash = some d) :
    ∃ d' new, (deliver s o write served).collector.devices.getDevice hash = some d' ∧
      d'.queue = d.queue ++ new := by
  cases hdevice : o.device with
  | none => exact ⟨d, [], by simp [deliver, hdevice, hget], (List.append_nil _).symm⟩
  | some pair =>
    obtain ⟨k, rq⟩ := pair
    cases hk : s.collector.devices.getDevice k with
    | none => exact ⟨d, [], by simp [deliver, hdevice, hk, hget], (List.append_nil _).symm⟩
    | some x =>
      have hdevices : (deliver s o write served).collector.devices =
          s.collector.devices.update k (x.pushRequest rq) := by
        simp [deliver, hdevice, hk]
      have hhash : (x.pushRequest rq).deviceData.hash = k := getDevice_hash (d := x) hk
      rw [hdevices]
      by_cases hne : hash = k
      · subst hne
        obtain rfl : x = d := Option.some.inj (hk.symm.trans hget)
        exact ⟨x.pushRequest rq, [rq], getDevice_update_self hhash hk, rfl⟩
      · exact ⟨d, [], (getDevice_update_ne hhash hne).trans hget, (List.append_nil _).symm⟩

lemma step_serves {e : Application.Event} (hs : Application.step b s e = .ok s') : Serves s e s' := by
  cases e with
  | accept =>
    obtain rfl := Except.ok.inj hs
    exact serves_idle rfl rfl rfl rfl fun _ _ _ => rfl
  | control client input last =>
    obtain ⟨asked, sent, hread⟩ := readEnvelopes_asked client last s input
    simp only [Application.step] at hs
    split at hs
    · obtain rfl := Except.ok.inj hs
      exact serves_idle rfl rfl rfl rfl fun _ _ _ => rfl
    · rw [hread] at hs
      obtain rfl := Except.ok.inj hs
      cases (askedRequests client last input).2 <;>
        exact ⟨⟨_, rfl⟩, ⟨[], by simp [databaseLeft]⟩,
          fun k d hk => ⟨d, [], hk, by simp [deviceLeft]⟩⟩
  | dispatcher write =>
    cases hq : s.dispatcher with
    | nil =>
      rw [step_dispatcher_of_nil hq] at hs
      obtain rfl := Except.ok.inj hs
      exact serves_idle rfl rfl (by rw [hq]; rfl) rfl fun _ _ _ => rfl
    | cons entry rest =>
      rw [step_dispatcher_of_entry hq] at hs
      cases ho : Dispatcher.requestHandler s.known entry.request with
      | error stop => simp [ho] at hs
      | ok o =>
        rw [ho] at hs
        obtain rfl := Except.ok.inj hs
        refine ⟨⟨_, by rw [hq]; rfl⟩, ⟨_, rfl⟩, fun k d hk => ?_⟩
        exact getDevice_deliver (s := { s with dispatcher := rest }) hk
  | connection hash clock input last => exact serves_device rfl hs
  | finalize hash => exact serves_device rfl hs
  | queue hash io => exact serves_device rfl hs
  | timer hash timer => exact serves_device rfl hs
  | database io =>
    cases hq : s.collector.queue with
    | nil =>
      rw [step_database_of_nil hq] at hs
      obtain rfl := Except.ok.inj hs
      exact serves_idle rfl rfl rfl (by rw [hq]; rfl) fun _ _ _ => rfl
    | cons entry rest =>
      obtain ⟨o, -, rfl⟩ := step_database hq hs
      refine ⟨⟨_, rfl⟩, ⟨_, by rw [hq]; rfl⟩, fun k d hk => ⟨d, [], ?_, by simp [deviceLeft]⟩⟩
      exact getDevice_load_of_some hk

/-- A request that is not handled waits at its place. -/
theorem request_step {e : Application.Event} {rq : AnyRequest} (hs : Application.step b s e = .ok s')
    (hdue : trace.due e = false) (hrq : trace.request s = some rq) :
    (trace.next s e).request s' = some rq := by
  have hserves := step_serves hs
  rw [Trace.next_of_not_due hdue]
  cases trace with
  | device hash ahead =>
    obtain ⟨d, hget, x, hx, rfl⟩ : ∃ d, s.collector.devices.getDevice hash = some d ∧
        ∃ x, d.queue[ahead]? = some x ∧ AnyRequest.device x = rq := by
      simpa [Trace.request, Option.bind_eq_some_iff] using hrq
    obtain ⟨d', new, hget', hqueue⟩ := hserves.device hash d hget
    have hplace : ∃ n, (Trace.device hash ahead).shifted e = .device hash n ∧
        d'.queue[n]? = some x := by
      rw [hqueue]
      cases e with
      | queue k io =>
        by_cases hk : k = hash
        · have hne : ahead ≠ 0 := by
            rintro rfl
            simp [Trace.due, hk] at hdue
          refine ⟨ahead - 1, by simp [Trace.shifted, hk], ?_⟩
          simpa [deviceLeft, hk] using getElem?_served hx hne new
        · refine ⟨ahead, by simp [Trace.shifted, hk], ?_⟩
          simpa [deviceLeft, hk] using getElem?_joined hx new
      | _ => exact ⟨ahead, rfl, getElem?_joined hx new⟩
    obtain ⟨n, hshift, hplace⟩ := hplace
    rw [hshift]
    simp [Trace.request, hget', hplace]
  | dispatcher ahead =>
    obtain ⟨entry, hentry, rfl⟩ : ∃ entry, s.dispatcher[ahead]? = some entry ∧
        AnyRequest.dispatcher entry.request = rq := by
      simpa [Trace.request] using hrq
    obtain ⟨new, hqueue⟩ := hserves.dispatcher
    have hplace : ∃ n, (Trace.dispatcher ahead).shifted e = .dispatcher n ∧
        s'.dispatcher[n]? = some entry := by
      rw [hqueue]
      cases e with
      | dispatcher write =>
        have hne : ahead ≠ 0 := by
          rintro rfl
          cases hdue
        exact ⟨ahead - 1, rfl, getElem?_served hentry hne new⟩
      | _ => exact ⟨ahead, rfl, getElem?_joined hentry new⟩
    obtain ⟨n, hshift, hplace⟩ := hplace
    rw [hshift]
    simp [Trace.request, hplace]
  | database ahead =>
    obtain ⟨entry, hentry, rfl⟩ : ∃ entry, s.collector.queue[ahead]? = some entry ∧
        AnyRequest.database entry.request = rq := by
      simpa [Trace.request] using hrq
    obtain ⟨new, hqueue⟩ := hserves.database
    have hplace : ∃ n, (Trace.database ahead).shifted e = .database n ∧
        s'.collector.queue[n]? = some entry := by
      rw [hqueue]
      cases e with
      | database io =>
        have hne : ahead ≠ 0 := by
          rintro rfl
          cases hdue
        exact ⟨ahead - 1, rfl, getElem?_served hentry hne new⟩
      | _ => exact ⟨ahead, rfl, getElem?_joined hentry new⟩
    obtain ⟨n, hshift, hplace⟩ := hplace
    rw [hshift]
    simp [Trace.request, hplace]
  | gone => cases hrq

end Steps

end TkmCollector.Proofs
