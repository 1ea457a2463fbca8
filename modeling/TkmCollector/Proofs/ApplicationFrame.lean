import Mathlib.Logic.Relation
import TkmCollector.Application
import TkmCollector.Proofs.CollectorFrame

namespace TkmCollector.Proofs

open Application

/-- One request taken from a client. -/
inductive Ask (client : ClientId) (s : Application) : Application → Prop where
  | unknown (rq : Control.Request) (h : ∀ write, ControlClient.requestHandler client rq write = none) :
      Ask client s { s with asked := s.asked ++ [(client, rq)] }
  | known (rq : Control.Request) (write : Bool) (message : Option Control.Message)
      (nrq : Dispatcher.Request)
      (h : ControlClient.requestHandler client rq write = some (message, nrq)) :
      Ask client s (s.ask client rq write message nrq)

/-- A device has been dispatched. -/
def afterDevice (s : Application) (hash : String) (o : Outcome) : Application :=
  { s with
    collector := { s.collector with
      devices := s.collector.devices.update hash o.device
      queue := s.collector.queue ++ o.database.map fun rq => ⟨rq, some hash⟩ }
    dispatcher := s.dispatcher ++ o.dispatcher.map fun rq => ⟨rq, none⟩ }

/-- The head of the database queue has been handled. -/
def afterDatabase (s : Application) (entry : DbEntry) (rest : List DbEntry) (o : DbOutcome) :
    Application :=
  { s with
    collector := {
      devices := s.collector.devices.load o.loaded
      tables := o.tables
      queue := rest ++ o.database.map fun rq => ⟨rq, none⟩
      handled := s.collector.handled ++ [entry] }
    dispatcher := s.dispatcher ++ o.dispatcher.map fun rq => ⟨rq, some s.collector.handled.length⟩
    sent := s.sent ++ o.lists.map fun (client, list) =>
      ⟨client, list.message, true, some s.collector.handled.length⟩ }

/-- The event of a device that an event of the application dispatches. -/
def deviceEvent : Application.Event → Option (String × MonitorDevice.Event)
  | .connection hash clock input last => some (hash, .connection clock input last)
  | .finalize hash => some (hash, .finalize)
  | .queue hash io => some (hash, .queue io)
  | .timer hash timer => some (hash, .timer timer)
  | .accept | .control _ _ _ | .dispatcher _ | .database _ => none

/-- The ways in which one dispatch changes the application. -/
inductive Turn (b : Backend) (s : Application) : Application.Event → Application → Prop where
  | idle (e : Application.Event) : Turn b s e s
  | accept : Turn b s .accept { s with clients := s.clients ++ [s.nextClient], nextClient := s.nextClient + 1 }
  | control (client : ClientId) (input : List (ControlEnvelope × Bool))
      (last : MonitorDevice.ReadStatus) (s' : Application) (clients : List ClientId)
      (h : Relation.ReflTransGen (Ask client) s s') :
      Turn b s (.control client input last) { s' with clients := clients }
  | dispatcher (write : Bool) (entry : DispatcherEntry) (rest : List DispatcherEntry)
      (o : Dispatcher.Outcome) (hq : s.dispatcher = entry :: rest)
      (ho : Dispatcher.requestHandler s.known entry.request = .ok o) :
      Turn b s (.dispatcher write) (deliver { s with dispatcher := rest } o write entry.served)
  | device (e : Application.Event) (hash : String) (event : MonitorDevice.Event) (d : MonitorDevice)
      (o : Outcome) (he : deviceEvent e = some (hash, event))
      (hget : s.collector.devices.getDevice hash = some d) (ho : d.step event = .ok o) :
      Turn b s e (afterDevice s hash o)
  | database (io : DbIo) (entry : DbEntry) (rest : List DbEntry) (o : DbOutcome)
      (hq : s.collector.queue = entry :: rest)
      (ho : Database.requestHandler b s.collector.deviceState io s.collector.tables entry.request =
        .ok o) :
      Turn b s (.database io) (afterDatabase s entry rest o)

lemma requestHandler_eq_none {client : ClientId} {rq : Control.Request} {write : Bool} :
    ControlClient.requestHandler client rq write = none ↔ rq.type = .unknown := by
  unfold ControlClient.requestHandler
  cases rq.type <;> simp

lemma handled_unknown {client : ClientId} {rq : Control.Request} {write : Bool}
    (h : ControlClient.requestHandler client rq write = none) (write' : Bool) :
    ControlClient.requestHandler client rq write' = none :=
  requestHandler_eq_none.mpr (requestHandler_eq_none.mp h)

lemma lookup_requestArgs (rq : Control.Request) :
    (ControlClient.requestArgs rq).lookup .requestId = some rq.id := by
  unfold ControlClient.requestArgs
  split <;> simp

lemma readEnvelopes_asks (client : ClientId) (last : MonitorDevice.ReadStatus) (s : Application)
    (input : List (ControlEnvelope × Bool)) :
    Relation.ReflTransGen (Ask client) s (readEnvelopes client last s input).1 := by
  induction input generalizing s with
  | nil => exact Relation.ReflTransGen.refl
  | cons pair rest ih =>
    obtain ⟨envelope, write⟩ := pair
    rw [readEnvelopes]
    by_cases horigin : envelope.origin ≠ .control
    · rw [if_pos horigin]
      exact ih s
    · rw [if_neg horigin]
      cases hrq : ControlClient.requestHandler client envelope.mesg write with
      | none => exact Relation.ReflTransGen.single (Ask.unknown _ (handled_unknown hrq))
      | some result =>
        obtain ⟨message, nrq⟩ := result
        exact Relation.ReflTransGen.head (Ask.known _ _ _ _ hrq) (ih _)

section Turns

variable {b : Backend} {s s' : Application}

lemma onCollector_device {e : Application.Event} {hash : String} {event : MonitorDevice.Event}
    (he : deviceEvent e = some (hash, event))
    (h : onCollector b s (.device hash event) none = .ok s') : Turn b s e s' := by
  unfold onCollector Collector.step Collector.answers Collector.lists at h
  cases hget : s.collector.devices.getDevice hash with
  | none =>
    simp only [hget, Except.ok.injEq] at h
    have hsame : s' = s := by simp [← h]
    rw [hsame]
    exact .idle e
  | some d =>
    cases ho : d.step event with
    | error fault => simp [hget, ho] at h
    | ok o =>
      simp only [hget, ho, Except.ok.injEq] at h
      have hafter : s' = afterDevice s hash o := by simp [← h, afterDevice]
      rw [hafter]
      exact .device e hash event d o he hget ho

lemma step_database {io : DbIo} {entry : DbEntry} {rest : List DbEntry}
    (hq : s.collector.queue = entry :: rest) (h : Application.step b s (.database io) = .ok s') :
    ∃ o, Database.requestHandler b s.collector.deviceState io s.collector.tables entry.request =
      .ok o ∧ s' = afterDatabase s entry rest o := by
  unfold Application.step onCollector Collector.step Collector.answers Collector.lists at h
  cases ho : Database.requestHandler b s.collector.deviceState io s.collector.tables
      entry.request with
  | error fault => simp [hq, ho] at h
  | ok o =>
    simp only [hq, ho, Except.ok.injEq] at h
    exact ⟨o, rfl, by rw [← h]; rfl⟩

lemma onCollector_database {io : DbIo}
    (h : Application.step b s (.database io) = .ok s') : Turn b s (.database io) s' := by
  cases hq : s.collector.queue with
  | nil =>
    unfold Application.step onCollector Collector.step Collector.answers Collector.lists at h
    simp only [hq, Except.ok.injEq] at h
    have hsame : s' = s := by simp [← h]
    rw [hsame]
    exact .idle _
  | cons entry rest =>
    obtain ⟨o, ho, rfl⟩ := step_database hq h
    exact .database io entry rest o hq ho

/-- Every dispatch that does not end the process makes one of the listed changes. -/
theorem step_turn {e : Application.Event} (h : Application.step b s e = .ok s') : Turn b s e s' := by
  cases e with
  | accept =>
    rw [← Except.ok.inj h]
    exact .accept
  | control client input last =>
    simp only [Application.step] at h
    split at h
    · rw [← Except.ok.inj h]
      exact .idle _
    · rw [← Except.ok.inj h]
      have hread := readEnvelopes_asks client last s input
      split
      · exact .control client input last _ _ hread
      · exact .control client input last _ _ hread
  | dispatcher write =>
    simp only [Application.step] at h
    cases hq : s.dispatcher with
    | nil =>
      simp only [hq, Except.ok.injEq] at h
      rw [← h]
      exact .idle _
    | cons entry rest =>
      cases ho : Dispatcher.requestHandler s.known entry.request with
      | error stop => simp [hq, ho] at h
      | ok o =>
        simp only [hq, ho, Except.ok.injEq] at h
        rw [← h]
        exact .dispatcher write entry rest o hq ho
  | connection hash clock input last => exact onCollector_device rfl h
  | finalize hash => exact onCollector_device rfl h
  | queue hash io => exact onCollector_device rfl h
  | timer hash timer => exact onCollector_device rfl h
  | database io => exact onCollector_database h

end Turns

lemma mem_of_getDevice {devices : DeviceManager} {hash : String} {d : MonitorDevice}
    (h : devices.getDevice hash = some d) : d ∈ devices :=
  List.mem_reverse.mp (List.mem_of_find?_eq_some h)

lemma mem_update {devices : DeviceManager} {hash : String} {d x : MonitorDevice}
    (h : x ∈ devices.update hash d) : x ∈ devices ∨ x = d := by
  obtain ⟨entry, hentry, rfl⟩ := List.mem_map.mp h
  split
  · exact .inr rfl
  · exact .inl hentry

lemma mem_load {devices : DeviceManager} {rows : List Control.DeviceData} {x : MonitorDevice}
    (h : x ∈ devices.load rows) : x ∈ devices ∨ ∃ row ∈ rows, x = MonitorDevice.loaded row := by
  induction rows generalizing devices with
  | nil => exact .inl h
  | cons row rows ih =>
    rw [DeviceManager.load] at h
    cases hget : devices.getDevice row.hash with
    | some d =>
      rw [hget] at h
      obtain hold | ⟨row', hrow', hx⟩ := ih h
      · exact .inl hold
      · exact .inr ⟨row', List.mem_cons_of_mem row hrow', hx⟩
    | none =>
      rw [hget] at h
      obtain hold | ⟨row', hrow', hx⟩ := ih h
      · rw [addDevice_of_none (d := MonitorDevice.loaded row) hget] at hold
        obtain hmem | hnew := List.mem_append.mp hold
        · exact .inl hmem
        · exact .inr ⟨row, List.mem_cons_self, List.mem_singleton.mp hnew⟩
      · exact .inr ⟨row', List.mem_cons_of_mem row hrow', hx⟩

/-- A device that the dispatcher has pushed to was there before, with a shorter queue. -/
lemma mem_deliver {s : Application} {o : Dispatcher.Outcome} {write : Bool} {served : Option Nat}
    {x : MonitorDevice} (h : x ∈ (deliver s o write served).collector.devices) :
    x ∈ s.collector.devices ∨ ∃ d ∈ s.collector.devices, ∃ hash rq,
      o.device = some (hash, rq) ∧ x = d.pushRequest rq := by
  cases hdevice : o.device with
  | none =>
    simp only [deliver, hdevice] at h
    exact .inl h
  | some pair =>
    obtain ⟨hash, rq⟩ := pair
    cases hget : s.collector.devices.getDevice hash with
    | none =>
      simp only [deliver, hdevice, hget] at h
      exact .inl h
    | some d =>
      simp only [deliver, hdevice, hget] at h
      obtain hold | rfl := mem_update h
      · exact .inl hold
      · exact .inr ⟨d, mem_of_getDevice hget, hash, rq, rfl, rfl⟩

/-- No two devices have one hash. -/
def DistinctDevices (devices : DeviceManager) : Prop :=
  (devices.map fun d => d.deviceData.hash).Nodup

lemma getDevice_split {devices : DeviceManager} {hash : String} {d : MonitorDevice}
    (hdistinct : DistinctDevices devices) (hget : devices.getDevice hash = some d) :
    ∃ front back, devices = front ++ d :: back ∧
      ∀ d', devices.update hash d' = front ++ d' :: back := by
  obtain ⟨front, back, rfl⟩ := List.append_of_mem (mem_of_getDevice hget)
  have hhash := getDevice_hash hget
  unfold DistinctDevices at hdistinct
  rw [List.map_append, List.map_cons, List.nodup_middle, List.nodup_cons, List.mem_append] at hdistinct
  refine ⟨front, back, rfl, fun d' => ?_⟩
  have hkeep : ∀ l : DeviceManager, d.deviceData.hash ∉ l.map (fun d => d.deviceData.hash) →
      (l.map fun entry => if entry.deviceData.hash = hash then d' else entry) = l := by
    intro l hl
    have hid : ∀ entry ∈ l, (if entry.deviceData.hash = hash then d' else entry) = entry := by
      intro entry hentry
      rw [if_neg]
      intro he
      exact hl (List.mem_map.mpr ⟨entry, hentry, by rw [he, hhash]⟩)
    rw [List.map_congr_left hid, List.map_id']
  unfold DeviceManager.update
  rw [List.map_append, List.map_cons, hkeep front fun h => hdistinct.1 (.inl h),
    hkeep back fun h => hdistinct.1 (.inr h), if_pos hhash]

lemma distinctDevices_update {devices : DeviceManager} {hash : String} {d d' : MonitorDevice}
    (hdistinct : DistinctDevices devices) (hget : devices.getDevice hash = some d)
    (hd' : d'.deviceData.hash = hash) : DistinctDevices (devices.update hash d') := by
  obtain ⟨front, back, hsplit, hupdate⟩ := getDevice_split hdistinct hget
  rw [hupdate d']
  rw [hsplit] at hdistinct
  unfold DistinctDevices at hdistinct ⊢
  simpa [hd', getDevice_hash hget] using hdistinct

lemma load_append (devices : DeviceManager) (rows : List Control.DeviceData) :
    ∃ added : List Control.DeviceData, devices.load rows = devices ++ added.map MonitorDevice.loaded ∧
      (DistinctDevices devices → DistinctDevices (devices.load rows)) := by
  induction rows generalizing devices with
  | nil => exact ⟨[], by simp [DeviceManager.load], id⟩
  | cons row rows ih =>
    rw [DeviceManager.load]
    cases hget : devices.getDevice row.hash with
    | some d => exact ih devices
    | none =>
      rw [addDevice_of_none (d := MonitorDevice.loaded row) hget]
      obtain ⟨added, hload, hdistinct⟩ := ih (devices ++ [MonitorDevice.loaded row])
      refine ⟨row :: added, by simp [hload], fun h => hdistinct ?_⟩
      unfold DistinctDevices at h ⊢
      rw [List.map_append, List.map_singleton, List.nodup_append]
      refine ⟨h, List.nodup_singleton _, ?_⟩
      intro hash hmem other hother heq
      obtain ⟨entry, hentry, he⟩ := List.mem_map.mp hmem
      have hnone := List.find?_eq_none.mp hget entry (List.mem_reverse.mpr hentry)
      have hrow : other = row.hash := List.mem_singleton.mp hother
      apply hnone
      simpa [he, heq] using hrow

/-- A client sends one request, and what it gets at once is written. -/
def asks (client : ClientId) (rq : Control.Request) : Application.Event :=
  .control client [(⟨.control, rq⟩, true)] .again

/-- A request of a type, with the data of a device. -/
def requestFor (id : String) (type : Control.RequestType) (hash : String) : Control.Request :=
  ⟨id, type, false, .deviceData { (default : Control.DeviceData) with hash := hash }⟩

/-- The head of the dispatcher queue is handled, and its status is written. -/
def dispatched : Application.Event := .dispatcher true

/-- The head of the database queue is handled, and no statement fails. -/
def served : Application.Event := .database ⟨1, Nat.one_pos, [], true, .isOpen⟩

/-- The head of a device queue is handled, and no system call fails. -/
def deviceServed (hash : String) : Application.Event := .queue hash ⟨true, .established, true, true⟩

end TkmCollector.Proofs
