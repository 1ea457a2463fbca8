import TkmCollector.Library.Mirror
import TkmCollector.Proofs.HashUniqueness
import TkmCollector.Proofs.OneAnswer
import TkmCollector.Proofs.QueuedOrders

/-!
# The registry and the table of devices

The device manager loads the rows that it does not know and never drops or changes a device;
`remDevice` has no caller. So it agrees with the table as long as no request deletes or replaces
the row of a device that it knows.
-/

namespace TkmCollector.Proofs

open Application Database Mirror

/-- What the device manager and the table both hold of a device. -/
structure DeviceEntry where
  hash : String
  name : String
  address : String
  port : Int
  deriving DecidableEq

def entryOf (deviceData : Control.DeviceData) : DeviceEntry :=
  ⟨deviceData.hash, deviceData.name, deviceData.address, deviceData.port⟩

def entryOfRow (row : DeviceRow) : DeviceEntry := ⟨row.hash, row.name, row.address, row.port⟩

/-- The devices of the manager. -/
def registered (devices : DeviceManager) : List DeviceEntry := devices.map fun d => entryOf d.deviceData

/-- The devices of the table. -/
def tabled (t : Tables) : List DeviceEntry := t.devices.map entryOfRow

/-- The device manager holds exactly the rows of the table. -/
def InSync (s : Application) : Prop :=
  (registered s.collector.devices).Perm (tabled s.collector.tables)

instance (s : Application) : Decidable (InSync s) := inferInstanceAs (Decidable (List.Perm _ _))

/-- The request deletes or replaces no row of a device that the manager knows, unless by an equal
one, the hash of a new row picks this row, and the check for an old one does not miss it. -/
def SparesRegistry (type : DbType) (devices : DeviceManager) (t : Tables) (io : DbIo)
    (rq : IDatabase.Request) : Prop :=
  match rq.action, rq.bulkData with
  | .initDatabase, _ => forced rq = true → LinkUp type io → devices = []
  | .addDevice, .deviceData deviceData =>
    hashMatches type deviceData.hash deviceData.hash = true ∧
      (forced rq = false → ¬ Misread type (checkedDevice type deviceData.hash t)) ∧
      (forced rq = true → ∀ d ∈ devices,
        hashMatches type deviceData.hash d.deviceData.hash = true →
          entryOf d.deviceData = entryOf deviceData)
  | .removeDevice, .deviceData deviceData =>
    ∀ d ∈ devices, hashMatches type deviceData.hash d.deviceData.hash = false
  | _, _ => True

/-- No statement fails, the strings stay inside of their literals, and the request that is handled
spares the devices of the manager. -/
def SyncGuard (type : DbType) (s : Application) : Process.Event → Prop
  | .app (.database io) => io.fails = [] ∧ ∀ entry ∈ s.collector.queue.head?,
      (∀ v ∈ requestStrings entry.request, Plain v) ∧
        SparesRegistry type s.collector.devices s.collector.tables io entry.request
  | _ => True

instance (type : DbType) (io : DbIo) : Decidable (LinkUp type io) :=
  inferInstanceAs (Decidable (_ → _))

instance (type : DbType) (devices : DeviceManager) (t : Tables) (io : DbIo) (rq : IDatabase.Request) :
    Decidable (SparesRegistry type devices t io rq) := by
  unfold SparesRegistry
  rcases rq.action with ⟨⟩ <;> rcases rq.bulkData with ⟨⟩ <;> infer_instance

instance (type : DbType) (s : Application) : (e : Process.Event) → Decidable (SyncGuard type s e)
  | .app (.database io) => inferInstanceAs (Decidable (io.fails = [] ∧ ∀ entry ∈ s.collector.queue.head?,
      (∀ v ∈ requestStrings entry.request, Plain v) ∧
        SparesRegistry type s.collector.devices s.collector.tables io entry.request))
  | .restart _ _ | .app .accept | .app (.control _ _ _) | .app (.dispatcher _)
  | .app (.connection _ _ _ _) | .app (.finalize _) | .app (.queue _ _) | .app (.timer _ _) => isTrue trivial

/-- The manager mirrors the table, and when it does not know a row it will load it. -/
structure Syncing (s : Application) : Prop where
  orders : OrdersQueued s
  mirrors : Mirrors DeviceEntry.hash (tabled s.collector.tables) (registered s.collector.devices)
  loading : (∃ e ∈ tabled s.collector.tables,
    e.hash ∉ (registered s.collector.devices).map DeviceEntry.hash) → loadRequest ∈ waitingRequests s

lemma registered_hash (devices : DeviceManager) :
    (registered devices).map DeviceEntry.hash = devices.map fun d => d.deviceData.hash := by
  simp [registered, Function.comp_def, entryOf]

lemma registered_update {devices : DeviceManager} {hash : String} {d d' : MonitorDevice}
    (hdistinct : DistinctDevices devices) (hget : devices.getDevice hash = some d)
    (hsame : entryOf d'.deviceData = entryOf d.deviceData) :
    registered (devices.update hash d') = registered devices := by
  obtain ⟨front, back, hsplit, hupdate⟩ := getDevice_split hdistinct hget
  rw [hupdate d']
  unfold registered
  rw [hsplit, List.map_append, List.map_append, List.map_cons, List.map_cons, hsame]

lemma registered_deliver {o : Dispatcher.Outcome} {write : Bool} {served : Option Nat}
    {s : Application} (hdistinct : DistinctDevices s.collector.devices) :
    registered (deliver s o write served).collector.devices = registered s.collector.devices := by
  unfold deliver
  cases o.device with
  | none => rfl
  | some pair =>
    obtain ⟨hash, rq⟩ := pair
    dsimp only
    cases hget : s.collector.devices.getDevice hash with
    | none => rfl
    | some d => exact registered_update hdistinct hget rfl

lemma load_knows {devices : DeviceManager} {rows : List Control.DeviceData} :
    ∀ row ∈ rows, ((devices.load rows).getDevice row.hash).isSome := by
  induction rows generalizing devices with
  | nil => simp
  | cons first rows ih =>
    intro row hrow
    rw [DeviceManager.load]
    obtain rfl | hrow := List.mem_cons.mp hrow
    · cases hget : devices.getDevice row.hash with
      | some d =>
        dsimp only
        rw [getDevice_load_of_some hget]
        rfl
      | none =>
        have hadded : (devices.addDevice (MonitorDevice.loaded row)).getDevice row.hash =
            some (MonitorDevice.loaded row) := by
          rw [addDevice_of_none (d := MonitorDevice.loaded row) hget, getDevice_append]
          exact if_pos rfl
        dsimp only
        rw [getDevice_load_of_some hadded]
        rfl
    · cases devices.getDevice first.hash with
      | some d => exact ih row hrow
      | none => exact ih row hrow

section Effects

variable {type : DbType} {t : Tables}

lemma tabled_added (deviceData : Control.DeviceData) :
    tabled (added type deviceData t) = tabled t ++ [entryOf deviceData] := by
  simp [tabled, added, entryOfRow, entryOf]

lemma tabled_dropped (hash : String) :
    tabled (dropped type hash t) = (tabled t).filter fun e => !hashMatches type hash e.hash := by
  unfold tabled
  rw [dropped_devices, List.filter_map]
  rfl

lemma tabled_erased {io : DbIo} (hio : io.fails = []) :
    tabled (erased (droppedNames type io 0) t) = [] := by
  have hname : Query.devicesTableName ∈ droppedNames type io 0 := by
    have hnever : ∀ k, (0, k) ∉ io.fails := by simp [hio]
    simp only [droppedNames, hnever, not_false_eq_true, decide_true]
    cases type <;> decide
  unfold tabled
  rw [erased_devices, if_pos hname]
  rfl

lemma new_hash {hash : String} (hself : hashMatches type hash hash = true) :
    hash ∉ ((tabled t).filter fun e => !hashMatches type hash e.hash).map DeviceEntry.hash := by
  intro hmem
  obtain ⟨e, he, rfl⟩ := List.mem_map.mp hmem
  have hnot := (List.mem_filter.mp he).2
  rw [hself] at hnot
  cases hnot

lemma filter_unmatched {hash : String} (h : t.devicesWith (hashMatches type) hash = []) :
    ((tabled t).filter fun e => !hashMatches type hash e.hash) = tabled t := by
  apply List.filter_eq_self.mpr
  intro e he
  obtain ⟨row, hrow, rfl⟩ := List.mem_map.mp he
  have hnot := List.filter_eq_nil_iff.mp h row hrow
  simpa [entryOfRow] using hnot

/-- A request that spares the devices of the manager leaves it a mirror of the table, and a row
that is new will be loaded. -/
lemma effect_mirrors {devices : DeviceManager} {t' : Tables} {io : DbIo} {order : Order}
    {status : Option String} (h : Effect type t io order t' status) (hio : io.fails = [])
    (hspares : SparesRegistry type devices t io order.request)
    (hm : Mirrors DeviceEntry.hash (tabled t) (registered devices)) :
    Mirrors DeviceEntry.hash (tabled t') (registered devices) ∧
      ∀ e ∈ tabled t', e ∈ tabled t ∨ loadRequest ∈ pushedFor t io status order := by
  have hnever : ∀ k, (k, 0) ∉ io.fails := by simp [hio]
  have hreplaced : ∀ deviceData : Control.DeviceData,
      hashMatches type deviceData.hash deviceData.hash = true →
      (∀ d ∈ devices, hashMatches type deviceData.hash d.deviceData.hash = true →
        entryOf d.deviceData = entryOf deviceData) →
      Mirrors DeviceEntry.hash
        (((tabled t).filter fun e => !hashMatches type deviceData.hash e.hash) ++ [entryOf deviceData])
        (registered devices) := by
    intro deviceData hself hsame
    refine hm.replace (fun e => hashMatches type deviceData.hash e.hash) (a := entryOf deviceData)
      (new_hash hself) ?_
    intro c hc hgone
    obtain ⟨d, hd, rfl⟩ := List.mem_map.mp hc
    exact hsame d hd hgone
  cases h with
  | same | created | cleared | opened | doubled | ended | removed | stored => exact ⟨hm, fun e he => .inl he⟩
  | erased client status hlink =>
    have hforced : forced (Order.initDatabase client true).request = true := by simp
    have haction : (Order.initDatabase client true).request.action = .initDatabase := by
      cases client <;> rfl
    unfold SparesRegistry at hspares
    rw [haction] at hspares
    obtain rfl := hspares hforced hlink
    change Mirrors DeviceEntry.hash (tabled (erased (droppedNames type io 0) t)) (registered []) ∧
      ∀ e ∈ tabled (erased (droppedNames type io 0) t), _
    rw [tabled_erased hio]
    exact ⟨⟨by simp, by simp [registered], by simp [registered]⟩, by simp⟩
  | added client id forced deviceData hnew =>
    obtain ⟨hself, hread, hsame⟩ := hspares
    obtain ⟨rfl, hfound⟩ | ⟨-, -, hfails⟩ := hnew
    · have hnone := hfound.resolve_right (hread (by simp))
      rw [tabled_added, ← filter_unmatched hnone]
      refine ⟨hreplaced deviceData hself ?_, ?_⟩
      · intro d hd hmatch
        obtain ⟨row, hrow, he⟩ := List.mem_map.mp (hm.sound _ (List.mem_map_of_mem hd))
        have hnot := List.filter_eq_nil_iff.mp hnone row hrow
        have hhash : row.hash = d.deviceData.hash := congrArg DeviceEntry.hash he
        rw [hhash] at hnot
        exact absurd hmatch hnot
      · exact fun e _ => .inr (by simp [pushedFor])
    · exact absurd hfails (hnever 1)
  | replaced client id deviceData =>
    obtain ⟨hself, -, hsame⟩ := hspares
    rw [tabled_added, tabled_dropped]
    exact ⟨hreplaced deviceData hself (hsame (by simp)), fun e _ => .inr (by simp [pushedFor])⟩
  | left client id deviceData hcheck hremove hinsert => exact absurd hinsert (hnever 2)
  | dropped client id forced deviceData =>
    rw [tabled_dropped]
    refine ⟨hm.delete List.filter_sublist ?_, fun e he => .inl (List.mem_filter.mp he).1⟩
    intro c hc
    have hstored := hm.sound c hc
    obtain ⟨d, hd, rfl⟩ := List.mem_map.mp hc
    have hnot : hashMatches type deviceData.hash d.deviceData.hash = false := hspares d hd
    refine List.mem_filter.mpr ⟨hstored, ?_⟩
    simp [entryOf, hnot]

end Effects

section Steps

variable {b : Backend} {s s' : Application}

lemma loaded_mirrors {devices : DeviceManager} {t : Tables}
    (hm : Mirrors DeviceEntry.hash (tabled t) (registered devices)) :
    Mirrors DeviceEntry.hash (tabled t)
        (registered (devices.load (t.devices.map DeviceRow.toData))) ∧
      ∀ e ∈ tabled t, e.hash ∈
        (registered (devices.load (t.devices.map DeviceRow.toData))).map DeviceEntry.hash := by
  obtain ⟨-, -, hdistinct⟩ := load_append devices (t.devices.map DeviceRow.toData)
  have hkeys : DistinctDevices devices := by
    have hold := hm.distinct
    rw [registered_hash] at hold
    exact hold
  constructor
  · apply hm.extend
    · rw [registered_hash]
      exact hdistinct hkeys
    · intro a ha
      obtain ⟨d, hd, rfl⟩ := List.mem_map.mp ha
      obtain hold | ⟨data, hdata, rfl⟩ := mem_load hd
      · exact .inl (List.mem_map_of_mem hold)
      · obtain ⟨row, hrow, rfl⟩ := List.mem_map.mp hdata
        exact .inr (List.mem_map.mpr ⟨row, hrow, rfl⟩)
  · intro e he
    obtain ⟨row, hrow, rfl⟩ := List.mem_map.mp he
    have hknown : ((devices.load (t.devices.map DeviceRow.toData)).getDevice row.hash).isSome :=
      load_knows (DeviceRow.toData row) (List.mem_map_of_mem hrow)
    obtain ⟨d, hget⟩ := Option.isSome_iff_exists.mp hknown
    rw [registered_hash]
    exact List.mem_map.mpr ⟨d, mem_of_getDevice hget, getDevice_hash hget⟩

lemma syncing_turn {e : Application.Event} (h : Turn b s e s') (hs : Syncing s)
    (hg : SyncGuard b.type s (.app e)) : Syncing s' := by
  have horders := ordersQueued_turn h hs.orders
  have hdistinct : DistinctDevices s.collector.devices := by
    have hkeys := hs.mirrors.distinct
    rw [registered_hash] at hkeys
    exact hkeys
  -- a step that leaves the table alone and only adds to the queue
  have hquiet : (∀ io, e ≠ .database io) →
      registered s'.collector.devices = registered s.collector.devices → Syncing s' := by
    intro he hcopy
    obtain ⟨htables, hqueue⟩ := turn_waiting h he
    refine ⟨horders, ?_, ?_⟩
    · rw [hcopy, htables]
      exact hs.mirrors
    · rw [hcopy, htables]
      exact fun hmissing => hqueue _ (hs.loading hmissing)
  cases h with
  | idle => exact hs
  | accept => exact hquiet (by simp) rfl
  | control client input last s₁ clients hasks =>
    have hcollector := asks_collector hasks
    exact hquiet (by simp) (congrArg (fun c : Collector => registered c.devices) hcollector)
  | dispatcher write entry rest o hq ho =>
    exact hquiet (by simp) (registered_deliver (s := { s with dispatcher := rest }) hdistinct)
  | device _ hash event d o he hget ho =>
    obtain ⟨state, hdata⟩ := dispatch_deviceData (step_dispatch ho)
    apply hquiet
    · rintro io rfl
      cases he
    · exact registered_update hdistinct hget (by rw [hdata]; rfl)
  | database io entry rest o hq ho =>
    obtain ⟨order, horder⟩ := hs.orders.database entry (by simp [journal, hq])
    obtain ⟨hio, hhead⟩ := hg
    obtain ⟨hplain, hspares⟩ := hhead entry (by rw [hq]; rfl)
    rw [horder] at ho hplain hspares
    rw [requestStrings_request] at hplain
    have heffect := requestHandler_effect (runsPlain_of_plain hplain) ho
    obtain ⟨hmirrors, hnew⟩ := effect_mirrors heffect hio hspares hs.mirrors
    obtain ⟨hpushed, hloaded⟩ := order_follows ho
    by_cases hload : order = .loadDevices
    · obtain rfl := hload
      have htables : o.tables = s.collector.tables := by
        generalize ht : o.tables = t' at heffect
        cases heffect
        rfl
      have hrows : o.loaded = s.collector.tables.devices.map DeviceRow.toData := by
        rw [hloaded]
        exact if_neg (by simp [hio])
      obtain ⟨hloads, hknows⟩ := loaded_mirrors hs.mirrors
      have hcopy : (afterDatabase s entry rest o).collector.devices =
          s.collector.devices.load (s.collector.tables.devices.map DeviceRow.toData) := by
        unfold afterDatabase
        rw [hrows]
      have hstore : (afterDatabase s entry rest o).collector.tables = s.collector.tables := htables
      refine ⟨horders, ?_, ?_⟩
      · rw [hcopy, hstore]
        exact hloads
      · rw [hcopy, hstore]
        rintro ⟨e, he, hmissing⟩
        exact absurd (hknows e he) hmissing
    · have hnone : o.loaded = [] := by
        rw [hloaded]
        cases order with
        | loadDevices => exact absurd rfl hload
        | _ => rfl
      have hcopy : registered (afterDatabase s entry rest o).collector.devices =
          registered s.collector.devices := by
        unfold afterDatabase
        rw [hnone]
        rfl
      refine ⟨horders, ?_, ?_⟩
      · rw [hcopy]
        exact hmirrors
      · rw [hcopy, waitingRequests_database]
        rintro ⟨e, he, hmissing⟩
        obtain hold | hpush := hnew e he
        · have hwaits := hs.loading ⟨e, hold, hmissing⟩
          rw [waitingRequests_head hq, horder] at hwaits
          obtain heq | hrest := List.mem_cons.mp hwaits
          · exact absurd (action_loadDevices (heq ▸ rfl)) hload
          · exact List.mem_append_left _ hrest
        · rw [hpushed]
          exact List.mem_append_right _ hpush

end Steps

lemma syncing_start {tables : Tables} (h : (tables.devices.map DeviceRow.hash).Nodup)
    (erase failed : Bool) : Syncing (Application.start tables erase failed) := by
  refine ⟨ordersQueued_start tables erase failed, ?_, ?_⟩
  · have htables : (Application.start tables erase failed).collector.tables = tables := by
      cases erase <;> rfl
    have hdevices : (Application.start tables erase failed).collector.devices = [] := by
      cases erase <;> rfl
    rw [htables, hdevices]
    refine ⟨?_, List.nodup_nil, by simp [registered]⟩
    simpa [tabled, Function.comp_def, entryOfRow] using h
  · intro _
    have hwaits : loadRequest ∈ waitingRequests (Application.start tables false failed) :=
      List.mem_cons_of_mem _ List.mem_cons_self
    cases erase with
    | false => exact hwaits
    | true => exact List.mem_cons_of_mem _ List.mem_cons_self

/-- In every state of every run the manager holds exactly the rows of the table once the queue of
the database is empty, when no request deletes or replaces the row of a device that it knows. -/
theorem registry_in_sync (b : Backend) (tables : Tables) (erase failed : Bool)
    (events : List Process.Event) (hunique : (tables.devices.map DeviceRow.hash).Nodup)
    (hguard : Machine.Guarded (Process.step b) (SyncGuard b.type)
      (Application.start tables erase failed) events) :
    Machine.Throughout (Process.step b) (fun s => s.collector.queue = [] → InSync s)
      (Application.start tables erase failed) events := by
  have hinv : Machine.Preserves (Process.step b) (SyncGuard b.type) Syncing := by
    intro s e s' hs hg hstep
    cases e with
    | app e => exact syncing_turn (step_turn hstep) hs hg
    | restart erase failed =>
      have hkeyed : (s.collector.tables.devices.map DeviceRow.hash).Nodup := by
        simpa [tabled, Function.comp_def, entryOfRow] using hs.mirrors.keyed
      rw [← Except.ok.inj hstep]
      exact syncing_start hkeyed erase failed
  refine (Machine.throughout_of_guarded hinv (syncing_start hunique erase failed) hguard).mono ?_
  intro s hs hempty
  apply hs.mirrors.perm
  intro e he
  by_contra hmissing
  have hwaits := hs.loading ⟨e, he, hmissing⟩
  unfold waitingRequests at hwaits
  rw [hempty] at hwaits
  cases hwaits

/-- A client asks for a change of the device with the hash, and the request is handled. -/
def deviceChange (type : Control.RequestType) (hash : String) : List Process.Event :=
  [.app (asks 0 (requestFor "1" type hash)), .app dispatched, .app served]

/-- The requests of start-up are handled, and a client comes. -/
def clientUp : List Process.Event :=
  [.app served, .app served, .app served, .app .accept]

/-- A device is added to the one that is there, the process is restarted, and a device that is
not there is removed. -/
theorem registry_in_sync_added :
    ((tablesWith ["d"]).devices.map DeviceRow.hash).Nodup ∧
    Machine.Guarded (Process.step (plainBackend .sqlite3)) (SyncGuard .sqlite3)
      (Application.start (tablesWith ["d"]) false false)
      (clientUp ++ deviceChange .addDevice "e" ++ [.app served] ++ [.restart false false] ++
        clientUp ++ deviceChange .removeDevice "f") ∧
    Machine.Throughout (Process.step (plainBackend .sqlite3)) (fun s => s.collector.queue = [] → InSync s)
      (Application.start (tablesWith ["d"]) false false)
      (clientUp ++ deviceChange .addDevice "e" ++ [.app served] ++ [.restart false false] ++
        clientUp ++ deviceChange .removeDevice "f") := by
  have hunique : ((tablesWith ["d"]).devices.map DeviceRow.hash).Nodup := by decide
  have hguard : Machine.Guarded (Process.step (plainBackend .sqlite3)) (SyncGuard .sqlite3)
      (Application.start (tablesWith ["d"]) false false)
      (clientUp ++ deviceChange .addDevice "e" ++ [.app served] ++ [.restart false false] ++
        clientUp ++ deviceChange .removeDevice "f") := by decide
  exact ⟨hunique, hguard, registry_in_sync (plainBackend .sqlite3) (tablesWith ["d"]) false false _
    hunique hguard⟩

/-- The manager keeps a device that a client removed from the table, and one that the erasure at
start-up took away. -/
theorem registry_stale :
    (∃ s, Machine.run (Process.step (plainBackend .sqlite3))
        (Application.start (tablesWith ["d"]) false false)
        (clientUp ++ deviceChange .removeDevice "d" ++ [.app dispatched]) = .ok s ∧
      QueuesEmpty s ∧ ¬ InSync s) ∧
    ∃ s, Machine.run (Process.step (plainBackend .sqlite3))
        (Application.start (tablesWith ["d"]) true false)
        (clientUp ++ [.app served, .app dispatched]) = .ok s ∧
      QueuesEmpty s ∧ ¬ InSync s := by
  constructor
  · exact ⟨_, rfl, by decide⟩
  · exact ⟨_, rfl, by decide⟩

end TkmCollector.Proofs
