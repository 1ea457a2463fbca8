import TkmCollector.Proofs.ListsFirst
import TkmCollector.Proofs.RegistrySync

namespace TkmCollector.Proofs

open Application Database

/-- The request adds the device with the hash. -/
def AddsDevice (hash : String) (rq : IDatabase.Request) : Prop :=
  match rq.action, rq.bulkData with
  | .addDevice, .deviceData deviceData => deviceData.hash = hash
  | _, _ => False

/-- The request is to connect the device with the hash. -/
def ConnectsDevice (hash : String) (rq : Dispatcher.Request) : Prop :=
  match rq.action, rq.bulkData with
  | .connectDevice, .deviceData deviceData => deviceData.hash = hash
  | _, _ => False

instance (hash : String) (rq : IDatabase.Request) : Decidable (AddsDevice hash rq) := by
  unfold AddsDevice
  rcases rq.action with ⟨⟩ <;> rcases rq.bulkData with ⟨⟩ <;> infer_instance

instance (hash : String) (rq : Dispatcher.Request) : Decidable (ConnectsDevice hash rq) := by
  unfold ConnectsDevice
  rcases rq.action with ⟨⟩ <;> rcases rq.bulkData with ⟨⟩ <;> infer_instance

/-- The entry of the database queue with the number added the device. -/
def AddedBy (hash : String) (s : Application) (n : Nat) : Prop :=
  ∃ entry ∈ s.collector.handled[n]?, AddsDevice hash entry.request

/-- The message is the status `Okay` for a request that added the device. -/
def OkayFor (hash : String) (s : Application) (m : Sent) : Prop :=
  match m.message, m.served with
  | .status status, some n => status.what = .ok ∧ AddedBy hash s n
  | _, _ => False

/-- The client has received `Okay` for a device with the hash. -/
def Told (hash : String) (s : Application) (client : ClientId) : Prop :=
  ∃ m ∈ s.sent, m.client = client ∧ m.ok = true ∧ OkayFor hash s m

instance (hash : String) (s : Application) (n : Nat) : Decidable (AddedBy hash s n) :=
  inferInstanceAs (Decidable (∃ entry ∈ s.collector.handled[n]?, AddsDevice hash entry.request))

instance (hash : String) (s : Application) (m : Sent) : Decidable (OkayFor hash s m) := by
  unfold OkayFor
  rcases m.message with ⟨⟩ <;> rcases m.served with ⟨⟩ <;> infer_instance

instance (hash : String) (s : Application) (client : ClientId) : Decidable (Told hash s client) :=
  inferInstanceAs (Decidable (∃ m ∈ s.sent, _))

/-- The devices are loaded while the row of the device is in the table. -/
def LoadsDevice (hash : String) (s : Application) : Event → Prop
  | .database _ => (∃ entry ∈ s.collector.queue.head?, entry.request.action = .loadDevices) ∧
      ∃ row ∈ s.collector.tables.devices, row.hash = hash
  | _ => False

instance (hash : String) (s : Application) : (e : Event) → Decidable (LoadsDevice hash s e)
  | .database _ => inferInstanceAs (Decidable
      ((∃ entry ∈ s.collector.queue.head?, entry.request.action = .loadDevices) ∧
        ∃ row ∈ s.collector.tables.devices, row.hash = hash))
  | .accept | .control _ _ _ | .dispatcher _ | .connection _ _ _ _ | .finalize _ | .queue _ _
  | .timer _ _ => isFalse id

/-- The application, watched for one device. `late` says of each request in the queue of the
dispatcher whether its client was told that the device is added before it was queued, and `loaded`
whether the devices were loaded while its row was in the table. -/
structure Watched where
  app : Application
  late : List Bool
  loaded : Bool

/-- The head of the queue leaves with its mark, and new requests are marked. -/
def watch (b : Backend) (hash : String) (w : Watched) (e : Event) : Except Stop Watched :=
  match Application.step b w.app e with
  | .error stop => .error stop
  | .ok s =>
    let kept := match e with
      | .dispatcher _ => w.late.tail
      | _ => w.late
    .ok ⟨s, kept ++ (s.dispatcher.drop kept.length).map fun entry =>
      decide (∃ client ∈ entry.request.client, Told hash w.app client),
      w.loaded || decide (LoadsDevice hash w.app e)⟩

/-- At start no client has been told of any device, and none is loaded. -/
def watchStart (tables : Tables) (erase failed : Bool) : Watched where
  app := start tables erase failed
  late := (start tables erase failed).dispatcher.map fun _ => false
  loaded := false

/-- A client that was told that the device is added connects it, and is not told that there is no
such device. -/
def ReadsYourWrite (hash : String) (w : Watched) (e : Event) (_ : Watched) : Prop :=
  match e with
  | .dispatcher _ => ∀ entry ∈ w.app.dispatcher.head?, w.late.head? = some true →
      ConnectsDevice hash entry.request →
        ∀ o, Dispatcher.requestHandler w.app.known entry.request = .ok o →
          ∀ answer ∈ o.dispatcher, answer.args.lookup .reason ≠ some "No such device"
  | _ => True

/-- The request takes the row of the device away, and puts none in its place. -/
def RemovesDevice (type : DbType) (io : DbIo) (rq : IDatabase.Request) (hash : String) : Prop :=
  match rq.action, rq.bulkData with
  | .initDatabase, _ => forced rq = true ∧ LinkUp type io
  | .addDevice, .deviceData deviceData =>
    forced rq = true ∧ hashMatches type deviceData.hash hash = true ∧ deviceData.hash ≠ hash
  | .removeDevice, .deviceData deviceData => hashMatches type deviceData.hash hash = true
  | _, _ => False

instance (type : DbType) (io : DbIo) (rq : IDatabase.Request) (hash : String) :
    Decidable (RemovesDevice type io rq hash) := by
  unfold RemovesDevice
  rcases rq.action with ⟨⟩ <;> rcases rq.bulkData with ⟨⟩ <;> infer_instance

/-- No statement fails, the strings stay inside of their literals, and nobody removes the device. -/
def LeavesDevice (type : DbType) (hash : String) (w : Watched) : Event → Prop
  | .database io => io.fails = [] ∧ ∀ entry ∈ w.app.collector.queue.head?,
      (∀ v ∈ requestStrings entry.request, Plain v) ∧ ¬ RemovesDevice type io entry.request hash
  | _ => True

/-- When a client that was told of the device connects it, the devices were loaded with its row, or
no request to load them waits. -/
def LoadedFirst (hash : String) (w : Watched) : Event → Prop
  | .dispatcher _ => ∀ entry ∈ w.app.dispatcher.head?, w.late.head? = some true →
      ConnectsDevice hash entry.request → w.loaded = true ∨ loadRequest ∉ waitingRequests w.app
  | _ => True

instance (type : DbType) (hash : String) (w : Watched) :
    (e : Event) → Decidable (LeavesDevice type hash w e)
  | .database io => inferInstanceAs (Decidable (io.fails = [] ∧
      ∀ entry ∈ w.app.collector.queue.head?, (∀ v ∈ requestStrings entry.request, Plain v) ∧
        ¬ RemovesDevice type io entry.request hash))
  | .accept | .control _ _ _ | .dispatcher _ | .connection _ _ _ _ | .finalize _ | .queue _ _
  | .timer _ _ => isTrue trivial

instance (hash : String) (w : Watched) : (e : Event) → Decidable (LoadedFirst hash w e)
  | .dispatcher _ => inferInstanceAs (Decidable (∀ entry ∈ w.app.dispatcher.head?,
      w.late.head? = some true → ConnectsDevice hash entry.request →
        w.loaded = true ∨ loadRequest ∉ waitingRequests w.app))
  | .accept | .control _ _ _ | .database _ | .connection _ _ _ _ | .finalize _ | .queue _ _
  | .timer _ _ => isTrue trivial

/-- The device manager knows the device, or it will load its row. -/
def Awaited (hash : String) (s : Application) : Prop :=
  s.known hash = true ∨
    (∃ row ∈ s.collector.tables.devices, row.hash = hash) ∧ loadRequest ∈ waitingRequests s

/-- The request with the number is answered, or will be, with `Okay`. -/
def Okayed (s : Application) (n : Nat) : Prop :=
  (∃ e ∈ s.dispatcher, e.served = some n ∧ e.request.args.lookup .status = some (valFor .statusOkay)) ∨
    ∃ m ∈ s.sent, m.served = some n ∧ ∃ status, m.message = .status status ∧ status.what = .ok

/-- What a client is told of, or will be, is awaited. -/
structure ReadInvariant (hash : String) (w : Watched) : Prop where
  orders : OrdersQueued w.app
  tagged : Tagged w.app
  loaded : w.loaded = w.app.known hash
  added : ∀ n, AddedBy hash w.app n → Okayed w.app n → Awaited hash w.app
  late : true ∈ w.late → Awaited hash w.app

section Steps

variable {b : Backend} {s s' : Application} {w : Watched} {hash : String}

lemma known_update {devices : DeviceManager} {k : String} {d : MonitorDevice} (d' : MonitorDevice)
    (hget : devices.getDevice k = some d) (hd' : d'.deviceData.hash = k) :
    ((devices.update k d').getDevice hash).isSome = (devices.getDevice hash).isSome := by
  by_cases hk : hash = k
  · rw [hk, getDevice_update_self hd' hget, hget]
    rfl
  · rw [getDevice_update_ne hd' hk]

lemma known_load {devices : DeviceManager} {rows : List Control.DeviceData} :
    ((devices.load rows).getDevice hash).isSome = true ↔
      (devices.getDevice hash).isSome = true ∨ ∃ row ∈ rows, row.hash = hash := by
  constructor
  · intro h
    obtain ⟨d, hget⟩ := Option.isSome_iff_exists.mp h
    obtain hold | ⟨row, hrow, hhash, -⟩ := getDevice_load hget
    · exact .inl (by rw [hold]; rfl)
    · exact .inr ⟨row, hrow, hhash⟩
  · rintro (h | ⟨row, hrow, rfl⟩)
    · obtain ⟨d, hget⟩ := Option.isSome_iff_exists.mp h
      rw [getDevice_load_of_some hget]
      rfl
    · exact load_knows row hrow

lemma loadsDevice_moves {e : Event} (h : LoadsDevice hash s e) : Application.step b s e ≠ .ok s := by
  cases e with
  | database io =>
    obtain ⟨⟨entry, hentry, -⟩, -⟩ := h
    obtain ⟨rest, hq⟩ := List.head?_eq_some_iff.mp hentry
    intro hstep
    obtain ⟨o, -, hs⟩ := step_database hq hstep
    have hlength := congrArg (fun s : Application => s.collector.handled.length) hs
    simp [afterDatabase] at hlength
  | _ => exact h.elim

lemma loadedFor_iff {t : Tables} {io : DbIo} {order : Order} (hio : io.fails = []) :
    (∃ row ∈ loadedFor t io order, row.hash = hash) ↔
      order.request.action = .loadDevices ∧ ∃ row ∈ t.devices, row.hash = hash := by
  constructor
  · intro h
    have hload : order = .loadDevices := by
      cases order with
      | loadDevices => rfl
      | _ => simp [loadedFor] at h
    obtain rfl := hload
    obtain ⟨data, hdata, hhash⟩ := h
    unfold loadedFor at hdata
    rw [if_neg (by simp [hio])] at hdata
    obtain ⟨row, hrow, rfl⟩ := List.mem_map.mp hdata
    exact ⟨rfl, row, hrow, hhash⟩
  · rintro ⟨haction, row, hrow, hhash⟩
    obtain rfl := action_loadDevices haction
    refine ⟨DeviceRow.toData row, ?_, hhash⟩
    unfold loadedFor
    rw [if_neg (by simp [hio])]
    exact List.mem_map_of_mem hrow

lemma known_step {e : Event} (hstep : Application.step b s e = .ok s') (horders : OrdersQueued s)
    (hio : ∀ io, e = .database io → io.fails = []) :
    s'.known hash = true ↔ s.known hash = true ∨ LoadsDevice hash s e := by
  unfold known
  cases step_turn hstep with
  | idle => exact (or_iff_left fun h => loadsDevice_moves h hstep).symm
  | accept => exact (or_iff_left id).symm
  | control client input last s₁ clients hasks =>
    have hcollector := asks_collector hasks
    change (s₁.collector.devices.getDevice hash).isSome = true ↔ _
    rw [hcollector]
    exact (or_iff_left id).symm
  | dispatcher write entry rest o hq ho =>
    refine Iff.trans ?_ (or_iff_left id).symm
    unfold deliver
    cases o.device with
    | none => exact Iff.rfl
    | some pair =>
      obtain ⟨k, rq⟩ := pair
      dsimp only
      cases hget : s.collector.devices.getDevice k with
      | none => exact Iff.rfl
      | some d =>
        have hhash : d.deviceData.hash = k := getDevice_hash hget
        exact Bool.eq_iff_iff.mp (known_update (d.pushRequest rq) hget hhash)
  | device _ k event d o he hget ho =>
    have hhash := (dispatch_hash (step_dispatch ho)).trans (getDevice_hash hget)
    refine (Bool.eq_iff_iff.mp (known_update o.device hget hhash)).trans (or_iff_left ?_).symm
    cases e <;> cases he <;> exact id
  | database io entry rest o hq ho =>
    obtain ⟨order, horder⟩ := horders.database entry (by simp [journal, hq])
    have hloads : LoadsDevice hash s (.database io) ↔ entry.request.action = .loadDevices ∧
        ∃ row ∈ s.collector.tables.devices, row.hash = hash := by
      simp [LoadsDevice, hq]
    rw [hloads, horder, ← loadedFor_iff (hio io rfl)]
    rw [horder] at ho
    rw [← (order_follows ho).2]
    exact known_load

lemma added_row {type : DbType} {t : Tables} {deviceData : Control.DeviceData}
    (h : deviceData.hash = hash) : ∃ row ∈ (added type deviceData t).devices, row.hash = hash :=
  ⟨_, List.mem_append_right _ (List.mem_singleton.mpr rfl), h⟩

lemma effect_row {type : DbType} {t t' : Tables} {io : DbIo} {order : Order} {status : Option String}
    (h : Effect type t io order t' status) (hio : io.fails = [])
    (hleaves : ¬ RemovesDevice type io order.request hash) (hrow : ∃ row ∈ t.devices, row.hash = hash) :
    ∃ row ∈ t'.devices, row.hash = hash := by
  have hkept : ∀ gone : String, hashMatches type gone hash = false →
      ∃ row ∈ (dropped type gone t).devices, row.hash = hash := by
    intro gone hgone
    obtain ⟨row, hmem, hhash⟩ := hrow
    refine ⟨row, ?_, hhash⟩
    rw [dropped_devices, List.mem_filter, hhash, hgone]
    exact ⟨hmem, rfl⟩
  cases h with
  | same | created | cleared | opened | doubled | ended | removed | stored => exact hrow
  | erased client status hlink =>
    have haction : (Order.initDatabase client true).request.action = .initDatabase := by
      cases client <;> rfl
    unfold RemovesDevice at hleaves
    rw [haction] at hleaves
    exact absurd ⟨by simp, hlink⟩ hleaves
  | added client id forced deviceData hnew =>
    obtain ⟨row, hmem, hhash⟩ := hrow
    exact ⟨row, List.mem_append_left _ hmem, hhash⟩
  | replaced client id deviceData =>
    by_cases hsame : deviceData.hash = hash
    · exact added_row hsame
    · have hgone : hashMatches type deviceData.hash hash = false := by
        by_contra hmatch
        exact hleaves ⟨by simp, by simpa using hmatch, hsame⟩
      obtain ⟨row, hmem, hhash⟩ := hkept deviceData.hash hgone
      exact ⟨row, List.mem_append_left _ hmem, hhash⟩
  | left client id deviceData hcheck hremove hinsert =>
    rw [hio] at hinsert
    cases hinsert
  | dropped client id forced deviceData =>
    apply hkept
    by_contra hmatch
    have hgone : hashMatches type deviceData.hash hash = true := by simpa using hmatch
    exact hleaves hgone

lemma okay_row {o : DbOutcome} {t : Tables} {io : DbIo} {order : Order}
    {states : String → Option Control.DeviceState} (hio : io.fails = [])
    (hplain : ∀ v ∈ order.strings, Plain v) (hadds : AddsDevice hash order.request)
    (ho : Database.requestHandler b states io t order.request = .ok o)
    (hokay : answered o = some (valFor .statusOkay)) : ∃ row ∈ o.tables.devices, row.hash = hash := by
  have hnever : ∀ k, (k, 0) ∉ io.fails := by simp [hio]
  cases order with
  | addDevice client id forced deviceData =>
    have hhash : Plain deviceData.hash := hplain _ (by simp [Order.strings])
    have hname : Plain deviceData.name := hplain _ (by simp [Order.strings])
    have haddress : Plain deviceData.address := hplain _ (by simp [Order.strings])
    have hinserted : ∃ t₀, o.tables = added b.type deviceData t₀ := by
      have hadd : doAddDevice b io t (Order.addDevice client id forced deviceData).request = .ok o := ho
      unfold doAddDevice at hadd
      rw [Order.forced_addDevice] at hadd
      simp only [Order.request, BulkData.castDeviceData, run_hasDevice hhash, run_remDevice hhash,
        run_addDevice hhash hname haddress, if_neg (hnever _), reduceCtorEq, if_false] at hadd
      split at hadd
      · rw [← Except.ok.inj hadd] at hokay
        simp [valFor] at hokay
      · rw [← Except.ok.inj hadd]
        cases forced with
        | true => exact ⟨dropped b.type deviceData.hash t, by simp [answer, quiet]⟩
        | false => exact ⟨t, by simp [answer, quiet]⟩
    obtain ⟨t₀, htables⟩ := hinserted
    rw [htables]
    exact added_row hadds
  | initDatabase client forced => cases client <;> cases hadds
  | _ => cases hadds

lemma awaited_step {e : Event} (hstep : Application.step b w.app e = .ok s') (horders : OrdersQueued w.app)
    (hg : LeavesDevice b.type hash w e) (hs : Awaited hash w.app) : Awaited hash s' := by
  have hio : ∀ io, e = .database io → io.fails = [] := by
    rintro io rfl
    exact hg.1
  obtain hknown | ⟨hrow, hwaits⟩ := hs
  · exact .inl ((known_step hstep horders hio).mpr (.inl hknown))
  by_cases hloads : LoadsDevice hash w.app e
  · exact .inl ((known_step hstep horders hio).mpr (.inr hloads))
  have h := step_turn hstep
  by_cases he : ∀ io, e ≠ .database io
  · obtain ⟨htables, hqueue⟩ := turn_waiting h he
    refine .inr ⟨?_, hqueue _ hwaits⟩
    rw [htables]
    exact hrow
  simp only [ne_eq, not_forall, not_not] at he
  obtain ⟨io, rfl⟩ := he
  cases h with
  | idle => exact .inr ⟨hrow, hwaits⟩
  | device _ k event d o he => cases he
  | database _ entry rest o hq ho =>
    obtain ⟨order, horder⟩ := horders.database entry (by simp [journal, hq])
    obtain ⟨-, hhead⟩ := hg
    obtain ⟨hplain, hleaves⟩ := hhead entry (by rw [hq]; rfl)
    have hload : entry.request.action ≠ .loadDevices := by
      intro haction
      exact hloads ⟨⟨entry, by rw [hq]; rfl, haction⟩, hrow⟩
    rw [waitingRequests_head hq] at hwaits
    rw [horder] at ho hplain hleaves
    rw [requestStrings_request] at hplain
    have heffect := requestHandler_effect (runsPlain_of_plain hplain) ho
    refine .inr ⟨effect_row heffect (hio io rfl) hleaves hrow, ?_⟩
    rw [waitingRequests_database]
    obtain heq | hrest := List.mem_cons.mp hwaits
    · exact absurd (heq ▸ rfl) hload
    · exact List.mem_append_left _ hrest

lemma what_ok {value : String} (h : Dispatcher.whatFor value = .ok) : value = valFor .statusOkay := by
  unfold Dispatcher.whatFor at h
  split at h
  · assumption
  · split at h
    · cases h
    · cases h

lemma okayed_turn {e : Event} {n : Nat} (h : Turn b s e s')
    (hn : n < s.collector.handled.length) (hokay : Okayed s' n) : Okayed s n := by
  cases turn_answerTurn h with
  | quiet _ entries new _ hdispatcher hsent hhandled hentries hnew =>
    obtain ⟨x, hx, hserved, hstatus⟩ | ⟨m, hm, hserved, hstatus⟩ := hokay
    · rw [hdispatcher] at hx
      obtain hold | hx := List.mem_append.mp hx
      · exact .inl ⟨x, hold, hserved, hstatus⟩
      · rw [hentries x hx] at hserved
        cases hserved
    · rw [hsent] at hm
      obtain hold | hm := List.mem_append.mp hm
      · exact .inr ⟨m, hold, hserved, hstatus⟩
      · rw [hnew m hm] at hserved
        cases hserved
  | dispatched write entry rest o hq ho =>
    obtain ⟨x, hx, hserved, hstatus⟩ | ⟨m, hm, hserved, hstatus⟩ := hokay
    · obtain hold | hx := List.mem_append.mp hx
      · exact .inl ⟨x, by rw [hq]; exact List.mem_cons_of_mem entry hold, hserved, hstatus⟩
      · obtain ⟨rq, -, rfl⟩ := List.mem_map.mp hx
        cases hserved
    · obtain hold | hm := List.mem_append.mp hm
      · exact .inr ⟨m, hold, hserved, hstatus⟩
      · obtain ⟨⟨client, message⟩, hmessage, rfl⟩ := List.mem_map.mp hm
        obtain ⟨status, hm, hwhat⟩ := hstatus
        obtain ⟨-, value, hvalue, hmessage⟩ := dispatched_status ho (Option.mem_toList.mp hmessage)
        obtain rfl := Control.Message.status.inj (hm.symm.trans hmessage)
        refine .inl ⟨entry, by rw [hq]; exact List.mem_cons_self, hserved, ?_⟩
        rw [hvalue, what_ok hwhat]
  | served io entry rest o hq ho =>
    have hlast : ∀ k, some s.collector.handled.length = some n → k := by
      intro k heq
      have hlength := Option.some.inj heq
      omega
    obtain ⟨x, hx, hserved, hstatus⟩ | ⟨m, hm, hserved, hstatus⟩ := hokay
    · obtain hold | hx := List.mem_append.mp hx
      · exact .inl ⟨x, hold, hserved, hstatus⟩
      · obtain ⟨rq, -, rfl⟩ := List.mem_map.mp hx
        exact hlast _ hserved
    · obtain hold | hm := List.mem_append.mp hm
      · exact .inr ⟨m, hold, hserved, hstatus⟩
      · obtain ⟨pair, -, rfl⟩ := List.mem_map.mp hm
        exact hlast _ hserved

lemma addedBy_turn {e : Event} {n : Nat} (h : Turn b s e s') (hn : n < s.collector.handled.length) :
    AddedBy hash s' n ↔ AddedBy hash s n := by
  have hsame : s'.collector.handled[n]? = s.collector.handled[n]? := by
    cases turn_answerTurn h with
    | quiet _ _ _ _ _ _ hhandled => rw [hhandled]
    | dispatched => rfl
    | served => exact List.getElem?_append_left hn
  unfold AddedBy
  rw [hsame]

lemma okayed_served {io : DbIo} {entry : DbEntry} {rest : List DbEntry} {o : DbOutcome}
    (ht : Tagged s)
    (ho : Database.requestHandler b s.collector.deviceState io s.collector.tables entry.request = .ok o)
    (hokay : Okayed (afterDatabase s entry rest o) s.collector.handled.length) :
    answered o = some (valFor .statusOkay) := by
  obtain ⟨x, hx, hserved, hstatus⟩ | ⟨m, hm, hserved, hstatus⟩ := hokay
  · obtain hold | hx := List.mem_append.mp hx
    · have hlt := (ht.waiting x hold _ hserved).1
      omega
    · obtain ⟨rq, hrq, rfl⟩ := List.mem_map.mp hx
      cases requestHandler_databaseReply ho with
      | answered args ha hd =>
        rw [hd] at hrq
        unfold answered
        rw [hd, ← List.mem_singleton.mp hrq]
        exact hstatus
      | silent ha hd =>
        rw [hd] at hrq
        cases hrq
  · obtain hold | hm := List.mem_append.mp hm
    · have hlt := ht.sent m hold _ hserved
      omega
    · obtain ⟨⟨client, list⟩, -, rfl⟩ := List.mem_map.mp hm
      obtain ⟨status, hmessage, -⟩ := hstatus
      cases list <;> cases hmessage

lemma awaited_served {io : DbIo} {entry : DbEntry} {rest : List DbEntry} {o : DbOutcome}
    (horders : OrdersQueued s) (ht : Tagged s) (hq : s.collector.queue = entry :: rest)
    (ho : Database.requestHandler b s.collector.deviceState io s.collector.tables entry.request = .ok o)
    (hio : io.fails = []) (hplain : ∀ v ∈ requestStrings entry.request, Plain v)
    (hadds : AddsDevice hash entry.request)
    (hokay : Okayed (afterDatabase s entry rest o) s.collector.handled.length) :
    Awaited hash (afterDatabase s entry rest o) := by
  have hanswered := okayed_served ht ho hokay
  obtain ⟨order, horder⟩ := horders.database entry (by simp [journal, hq])
  rw [horder] at ho hplain hadds
  rw [requestStrings_request] at hplain
  refine .inr ⟨okay_row hio hplain hadds ho hanswered, ?_⟩
  rw [waitingRequests_database, (order_follows ho).1, hanswered]
  apply List.mem_append_right
  cases order with
  | addDevice => simp [pushedFor]
  | initDatabase client forced => cases client <;> cases hadds
  | _ => cases hadds

lemma added_step {e : Event} (hstep : Application.step b w.app e = .ok s')
    (hs : ReadInvariant hash w) (hg : LeavesDevice b.type hash w e) {n : Nat}
    (hadded : AddedBy hash s' n) (hokay : Okayed s' n) : Awaited hash s' := by
  have h := step_turn hstep
  by_cases hn : n < w.app.collector.handled.length
  · have hbefore := hs.added n ((addedBy_turn h hn).mp hadded) (okayed_turn h hn hokay)
    exact awaited_step hstep hs.orders hg hbefore
  obtain ⟨entry', hentry', hadds⟩ := hadded
  obtain ⟨hlt, hget⟩ := List.getElem?_eq_some_iff.mp hentry'
  cases turn_answerTurn h with
  | quiet _ _ _ _ _ _ hhandled =>
    rw [hhandled] at hlt
    exact absurd hlt hn
  | dispatched => exact absurd hlt hn
  | served io entry rest o hq ho =>
    have hlength : (afterDatabase w.app entry rest o).collector.handled.length =
        w.app.collector.handled.length + 1 := by simp [afterDatabase]
    obtain rfl : n = w.app.collector.handled.length := by omega
    have hentry : entry' = entry := by
      rw [← hget]
      simp [afterDatabase]
    rw [hentry] at hadds
    obtain ⟨hio, hhead⟩ := hg
    obtain ⟨hplain, -⟩ := hhead entry (by rw [hq]; rfl)
    exact awaited_served hs.orders hs.tagged hq ho hio hplain hadds hokay

end Steps

section Watching

variable {b : Backend} {hash : String} {w w' : Watched}

lemma watch_ok {e : Event} (h : watch b hash w e = .ok w') :
    Application.step b w.app e = .ok w'.app ∧
      (w'.loaded = true ↔ w.loaded = true ∨ LoadsDevice hash w.app e) ∧
      (true ∈ w'.late → true ∈ w.late ∨ ∃ client, Told hash w.app client) := by
  unfold watch at h
  cases hstep : Application.step b w.app e with
  | error stop => simp [hstep] at h
  | ok s =>
    simp only [hstep, Except.ok.injEq] at h
    rw [← h]
    refine ⟨rfl, by simp, fun hlate => ?_⟩
    obtain hkept | hmark := List.mem_append.mp hlate
    · left
      split at hkept
      · exact List.mem_of_mem_tail hkept
      · exact hkept
    · obtain ⟨entry, -, hmark⟩ := List.mem_map.mp hmark
      obtain ⟨client, -, htold⟩ := of_decide_eq_true hmark
      exact .inr ⟨client, htold⟩

lemma okayed_of_told {s : Application} {client : ClientId} (h : Told hash s client) :
    ∃ n, AddedBy hash s n ∧ Okayed s n := by
  obtain ⟨m, hm, -, -, hokay⟩ := h
  unfold OkayFor at hokay
  split at hokay
  · rename_i status n hmessage hserved
    exact ⟨n, hokay.2, .inr ⟨m, hm, hserved, status, hmessage, hokay.1⟩⟩
  · exact hokay.elim

lemma readInvariant_preserves (b : Backend) (hash : String) :
    Machine.Preserves (watch b hash) (LeavesDevice b.type hash) (ReadInvariant hash) := by
  intro w e w' hs hg h
  obtain ⟨hstep, hloaded, hlate⟩ := watch_ok h
  have hturn := step_turn hstep
  refine ⟨ordersQueued_turn hturn hs.orders, tagged_turn hturn hs.tagged, ?_, ?_, ?_⟩
  · have hio : ∀ io, e = .database io → io.fails = [] := by
      rintro io rfl
      exact hg.1
    rw [Bool.eq_iff_iff, hloaded, hs.loaded]
    exact (known_step hstep hs.orders hio).symm
  · exact fun n hadded hokay => added_step hstep hs hg hadded hokay
  · intro hmark
    have hbefore : Awaited hash w.app := by
      obtain hold | ⟨client, htold⟩ := hlate hmark
      · exact hs.late hold
      · obtain ⟨n, hadded, hokay⟩ := okayed_of_told htold
        exact hs.added n hadded hokay
    exact awaited_step hstep hs.orders hg hbefore

lemma readInvariant_start (hash : String) (tables : Tables) (erase failed : Bool) :
    ReadInvariant hash (watchStart tables erase failed) := by
  refine ⟨ordersQueued_start tables erase failed, tagged_start tables erase failed, ?_, ?_, ?_⟩
  · cases erase <;> rfl
  · rintro n ⟨entry, hentry, -⟩
    cases erase <;> cases hentry
  · intro hlate
    obtain ⟨entry, -, hfalse⟩ := List.mem_map.mp hlate
    cases hfalse

/-- The dispatcher connects a device that the manager knows, and tells the client of one that it
does not know. -/
lemma requestHandler_connects (known : String → Bool) {rq : Dispatcher.Request}
    (h : ConnectsDevice hash rq) : ∃ o, Dispatcher.requestHandler known rq = .ok o ∧
      ((∀ answer ∈ o.dispatcher, answer.args.lookup .reason ≠ some "No such device") ↔
        known hash = true) := by
  unfold ConnectsDevice at h
  split at h
  · rename_i deviceData haction hbulk
    unfold Dispatcher.requestHandler Dispatcher.doConnectDevice Dispatcher.toDevice
    rw [haction, hbulk]
    simp only [BulkData.castDeviceData, h]
    cases known hash with
    | true => exact ⟨_, rfl, by simp⟩
    | false => exact ⟨_, rfl, by simp⟩
  · exact h.elim

lemma readsYourWrite_iff {e : Event} (hs : ReadInvariant hash w) :
    (∀ w', watch b hash w e = .ok w' → ReadsYourWrite hash w e w') ↔ LoadedFirst hash w e := by
  cases e with
  | dispatcher write =>
    constructor
    · intro h entry hentry hlate hconnects
      obtain ⟨o, ho, hanswer⟩ := requestHandler_connects w.app.known hconnects
      obtain ⟨rest, hq⟩ : ∃ rest, w.app.dispatcher = entry :: rest := List.head?_eq_some_iff.mp hentry
      have hstep : ∃ w', watch b hash w (.dispatcher write) = .ok w' := by
        unfold watch Application.step
        simp [hq, ho]
      obtain ⟨w', hw⟩ := hstep
      exact .inl (hs.loaded.trans (hanswer.mp (h w' hw entry hentry hlate hconnects o ho)))
    · intro h w' hw entry hentry hlate hconnects o ho
      obtain ⟨o', ho', hanswer⟩ := requestHandler_connects w.app.known hconnects
      obtain rfl : o' = o := Except.ok.inj (ho'.symm.trans ho)
      apply hanswer.mpr
      have hawaited := hs.late (List.mem_of_mem_head? hlate)
      obtain hloaded | hempty := h entry hentry hlate hconnects
      · exact hs.loaded.symm.trans hloaded
      · exact hawaited.resolve_right fun hwaits => hempty hwaits.2
  | _ => exact ⟨fun _ => trivial, fun _ _ _ => trivial⟩

end Watching

/-- A client that was told that the device is added is never told that there is no such device, in
exactly the runs in which the devices are loaded before its request to connect is dispatched. -/
theorem read_your_writes (b : Backend) (hash : String) (tables : Tables) (erase failed : Bool)
    (events : List Event)
    (hleaves : Machine.Guarded (watch b hash) (LeavesDevice b.type hash)
      (watchStart tables erase failed) events) :
    Machine.EachStep (watch b hash) (ReadsYourWrite hash) (watchStart tables erase failed) events ↔
      Machine.Guarded (watch b hash) (LoadedFirst hash) (watchStart tables erase failed) events :=
  Machine.eachStep_iff_guarded_of (readInvariant_preserves b hash)
    (fun _ _ hs _ => readsYourWrite_iff hs) (readInvariant_start hash tables erase failed) hleaves

/-- A client adds a device, and its request to connect it comes before or after the request to
load the devices. -/
def addAndConnect (between : List Event) : List Event :=
  [served, served, served, .accept, asks 0 (requestFor "1" .addDevice "e"), dispatched, served,
    dispatched] ++ between ++ [asks 0 (requestFor "2" .connectDevice "e"), dispatched]

/-- The devices are loaded before the client asks for the connection. -/
theorem read_your_writes_loaded :
    Machine.Guarded (watch (plainBackend .sqlite3) "e") (LeavesDevice .sqlite3 "e")
      (watchStart (tablesWith ["d"]) false false) (addAndConnect [served]) ∧
    Machine.EachStep (watch (plainBackend .sqlite3) "e") (ReadsYourWrite "e")
      (watchStart (tablesWith ["d"]) false false) (addAndConnect [served]) := by
  have hleaves : Machine.Guarded (watch (plainBackend .sqlite3) "e") (LeavesDevice .sqlite3 "e")
      (watchStart (tablesWith ["d"]) false false) (addAndConnect [served]) := by decide
  have hloaded : Machine.Guarded (watch (plainBackend .sqlite3) "e") (LoadedFirst "e")
      (watchStart (tablesWith ["d"]) false false) (addAndConnect [served]) := by decide
  exact ⟨hleaves, (read_your_writes (plainBackend .sqlite3) "e" (tablesWith ["d"]) false false _
    hleaves).mpr hloaded⟩

/-- The request of the client overtakes the one to load the devices. -/
theorem read_your_writes_overtaken :
    Machine.Guarded (watch (plainBackend .sqlite3) "e") (LeavesDevice .sqlite3 "e")
      (watchStart (tablesWith ["d"]) false false) (addAndConnect []) ∧
    ¬ Machine.EachStep (watch (plainBackend .sqlite3) "e") (ReadsYourWrite "e")
      (watchStart (tablesWith ["d"]) false false) (addAndConnect []) := by
  have hleaves : Machine.Guarded (watch (plainBackend .sqlite3) "e") (LeavesDevice .sqlite3 "e")
      (watchStart (tablesWith ["d"]) false false) (addAndConnect []) := by decide
  have hovertaken : ¬ Machine.Guarded (watch (plainBackend .sqlite3) "e") (LoadedFirst "e")
      (watchStart (tablesWith ["d"]) false false) (addAndConnect []) := by decide
  refine ⟨hleaves, fun hreads => hovertaken ?_⟩
  exact (Machine.eachStep_iff_guarded_of (readInvariant_preserves (plainBackend .sqlite3) "e")
    (fun _ _ hs _ => readsYourWrite_iff hs) (readInvariant_start "e" (tablesWith ["d"]) false false)
    hleaves).mp hreads

end TkmCollector.Proofs
