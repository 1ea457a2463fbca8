import TkmCollector.Library.Dictionary
import TkmCollector.Proofs.AnswersInOrder
import TkmCollector.Proofs.RegistrySync

/-!
# The inventory

The table of devices is used by clients that do not know of each other, through two queues. When no
statement fails they could as well call a dictionary one after the other: what each of them is told
is the answer of the dictionary, and the order of the calls is that in which they asked.
-/

namespace TkmCollector.Proofs

open Application Database Dictionary LikePattern

/-! ### The dictionary behind the table -/

/-- The dictionary from hashes to devices. -/
def inventory : SequentialObject (String → Option DeviceEntry) (Operation String DeviceEntry)
    (Response String DeviceEntry) := Dictionary.object

/-- The dictionary that the table of devices stands for. -/
def inventoryOf (t : Tables) : String → Option DeviceEntry := lookup DeviceEntry.hash (tabled t)

/-- A device is added, in the place of another one if this is forced. -/
def addOperation (forced : Bool) (deviceData : Control.DeviceData) : Operation String DeviceEntry :=
  if forced then .put deviceData.hash (entryOf deviceData)
  else .insert deviceData.hash (entryOf deviceData)

/-- What a request of the database is for the inventory. -/
def operation (rq : IDatabase.Request) : Option (Operation String DeviceEntry) :=
  match rq.action, rq.bulkData with
  | .initDatabase, _ => some (if forced rq then .clear else .keep)
  | .getDevices, _ => some .list
  | .addDevice, .deviceData deviceData => some (addOperation (forced rq) deviceData)
  | .removeDevice, .deviceData deviceData => some (.remove deviceData.hash)
  | _, _ => none

/-- What a request of a client is for the inventory. -/
def askedOperation (rq : Control.Request) : Option (Operation String DeviceEntry) :=
  match rq.type with
  | .initDatabase => some (if rq.forced then .clear else .keep)
  | .getDevices => some .list
  | .addDevice => some (addOperation rq.forced rq.payload.unpackDeviceData)
  | .removeDevice => some (.remove rq.payload.unpackDeviceData.hash)
  | _ => none

/-- The entries of the database queue as operations. -/
def entryOperation (entry : DbEntry) : Option (Operation String DeviceEntry) := operation entry.request

/-- A request of the dispatcher that it will hand on to the database. -/
def dispatcherOperation (entry : DispatcherEntry) : Option (Operation String DeviceEntry) :=
  (databaseAction entry.request.action).bind fun action =>
    operation ⟨entry.request.client, action.toAction, entry.request.args, databaseBulk entry.request⟩

/-- The operation with which `--eraseDatabase` comes before the clients. -/
def erasure (erase : Bool) : List (Operation String DeviceEntry) := if erase then [.clear] else []

/-- The status that belongs to an answer of the inventory. -/
def verdict : Response String DeviceEntry → String
  | .accepted | .contents _ => valFor .statusOkay
  | .refused => valFor .statusError

/-- The message says what the inventory answers. A list is followed by a status of its own. -/
def Tells (response : Response String DeviceEntry) : Control.Message → Prop
  | .status status => status.what = Dispatcher.whatFor (verdict response)
  | .deviceList list =>
    ((list.map entryOf).map DeviceEntry.hash).Nodup ∧
      response = .contents (lookup DeviceEntry.hash (list.map entryOf))
  | .setSession _ | .sessionList _ => False

/-- The hash that is looked for before an operation is done. -/
def soughtHash : Operation String DeviceEntry → Option String
  | .insert hash _ | .remove hash => some hash
  | .put _ _ | .clear | .keep | .list => none

/-- The check before an operation does not misread the id of its device. -/
def ReadsDevice (type : DbType) (t : Tables) (op : Operation String DeviceEntry) : Prop :=
  ∀ hash ∈ soughtHash op, ¬ Misread type (checkedDevice type hash t)

instance (type : DbType) (t : Tables) (op : Operation String DeviceEntry) :
    Decidable (ReadsDevice type t op) :=
  inferInstanceAs (Decidable (∀ hash ∈ soughtHash op, _))

/-- No statement fails, the server of PostgreSQL is there, the strings stay inside of their literals,
a hash picks its own device only, and no id is misread. -/
def InventoryGuard (type : DbType) (s : Application) : Application.Event → Prop
  | .database io => io.fails = [] ∧ LinkUp type io ∧ ∀ entry ∈ s.collector.queue.head?,
      (∀ v ∈ requestStrings entry.request, Plain v) ∧
        (type = .postgreSQL → ∀ op ∈ entryOperation entry, ∀ hash ∈ op.key, Literal hash) ∧
        ∀ op ∈ entryOperation entry, ReadsDevice type s.collector.tables op
  | _ => True

instance (type : DbType) (s : Application) : (e : Application.Event) → Decidable (InventoryGuard type s e)
  | .database io => inferInstanceAs (Decidable (io.fails = [] ∧ LinkUp type io ∧
      ∀ entry ∈ s.collector.queue.head?, (∀ v ∈ requestStrings entry.request, Plain v) ∧
        (type = .postgreSQL → ∀ op ∈ entryOperation entry, ∀ hash ∈ op.key, Literal hash) ∧
        ∀ op ∈ entryOperation entry, ReadsDevice type s.collector.tables op))
  | .accept | .control _ _ _ | .dispatcher _ | .connection _ _ _ _ | .finalize _ | .queue _ _
  | .timer _ _ => isTrue trivial

/-! ### The handlers -/

section Handlers

variable {b : Backend} {states : String → Option Control.DeviceState} {io : DbIo} {t : Tables}
  {o : DbOutcome}

/-- A handler does what the operation does to the dictionary, and answers what it answers. -/
structure Performs (t : Tables) (op : Operation String DeviceEntry) (o : DbOutcome) : Prop where
  keyed : ((tabled o.tables).map DeviceEntry.hash).Nodup
  tables : inventoryOf o.tables = inventory.next (inventoryOf t) op
  status : answered o = some (verdict (inventory.respond (inventoryOf t) op))
  lists : ∀ p ∈ o.lists, Tells (inventory.respond (inventoryOf t) op) p.2.message

lemma picks_own {type : DbType} {hash : String} (h : type = .postgreSQL → Literal hash)
    (value : String) : hashMatches type hash value = true ↔ value = hash := by
  cases type with
  | sqlite3 => simp [hashMatches]
  | postgreSQL => exact hashMatches_eq (h rfl) value

section Picks

variable {hash : String} (hpicks : ∀ value, hashMatches b.type hash value = true ↔ value = hash)
  (hkeyed : ((tabled t).map DeviceEntry.hash).Nodup)

include hpicks in
lemma inventoryOf_none :
    inventoryOf t hash = none ↔ t.devicesWith (hashMatches b.type) hash = [] := by
  unfold inventoryOf Tables.devicesWith
  rw [lookup_eq_none, List.filter_eq_nil_iff]
  simp [tabled, entryOfRow, hpicks]

include hpicks in
lemma found_of_read (hread : ¬ Misread b.type (checkedDevice b.type hash t)) :
    Reply.found b.type (some (.id (checkedDevice b.type hash t))) = false ↔
      inventoryOf t hash = none := by
  rw [inventoryOf_none hpicks, found_hasDevice]
  exact or_iff_left hread

include hpicks in
lemma inventoryOf_dropped :
    inventoryOf (dropped b.type hash t) = Function.update (inventoryOf t) hash none := by
  unfold inventoryOf
  rw [tabled_dropped]
  exact lookup_filter _ fun e _ => hpicks e.hash

include hkeyed in
lemma keyed_dropped_table : ((tabled (dropped b.type hash t)).map DeviceEntry.hash).Nodup := by
  rw [tabled_dropped]
  exact hkeyed.sublist (List.filter_sublist.map _)

include hkeyed in
lemma inventoryOf_added {deviceData : Control.DeviceData}
    (hnone : inventoryOf t deviceData.hash = none) :
    inventoryOf (added b.type deviceData t) =
        Function.update (inventoryOf t) deviceData.hash (some (entryOf deviceData)) ∧
      ((tabled (added b.type deviceData t)).map DeviceEntry.hash).Nodup := by
  have hnew : (entryOf deviceData).hash ∉ (tabled t).map DeviceEntry.hash :=
    lookup_eq_none.mp hnone
  rw [inventoryOf, tabled_added]
  refine ⟨lookup_append hnew, ?_⟩
  rw [List.map_append, List.map_singleton, List.nodup_append]
  refine ⟨hkeyed, List.nodup_singleton _, ?_⟩
  rintro key hmem other hother rfl
  rw [List.mem_singleton.mp hother] at hmem
  exact hnew hmem

end Picks

variable (hio : io.fails = []) (hkeyed : ((tabled t).map DeviceEntry.hash).Nodup)

include hio hkeyed in
lemma addDevice_performs {client : ClientId} {id : String} {forced : Bool}
    {deviceData : Control.DeviceData} (hhash : Plain deviceData.hash) (hname : Plain deviceData.name)
    (haddress : Plain deviceData.address)
    (hpicks : ∀ value, hashMatches b.type deviceData.hash value = true ↔ value = deviceData.hash)
    (hread : ReadsDevice b.type t (addOperation forced deviceData))
    (ho : doAddDevice b io t (Order.addDevice client id forced deviceData).request = .ok o) :
    Performs t (addOperation forced deviceData) o := by
  unfold doAddDevice at ho
  rw [Order.forced_addDevice] at ho
  simp only [Order.request, BulkData.castDeviceData, hasDevice_calm hio hhash,
    Order.count_forced_clientArgs] at ho
  cases forced with
  | true =>
    -- the old device is deleted first, so that the new one finds no other
    have hnone : inventoryOf (dropped b.type deviceData.hash t) deviceData.hash = none := by
      rw [inventoryOf_dropped hpicks, Function.update_self]
    obtain ⟨htables, hunique⟩ := inventoryOf_added (b := b) (keyed_dropped_table hkeyed) hnone
    simp [remDevice_calm hio hhash, addDevice_calm hio hhash hname haddress, answer, quiet] at ho
    rw [← ho]
    refine ⟨hunique, ?_, ?_, by simp⟩
    · rw [htables, inventoryOf_dropped hpicks, Function.update_idem]
      rfl
    · simp [answered, sendStatus, statusFor, verdict, addOperation, inventory, object]
  | false =>
    have hfound := found_of_read hpicks (t := t) (hread deviceData.hash rfl)
    by_cases hnone : inventoryOf t deviceData.hash = none
    · obtain ⟨htables, hunique⟩ := inventoryOf_added (b := b) hkeyed hnone
      simp [hfound.mpr hnone, answer, quiet, addDevice_calm hio hhash hname haddress] at ho
      rw [← ho]
      refine ⟨hunique, ?_, ?_, by simp⟩
      · rw [htables]
        simp [addOperation, inventory, object, hnone]
      · simp [answered, sendStatus, statusFor, verdict, addOperation, inventory, object, hnone]
    · have hyes := mt hfound.mp hnone
      rw [Bool.not_eq_false] at hyes
      simp [hyes, answer, quiet] at ho
      rw [← ho]
      refine ⟨hkeyed, ?_, ?_, by simp⟩
      · simp [addOperation, inventory, object, hnone]
      · simp [answered, sendStatus, verdict, addOperation, inventory, object, hnone]

include hio hkeyed in
lemma removeDevice_performs {client : ClientId} {id : String} {forced : Bool}
    {deviceData : Control.DeviceData} (hhash : Plain deviceData.hash)
    (hpicks : ∀ value, hashMatches b.type deviceData.hash value = true ↔ value = deviceData.hash)
    (hread : ReadsDevice b.type t (.remove deviceData.hash))
    (ho : doRemoveDevice b io t (Order.removeDevice client id forced deviceData).request = .ok o) :
    Performs t (.remove deviceData.hash) o := by
  unfold doRemoveDevice at ho
  simp only [Order.request, BulkData.castDeviceData, hasDevice_calm hio hhash,
    remDevice_calm hio hhash, reduceCtorEq, if_false, Except.ok.injEq] at ho
  rw [← ho]
  refine ⟨keyed_dropped_table hkeyed, inventoryOf_dropped hpicks, ?_, by simp [answer, quiet]⟩
  rw [answered_answer]
  have hfound := found_of_read hpicks (t := t) (hread deviceData.hash rfl)
  by_cases hnone : inventoryOf t deviceData.hash = none
  · simp [hfound.mpr hnone, verdict, inventory, object, hnone]
  · have hyes := mt hfound.mp hnone
    rw [Bool.not_eq_false] at hyes
    simp [hyes, statusFor, verdict, inventory, object, hnone]

include hio hkeyed in
lemma initDatabase_performs {client : Option (ClientId × String)} {forced : Bool}
    (hlink : LinkUp b.type io)
    (ho : doInitDatabase b io t (Order.initDatabase client forced).request = .ok o) :
    Performs t (if forced then .clear else .keep) o := by
  have hcreate : ∀ t, (runCreateTables b io 1 t).2 = true := by
    intro t
    by_contra hfails
    obtain ⟨k, -, hk⟩ := (runCreateTables_eq_false t).mp (eq_false_of_ne_true hfails)
    rw [hio] at hk
    cases hk
  rw [doInitDatabase_up hlink, Order.forced_initDatabase] at ho
  simp only [hcreate, Except.ok.injEq] at ho
  rw [← ho]
  have hstatus : ((Args.copyRequestId (Order.initDatabase client forced).request.args).emplace
      .status (statusFor true)).lookup .status = some (valFor .statusOkay) := by
    simp [statusFor]
  cases forced with
  | true =>
    have hempty : tabled (erased (droppedNames b.type io 0) t) = [] := tabled_erased hio
    refine ⟨?_, ?_, ?_, by simp [answer, quiet]⟩
    · change ((tabled (erased (droppedNames b.type io 0) t)).map DeviceEntry.hash).Nodup
      rw [hempty]
      exact List.nodup_nil
    · change lookup DeviceEntry.hash (tabled (erased (droppedNames b.type io 0) t)) = _
      rw [hempty]
      rfl
    · rw [answered_answer, lookup_initDatabase _ _ _ (by simp)]
      rfl
  | false =>
    refine ⟨hkeyed, rfl, ?_, by simp [answer, quiet]⟩
    rw [answered_answer, lookup_initDatabase _ _ _ (by simp)]
    rfl

lemma listed_entries (t : Tables) :
    ((t.devices.map DeviceRow.toData).map (withState states)).map entryOf = tabled t := by
  unfold tabled
  rw [List.map_map, List.map_map]
  apply List.map_congr_left
  intro row _
  simp only [Function.comp_apply, withState]
  split <;> rfl

include hio hkeyed in
lemma getDevices_performs {client : ClientId} {id : String}
    (ho : doGetDevices b states io t (Order.getDevices client id).request = .ok o) :
    Performs t .list o := by
  simp only [doGetDevices, Order.request, getDevices_calm hio, sendList, Except.ok.injEq] at ho
  rw [← ho]
  refine ⟨hkeyed, rfl, ?_, ?_⟩
  · simp [answered, answer, sendStatus, verdict, inventory, object]
  · intro p hp
    obtain rfl := List.mem_singleton.mp (List.mem_ite_nil_right.mp hp).2
    simp only [ControlList.message, Tells, Reply.deviceList, listed_entries]
    exact ⟨hkeyed, rfl⟩

end Handlers

/-! ### The requests of the queues -/

lemma order_performs {b : Backend} {states : String → Option Control.DeviceState} {io : DbIo}
    {t : Tables} {order : Order} {o : DbOutcome} {op : Operation String DeviceEntry}
    (hio : io.fails = []) (hlink : LinkUp b.type io)
    (hkeyed : ((tabled t).map DeviceEntry.hash).Nodup) (hplain : ∀ v ∈ order.strings, Plain v)
    (hliteral : b.type = .postgreSQL → ∀ hash ∈ op.key, Literal hash)
    (hread : ReadsDevice b.type t op) (hop : operation order.request = some op)
    (ho : requestHandler b states io t order.request = .ok o) : Performs t op o := by
  cases order with
  | initDatabase client forced =>
    have haction : (Order.initDatabase client forced).request.action = .initDatabase := by
      cases client <;> rfl
    unfold operation at hop
    unfold requestHandler at ho
    rw [haction] at hop ho
    rw [← Option.some.inj hop, Order.forced_initDatabase]
    exact initDatabase_performs hio hkeyed hlink ho
  | getDevices client id =>
    rw [← Option.some.inj hop]
    exact getDevices_performs hio hkeyed ho
  | addDevice client id forced deviceData =>
    have hforced := Option.some.inj hop
    rw [Order.forced_addDevice] at hforced
    have hkey : deviceData.hash ∈ op.key := by
      rw [← hforced]
      cases forced <;> exact rfl
    rw [← hforced] at hread ⊢
    exact addDevice_performs hio hkeyed (hplain _ (by simp [Order.strings]))
      (hplain _ (by simp [Order.strings])) (hplain _ (by simp [Order.strings]))
      (picks_own fun htype => hliteral htype _ hkey) hread ho
  | removeDevice client id forced deviceData =>
    have hkey : deviceData.hash ∈ op.key := by
      rw [← Option.some.inj hop]
      exact rfl
    rw [← Option.some.inj hop] at hread ⊢
    exact removeDevice_performs hio hkeyed (hplain _ (by simp [Order.strings]))
      (picks_own fun htype => hliteral htype _ hkey) hread ho
  | _ => cases hop

lemma devices_of_none {b : Backend} {states : String → Option Control.DeviceState} {io : DbIo}
    {t : Tables} {order : Order} {o : DbOutcome} (hplain : ∀ v ∈ order.strings, Plain v)
    (hop : operation order.request = none)
    (ho : requestHandler b states io t order.request = .ok o) : tabled o.tables = tabled t := by
  have heffect := requestHandler_effect (runsPlain_of_plain hplain) ho
  generalize o.tables = t', answered o = status at heffect
  cases heffect with
  | same | removed | cleared | opened | doubled | ended | stored => rfl
  | created client | erased client => cases client <;> cases hop
  | added | replaced | left | dropped => cases hop

lemma forced_asked (rq : Control.Request) (client : Option ClientId) (action : IDatabase.Action)
    (bulkData : BulkData) :
    forced ⟨client, action, ControlClient.requestArgs rq, bulkData⟩ = rq.forced := by
  unfold forced
  rw [requestArgs_eq, Order.lookup_forced_clientArgs]
  cases rq.forced <;> simp

lemma operation_asked {client : ClientId} {rq : Control.Request} {write : Bool}
    {message : Option Control.Message} {nrq : Dispatcher.Request}
    (h : ControlClient.requestHandler client rq write = some (message, nrq)) :
    dispatcherOperation ⟨nrq, none⟩ = askedOperation rq := by
  unfold ControlClient.requestHandler at h
  unfold askedOperation
  cases htype : rq.type with
  | unknown => simp [htype] at h
  | requestSession =>
    simp only [htype, ControlClient.doRequestSession, Option.some.injEq, Prod.mk.injEq] at h
    rw [← h.2]
    rfl
  | initDatabase =>
    simp only [htype, ControlClient.doInitDatabase, Option.some.injEq, Prod.mk.injEq] at h
    rw [← h.2]
    have hforced := forced_asked rq (some client) .initDatabase (.int 0)
    change some (if forced ⟨some client, .initDatabase, _, _⟩ then _ else _) = _
    rw [← hforced]
    rfl
  | addDevice =>
    simp only [htype, ControlClient.doAddDevice, Option.some.injEq, Prod.mk.injEq] at h
    rw [← h.2]
    have hforced := forced_asked rq (some client) .addDevice (.deviceData rq.payload.unpackDeviceData)
    dsimp only
    rw [← hforced]
    rfl
  | _ =>
    simp only [htype, Option.some.injEq, Prod.mk.injEq] at h
    rw [← h.2]
    rfl

lemma operation_device {d d' : MonitorDevice} {e : MonitorDevice.Event}
    {requests : List IDatabase.Request} (h : Dispatch d e d' requests) :
    ∀ rq ∈ requests, operation rq = none := by
  intro rq hrq
  cases dispatch_database h with
  | nothing => cases hrq
  | ended | opened =>
    rw [List.mem_singleton.mp hrq]
    rfl
  | stored =>
    rw [List.mem_singleton.mp hrq]
    rfl

lemma operation_pushed {t : Tables} {io : DbIo} {status : Option String} {order : Order} :
    ∀ rq ∈ pushedFor t io status order, operation rq = none := by
  intro rq hrq
  unfold pushedFor at hrq
  split at hrq
  · rw [List.mem_singleton.mp (List.mem_ite_nil_right.mp hrq).2]
    rfl
  · obtain ⟨row, -, rfl⟩ := List.mem_map.mp (List.mem_ite_nil_left.mp hrq).2
    rfl
  · cases hrq

/-- The dispatcher hands its head on to the database or asks for nothing of the inventory. -/
lemma operation_dispatched {known : String → Bool} {entry : DispatcherEntry} {o : Dispatcher.Outcome}
    (h : Dispatcher.requestHandler known entry.request = .ok o) :
    o.database.filterMap operation = (dispatcherOperation entry).toList ∧
      ∀ rq ∈ o.dispatcher, dispatcherOperation ⟨rq, none⟩ = none := by
  unfold dispatcherOperation
  cases requestHandler_dispatched h with
  | database action ha =>
    rw [ha]
    refine ⟨?_, by simp [Dispatcher.toDatabase]⟩
    simp [Dispatcher.toDatabase, List.filterMap_cons, Option.toList]
    split <;> simp_all
  | device action deviceData ha =>
    rw [databaseAction_of_device ha]
    exact ⟨rfl, by simp⟩
  | unknown action deviceData ha =>
    rw [databaseAction_of_device ha]
    exact ⟨rfl, by simp [noSuchDevice, databaseAction]⟩
  | quitting ha =>
    rw [ha]
    exact ⟨rfl, by simp [Dispatcher.doQuitCollector, databaseAction]⟩
  | unheard ha =>
    rw [ha]
    exact ⟨rfl, by simp⟩
  | answered client status ha =>
    rw [ha]
    exact ⟨rfl, by simp⟩

/-- The operations that were asked for and have not been lost. -/
def operations (s : Application) : List (Operation String DeviceEntry) :=
  (journal s.collector).filterMap entryOperation ++ s.dispatcher.filterMap dispatcherOperation

/-- The answer to an entry of the database queue is that of the inventory. -/
abbrev Explained (tables : Tables) (s : Application) (n : ℕ) (message : Control.Message) : Prop :=
  inventory.Explains entryOperation Tells (inventoryOf tables) s.collector.handled n message

/-- The operations wait in the order in which they are asked for. -/
def OperationsInOrder (erase : Bool) (s : Application) : Prop :=
  operations s = erasure erase ++ s.asked.filterMap fun p => askedOperation p.2

/-- The table is the inventory after the operations that were handled, and what is sent or will be
sent is explained by it. -/
structure Linearized (tables : Tables) (s : Application) : Prop where
  keyed : ((tabled s.collector.tables).map DeviceEntry.hash).Nodup
  current : inventoryOf s.collector.tables =
    inventory.logged entryOperation (inventoryOf tables) s.collector.handled
  sent : ∀ x ∈ s.sent, ∀ n ∈ x.served, Explained tables s n x.message
  waiting : ∀ e ∈ s.dispatcher, ∀ n ∈ e.served, ∀ status ∈ e.request.args.lookup .status,
    Explained tables s n (statusMessage e.request status)

section Lines

variable {b : Backend} {erase : Bool} {s s' : Application}

lemma operationsInOrder_ask {client : ClientId} (h : Ask client s s') (hs : OperationsInOrder erase s) :
    OperationsInOrder erase s' := by
  unfold OperationsInOrder operations at hs ⊢
  cases h with
  | unknown rq hrq =>
    have hnone : askedOperation rq = none := by
      unfold askedOperation
      rw [requestHandler_eq_none.mp (hrq true)]
    simp [hs, hnone]
  | known rq write message nrq hrq =>
    have hnew : [(⟨nrq, none⟩ : DispatcherEntry)].filterMap dispatcherOperation =
        [(client, rq)].filterMap fun p => askedOperation p.2 := by
      simp only [List.filterMap_cons, List.filterMap_nil, operation_asked hrq]
    simp only [ask, List.filterMap_append]
    rw [hnew, ← List.append_assoc, hs, List.append_assoc]

lemma operationsInOrder_deliver {write : Bool} {entry : DispatcherEntry} {rest : List DispatcherEntry}
    {o : Dispatcher.Outcome} (hq : s.dispatcher = entry :: rest)
    (ho : Dispatcher.requestHandler s.known entry.request = .ok o) (hs : OperationsInOrder erase s) :
    OperationsInOrder erase (deliver { s with dispatcher := rest } o write entry.served) := by
  obtain ⟨hdatabase, hdispatcher⟩ := operation_dispatched ho
  have hnone : (o.dispatcher.map fun rq => (⟨rq, none⟩ : DispatcherEntry)).filterMap
      dispatcherOperation = [] := by
    rw [List.filterMap_eq_nil_iff]
    intro e he
    obtain ⟨rq, hrq, rfl⟩ := List.mem_map.mp he
    exact hdispatcher rq hrq
  have hpushed : (o.database.map fun rq => (⟨rq, none⟩ : DbEntry)).filterMap entryOperation =
      (dispatcherOperation entry).toList := by
    rw [← hdatabase, List.filterMap_map]
    rfl
  have hhead : s.dispatcher.filterMap dispatcherOperation =
      (dispatcherOperation entry).toList ++ rest.filterMap dispatcherOperation := by
    rw [hq, List.filterMap_cons]
    cases dispatcherOperation entry <;> rfl
  unfold OperationsInOrder operations journal at hs ⊢
  rw [List.filterMap_append] at hs
  simp only [deliver, List.filterMap_append]
  rw [hnone, hpushed, List.append_nil, ← hs, hhead]
  simp

lemma operationsInOrder_device {hash : String} {event : MonitorDevice.Event} {d : MonitorDevice}
    {o : Outcome} (ho : d.step event = .ok o) (hs : OperationsInOrder erase s) :
    OperationsInOrder erase (afterDevice s hash o) := by
  have hpushed : (o.database.map fun rq => (⟨rq, some hash⟩ : DbEntry)).filterMap entryOperation =
      [] := by
    rw [List.filterMap_eq_nil_iff]
    intro e he
    obtain ⟨rq, hrq, rfl⟩ := List.mem_map.mp he
    exact operation_device (step_dispatch ho) rq hrq
  have hstatuses : (o.dispatcher.map fun rq => (⟨rq, none⟩ : DispatcherEntry)).filterMap
      dispatcherOperation = [] := by
    rw [List.filterMap_eq_nil_iff]
    intro e he
    obtain ⟨rq, hrq, rfl⟩ := List.mem_map.mp he
    simp [dispatcherOperation, dispatcher_sendStatus ho rq hrq, databaseAction]
  unfold OperationsInOrder operations journal at hs ⊢
  rw [List.filterMap_append] at hs
  simp only [afterDevice, List.filterMap_append]
  rw [hpushed, hstatuses, List.append_nil, List.append_nil]
  exact hs

lemma operationsInOrder_database {io : DbIo} {entry : DbEntry} {rest : List DbEntry} {o : DbOutcome}
    (hq : s.collector.queue = entry :: rest)
    (ho : requestHandler b s.collector.deviceState io s.collector.tables entry.request = .ok o)
    (horders : OrdersQueued s) (hs : OperationsInOrder erase s) :
    OperationsInOrder erase (afterDatabase s entry rest o) := by
  obtain ⟨order, horder⟩ := horders.database entry (by simp [journal, hq])
  have hpushed : (o.database.map fun rq => (⟨rq, none⟩ : DbEntry)).filterMap entryOperation = [] := by
    rw [List.filterMap_eq_nil_iff]
    intro e he
    obtain ⟨rq, hrq, rfl⟩ := List.mem_map.mp he
    rw [horder] at ho
    rw [(order_follows ho).1] at hrq
    exact operation_pushed rq hrq
  have hstatuses : (o.dispatcher.map fun rq => (⟨rq, some s.collector.handled.length⟩ :
      DispatcherEntry)).filterMap dispatcherOperation = [] := by
    rw [List.filterMap_eq_nil_iff]
    intro e he
    obtain ⟨rq, hrq, rfl⟩ := List.mem_map.mp he
    simp [dispatcherOperation, database_sendStatus ho rq hrq, databaseAction]
  unfold OperationsInOrder operations journal at hs ⊢
  rw [hq, List.append_cons] at hs
  simp only [List.filterMap_append] at hs
  simp only [afterDatabase, List.filterMap_append, hpushed, hstatuses, List.append_nil]
  exact hs

lemma operationsInOrder_turn {e : Application.Event} (h : Turn b s e s') (horders : OrdersQueued s)
    (hs : OperationsInOrder erase s) : OperationsInOrder erase s' := by
  cases h with
  | idle => exact hs
  | accept => exact hs
  | control client input last s₁ clients hasks =>
    have hread : OperationsInOrder erase s₁ := by
      clear horders
      induction hasks with
      | refl => exact hs
      | tail _ hlast ih => exact operationsInOrder_ask hlast ih
    exact hread
  | dispatcher write entry rest o hq ho => exact operationsInOrder_deliver hq ho hs
  | device _ hash event d o he hget ho => exact operationsInOrder_device ho hs
  | database io entry rest o hq ho => exact operationsInOrder_database hq ho horders hs

lemma operationsInOrder_start (tables : Tables) (erase failed : Bool) :
    OperationsInOrder erase (Application.start tables erase failed) := by
  cases erase <;> cases failed <;> rfl

end Lines

section Steps

variable {b : Backend} {tables : Tables} {s s' : Application}

lemma linearized_ask {client : ClientId} (h : Ask client s s') (hs : Linearized tables s) :
    Linearized tables s' := by
  cases h with
  | unknown rq hrq => exact ⟨hs.keyed, hs.current, hs.sent, hs.waiting⟩
  | known rq write message nrq hrq =>
    refine ⟨hs.keyed, hs.current, ?_, ?_⟩
    · intro x hx n hn
      obtain hold | hnew := List.mem_append.mp hx
      · exact hs.sent x hold n hn
      · obtain ⟨m, -, rfl⟩ := List.mem_map.mp hnew
        cases hn
    · intro e he n hn
      obtain hold | hnew := List.mem_append.mp he
      · exact hs.waiting e hold n hn
      · rw [List.mem_singleton.mp hnew] at hn
        cases hn

lemma linearized_deliver {write : Bool} {entry : DispatcherEntry} {rest : List DispatcherEntry}
    {o : Dispatcher.Outcome} (hq : s.dispatcher = entry :: rest)
    (ho : Dispatcher.requestHandler s.known entry.request = .ok o) (hs : Linearized tables s) :
    Linearized tables (deliver { s with dispatcher := rest } o write entry.served) := by
  refine ⟨hs.keyed, hs.current, ?_, ?_⟩
  · intro x hx n hn
    obtain hold | hnew := List.mem_append.mp hx
    · exact hs.sent x hold n hn
    · -- the message is that of the head, which was explained when it came
      obtain ⟨p, hp, rfl⟩ := List.mem_map.mp hnew
      have hhead := hs.waiting entry (by rw [hq]; exact List.mem_cons_self) n hn
      cases requestHandler_dispatched ho with
      | answered client status ha hc hstatus =>
        rw [← Option.some.inj (Option.mem_toList.mp hp)]
        exact hhead status hstatus
      | _ => cases hp
  · intro e he n hn
    obtain hold | hnew := List.mem_append.mp he
    · exact hs.waiting e (by rw [hq]; exact List.mem_cons_of_mem entry hold) n hn
    · obtain ⟨rq, -, rfl⟩ := List.mem_map.mp hnew
      cases hn

lemma linearized_device {hash : String} {o : Outcome} (hs : Linearized tables s) :
    Linearized tables (afterDevice s hash o) := by
  refine ⟨hs.keyed, hs.current, hs.sent, ?_⟩
  intro e he n hn
  obtain hold | hnew := List.mem_append.mp he
  · exact hs.waiting e hold n hn
  · obtain ⟨rq, -, rfl⟩ := List.mem_map.mp hnew
    cases hn

lemma linearized_database {io : DbIo} {entry : DbEntry} {rest : List DbEntry} {o : DbOutcome}
    (hq : s.collector.queue = entry :: rest)
    (ho : requestHandler b s.collector.deviceState io s.collector.tables entry.request = .ok o)
    (hguard : InventoryGuard b.type s (.database io)) (horders : OrdersQueued s)
    (hs : Linearized tables s) : Linearized tables (afterDatabase s entry rest o) := by
  obtain ⟨hio, hlink, hhead⟩ := hguard
  obtain ⟨hplain, hliteral, hread⟩ := hhead entry (by rw [hq]; rfl)
  obtain ⟨order, horder⟩ := horders.database entry (by simp [journal, hq])
  rw [horder, requestStrings_request] at hplain
  have hview : entryOperation entry = operation order.request := by rw [entryOperation, horder]
  have hreply := requestHandler_databaseReply ho
  rw [horder] at ho
  have hlast : ∀ message, (∀ op ∈ entryOperation entry, Tells (inventory.respond
      (inventoryOf s.collector.tables) op) message) →
      Explained tables (afterDatabase s entry rest o) s.collector.handled.length message := by
    intro message h
    refine SequentialObject.explains_last ?_
    rw [← hs.current]
    exact h
  have hperforms : ∀ op ∈ entryOperation entry, Performs s.collector.tables op o := fun op hop =>
    order_performs hio hlink hs.keyed hplain (fun htype => hliteral htype op hop) (hread op hop)
      (hview ▸ hop) ho
  refine ⟨?_, ?_, ?_, ?_⟩
  · cases hop : entryOperation entry with
    | none =>
      change ((tabled o.tables).map DeviceEntry.hash).Nodup
      rw [devices_of_none hplain (hview ▸ hop) ho]
      exact hs.keyed
    | some op => exact (hperforms op hop).keyed
  · cases hop : entryOperation entry with
    | none =>
      have hsame := devices_of_none hplain (hview ▸ hop) ho
      change inventoryOf o.tables = inventory.logged entryOperation _ (s.collector.handled ++ [entry])
      rw [inventory.logged_concat_none hop, ← hs.current, inventoryOf, hsame, inventoryOf]
    | some op =>
      change inventoryOf o.tables = inventory.logged entryOperation _ (s.collector.handled ++ [entry])
      rw [inventory.logged_concat_some hop, ← hs.current]
      exact (hperforms op hop).tables
  · intro x hx n hn
    obtain hold | hnew := List.mem_append.mp hx
    · exact (hs.sent x hold n hn).append [entry]
    · obtain ⟨p, hp, rfl⟩ := List.mem_map.mp hnew
      obtain rfl := Option.some.inj hn
      exact hlast _ fun op hop => (hperforms op hop).lists p hp
  · intro e he n hn status hstatus
    obtain hold | hnew := List.mem_append.mp he
    · exact (hs.waiting e hold n hn status hstatus).append [entry]
    · obtain ⟨rq, hrq, rfl⟩ := List.mem_map.mp hnew
      obtain rfl := Option.some.inj hn
      refine hlast _ fun op hop => ?_
      have hanswered := (hperforms op hop).status
      cases hreply with
      | silent _ hd =>
        rw [hd] at hrq
        cases hrq
      | answered args _ hd =>
        rw [hd] at hrq
        rw [List.mem_singleton.mp hrq] at hstatus
        unfold answered at hanswered
        rw [hd] at hanswered
        have hsame : status = verdict (inventory.respond (inventoryOf s.collector.tables) op) :=
          Option.some.inj ((Option.mem_def.mp hstatus).symm.trans hanswered)
        rw [hsame]
        rfl

lemma linearized_turn {e : Application.Event} (h : Turn b s e s')
    (hguard : InventoryGuard b.type s e) (horders : OrdersQueued s) (hs : Linearized tables s) :
    Linearized tables s' := by
  cases h with
  | idle => exact hs
  | accept => exact ⟨hs.keyed, hs.current, hs.sent, hs.waiting⟩
  | control client input last s₁ clients hasks =>
    have hread : Linearized tables s₁ := by
      induction hasks with
      | refl => exact hs
      | tail _ hlast ih => exact linearized_ask hlast ih
    exact ⟨hread.keyed, hread.current, hread.sent, hread.waiting⟩
  | dispatcher write entry rest o hq ho => exact linearized_deliver hq ho hs
  | device _ hash event d o he hget ho => exact linearized_device hs
  | database io entry rest o hq ho => exact linearized_database hq ho hguard horders hs

lemma linearized_start (hunique : (tables.devices.map DeviceRow.hash).Nodup) (erase failed : Bool) :
    Linearized tables (Application.start tables erase failed) := by
  have htables : (Application.start tables erase failed).collector.tables = tables := by
    cases erase <;> rfl
  have hhandled : (Application.start tables erase failed).collector.handled = [] := by
    cases erase <;> rfl
  refine ⟨?_, ?_, ?_, ?_⟩
  · rw [htables]
    simpa [tabled, Function.comp_def, entryOfRow] using hunique
  · rw [htables, hhandled]
    rfl
  · intro x hx
    cases hx
  · intro e he n hn
    cases failed with
    | false => cases he
    | true =>
      rw [List.mem_singleton.mp he] at hn
      cases hn

end Steps

lemma linearized_run {b : Backend} {tables : Tables} {erase failed : Bool}
    {events : List Application.Event} {s : Application}
    (hunique : (tables.devices.map DeviceRow.hash).Nodup)
    (hguard : Machine.Guarded (Application.step b) (InventoryGuard b.type)
      (Application.start tables erase failed) events)
    (h : Machine.run (Application.step b) (Application.start tables erase failed) events = .ok s) :
    OperationsInOrder erase s ∧ Linearized tables s := by
  have hinv : Machine.Preserves (Application.step b) (InventoryGuard b.type)
      fun s => OrdersQueued s ∧ OperationsInOrder erase s ∧ Linearized tables s := by
    intro s e s' ⟨horders, hline, hs⟩ hg hstep
    have hturn := step_turn hstep
    exact ⟨ordersQueued_turn hturn horders, operationsInOrder_turn hturn horders hline,
      linearized_turn hturn hg horders hs⟩
  exact (Machine.invariant_run hinv ⟨ordersQueued_start tables erase failed,
    operationsInOrder_start tables erase failed, linearized_start hunique erase failed⟩ hguard h).2

lemma handled_initial {erase : Bool} {s : Application} (h : OperationsInOrder erase s) :
    s.collector.handled.filterMap entryOperation <+:
      erasure erase ++ s.asked.filterMap fun p => askedOperation p.2 := by
  unfold OperationsInOrder operations journal at h
  rw [List.filterMap_append, List.append_assoc] at h
  exact ⟨_, h⟩

/-- Once the queues are empty, every operation that was asked for has been handled. -/
lemma handled_all {erase : Bool} {s : Application} (h : OperationsInOrder erase s)
    (hempty : QueuesEmpty s) : s.collector.handled.filterMap entryOperation =
      erasure erase ++ s.asked.filterMap fun p => askedOperation p.2 := by
  obtain ⟨hdispatcher, hqueue, -⟩ := hempty
  unfold OperationsInOrder operations journal at h
  simpa [hdispatcher, hqueue] using h

/-- In a run in which no statement fails, the table of devices is a dictionary that the clients call
in the order in which their requests are read, after the erasure at start-up: every status and every
list of the database is the answer of the dictionary after the calls that were handled before. -/
theorem inventory_linearizable (b : Backend) (tables : Tables) (erase failed : Bool)
    (events : List Application.Event) (s : Application)
    (hunique : (tables.devices.map DeviceRow.hash).Nodup)
    (hguard : Machine.Guarded (Application.step b) (InventoryGuard b.type)
      (Application.start tables erase failed) events)
    (h : Machine.run (Application.step b) (Application.start tables erase failed) events = .ok s) :
    (∀ x ∈ s.sent, ∀ n ∈ x.served, inventory.Explains entryOperation Tells (inventoryOf tables)
        s.collector.handled n x.message) ∧
      inventoryOf s.collector.tables =
        inventory.logged entryOperation (inventoryOf tables) s.collector.handled ∧
      s.collector.handled.filterMap entryOperation <+:
        erasure erase ++ s.asked.filterMap (fun p => askedOperation p.2) ∧
      (QueuesEmpty s → s.collector.handled.filterMap entryOperation =
        erasure erase ++ s.asked.filterMap fun p => askedOperation p.2) := by
  obtain ⟨hline, hs⟩ := linearized_run hunique hguard h
  exact ⟨hs.sent, hs.current, handled_initial hline, handled_all hline⟩

/-- Two clients add the same device and one of them forces it, then the first one lists the devices. -/
theorem inventory_linearizable_two :
    let events : List Application.Event := [.accept, .accept, asks 0 (requestFor "1" .addDevice "d"),
      asks 1 { requestFor "2" .addDevice "d" with forced := true }, asks 0 (requestFor "3" .getDevices ""),
      served, served, served, dispatched, dispatched, dispatched, served, served, served, dispatched]
    let start := Application.start (tablesWith []) false false
    ((tablesWith []).devices.map DeviceRow.hash).Nodup ∧
      Machine.Guarded (Application.step (plainBackend .sqlite3)) (InventoryGuard .sqlite3) start events ∧
      ∃ s, Machine.run (Application.step (plainBackend .sqlite3)) start events = .ok s ∧
        (s.sent.map Sent.client = [0, 0] ∧ ∀ x ∈ s.sent, ∀ n ∈ x.served,
          inventory.Explains entryOperation Tells (inventoryOf (tablesWith [])) s.collector.handled n
            x.message) := by
  intro events start
  have hunique : ((tablesWith []).devices.map DeviceRow.hash).Nodup := by decide
  have hguard : Machine.Guarded (Application.step (plainBackend .sqlite3)) (InventoryGuard .sqlite3)
      start events := by decide
  exact ⟨hunique, hguard, _, rfl, by decide,
    (inventory_linearizable _ _ false false events _ hunique hguard rfl).1⟩

end TkmCollector.Proofs
