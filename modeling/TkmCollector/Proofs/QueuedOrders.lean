import TkmCollector.Proofs.CollectorFrame
import TkmCollector.Proofs.Orders
import TkmCollector.Proofs.QueueContents

namespace TkmCollector.Proofs

open Application

/-- The dispatcher makes nothing but orders of the request. -/
def HandsOnOrders (rq : Dispatcher.Request) : Prop :=
  ∀ known o, Dispatcher.requestHandler known rq = .ok o →
    ∀ x ∈ o.database, ∃ order : Order, x = order.request

/-- Every request that was ever pushed to the database is that of an order, and no more than
orders will come from the dispatcher. -/
structure OrdersQueued (s : Application) : Prop where
  ready : QueuesReady s
  dispatcher : ∀ e ∈ s.dispatcher, HandsOnOrders e.request
  database : ∀ e ∈ journal s.collector, ∃ order : Order, e.request = order.request

/-- The requests that wait in the database queue. -/
def waitingRequests (s : Application) : List IDatabase.Request := s.collector.queue.map DbEntry.request

/-- The strings that are written into the statements of a request. -/
def requestStrings (rq : IDatabase.Request) : List String :=
  match rq.action, rq.bulkData with
  | .getSessions, .deviceData deviceData | .removeDevice, .deviceData deviceData => [deviceData.hash]
  | .addDevice, .deviceData deviceData => [deviceData.hash, deviceData.name, deviceData.address]
  | .remSession, .sessionData sessionData => [sessionData.hash]
  | .addSession, .sessionInfo info =>
    [info.hash, info.name, (rq.args.lookup .deviceHash).getD ""]
  | .endSession, _ => [(rq.args.lookup .sessionHash).getD ""]
  | .addData, .data data => dataStrings data ++ [(rq.args.lookup .sessionHash).getD ""]
  | _, _ => []

lemma requestStrings_request (order : Order) : requestStrings order.request = order.strings := by
  cases order with
  | initDatabase client forced => cases client <;> rfl
  | _ => rfl

lemma requestArgs_eq (rq : Control.Request) :
    ControlClient.requestArgs rq = Order.clientArgs rq.id rq.forced := by
  unfold ControlClient.requestArgs Order.clientArgs Order.forcedArgs
  cases rq.forced <;> rfl

lemma database_of_none {known : String → Bool} {rq : Dispatcher.Request} {o : Dispatcher.Outcome}
    (h : Dispatcher.requestHandler known rq = .ok o) (hnone : databaseAction rq.action = none) :
    o.database = [] := by
  cases requestHandler_dispatched h with
  | database action ha => simp [hnone] at ha
  | _ => rfl

lemma handsOnOrders_of_none {rq : Dispatcher.Request} (h : databaseAction rq.action = none) :
    HandsOnOrders rq := by
  intro known o ho x hx
  rw [database_of_none ho h] at hx
  cases hx

lemma handsOnOrders_sendStatus {rq : Dispatcher.Request} (h : rq.action = .sendStatus) :
    HandsOnOrders rq := handsOnOrders_of_none (by rw [h]; rfl)

lemma handsOnOrders_toDatabase {rq : Dispatcher.Request} {action : IDatabase.Action}
    {bulkData : BulkData} (order : Order)
    (h : ∀ known, Dispatcher.requestHandler known rq = .ok (Dispatcher.toDatabase rq action bulkData))
    (horder : ⟨rq.client, action, rq.args, bulkData⟩ = order.request) : HandsOnOrders rq := by
  intro known o ho x hx
  rw [h known] at ho
  rw [← Except.ok.inj ho] at hx
  rw [List.mem_singleton.mp hx]
  exact ⟨order, horder⟩

lemma handsOnOrders_asked {client : ClientId} {rq : Control.Request} {write : Bool}
    {message : Option Control.Message} {nrq : Dispatcher.Request}
    (h : ControlClient.requestHandler client rq write = some (message, nrq)) : HandsOnOrders nrq := by
  have hargs := requestArgs_eq rq
  unfold ControlClient.requestHandler at h
  cases htype : rq.type with
  | unknown => simp [htype] at h
  | requestSession =>
    simp only [htype, ControlClient.doRequestSession, Option.some.injEq, Prod.mk.injEq] at h
    rw [← h.2]
    exact handsOnOrders_sendStatus rfl
  | quitCollector =>
    simp only [htype, Option.some.injEq, Prod.mk.injEq] at h
    rw [← h.2]
    exact handsOnOrders_of_none rfl
  | connectDevice | disconnectDevice | startCollecting | stopCollecting =>
    simp only [htype, Option.some.injEq, Prod.mk.injEq] at h
    rw [← h.2]
    exact handsOnOrders_of_none rfl
  | initDatabase =>
    simp only [htype, Option.some.injEq, Prod.mk.injEq, ControlClient.doInitDatabase, hargs] at h
    rw [← h.2]
    exact handsOnOrders_toDatabase (.initDatabase (some (client, rq.id)) rq.forced) (fun _ => rfl) rfl
  | getDevices =>
    simp only [htype, Option.some.injEq, Prod.mk.injEq] at h
    rw [← h.2]
    exact handsOnOrders_toDatabase (.getDevices client rq.id) (fun _ => rfl) rfl
  | getSessions =>
    simp only [htype, Option.some.injEq, Prod.mk.injEq, ControlClient.doGetSessions, hargs] at h
    rw [← h.2]
    exact handsOnOrders_toDatabase (.getSessions client rq.id rq.forced rq.payload.unpackDeviceData)
      (fun _ => rfl) rfl
  | removeSession =>
    simp only [htype, Option.some.injEq, Prod.mk.injEq, ControlClient.doRemoveSession, hargs] at h
    rw [← h.2]
    exact handsOnOrders_toDatabase (.remSession client rq.id rq.forced rq.payload.unpackSessionData)
      (fun _ => rfl) rfl
  | addDevice =>
    simp only [htype, Option.some.injEq, Prod.mk.injEq, ControlClient.doAddDevice, hargs] at h
    rw [← h.2]
    exact handsOnOrders_toDatabase (.addDevice client rq.id rq.forced rq.payload.unpackDeviceData)
      (fun _ => rfl) rfl
  | removeDevice =>
    simp only [htype, Option.some.injEq, Prod.mk.injEq, ControlClient.doRemoveDevice, hargs] at h
    rw [← h.2]
    exact handsOnOrders_toDatabase (.removeDevice client rq.id rq.forced rq.payload.unpackDeviceData)
      (fun _ => rfl) rfl

lemma dispatch_order {d d' : MonitorDevice} {e : MonitorDevice.Event} {dbrq : List IDatabase.Request}
    (h : Dispatch d e d' dbrq) (hready : ∀ rq ∈ d.queue, DeviceReady rq) :
    ∀ rq ∈ dbrq, ∃ order : Order, rq = order.request := by
  cases dispatch_database h with
  | nothing => simp
  | ended =>
    intro x hx
    exact ⟨.endSession d.sessionData.hash, List.mem_singleton.mp hx⟩
  | opened io rq rest info =>
    intro x hx
    exact ⟨.addSession d.deviceData.hash info, List.mem_singleton.mp hx⟩
  | stored io rq rest hq ha =>
    have hrq := hready rq (by rw [hq]; exact List.mem_cons_self)
    unfold DeviceReady at hrq
    rw [ha] at hrq
    obtain ⟨data, hdata⟩ := hrq
    intro x hx
    rw [List.mem_singleton.mp hx, hdata]
    exact ⟨.addData d.sessionData.hash data, rfl⟩

def loadRequest : IDatabase.Request := Order.loadDevices.request

/-- The requests that the database pushes for an order that is answered with the status. -/
def pushedFor (t : Tables) (io : DbIo) (status : Option String) : Order → List IDatabase.Request
  | .addDevice _ _ _ _ => if status = some (valFor .statusOkay) then [loadRequest] else []
  | .cleanSessions =>
    if (0, 0) ∈ io.fails then []
    else (t.sessions.filter fun row => row.endTimestamp = 0).map fun row => endSessionRequest row.hash
  | _ => []

/-- The devices that the database hands to the device manager for an order. -/
def loadedFor (t : Tables) (io : DbIo) : Order → List Control.DeviceData
  | .loadDevices => if (0, 0) ∈ io.fails then [] else t.devices.map Database.DeviceRow.toData
  | _ => []

lemma initDatabase_follows {b : Backend} {io : DbIo} {t : Tables} {rq : IDatabase.Request}
    {o : DbOutcome} (h : Database.doInitDatabase b io t rq = .ok o) :
    o.database = [] ∧ o.loaded = [] := by
  simp only [Database.doInitDatabase] at h
  split at h
  · rw [← Except.ok.inj h]
    exact ⟨rfl, rfl⟩
  · rw [← Except.ok.inj h]
    exact ⟨rfl, rfl⟩
  · rw [← Except.ok.inj h]
    exact ⟨rfl, rfl⟩
  · cases h
  · rw [← Except.ok.inj h]
    exact ⟨rfl, rfl⟩

lemma sendList_follows (t : Tables) (rq : IDatabase.Request) (client : ClientId) (io : DbIo)
    (reply : Option TkmCollector.Reply) (list : ControlList) (failure : String) :
    (Database.sendList t rq client io reply list failure).database = [] ∧
      (Database.sendList t rq client io reply list failure).loaded = [] := by
  unfold Database.sendList
  split
  · exact ⟨rfl, rfl⟩
  · exact ⟨rfl, rfl⟩

lemma added_follows (t : Tables) (rq : IDatabase.Request) (args : Args) (reason : String)
    (added : Bool) (hargs : args.lookup .status = none) :
    (if added then [loadRequest] else []) =
      if answered (Database.answer t rq ((args.emplace .reason reason).emplace .status
        (Database.statusFor added))) = some (valFor .statusOkay) then [loadRequest] else [] := by
  cases added <;> simp [Database.statusFor, hargs, valFor]

lemma addDevice_follows {b : Backend} {io : DbIo} {t : Tables} {rq : IDatabase.Request}
    {o : DbOutcome} (h : Database.doAddDevice b io t rq = .ok o) :
    o.database = (if answered o = some (valFor .statusOkay) then [loadRequest] else []) ∧
      o.loaded = [] := by
  simp only [Database.doAddDevice] at h
  split at h
  · cases h
  · cases h
  · split at h
    · rw [← Except.ok.inj h]
      simp [Database.answer, Database.quiet, answered, Database.sendStatus, valFor]
    · split at h
      · rw [← Except.ok.inj h]
        simp [Database.answer, Database.quiet, answered, Database.sendStatus, valFor]
      · rw [← Except.ok.inj h]
        exact ⟨added_follows t rq _ _ _ (by simp), rfl⟩

lemma order_follows {b : Backend} {states : String → Option Control.DeviceState} {io : DbIo}
    {t : Tables} {order : Order} {o : DbOutcome}
    (h : Database.requestHandler b states io t order.request = .ok o) :
    o.database = pushedFor t io (answered o) order ∧ o.loaded = loadedFor t io order := by
  cases order with
  | checkDatabase =>
    simp only [Database.requestHandler, Order.request, Except.ok.injEq] at h
    rw [← h]
    exact ⟨rfl, rfl⟩
  | loadDevices =>
    simp only [Database.requestHandler, Order.request, Database.doLoadDevices, run_getDevices,
      Except.ok.injEq] at h
    rw [← h]
    refine ⟨rfl, ?_⟩
    unfold loadedFor
    split <;> rfl
  | cleanSessions =>
    simp only [Database.requestHandler, Order.request, Database.doCleanSessions, run_getSessions,
      Except.ok.injEq] at h
    rw [← h]
    refine ⟨?_, rfl⟩
    unfold pushedFor
    split
    · rfl
    · simp only [Database.Reply.sessionList, List.filter_map, List.map_map]
      congr 1
  | initDatabase client forced =>
    have haction : (Order.initDatabase client forced).request.action = .initDatabase := by
      cases client <;> rfl
    unfold Database.requestHandler at h
    rw [haction] at h
    exact initDatabase_follows h
  | getDevices client id =>
    simp only [Database.requestHandler, Order.request, Database.doGetDevices, Except.ok.injEq] at h
    rw [← h]
    exact sendList_follows _ _ _ _ _ _ _
  | getSessions client id forced deviceData =>
    simp only [Database.requestHandler, Order.request, Database.doGetSessions,
      BulkData.castDeviceData, Except.ok.injEq] at h
    rw [← h]
    exact sendList_follows _ _ _ _ _ _ _
  | addDevice client id forced deviceData =>
    have hadd : Database.doAddDevice b io t (Order.addDevice client id forced deviceData).request =
        .ok o := h
    exact addDevice_follows hadd
  | removeDevice client id forced deviceData =>
    simp only [Database.requestHandler, Order.request, Database.doRemoveDevice,
      BulkData.castDeviceData] at h
    split at h
    · rw [← Except.ok.inj h]
      exact ⟨rfl, rfl⟩
    · rw [← Except.ok.inj h]
      exact ⟨rfl, rfl⟩
  | remSession client id forced sessionData =>
    simp only [Database.requestHandler, Order.request, Database.doRemSession,
      BulkData.castSessionData] at h
    split at h
    · rw [← Except.ok.inj h]
      exact ⟨rfl, rfl⟩
    · split at h
      · rw [← Except.ok.inj h]
        exact ⟨rfl, rfl⟩
      · rw [← Except.ok.inj h]
        exact ⟨rfl, rfl⟩
  | addSession deviceHash info =>
    simp only [Database.requestHandler, Order.request, addSessionRequest, Database.doAddSession,
      BulkData.castSessionInfo] at h
    split at h
    · cases h
    · cases h
    · rw [← Except.ok.inj h]
      exact ⟨rfl, rfl⟩
  | endSession hash =>
    simp only [Database.requestHandler, Order.request, endSessionRequest, Database.doEndSession] at h
    split at h
    · cases h
    · rw [← Except.ok.inj h]
      exact ⟨rfl, rfl⟩
  | addData sessionHash data =>
    simp only [Database.requestHandler, Order.request, addDataRequest, Database.doAddData,
      BulkData.castData] at h
    split at h
    · cases h
    · cases h
    · split at h
      · rw [← Except.ok.inj h]
        exact ⟨rfl, rfl⟩
      · rw [← Except.ok.inj h]
        exact ⟨rfl, rfl⟩

section Application

variable {b : Backend} {s s' : Application}

lemma ordersQueued_ask {client : ClientId} (h : Ask client s s')
    (hs : ∀ e ∈ s.dispatcher, HandsOnOrders e.request) :
    (∀ e ∈ s'.dispatcher, HandsOnOrders e.request) ∧ s'.collector = s.collector := by
  cases h with
  | unknown => exact ⟨hs, rfl⟩
  | known rq write message nrq hrq =>
    refine ⟨?_, rfl⟩
    intro e he
    obtain hold | he := List.mem_append.mp he
    · exact hs e hold
    · rw [List.mem_singleton.mp he]
      exact handsOnOrders_asked hrq

lemma asks_collector {client : ClientId} (h : Relation.ReflTransGen (Ask client) s s') :
    s'.collector = s.collector := by
  induction h with
  | refl => rfl
  | tail _ hlast ih => cases hlast <;> exact ih

lemma dispatched_action {known : String → Bool} {rq : Dispatcher.Request} {o : Dispatcher.Outcome}
    (h : Dispatcher.requestHandler known rq = .ok o) :
    ∀ x ∈ o.database, ∃ action : Collector.ClientAction, x.action = action.toAction := by
  cases requestHandler_dispatched h with
  | database action =>
    intro x hx
    rw [List.mem_singleton.mp hx]
    exact ⟨action, rfl⟩
  | _ => exact fun x hx => absurd hx List.not_mem_nil

lemma pushed_handsOnOrders {known : String → Bool} {rq : Dispatcher.Request}
    {o : Dispatcher.Outcome} (h : Dispatcher.requestHandler known rq = .ok o) :
    ∀ x ∈ o.dispatcher, HandsOnOrders x := by
  cases requestHandler_dispatched h with
  | unknown =>
    intro x hx
    rw [List.mem_singleton.mp hx]
    exact handsOnOrders_sendStatus rfl
  | quitting =>
    intro x hx
    rw [List.mem_singleton.mp hx]
    exact handsOnOrders_of_none rfl
  | _ => exact fun x hx => absurd hx List.not_mem_nil

lemma action_loadDevices {order : Order} (h : order.request.action = .loadDevices) :
    order = .loadDevices := by
  cases order with
  | loadDevices => rfl
  | initDatabase client forced => cases client <;> cases h
  | _ => cases h

lemma pushedFor_order {t : Tables} {io : DbIo} {status : Option String} {order : Order} :
    ∀ rq ∈ pushedFor t io status order, ∃ order' : Order, rq = order'.request := by
  intro rq hrq
  unfold pushedFor at hrq
  split at hrq
  · exact ⟨.loadDevices, List.mem_singleton.mp (List.mem_ite_nil_right.mp hrq).2⟩
  · obtain ⟨row, -, rfl⟩ := List.mem_map.mp (List.mem_ite_nil_left.mp hrq).2
    exact ⟨.endSession row.hash, rfl⟩
  · cases hrq

lemma waitingRequests_database {entry : DbEntry} {rest : List DbEntry} {o : DbOutcome} :
    waitingRequests (afterDatabase s entry rest o) = rest.map DbEntry.request ++ o.database := by
  simp [waitingRequests, afterDatabase, Function.comp_def]

lemma waitingRequests_head {entry : DbEntry} {rest : List DbEntry} (hq : s.collector.queue = entry :: rest) :
    waitingRequests s = entry.request :: rest.map DbEntry.request := by
  simp [waitingRequests, hq]

/-- Only the database takes requests out of its queue, and only it changes the tables. -/
lemma turn_waiting {e : Application.Event} (h : Turn b s e s') (he : ∀ io, e ≠ .database io) :
    s'.collector.tables = s.collector.tables ∧ ∀ rq ∈ waitingRequests s, rq ∈ waitingRequests s' := by
  cases h with
  | idle => exact ⟨rfl, fun rq h => h⟩
  | accept => exact ⟨rfl, fun rq h => h⟩
  | control client input last s₁ clients hasks =>
    have hcollector := asks_collector hasks
    unfold waitingRequests
    rw [show ({ s₁ with clients := clients } : Application).collector = s.collector from hcollector]
    exact ⟨rfl, fun rq h => h⟩
  | dispatcher write entry rest o hq ho =>
    refine ⟨rfl, fun rq hrq => ?_⟩
    unfold waitingRequests deliver
    rw [List.map_append]
    exact List.mem_append_left _ hrq
  | device _ hash event d o he' hget ho =>
    refine ⟨rfl, fun rq hrq => ?_⟩
    unfold waitingRequests afterDevice
    rw [List.map_append]
    exact List.mem_append_left _ hrq
  | database io => exact absurd rfl (he io)

lemma ordersQueued_turn {e : Application.Event} (h : Turn b s e s') (hs : OrdersQueued s) :
    OrdersQueued s' := by
  have hready := queuesReady_turn h hs.ready
  have hjournal : ∀ entry ∈ journal s.collector, ∃ order : Order, entry.request = order.request :=
    hs.database
  unfold journal at hjournal
  cases h with
  | idle => exact hs
  | accept => exact ⟨hready, hs.dispatcher, hs.database⟩
  | control client input last s₁ clients hasks =>
    have hread : (∀ e ∈ s₁.dispatcher, HandsOnOrders e.request) ∧ s₁.collector = s.collector := by
      clear hready
      induction hasks with
      | refl => exact ⟨hs.dispatcher, rfl⟩
      | tail _ hlast ih =>
        obtain ⟨hdispatcher, hcollector⟩ := ordersQueued_ask hlast ih.1
        exact ⟨hdispatcher, hcollector.trans ih.2⟩
    refine ⟨hready, hread.1, ?_⟩
    rw [show ({ s₁ with clients := clients } : Application).collector = s.collector from hread.2]
    exact hs.database
  | dispatcher write entry rest o hq ho =>
    have hentry := hs.dispatcher entry (by rw [hq]; exact List.mem_cons_self)
    refine ⟨hready, ?_, ?_⟩
    · intro x hx
      obtain hold | hx := List.mem_append.mp hx
      · exact hs.dispatcher x (by rw [hq]; exact List.mem_cons_of_mem entry hold)
      · obtain ⟨rq, hrq, rfl⟩ := List.mem_map.mp hx
        exact pushed_handsOnOrders ho rq hrq
    · intro x hx
      unfold journal deliver at hx
      rw [← List.append_assoc] at hx
      obtain hold | hx := List.mem_append.mp hx
      · exact hjournal x hold
      · obtain ⟨rq, hrq, rfl⟩ := List.mem_map.mp hx
        exact hentry _ o ho rq hrq
  | device _ hash event d o he hget ho =>
    refine ⟨hready, ?_, ?_⟩
    · intro x hx
      obtain hold | hx := List.mem_append.mp hx
      · exact hs.dispatcher x hold
      · obtain ⟨rq, hrq, rfl⟩ := List.mem_map.mp hx
        exact handsOnOrders_sendStatus (dispatcher_sendStatus ho rq hrq)
    · intro x hx
      unfold journal afterDevice at hx
      rw [← List.append_assoc] at hx
      obtain hold | hx := List.mem_append.mp hx
      · exact hjournal x hold
      · obtain ⟨rq, hrq, rfl⟩ := List.mem_map.mp hx
        exact dispatch_order (step_dispatch ho) (hs.ready.devices d (mem_of_getDevice hget)) rq hrq
  | database io entry rest o hq ho =>
    rw [hq] at hjournal
    obtain ⟨order, horder⟩ := hjournal entry (by simp)
    refine ⟨hready, ?_, ?_⟩
    · intro x hx
      obtain hold | hx := List.mem_append.mp hx
      · exact hs.dispatcher x hold
      · obtain ⟨rq, hrq, rfl⟩ := List.mem_map.mp hx
        exact handsOnOrders_sendStatus (database_sendStatus ho rq hrq)
    · rw [horder] at ho
      intro x hx
      unfold journal afterDatabase at hx
      obtain hhandled | hx := List.mem_append.mp hx
      · exact hjournal x (by simpa [or_assoc] using Or.inl (List.mem_append.mp hhandled))
      · obtain hrest | hx := List.mem_append.mp hx
        · exact hjournal x (by simp [hrest])
        · obtain ⟨rq, hrq, rfl⟩ := List.mem_map.mp hx
          rw [(order_follows ho).1] at hrq
          exact pushedFor_order rq hrq

end Application

lemma ordersQueued_start (tables : Tables) (erase failed : Bool) :
    OrdersQueued (Application.start tables erase failed) := by
  refine ⟨queuesReady_start tables erase failed, ?_, ?_⟩
  · intro e he
    cases failed with
    | false => cases he
    | true =>
      rw [List.mem_singleton.mp he]
      exact handsOnOrders_of_none rfl
  · have hstart : ∀ e ∈ (Collector.start tables).queue, ∃ order : Order, e.request = order.request := by
      intro e he
      simp only [Collector.start, List.mem_cons, List.not_mem_nil, or_false] at he
      obtain rfl | rfl | rfl := he
      · exact ⟨.checkDatabase, rfl⟩
      · exact ⟨.loadDevices, rfl⟩
      · exact ⟨.cleanSessions, rfl⟩
    cases erase with
    | false => exact hstart
    | true =>
      intro e he
      change e ∈ (Collector.start tables).queue ++ [eraseRequest] at he
      obtain hold | he := List.mem_append.mp he
      · exact hstart e hold
      · rw [List.mem_singleton.mp he]
        exact ⟨.initDatabase none true, rfl⟩

end TkmCollector.Proofs
