import TkmCollector.Proofs.Provenance
import TkmCollector.Proofs.ReferentialIntegrity
import TkmCollector.Proofs.SessionLives

/-!
# What has been recorded

A session that is in the tables stays there with all of its data, and data only come to it, until a
request takes it away that a client has asked for, that erases the database at start-up, or that
records a session under the same hash. Statements may fail on the way.
-/

namespace TkmCollector.Proofs

open Application Database

/-- The rows of data that are stored under an id. -/
def dataUnder (t : Tables) (id : Nat) : List DataRow := t.data.filter fun row => row.session == id

/-- The request may take away the session of the device. Only PostgreSQL deletes the sessions of a
device with it. -/
def takesAway (type : DbType) (k hash : String) (rq : IDatabase.Request) : Bool :=
  match rq.action, rq.bulkData with
  | .initDatabase, _ => forced rq
  | .addDevice, .deviceData deviceData =>
    type = .postgreSQL && forced rq && hashMatches type deviceData.hash k
  | .removeDevice, .deviceData deviceData => type = .postgreSQL && hashMatches type deviceData.hash k
  | .remSession, .sessionData sessionData => hashMatches type sessionData.hash hash
  | .addSession, .sessionInfo info => hashMatches type info.hash hash
  | _, _ => false

/-- The request may set the end of the session. -/
def setsEnd (type : DbType) (hash : String) (rq : IDatabase.Request) : Bool :=
  match rq.action with
  | .endSession => hashMatches type ((rq.args.lookup .sessionHash).getD "") hash
  | _ => false

/-- The rows that the request may store under the session. -/
def brings (type : DbType) (row : SessionRow) (rq : IDatabase.Request) : List DataRow :=
  match rq.action, rq.bulkData with
  | .addData, .data data =>
    if hashMatches type ((rq.args.lookup .sessionHash).getD "") row.hash then dataRows data row.id else []
  | _, _ => []

/-- The session, of the device with the hash `k`, is still there: it is the same but for an end that
one of the requests has set, and behind its data there are only some of those that the requests
bring. -/
structure Kept (type : DbType) (k : String) (t t' : Tables) (requests : List IDatabase.Request)
    (row row' : SessionRow) : Prop where
  mem : row' ∈ t'.sessions
  same : SameSession row row'
  device : type = .postgreSQL → ∃ device ∈ t'.devices, device.hash = k ∧ device.id = row.device
  ended : row'.endTimestamp ≠ row.endTimestamp → ∃ rq ∈ requests, setsEnd type row.hash rq = true
  data : ∃ new, dataUnder t' row.id = dataUnder t row.id ++ new ∧
    new.Sublist (requests.flatMap (brings type row))

section Sessions

variable {type : DbType} {k : String} {t t' t'' : Tables} {row row' row'' : SessionRow}
  {requests requests' : List IDatabase.Request}

lemma SameSession.trans (h : SameSession row row') (h' : SameSession row' row'') :
    SameSession row row'' := by
  unfold SameSession at h h' ⊢
  rw [← h', ← h]

lemma SameSession.hash (h : SameSession row row') : row.hash = row'.hash := by
  rw [← h]

lemma brings_same (h : SameSession row row') (rq : IDatabase.Request) :
    brings type row' rq = brings type row rq := by
  unfold brings
  rw [h.hash, h.id]

lemma Kept.trans (h : Kept type k t t' requests row row') (h' : Kept type k t' t'' requests' row' row'') :
    Kept type k t t'' (requests ++ requests') row row'' := by
  obtain ⟨new, hdata, hnew⟩ := h.data
  obtain ⟨new', hdata', hnew'⟩ := h'.data
  refine ⟨h'.mem, h.same.trans h'.same, ?_, ?_, new ++ new', ?_, ?_⟩
  · rw [h.same.device]
    exact h'.device
  · intro hend
    by_cases hfirst : row'.endTimestamp = row.endTimestamp
    · obtain ⟨rq, hrq, hsets⟩ := h'.ended (by rw [hfirst]; exact hend)
      rw [← h.same.hash] at hsets
      exact ⟨rq, List.mem_append_right _ hrq, hsets⟩
    · obtain ⟨rq, hrq, hsets⟩ := h.ended hfirst
      exact ⟨rq, List.mem_append_left _ hrq, hsets⟩
  · rw [h.same.id, hdata', ← h.same.id, hdata, List.append_assoc]
  · have hbrings : brings type row' = brings type row := funext (brings_same h.same)
    rw [hbrings] at hnew'
    rw [List.flatMap_append]
    exact hnew.append hnew'

/-- A session of the tables, and on PostgreSQL its device. -/
structure InPlace (type : DbType) (k : String) (t : Tables) (row : SessionRow) : Prop where
  mem : row ∈ t.sessions
  device : type = .postgreSQL → ∃ device ∈ t.devices, device.hash = k ∧ device.id = row.device

lemma InPlace.kept (h : InPlace type k t row) (requests : List IDatabase.Request) :
    Kept type k t t requests row row :=
  ⟨h.mem, .refl row, h.device, fun hend => absurd rfl hend, [], by simp, List.nil_sublist _⟩

lemma Kept.inPlace (h : Kept type k t t' requests row row') : InPlace type k t' row' :=
  ⟨h.mem, h.same.device ▸ h.device⟩

lemma InPlace.of_deleted (h : InPlace type k t row) (hn : Numbered type t) {gone : SessionRow → Bool}
    (hkeep : gone row = false) (requests : List IDatabase.Request) :
    Kept type k t (t.deleteSessions type gone) requests row row := by
  refine ⟨List.mem_filter.mpr ⟨h.mem, by simp [hkeep]⟩, .refl row, h.device,
    fun hend => absurd rfl hend, [], ?_, List.nil_sublist _⟩
  rw [List.append_nil]
  unfold dataUnder Tables.deleteSessions
  cases type with
  | sqlite3 => rfl
  | postgreSQL =>
    rw [List.filter_filter]
    apply List.filter_congr
    intro entry _
    by_cases hid : entry.session = row.id
    · rw [hid, not_cascaded hn h.mem hkeep, Bool.not_false, Bool.and_true]
    · have hne : (entry.session == row.id) = false := beq_false_of_ne hid
      rw [hne, Bool.false_and]

lemma InPlace.of_dropped {hash : String} (h : InPlace type k t row) (hn : Numbering type t)
    (hspared : type = .postgreSQL → hashMatches type hash k = false)
    (requests : List IDatabase.Request) : Kept type k t (dropped type hash t) requests row row := by
  cases type with
  | sqlite3 =>
    exact ⟨h.mem, .refl row, (fun htype => by cases htype), fun hend => absurd rfl hend, [],
      (List.append_nil _).symm, List.nil_sublist _⟩
  | postgreSQL =>
    obtain ⟨device, hdevice, hhash, hid⟩ := h.device rfl
    have hstay : device ∈ t.devices.filter fun row => !hashMatches .postgreSQL hash row.hash :=
      List.mem_filter.mpr ⟨hdevice, by simp [hhash, hspared rfl]⟩
    have hrest : InPlace .postgreSQL k { t with
        devices := t.devices.filter fun row => !hashMatches .postgreSQL hash row.hash } row :=
      ⟨h.mem, fun _ => ⟨device, hstay, hhash, hid⟩⟩
    let gone : SessionRow → Bool := fun s =>
      t.devices.any fun d => hashMatches .postgreSQL hash d.hash && d.id == s.device
    have hkeep : gone row = false := by
      rw [List.any_eq_false]
      intro other hother hcond
      simp only [Bool.and_eq_true, beq_iff_eq] at hcond
      -- the deleted row that the session names is the one of its device
      obtain rfl : other = device :=
        List.inj_on_of_nodup_map hn.devices hother hdevice (hcond.2.trans hid.symm)
      rw [hhash, hspared rfl] at hcond
      cases hcond.1
    have hkept := hrest.of_deleted ⟨hn.sessions.distinct, hn.sessions.bound⟩ hkeep requests
    exact ⟨hkept.mem, hkept.same, hkept.device, hkept.ended, hkept.data⟩

end Sessions

section Effects

variable {type : DbType} {k : String} {t t' : Tables} {row row' : SessionRow}
  {requests : List IDatabase.Request}

lemma Kept.added (h : Kept type k t t' requests row row') (deviceData : Control.DeviceData) :
    Kept type k t (added type deviceData t') requests row row' := by
  refine ⟨h.mem, h.same, fun htype => ?_, h.ended, h.data⟩
  obtain ⟨device, hdevice, hrest⟩ := h.device htype
  exact ⟨device, List.mem_append_left _ hdevice, hrest⟩

lemma Kept.recorded (h : Kept type k t t' requests row row') (info : Monitor.SessionInfo)
    (now owner : Nat) : Kept type k t (recorded type info now owner t') requests row row' :=
  ⟨List.mem_append_left _ h.mem, h.same, h.device, h.ended, h.data⟩

lemma kept_ended (h : InPlace type k t row) (hash : String) (now : Nat) :
    Kept type k t (ended type hash now t) [endSessionRequest hash] row
      (if hashMatches type hash row.hash then { row with endTimestamp := now } else row) := by
  refine ⟨List.mem_map_of_mem h.mem, ?_, h.device, ?_, [], (List.append_nil _).symm,
    List.nil_sublist _⟩
  · split
    · rfl
    · rfl
  · intro hend
    split at hend
    · rename_i hmatch
      exact ⟨_, List.mem_singleton_self _, hmatch⟩
    · exact absurd rfl hend

lemma kept_stored (h : InPlace type k t row) (hn : Numbered type t) {sessionHash : String}
    {data : Monitor.Data} {owner : Nat} (upTo : Nat)
    (howner : scalar type (sessionIds type sessionHash t) = some owner) :
    Kept type k t { t with data := t.data ++ (dataRows data owner).take upTo }
      [addDataRequest sessionHash (.data data)] row row := by
  refine ⟨h.mem, .refl row, h.device, fun hend => absurd rfl hend,
    ((dataRows data owner).take upTo).filter (fun entry => entry.session == row.id), ?_, ?_⟩
  · unfold dataUnder
    rw [List.filter_append]
  · obtain ⟨found, hfound, hid⟩ := List.mem_map.mp (mem_of_scalar howner)
    obtain ⟨hmem, hopen⟩ := List.mem_filter.mp hfound
    by_cases hown : owner = row.id
    · obtain rfl : found = row := List.inj_on_of_nodup_map hn.distinct hmem h.mem (hid.trans hown)
      have hmatch : hashMatches type sessionHash found.hash = true := (Bool.and_eq_true_iff.mp hopen).1
      have hbrings : brings type found (addDataRequest sessionHash (.data data)) =
          dataRows data found.id := if_pos hmatch
      rw [List.flatMap_cons, List.flatMap_nil, List.append_nil, hbrings, ← hown]
      exact List.filter_sublist.trans (List.take_sublist _ _)
    · have hnone : ((dataRows data owner).take upTo).filter (fun entry => entry.session == row.id) =
          [] := by
        rw [List.filter_eq_nil_iff]
        intro entry hentry
        rw [dataRows_session (List.mem_of_mem_take hentry)]
        simpa using hown
      rw [hnone]
      exact List.nil_sublist _

lemma not_matched_add {hash : String} {client : ClientId} {id : String} {deviceData : Control.DeviceData}
    (h : takesAway type k hash (Order.addDevice client id true deviceData).request = false) :
    type = .postgreSQL → hashMatches type deviceData.hash k = false := by
  intro htype
  have hthree : (decide (type = .postgreSQL) &&
      forced (Order.addDevice client id true deviceData).request &&
      hashMatches type deviceData.hash k) = false := h
  simpa [htype] using hthree

lemma effect_kept {io : DbIo} {order : Order} {status : Option String}
    (heffect : Effect type t io order t' status) (hn : Numbering type t) (h : InPlace type k t row)
    (hspared : takesAway type k row.hash order.request = false) :
    ∃ row', Kept type k t t' [order.request] row row' := by
  cases heffect with
  | same => exact ⟨row, h.kept _⟩
  | created client =>
    have hkept := h.kept (t := t) [(Order.initDatabase client false).request]
    exact ⟨row, hkept.mem, hkept.same, hkept.device, hkept.ended, hkept.data⟩
  | erased client =>
    have htakes : takesAway type k row.hash (Order.initDatabase client true).request = true := by
      cases client <;> rfl
    rw [htakes] at hspared
    cases hspared
  | added client id forced deviceData => exact ⟨row, (h.kept _).added deviceData⟩
  | replaced client id deviceData =>
    refine ⟨row, (h.of_dropped hn ?_ _).added deviceData⟩
    exact not_matched_add hspared
  | left client id deviceData =>
    refine ⟨row, h.of_dropped hn ?_ _⟩
    exact not_matched_add hspared
  | dropped client id forced deviceData =>
    refine ⟨row, h.of_dropped hn ?_ _⟩
    intro htype
    have hboth : (decide (type = .postgreSQL) && hashMatches type deviceData.hash k) = false := hspared
    simpa [htype] using hboth
  | removed client id forced sessionData => exact ⟨row, h.of_deleted hn.sessions hspared _⟩
  | cleared deviceHash info => exact ⟨row, h.of_deleted hn.sessions hspared _⟩
  | opened deviceHash info owner =>
    exact ⟨row, (h.of_deleted hn.sessions hspared _).recorded info io.now owner⟩
  | doubled deviceHash info owner => exact ⟨row, (h.kept _).recorded info io.now owner⟩
  | ended hash => exact ⟨_, kept_ended h hash io.now⟩
  | stored sessionHash data owner upTo howner => exact ⟨row, kept_stored h hn.sessions upTo howner⟩

end Effects

/-- The request of the database that a client's request becomes. -/
def clientRequest (client : ClientId) (rq : Control.Request) : Option IDatabase.Request :=
  (ControlClient.requestHandler client rq true).bind fun p => (databaseAction p.2.action).map fun action =>
    ⟨p.2.client, action.toAction, p.2.args, databaseBulk p.2⟩

/-- A device records a session with the request, the user has confirmed an erasure, or a client has
asked for it. -/
inductive Origin (erase : Bool) (asked : List (ClientId × Control.Request)) (rq : IDatabase.Request) :
    Prop where
  | session (h : rq.action = .addSession)
  | erasure (herase : erase = true) (h : rq = eraseRequest.request)
  | client (p : ClientId × Control.Request) (hp : p ∈ asked) (h : clientRequest p.1 p.2 = some rq)

/-- The request takes no session away. -/
def Spares (rq : IDatabase.Request) : Prop := ∀ type k hash, takesAway type k hash rq = false

/-- What is handed on to the database, and what takes sessions away there, has an origin. -/
structure Originated (erase : Bool) (s : Application) : Prop where
  dispatcher : ∀ e ∈ s.dispatcher, ∀ action ∈ databaseAction e.request.action, ∃ p ∈ s.asked,
    clientRequest p.1 p.2 =
      some ⟨e.request.client, action.toAction, e.request.args, databaseBulk e.request⟩
  database : ∀ e ∈ journal s.collector, Spares e.request ∨ Origin erase s.asked e.request

section Origins

variable {b : Backend} {erase : Bool} {s s' : Application}

lemma Origin.mono {asked asked' : List (ClientId × Control.Request)} {rq : IDatabase.Request}
    (h : Origin erase asked rq) (hsub : asked ⊆ asked') : Origin erase asked' rq := by
  cases h with
  | session h => exact .session h
  | erasure herase h => exact .erasure herase h
  | client p hp h => exact .client p (hsub hp) h

lemma clientRequest_asked {client : ClientId} {rq : Control.Request} {write : Bool}
    {message : Option Control.Message} {nrq : Dispatcher.Request}
    (h : ControlClient.requestHandler client rq write = some (message, nrq)) :
    ∀ action ∈ databaseAction nrq.action, clientRequest client rq =
      some ⟨nrq.client, action.toAction, nrq.args, databaseBulk nrq⟩ := by
  intro action haction
  unfold clientRequest
  unfold ControlClient.requestHandler at h ⊢
  cases htype : rq.type with
  | unknown => simp [htype] at h
  | requestSession =>
    simp only [htype, ControlClient.doRequestSession, Option.some.injEq, Prod.mk.injEq] at h
    rw [← h.2] at haction
    cases haction
  | _ =>
    simp only [htype, Option.some.injEq, Prod.mk.injEq] at h
    obtain ⟨-, rfl⟩ := h
    rw [Option.bind_some, haction]
    rfl

lemma originated_ask {client : ClientId} (h : Ask client s s') (hs : Originated erase s) :
    Originated erase s' := by
  cases h with
  | unknown rq =>
    have hsub : s.asked ⊆ s.asked ++ [(client, rq)] := List.subset_append_left _ _
    refine ⟨fun e he action haction => ?_, fun e he => ?_⟩
    · obtain ⟨p, hp, hrq⟩ := hs.dispatcher e he action haction
      exact ⟨p, hsub hp, hrq⟩
    · exact (hs.database e he).imp_right fun horigin => horigin.mono hsub
  | known rq write message nrq hrq =>
    have hsub : s.asked ⊆ s.asked ++ [(client, rq)] := List.subset_append_left _ _
    refine ⟨fun e he action haction => ?_, fun e he => ?_⟩
    · obtain hold | hnew := List.mem_append.mp he
      · obtain ⟨p, hp, hrq⟩ := hs.dispatcher e hold action haction
        exact ⟨p, hsub hp, hrq⟩
      · rw [List.mem_singleton.mp hnew] at haction ⊢
        exact ⟨(client, rq), List.mem_append_right _ (List.mem_singleton_self _),
          clientRequest_asked hrq action haction⟩
    · exact (hs.database e he).imp_right fun horigin => horigin.mono hsub

lemma Originated.next (hs : Originated erase s) (hasked : s'.asked = s.asked)
    (hdispatcher : ∀ e ∈ s'.dispatcher, e ∈ s.dispatcher ∨ databaseAction e.request.action = none)
    (hdatabase : ∀ e ∈ journal s'.collector,
      e ∈ journal s.collector ∨ Spares e.request ∨ Origin erase s.asked e.request) :
    Originated erase s' := by
  constructor
  · intro e he action haction
    rw [hasked]
    obtain hold | hnone := hdispatcher e he
    · exact hs.dispatcher e hold action haction
    · rw [hnone] at haction
      cases haction
  · intro e he
    rw [hasked]
    obtain hold | hnew := hdatabase e he
    · exact hs.database e hold
    · exact hnew

lemma not_handed_of_sendStatus {rqs : List Dispatcher.Request} {served : Option Nat}
    (h : ∀ rq ∈ rqs, rq.action = .sendStatus) :
    ∀ e ∈ rqs.map (fun rq => (⟨rq, served⟩ : DispatcherEntry)), databaseAction e.request.action = none := by
  intro e he
  obtain ⟨rq, hrq, rfl⟩ := List.mem_map.mp he
  rw [h rq hrq]
  rfl

lemma originated_deliver {write : Bool} {entry : DispatcherEntry} {rest : List DispatcherEntry}
    {o : Dispatcher.Outcome} (hq : s.dispatcher = entry :: rest)
    (ho : Dispatcher.requestHandler s.known entry.request = .ok o) (hs : Originated erase s) :
    Originated erase (deliver { s with dispatcher := rest } o write entry.served) := by
  have hhead := hs.dispatcher entry (by rw [hq]; exact List.mem_cons_self)
  have hpushed : (∀ rq ∈ o.dispatcher, databaseAction rq.action = none) ∧
      ∀ rq ∈ o.database, Origin erase s.asked rq := by
    cases requestHandler_dispatched ho with
    | database action haction =>
      obtain ⟨p, hp, hrq⟩ := hhead action haction
      refine ⟨by simp [Dispatcher.toDatabase], fun rq hmem => ?_⟩
      rw [List.mem_singleton.mp hmem]
      exact .client p hp hrq
    | quitting => exact ⟨by simp [Dispatcher.doQuitCollector, databaseAction],
        fun rq hrq => absurd hrq List.not_mem_nil⟩
    | _ => exact ⟨by simp [noSuchDevice, databaseAction], fun rq hrq => absurd hrq List.not_mem_nil⟩
  apply Originated.next hs
  · rfl
  · intro e he
    obtain hold | hnew := List.mem_append.mp he
    · exact .inl (by rw [hq]; exact List.mem_cons_of_mem entry hold)
    · obtain ⟨rq, hrq, rfl⟩ := List.mem_map.mp hnew
      exact .inr (hpushed.1 rq hrq)
  · intro e he
    unfold journal deliver at he
    rw [← List.append_assoc] at he
    obtain hold | hnew := List.mem_append.mp he
    · exact .inl hold
    · obtain ⟨rq, hrq, rfl⟩ := List.mem_map.mp hnew
      exact .inr (.inr (hpushed.2 rq hrq))

/-- Of what a device asks the database for, only a session to be recorded takes another one away. -/
lemma spares_or_session {d d' : MonitorDevice} {e : MonitorDevice.Event}
    {requests : List IDatabase.Request} (h : Dispatch d e d' requests) :
    ∀ rq ∈ requests, Spares rq ∨ rq.action = .addSession := by
  intro rq hrq
  cases dispatch_database h with
  | nothing => cases hrq
  | ended | stored =>
    rw [List.mem_singleton.mp hrq]
    exact .inl fun _ _ _ => rfl
  | opened =>
    rw [List.mem_singleton.mp hrq]
    exact .inr rfl

lemma originated_device {hash : String} {event : MonitorDevice.Event} {d : MonitorDevice} {o : Outcome}
    (ho : d.step event = .ok o) (hs : Originated erase s) : Originated erase (afterDevice s hash o) := by
  apply Originated.next hs
  · rfl
  · intro e he
    exact (List.mem_append.mp he).imp_right (not_handed_of_sendStatus (dispatcher_sendStatus ho) e)
  · intro e he
    unfold journal afterDevice at he
    rw [← List.append_assoc] at he
    obtain hold | hnew := List.mem_append.mp he
    · exact .inl hold
    · obtain ⟨rq, hrq, rfl⟩ := List.mem_map.mp hnew
      exact .inr ((spares_or_session (step_dispatch ho) rq hrq).imp_right .session)

lemma originated_database {io : DbIo} {entry : DbEntry} {rest : List DbEntry} {o : DbOutcome}
    (hq : s.collector.queue = entry :: rest)
    (ho : requestHandler b s.collector.deviceState io s.collector.tables entry.request = .ok o)
    (horders : OrdersQueued s) (hs : Originated erase s) :
    Originated erase (afterDatabase s entry rest o) := by
  obtain ⟨order, horder⟩ := horders.database entry (by simp [journal, hq])
  have hpushed : ∀ rq ∈ o.database, Spares rq := by
    intro rq hrq
    rw [horder] at ho
    rw [(order_follows ho).1] at hrq
    unfold pushedFor at hrq
    split at hrq
    · rw [List.mem_singleton.mp (List.mem_ite_nil_right.mp hrq).2]
      exact fun _ _ _ => rfl
    · obtain ⟨row, -, rfl⟩ := List.mem_map.mp (List.mem_ite_nil_left.mp hrq).2
      exact fun _ _ _ => rfl
    · cases hrq
  apply Originated.next hs
  · rfl
  · intro e he
    exact (List.mem_append.mp he).imp_right (not_handed_of_sendStatus (database_sendStatus ho) e)
  · intro e he
    unfold journal afterDatabase at he
    rw [← List.append_assoc] at he
    obtain hold | hnew := List.mem_append.mp he
    · left
      unfold journal
      rw [hq, List.append_cons]
      exact hold
    · obtain ⟨rq, hrq, rfl⟩ := List.mem_map.mp hnew
      exact .inr (.inl (hpushed rq hrq))

lemma originated_turn {e : Application.Event} (h : Turn b s e s') (horders : OrdersQueued s)
    (hs : Originated erase s) : Originated erase s' := by
  cases h with
  | idle => exact hs
  | accept => exact ⟨hs.dispatcher, hs.database⟩
  | control client input last s₁ clients hasks =>
    have hread : Originated erase s₁ := by
      clear horders
      induction hasks with
      | refl => exact hs
      | tail _ hlast ih => exact originated_ask hlast ih
    exact ⟨hread.dispatcher, hread.database⟩
  | dispatcher write entry rest o hq ho => exact originated_deliver hq ho hs
  | device _ hash event d o he hget ho => exact originated_device ho hs
  | database io entry rest o hq ho => exact originated_database hq ho horders hs

lemma originated_start (tables : Tables) (erase failed : Bool) :
    Originated erase (Application.start tables erase failed) := by
  constructor
  · intro e he action haction
    cases failed with
    | false => cases he
    | true =>
      rw [List.mem_singleton.mp he] at haction
      cases haction
  · have hstart : ∀ e ∈ (Collector.start tables).queue, Spares e.request := by
      intro e he
      simp only [Collector.start, List.mem_cons, List.not_mem_nil, or_false] at he
      obtain rfl | rfl | rfl := he
      · exact fun _ _ _ => rfl
      · exact fun _ _ _ => rfl
      · exact fun _ _ _ => rfl
    intro e he
    cases erase with
    | false => exact .inl (hstart e he)
    | true =>
      change e ∈ (Collector.start tables).queue ++ [eraseRequest] at he
      obtain hold | hnew := List.mem_append.mp he
      · exact .inl (hstart e hold)
      · rw [List.mem_singleton.mp hnew]
        exact .inr (.erasure rfl rfl)

end Origins

/-- The requests take a session away or keep it. -/
def TakesOrKeeps (type : DbType) (t t' : Tables) (requests : List IDatabase.Request) : Prop :=
  Numbering type t → Numbering type t' ∧ ∀ k row, InPlace type k t row →
    (∃ rq ∈ requests, takesAway type k row.hash rq = true) ∨
      ∃ row', Kept type k t t' requests row row'

lemma cumulative_takesOrKeeps (type : DbType) : Cumulative type (TakesOrKeeps type) where
  refl t hn := ⟨hn, fun _ row h => .inr ⟨row, h.kept []⟩⟩
  trans := by
    intro t t' t'' requests requests' h h' hn
    obtain ⟨hn', hkept⟩ := h hn
    obtain ⟨hn'', hkept'⟩ := h' hn'
    refine ⟨hn'', fun k row hrow => ?_⟩
    obtain ⟨rq, hrq, htakes⟩ | ⟨row', hrow'⟩ := hkept k row hrow
    · exact .inl ⟨rq, List.mem_append_left _ hrq, htakes⟩
    · obtain ⟨rq, hrq, htakes⟩ | ⟨row'', hrow''⟩ := hkept' k row' hrow'.inPlace
      · rw [← hrow'.same.hash] at htakes
        exact .inl ⟨rq, List.mem_append_right _ hrq, htakes⟩
      · exact .inr ⟨row'', hrow'.trans hrow''⟩
  effect := by
    intro t t' io order status heffect hn
    refine ⟨effect_numbering heffect hn, fun k row hrow => ?_⟩
    cases htakes : takesAway type k row.hash order.request with
    | false => exact .inr (effect_kept heffect hn hrow htakes)
    | true => exact .inl ⟨order.request, List.mem_singleton_self _, htakes⟩

/-- From one state of a run to a later one, whatever statements fail: a session of a device is kept
with its data, and only gains what the requests handled in between bring, or one of them takes it
away. That one comes from a client, from a confirmed erasure, or from a device that records a session
which the hash picks. -/
theorem recordings_kept (b : Backend) (tables : Tables) (erase failed : Bool)
    (before after : List Application.Event) (s s' : Application) (hn : Numbering b.type tables)
    (hbefore : Machine.run (Application.step b) (Application.start tables erase failed) before = .ok s)
    (hafter : Machine.run (Application.step b) s after = .ok s')
    (hplain : Machine.Guarded (Application.step b) PlainHead (Application.start tables erase failed)
      (before ++ after)) :
    ∃ entries, s'.collector.handled = s.collector.handled ++ entries ∧
      ∀ device ∈ s.collector.tables.devices, ∀ row ∈ s.collector.tables.sessions,
        row.device = device.id →
          (∃ e ∈ entries, takesAway b.type device.hash row.hash e.request = true ∧
            Origin erase s'.asked e.request) ∨
          ∃ row', Kept b.type device.hash s.collector.tables s'.collector.tables
            (entries.map DbEntry.request) row row' := by
  obtain ⟨hplain₀, hplain⟩ := (Machine.guarded_append hbefore).mp hplain
  have horiginated : Machine.Preserves (Application.step b) (fun _ _ => True)
      fun s => OrdersQueued s ∧ Originated erase s := by
    intro s e s' ⟨horders, hs⟩ _ hstep
    have hturn := step_turn hstep
    exact ⟨ordersQueued_turn hturn horders, originated_turn hturn horders hs⟩
  obtain ⟨horders, hs⟩ := Machine.invariant_run horiginated
    ⟨ordersQueued_start tables erase failed, originated_start tables erase failed⟩
    (Machine.guarded_true _ _) hbefore
  have hs' := (Machine.invariant_run horiginated ⟨horders, hs⟩ (Machine.guarded_true _ _) hafter).2
  -- the ids are still apart where the second part of the run begins
  have htables : (Application.start tables erase failed).collector.tables = tables := by
    cases erase <;> rfl
  obtain ⟨entries₀, -, hrecorded₀⟩ := ((cumulative_takesOrKeeps b.type).run
    (ordersQueued_start tables erase failed) hbefore hplain₀).log
  have hnumbering := (hrecorded₀ (by rw [htables]; exact hn)).1
  obtain ⟨entries, hlog, hrecorded⟩ := ((cumulative_takesOrKeeps b.type).run horders hafter hplain).log
  refine ⟨entries, hlog, fun device hdevice row hrow hid => ?_⟩
  have hplace : InPlace b.type device.hash s.collector.tables row :=
    ⟨hrow, fun _ => ⟨device, hdevice, rfl, hid.symm⟩⟩
  obtain ⟨rq, hrq, htakes⟩ | hkept := (hrecorded hnumbering).2 device.hash row hplace
  · obtain ⟨e, he, rfl⟩ := List.mem_map.mp hrq
    have hjournal : e ∈ journal s'.collector := by
      unfold journal
      rw [hlog]
      exact List.mem_append_left _ (List.mem_append_right _ he)
    obtain hspares | horigin := hs'.database e hjournal
    · rw [hspares] at htakes
      cases htakes
    · exact .inl ⟨e, he, htakes, horigin⟩
  · exact .inr hkept

/-- The session of the device with a row of data, as an earlier run has left it. -/
def tablesRecorded : Tables :=
  { tablesWith ["d"] with
    sessions := [⟨1, "", "s", 1, 1, 0, 1⟩]
    data := [⟨"tkmProcEvent", [], [], 1⟩]
    sessionSeq := 1 }

/-- On SQLite the session of a removed device is kept. The start has ended it. -/
theorem recordings_kept_removed :
    let before : List Application.Event := [.accept, asks 0 (requestFor "1" .removeDevice "d")]
    let after : List Application.Event := [dispatched, served, served, served, served, served]
    let start := Application.start tablesRecorded false false
    ∃ s s', Machine.run (Application.step (plainBackend .sqlite3)) start before = .ok s ∧
      Machine.run (Application.step (plainBackend .sqlite3)) s after = .ok s' ∧
      (s'.collector.tables.devices = [] ∧
        s'.collector.tables.sessions.map SessionRow.endTimestamp = [1] ∧
        s'.collector.tables.data = s.collector.tables.data) ∧
      ∃ entries, s'.collector.handled = s.collector.handled ++ entries ∧
        ∀ device ∈ s.collector.tables.devices, ∀ row ∈ s.collector.tables.sessions,
          row.device = device.id →
            (∃ e ∈ entries, takesAway .sqlite3 device.hash row.hash e.request = true ∧
              Origin false s'.asked e.request) ∨
            ∃ row', Kept .sqlite3 device.hash s.collector.tables s'.collector.tables
              (entries.map DbEntry.request) row row' := by
  intro before after start
  refine ⟨_, _, rfl, rfl, by decide, ?_⟩
  refine recordings_kept (plainBackend .sqlite3) tablesRecorded false false before after _ _ ?_ rfl rfl ?_
  · decide
  · decide

end TkmCollector.Proofs
