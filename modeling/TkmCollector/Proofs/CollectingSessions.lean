import TkmCollector.Proofs.EndTimes
import TkmCollector.Proofs.OneAnswer
import TkmCollector.Proofs.SessionLives

/-!
# Sessions of collecting devices

A device collects on its own account: its state machine does not ask the database whether the
session that it opened is still there. The session is, as long as the device starts the stream of
a session that lives and nobody else disturbs the session while the device collects.
-/

namespace TkmCollector.Proofs

open Application

/-- The sessions with the hash of the device are one row, which has not ended and is that of the
device, and the next data will be stored under it. -/
def Recorded (type : DbType) (t : Tables) (d : MonitorDevice) : Prop :=
  match t.sessions.filter fun row => row.hash = d.sessionData.hash with
  | [row] => row.endTimestamp = 0 ∧
      (∃ device ∈ t.devices, device.hash = d.deviceData.hash ∧ device.id = row.device) ∧
      scalar type (sessionIds type d.sessionData.hash t) = some row.id
  | _ => False

instance (type : DbType) (t : Tables) (d : MonitorDevice) : Decidable (Recorded type t d) := by
  unfold Recorded
  split <;> infer_instance

/-- The request that the dispatcher hands to the database, when it can change a row. -/
def passedOn (rq : Dispatcher.Request) : Option IDatabase.Request :=
  match rq.action with
  | .initDatabase => some ⟨rq.client, .initDatabase, rq.args, .int 0⟩
  | .addDevice => some ⟨rq.client, .addDevice, rq.args, rq.bulkData⟩
  | .removeDevice => some ⟨rq.client, .removeDevice, rq.args, rq.bulkData⟩
  | .removeSession => some ⟨rq.client, .remSession, rq.args, rq.bulkData⟩
  | _ => none

/-- What a device asks of the database about sessions. -/
def sessionRequests (d : MonitorDevice) (e : MonitorDevice.Event) : List IDatabase.Request :=
  (if EndsSession d e ∧ d.sessionData.hash ≠ "" then [endSessionRequest d.sessionData.hash] else []) ++
    ((setsSession d e).map (addSessionRequest d.deviceData.hash)).toList

/-- The requests that a step queues for the database and that can change a session or a device. -/
def queuedNext (s : Application) : Process.Event → List IDatabase.Request
  | .restart _ _ => []
  | .app (.dispatcher _) => s.dispatcher.head?.toList.filterMap fun entry => passedOn entry.request
  | .app (.database _) =>
    match s.collector.queue with
    | [] => []
    | entry :: _ =>
      if entry.request.action = .cleanSessions then
        (s.collector.tables.sessions.filter fun row => row.endTimestamp = 0).map
          fun row => endSessionRequest row.hash
      else []
  | .app e =>
    match deviceEvent e with
    | none => []
    | some (hash, event) =>
      match s.collector.devices.getDevice hash with
      | none => []
      | some d => sessionRequests d event

/-- The device that a step dispatches. -/
def dispatchedHash : Process.Event → Option String
  | .restart _ _ => none
  | .app e => (deviceEvent e).map Prod.fst

/-- All requests to the database, in the order in which they were queued. -/
def requestsQueued (s : Application) : List IDatabase.Request := (journal s.collector).map DbEntry.request

/-- Nobody but the device itself disturbs the session of a device that collects. -/
def SparesCollecting (type : DbType) (s : Application) (e : Process.Event) : Prop :=
  ∀ rq ∈ queuedNext s e, ∀ d ∈ s.collector.devices, d.state = .collecting →
    dispatchedHash e ≠ some d.deviceData.hash →
      disturbs type d.deviceData.hash d.sessionData.hash rq = false

/-- A device only starts a stream when its session lives. -/
def StartsLive (type : DbType) (s : Application) : Process.Event → Prop
  | .app (.queue hash _) => ∀ d ∈ s.collector.devices.getDevice hash,
      (∃ rq ∈ d.queue.head?, rq.action = .startStream) →
        liveFor type d.deviceData.hash d.sessionData.hash (requestsQueued s) = true
  | _ => True

/-- No statement fails, the strings stay inside of their literals, and a session is recorded for
a device that is in the table. -/
def ServesWell (type : DbType) (s : Application) : Process.Event → Prop
  | .app (.database io) => io.fails = [] ∧ ∀ entry ∈ s.collector.queue.head?,
      (∀ v ∈ requestStrings entry.request, Plain v) ∧
        FindsDevice type s.collector.tables entry.request
  | _ => True

def CollectGuard (type : DbType) (s : Application) (e : Process.Event) : Prop :=
  SparesCollecting type s e ∧ StartsLive type s e ∧ ServesWell type s e

instance (type : DbType) (s : Application) (e : Process.Event) : Decidable (SparesCollecting type s e) :=
  inferInstanceAs (Decidable (∀ rq ∈ queuedNext s e, ∀ d ∈ s.collector.devices, _ → _ → _))

instance (type : DbType) (s : Application) : (e : Process.Event) → Decidable (StartsLive type s e)
  | .app (.queue hash _) => inferInstanceAs (Decidable (∀ d ∈ s.collector.devices.getDevice hash,
      (∃ rq ∈ d.queue.head?, rq.action = .startStream) → _))
  | .restart _ _ | .app .accept | .app (.control _ _ _) | .app (.dispatcher _)
  | .app (.connection _ _ _ _) | .app (.finalize _) | .app (.timer _ _) | .app (.database _) =>
    isTrue trivial

instance (type : DbType) (s : Application) : (e : Process.Event) → Decidable (ServesWell type s e)
  | .app (.database io) => inferInstanceAs (Decidable (io.fails = [] ∧ ∀ entry ∈ s.collector.queue.head?,
      (∀ v ∈ requestStrings entry.request, Plain v) ∧
        FindsDevice type s.collector.tables entry.request))
  | .restart _ _ | .app .accept | .app (.control _ _ _) | .app (.dispatcher _)
  | .app (.connection _ _ _ _) | .app (.finalize _) | .app (.queue _ _) | .app (.timer _ _) => isTrue trivial

instance (type : DbType) (s : Application) (e : Process.Event) : Decidable (CollectGuard type s e) :=
  inferInstanceAs (Decidable (_ ∧ _ ∧ _))

/-- What holds in every state: the sessions that were queued to live are in the tables once they
are handled, and a device that collects has one of them. -/
structure Collecting (type : DbType) (s : Application) : Prop where
  orders : OrdersQueued s
  numbering : Numbering type s.collector.tables
  held : LivesHeld type s.collector.tables (s.collector.handled.map DbEntry.request)
  live : ∀ d ∈ s.collector.devices, d.state = .collecting →
    liveFor type d.deviceData.hash d.sessionData.hash (requestsQueued s) = true

/-- The request changes no session and no device. -/
def Quiet (rq : IDatabase.Request) : Prop := ∀ type k hash, disturbs type k hash rq = false

lemma dispatch_requests {d d' : MonitorDevice} {e : MonitorDevice.Event} {dbrq : List IDatabase.Request}
    (h : Dispatch d e d' dbrq) : ∀ rq ∈ dbrq, rq ∈ sessionRequests d e ∨ Quiet rq := by
  cases dispatch_database h with
  | nothing => simp
  | ended e hends hne =>
    intro rq hrq
    left
    unfold sessionRequests
    rw [if_pos ⟨hends, hne⟩]
    exact List.mem_append_left _ hrq
  | opened io rq rest info hq ha hb =>
    intro x hx
    have hsets : setsSession d (.queue io) = some info := by
      simp [setsSession, hq, waitingItem, ha, hb]
    left
    unfold sessionRequests
    rw [hsets]
    exact List.mem_append_right _ hx
  | stored =>
    intro x hx
    rw [List.mem_singleton.mp hx]
    exact .inr fun _ _ _ => rfl

lemma dispatch_collecting {d d' : MonitorDevice} {e : MonitorDevice.Event}
    {dbrq : List IDatabase.Request} (h : Dispatch d e d' dbrq) (hstate : d'.state = .collecting) :
    d'.sessionData = d.sessionData ∧ (∀ rq ∈ dbrq, Quiet rq) ∧
      (d.state = .collecting ∨ ∃ io, e = .queue io ∧ ∃ rq ∈ d.queue.head?, rq.action = .startStream) := by
  have hnone : ∀ rq ∈ ([] : List IDatabase.Request), Quiet rq := by simp
  cases h with
  | idle | control | dropped | connected | requested => exact ⟨rfl, hnone, .inl hstate⟩
  | read clock input last d₁ keep hc hr hacc =>
    obtain ⟨added, streams, rfl, -⟩ := accepts_eq hacc
    cases keep
    · exact ⟨rfl, hnone, .inl hstate⟩
    · exact ⟨rfl, hnone, .inl hstate⟩
  | finalize =>
    rw [finalize_fst] at hstate
    cases hstate
  | connectFailed =>
    rw [connectFailed_fst] at hstate
    cases hstate
  | descriptorSent | sessionSet => cases hstate
  | disconnecting =>
    rw [remConnectionSource_eq] at hstate ⊢
    exact ⟨rfl, hnone, .inl hstate⟩
  | streamStarted io rq rest hq ha => exact ⟨rfl, hnone, .inr ⟨io, rfl, rq, by simp [hq], ha⟩⟩
  | streamStopped =>
    rw [stopUpdateLanes_eq] at hstate
    cases hstate
  | dataProcessed io rq rest hq ha =>
    refine ⟨rfl, ?_, .inl hstate⟩
    intro x hx
    rw [List.mem_singleton.mp hx]
    exact fun _ _ _ => rfl

lemma dispatched_queued {known : String → Bool} {rq : Dispatcher.Request} {o : Dispatcher.Outcome}
    (h : Dispatcher.requestHandler known rq = .ok o) :
    ∀ x ∈ o.database, passedOn rq = some x ∨ Quiet x := by
  cases requestHandler_dispatched h with
  | database action hdatabase =>
    intro x hx
    rw [List.mem_singleton.mp hx]
    unfold passedOn databaseBulk
    cases ha : rq.action with
    | initDatabase | addDevice | removeDevice | removeSession =>
      rw [ha] at hdatabase
      rw [← Option.some.inj hdatabase]
      exact .inl rfl
    | getDevices | getSessions =>
      rw [ha] at hdatabase
      rw [← Option.some.inj hdatabase]
      exact .inr fun _ _ _ => rfl
    | _ =>
      rw [ha] at hdatabase
      cases hdatabase
  | _ => exact fun x hx => absurd hx List.not_mem_nil

lemma pushedFor_queued {t : Tables} {io : DbIo} {status : Option String} {order : Order}
    {rq : IDatabase.Request} (h : rq ∈ pushedFor t io status order) :
    order = .cleanSessions ∧ rq ∈ ((t.sessions.filter fun row => row.endTimestamp = 0).map
      fun row => endSessionRequest row.hash) ∨ Quiet rq := by
  cases order with
  | cleanSessions => exact .inl ⟨rfl, (List.mem_ite_nil_left.mp h).2⟩
  | addDevice client id forced deviceData =>
    obtain ⟨-, hload⟩ := List.mem_ite_nil_right.mp h
    rw [List.mem_singleton.mp hload]
    exact .inr fun _ _ _ => rfl
  | _ => cases h

section Steps

variable {b : Backend} {s s' : Application}

/-- A step that handles nothing keeps the books of the sessions, when the devices that collect
after it have sessions that live and what it queues spares them. -/
lemma collecting_queued (hs : Collecting b.type s) (horders : OrdersQueued s')
    (htables : s'.collector.tables = s.collector.tables)
    (hhandled : s'.collector.handled = s.collector.handled) (new : List IDatabase.Request)
    (hqueued : requestsQueued s' = requestsQueued s ++ new)
    (hlive : ∀ d ∈ s'.collector.devices, d.state = .collecting →
      liveFor b.type d.deviceData.hash d.sessionData.hash (requestsQueued s) = true ∧
        ∀ rq ∈ new, disturbs b.type d.deviceData.hash d.sessionData.hash rq = false) :
    Collecting b.type s' := by
  refine ⟨horders, htables ▸ hs.numbering, ?_, ?_⟩
  · rw [htables, hhandled]
    exact hs.held
  · intro d hd hstate
    obtain ⟨hold, hnew⟩ := hlive d hd hstate
    rw [hqueued]
    exact liveFor_append hold hnew

lemma queuedNext_device {e : Application.Event} {hash : String} {event : MonitorDevice.Event}
    {d : MonitorDevice} (he : deviceEvent e = some (hash, event))
    (hget : s.collector.devices.getDevice hash = some d) :
    queuedNext s (.app e) = sessionRequests d event := by
  cases e <;> simp_all [queuedNext, deviceEvent]

lemma collecting_turn {e : Application.Event} (h : Turn b s e s') (hs : Collecting b.type s)
    (hg : CollectGuard b.type s (.app e)) : Collecting b.type s' := by
  have horders := ordersQueued_turn h hs.orders
  obtain ⟨hspares, hstarts, hserves⟩ := hg
  -- a step that queues nothing and leaves the devices alone
  have hsame : s'.collector = s.collector → Collecting b.type s' := by
    intro hcollector
    apply collecting_queued hs horders (by rw [hcollector]) (by rw [hcollector]) []
    · simp [requestsQueued, hcollector]
    · intro d hd hstate
      rw [hcollector] at hd
      exact ⟨hs.live d hd hstate, by simp⟩
  cases h with
  | idle => exact hs
  | accept => exact hsame rfl
  | control client input last s₁ clients hasks =>
    have hcollector := asks_collector hasks
    exact hsame hcollector
  | dispatcher write entry rest o hq ho =>
    apply collecting_queued hs horders rfl rfl o.database
    · simp [requestsQueued, journal, deliver, Function.comp_def]
    · intro d hd hstate
      have hold : ∃ d₀ ∈ s.collector.devices, d₀.deviceData = d.deviceData ∧
          d₀.sessionData = d.sessionData ∧ d₀.state = .collecting := by
        obtain hold | ⟨d₀, hd₀, hash, rq, -, rfl⟩ := mem_deliver hd
        · exact ⟨d, hold, rfl, rfl, hstate⟩
        · exact ⟨d₀, hd₀, rfl, rfl, hstate⟩
      obtain ⟨d₀, hd₀, hdata, hsession, hstate₀⟩ := hold
      rw [← hdata, ← hsession]
      refine ⟨hs.live d₀ hd₀ hstate₀, ?_⟩
      intro x hx
      obtain hpassed | hquiet := dispatched_queued ho x hx
      · have hnext : x ∈ queuedNext s (.app (.dispatcher write)) := by
          simp [queuedNext, hq, hpassed]
        exact hspares x hnext d₀ hd₀ hstate₀ (by simp [dispatchedHash, deviceEvent])
      · exact hquiet _ _ _
  | device _ hash event d o he hget ho =>
    have hdispatch := step_dispatch ho
    apply collecting_queued hs horders rfl rfl o.database
    · simp [requestsQueued, journal, afterDevice, Function.comp_def]
    · intro x hx hstate
      obtain ⟨d₀, hd₀, rfl⟩ := List.mem_map.mp hx
      by_cases hhash : d₀.deviceData.hash = hash
      · rw [if_pos hhash] at hstate ⊢
        obtain ⟨hsession, hquiet, hbefore⟩ := dispatch_collecting hdispatch hstate
        rw [dispatch_hash hdispatch, hsession]
        refine ⟨?_, fun rq hrq => hquiet rq hrq _ _ _⟩
        obtain hold | ⟨io, rfl, hstart⟩ := hbefore
        · exact hs.live d (mem_of_getDevice hget) hold
        · have hevent : e = .queue hash io := by cases e <;> simp_all [deviceEvent]
          rw [hevent] at hstarts
          exact hstarts d hget hstart
      · rw [if_neg hhash] at hstate ⊢
        refine ⟨hs.live d₀ hd₀ hstate, ?_⟩
        intro rq hrq
        obtain hlisted | hquiet := dispatch_requests hdispatch rq hrq
        · have hnext : rq ∈ queuedNext s (.app e) := by
            rw [queuedNext_device he hget]
            exact hlisted
          exact hspares rq hnext d₀ hd₀ hstate (by simpa [dispatchedHash, he] using Ne.symm hhash)
        · exact hquiet _ _ _
  | database io entry rest o hq ho =>
    obtain ⟨order, horder⟩ := hs.orders.database entry (by simp [journal, hq])
    obtain ⟨hio, hhead⟩ := hserves
    obtain ⟨hplain, hfinds⟩ := hhead entry (by rw [hq]; rfl)
    rw [horder] at ho hplain hfinds
    rw [requestStrings_request] at hplain
    have heffect := requestHandler_effect (runsPlain_of_plain hplain) ho
    refine ⟨horders, effect_numbering heffect hs.numbering, ?_, ?_⟩
    · have hhandled : (afterDatabase s entry rest o).collector.handled.map DbEntry.request =
          s.collector.handled.map DbEntry.request ++ [order.request] := by
        simp [afterDatabase, horder]
      rw [hhandled]
      exact livesHeld_handled ho hio hplain hfinds hs.numbering hs.held
    · intro d hd hstate
      have hold : d ∈ s.collector.devices := by
        obtain hold | ⟨row, -, rfl⟩ := mem_load hd
        · exact hold
        · cases hstate
      have hqueued : requestsQueued (afterDatabase s entry rest o) = requestsQueued s ++ o.database := by
        simp [requestsQueued, journal, afterDatabase, hq, Function.comp_def]
      rw [hqueued]
      apply liveFor_append (hs.live d hold hstate)
      intro rq hrq
      rw [(order_follows ho).1] at hrq
      obtain ⟨rfl, hpush⟩ | hquiet := pushedFor_queued hrq
      · have hnext : rq ∈ queuedNext s (.app (.database io)) := by
          have hclean : Order.cleanSessions.request.action = .cleanSessions := rfl
          unfold queuedNext
          rw [hq]
          dsimp only
          rw [horder, if_pos hclean]
          exact hpush
        exact hspares rq hnext d hold hstate (by simp [dispatchedHash, deviceEvent])
      · exact hquiet _ _ _

lemma collecting_start {type : DbType} {tables : Tables} (h : Numbering type tables)
    (erase failed : Bool) : Collecting type (Application.start tables erase failed) := by
  have hdevices : (Application.start tables erase failed).collector.devices = [] := by
    cases erase <;> rfl
  have htables : (Application.start tables erase failed).collector.tables = tables := by
    cases erase <;> rfl
  have hhandled : (Application.start tables erase failed).collector.handled = [] := by
    cases erase <;> rfl
  refine ⟨ordersQueued_start tables erase failed, by rw [htables]; exact h, ?_, ?_⟩
  · rw [hhandled]
    rintro k hash ⟨⟩
  · rw [hdevices]
    simp

end Steps

lemma recorded_of_holds {type : DbType} {t : Tables} {d : MonitorDevice} {row : SessionRow}
    (h : Holds type t d.deviceData.hash d.sessionData.hash ⟨true, []⟩ [] row []) : Recorded type t d := by
  have hself : hashMatches type d.sessionData.hash d.sessionData.hash = true := by
    have hmatch := h.matches
    rwa [h.hash] at hmatch
  have hrows : (t.sessions.filter fun row => row.hash = d.sessionData.hash) = [row] := by
    have hfound := h.found
    unfold Tables.sessionsWith at hfound
    have hfilter : (t.sessions.filter fun row => row.hash = d.sessionData.hash) =
        (t.sessions.filter fun row => hashMatches type d.sessionData.hash row.hash).filter
          fun row => row.hash = d.sessionData.hash := by
      rw [List.filter_filter]
      apply List.filter_congr
      intro other _
      by_cases heq : other.hash = d.sessionData.hash
      · simp [heq, hself]
      · simp [heq]
    rw [hfilter, hfound, List.nil_append, List.filter_cons_of_pos (by simp [h.hash]), List.filter_nil]
  obtain ⟨device, hdevice, hk, hid⟩ := h.device
  unfold Recorded
  rw [hrows]
  exact ⟨(h.goesOn rfl).1, ⟨device, hdevice, hk, hid.symm⟩, h.scalar rfl⟩

/-- In every state of every run with an empty database queue the session of every device that
collects is recorded, when streams are started for sessions that live and nobody disturbs them. -/
theorem collecting_recorded (b : Backend) (tables : Tables) (erase failed : Bool)
    (events : List Process.Event) (hnumbering : Numbering b.type tables)
    (hguard : Machine.Guarded (Process.step b) (CollectGuard b.type)
      (Application.start tables erase failed) events) :
    Machine.Throughout (Process.step b) (fun s => s.collector.queue = [] →
      ∀ d ∈ s.collector.devices, d.state = .collecting → Recorded b.type s.collector.tables d)
      (Application.start tables erase failed) events := by
  have hinv : Machine.Preserves (Process.step b) (CollectGuard b.type) (Collecting b.type) := by
    intro s e s' hs hg hstep
    cases e with
    | app e => exact collecting_turn (step_turn hstep) hs hg
    | restart erase failed =>
      rw [← Except.ok.inj hstep]
      exact collecting_start hs.numbering erase failed
  have hstart := collecting_start hnumbering erase failed
  refine (Machine.throughout_of_guarded hinv hstart hguard).mono ?_
  intro s hs hempty d hd hstate
  have hlive := hs.live d hd hstate
  unfold requestsQueued journal at hlive
  rw [hempty, List.append_nil] at hlive
  obtain ⟨row, hrow⟩ := hs.held _ _ hlive
  exact recorded_of_holds hrow

/-- A client connects the device d, which announces the session s and collects. -/
def collectingUp : List Process.Event :=
  ([served, served, served] ++ sessionUp "s").map .app

/-- A client asks for the removal of a session, and the request is handled. -/
def sessionRemoved (hash : String) : List Process.Event :=
  [.app (asks 0 ⟨"2", .removeSession, false, .sessionData (dataOfSession hash)⟩), .app dispatched,
    .app served, .app dispatched]

/-- A session is removed while the device d collects for another one. -/
theorem collecting_recorded_removed :
    Numbering .sqlite3 (tablesWith ["d"]) ∧
    Machine.Guarded (Process.step (plainBackend .sqlite3)) (CollectGuard .sqlite3)
      (Application.start (tablesWith ["d"]) false false) (collectingUp ++ sessionRemoved "r") ∧
    Machine.Throughout (Process.step (plainBackend .sqlite3)) (fun s => s.collector.queue = [] →
      ∀ d ∈ s.collector.devices, d.state = .collecting → Recorded .sqlite3 s.collector.tables d)
      (Application.start (tablesWith ["d"]) false false) (collectingUp ++ sessionRemoved "r") := by
  have hnumbering : Numbering .sqlite3 (tablesWith ["d"]) := by decide
  have hguard : Machine.Guarded (Process.step (plainBackend .sqlite3)) (CollectGuard .sqlite3)
      (Application.start (tablesWith ["d"]) false false) (collectingUp ++ sessionRemoved "r") := by
    decide
  exact ⟨hnumbering, hguard, collecting_recorded (plainBackend .sqlite3) (tablesWith ["d"]) false false _
    hnumbering hguard⟩

/-- The device d goes on to collect when its session is removed, and it starts to collect when its
connection was lost behind the announcement of the session. -/
theorem collecting_unrecorded :
    (∃ s, Machine.run (Process.step (plainBackend .sqlite3))
        (Application.start (tablesWith ["d"]) false false) (collectingUp ++ sessionRemoved "s") = .ok s ∧
      QueuesEmpty s ∧
      ∃ d ∈ s.collector.devices, d.state = .collecting ∧ ¬ Recorded .sqlite3 s.collector.tables d) ∧
    ∃ s, Machine.run (Process.step (plainBackend .sqlite3))
        (Application.start (tablesWith ["d"]) false false)
        (([served, served, served, .accept, asks 0 (requestFor "1" .connectDevice "d"), dispatched,
          deviceServed "d", deviceServed "d", dispatched,
          .connection "d" ⟨0, 0⟩ [sessionEnvelope "s"] .endOfFile, deviceServed "d", .finalize "d",
          served, served, deviceServed "d"] : List Application.Event).map .app) = .ok s ∧
      QueuesEmpty s ∧
      ∃ d ∈ s.collector.devices, d.state = .collecting ∧ ¬ Recorded .sqlite3 s.collector.tables d := by
  constructor
  · exact ⟨_, rfl, by decide, by decide⟩
  · exact ⟨_, rfl, by decide, by decide⟩

end TkmCollector.Proofs
