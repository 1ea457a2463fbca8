import TkmCollector.Proofs.QueuedOrders
import TkmCollector.Proofs.SessionBooks

namespace TkmCollector.Proofs

open Query Database

/-- The request records the session for the device. -/
def opens (k hash : String) (rq : IDatabase.Request) : Bool :=
  match rq.action, rq.bulkData with
  | .addSession, .sessionInfo info => rq.args.lookup .deviceHash = some k && info.hash = hash
  | _, _ => false

/-- The request ends or deletes the session, records another that its hash finds, or deletes the
device. -/
def disturbs (type : DbType) (k hash : String) (rq : IDatabase.Request) : Bool :=
  match rq.action, rq.bulkData with
  | .initDatabase, _ => forced rq
  | .addDevice, .deviceData deviceData => forced rq && hashMatches type deviceData.hash k
  | .removeDevice, .deviceData deviceData => hashMatches type deviceData.hash k
  | .remSession, .sessionData sessionData => hashMatches type sessionData.hash hash
  | .endSession, _ => hashMatches type ((rq.args.lookup .sessionHash).getD "") hash
  | .addSession, .sessionInfo info => hashMatches type info.hash hash || hashMatches type hash info.hash
  | _, _ => false

/-- The session is recorded and nothing behind disturbs it. -/
def liveFor (type : DbType) (k hash : String) (requests : List IDatabase.Request) : Bool :=
  requests.foldl (fun live rq => opens k hash rq || live && !disturbs type k hash rq) false

@[simp] lemma liveFor_concat (type : DbType) (k hash : String) (requests : List IDatabase.Request)
    (rq : IDatabase.Request) :
    liveFor type k hash (requests ++ [rq]) =
      (opens k hash rq || liveFor type k hash requests && !disturbs type k hash rq) := by
  simp [liveFor]

lemma liveFor_append {type : DbType} {k hash : String} {requests new : List IDatabase.Request}
    (h : liveFor type k hash requests = true) (hnew : ∀ rq ∈ new, disturbs type k hash rq = false) :
    liveFor type k hash (requests ++ new) = true := by
  induction new using List.reverseRecOn with
  | nil => simpa using h
  | append_singleton new rq ih =>
    have hlive := ih fun x hx => hnew x (List.mem_append_left _ hx)
    rw [← List.append_assoc, liveFor_concat, hlive, hnew rq (by simp)]
    simp

/-- The ids of the devices and of the sessions are distinct, and the sequences of PostgreSQL are
beyond them. -/
structure Numbering (type : DbType) (t : Tables) : Prop where
  sessions : Numbered type t
  devices : (t.devices.map DeviceRow.id).Nodup
  bound : type = .postgreSQL → ∀ row ∈ t.devices, row.id ≤ t.deviceSeq

instance (type : DbType) (t : Tables) : Decidable (Numbering type t) :=
  decidable_of_iff (Numbered type t ∧ (t.devices.map DeviceRow.id).Nodup ∧
      (type = .postgreSQL → ∀ row ∈ t.devices, row.id ≤ t.deviceSeq))
    ⟨fun ⟨h₁, h₂, h₃⟩ => ⟨h₁, h₂, h₃⟩, fun h => ⟨h.sessions, h.devices, h.bound⟩⟩

section Effects

variable {type : DbType} {t t' : Tables} {io : DbIo} {order : Order} {status : Option String}

lemma numbered_of_eq (h : Numbered type t) (hsessions : t'.sessions = t.sessions)
    (hseq : t'.sessionSeq = t.sessionSeq) : Numbered type t' := by
  refine ⟨by rw [hsessions]; exact h.distinct, fun htype => ?_⟩
  rw [hsessions, hseq]
  exact h.bound htype

lemma Numbering.of_devices (h : Numbering type t) (hsessions : Numbered type t')
    (hdevices : t'.devices = t.devices) (hseq : t'.deviceSeq = t.deviceSeq) : Numbering type t' := by
  refine ⟨hsessions, by rw [hdevices]; exact h.devices, fun htype => ?_⟩
  rw [hdevices, hseq]
  exact h.bound htype

lemma numbering_added (h : Numbering type t) (deviceData : Control.DeviceData) :
    Numbering type (added type deviceData t) := by
  refine ⟨numbered_of_eq h.sessions rfl rfl, ?_, fun htype row hrow => ?_⟩
  · have hdevices : (added type deviceData t).devices.map DeviceRow.id =
        t.devices.map DeviceRow.id ++ [newId type (t.devices.map DeviceRow.id) t.deviceSeq] := by
      simp [added]
    rw [hdevices]
    apply nodup_newId h.devices
    intro htype id hid
    obtain ⟨row, hrow, rfl⟩ := List.mem_map.mp hid
    exact h.bound htype row hrow
  · obtain hold | hrow := List.mem_append.mp hrow
    · exact Nat.le_succ_of_le (h.bound htype row hold)
    · rw [List.mem_singleton.mp hrow]
      simp [htype, newId, added]

lemma numbering_dropped (h : Numbering type t) (hash : String) : Numbering type (dropped type hash t) := by
  refine ⟨numbered_dropped h.sessions, ?_, fun htype row hrow => ?_⟩
  · rw [dropped_devices]
    exact h.devices.sublist (List.filter_sublist.map _)
  · rw [dropped_devices] at hrow
    rw [dropped_deviceSeq]
    exact h.bound htype row (List.mem_of_mem_filter hrow)

lemma numbering_removed (h : Numbering type t) (hash : String) : Numbering type (removed type hash t) :=
  h.of_devices (numbered_removed h.sessions) rfl rfl

lemma numbering_recorded (h : Numbering type t) (info : Monitor.SessionInfo) (now owner : Nat) :
    Numbering type (recorded type info now owner t) :=
  h.of_devices (h.sessions.joined rfl rfl rfl) rfl rfl

lemma numbering_erased (h : Numbering type t) (names : List String) : Numbering type (erased names t) := by
  induction names generalizing t with
  | nil => exact h
  | cons name names ih =>
    apply ih
    unfold dropTable
    split
    · exact ⟨numbered_of_eq h.sessions rfl rfl, List.nodup_nil, by simp⟩
    · split
      · exact h.of_devices ⟨List.nodup_nil, by simp⟩ rfl rfl
      · exact h.of_devices (numbered_of_eq h.sessions rfl rfl) rfl rfl

lemma effect_numbering (heffect : Effect type t io order t' status) (h : Numbering type t) :
    Numbering type t' := by
  cases heffect with
  | same => exact h
  | created => exact h.of_devices (numbered_reshaped h.sessions) rfl rfl
  | erased =>
    have hdropped := numbering_erased h (droppedNames type io 0)
    exact hdropped.of_devices (numbered_reshaped hdropped.sessions) rfl rfl
  | added client id forced deviceData => exact numbering_added h deviceData
  | replaced client id deviceData => exact numbering_added (numbering_dropped h _) deviceData
  | left => exact numbering_dropped h _
  | dropped => exact numbering_dropped h _
  | removed => exact numbering_removed h _
  | cleared => exact numbering_removed h _
  | opened k info owner => exact numbering_recorded (numbering_removed h _) info _ owner
  | doubled k info owner => exact numbering_recorded h info _ owner
  | ended => exact h.of_devices (numbered_ended h.sessions) rfl rfl
  | stored => exact h.of_devices (numbered_of_eq h.sessions rfl rfl) rfl rfl

lemma holds_effect {k hash : String} {row : SessionRow} (heffect : Effect type t io order t' status)
    (hio : io.fails = []) (hn : Numbering type t) (hold : Holds type t k hash ⟨true, []⟩ [] row [])
    (hspared : disturbs type k hash order.request = false) : Holds type t' k hash ⟨true, []⟩ [] row [] := by
  have hnever : ∀ n, (n, 0) ∉ io.fails := by simp [hio]
  cases heffect with
  | same => exact hold
  | created => exact ⟨hold.found, hold.alone, hold.hash, hold.device, hold.goesOn, hold.data⟩
  | erased client status hlink =>
    have haction : (Order.initDatabase client true).request.action = .initDatabase := by
      cases client <;> rfl
    unfold disturbs at hspared
    rw [haction] at hspared
    simp at hspared
  | added client id forced deviceData => exact hold.of_added deviceData
  | replaced client id deviceData =>
    have hne : hashMatches type deviceData.hash k = false := by
      have hforced : forced (Order.addDevice client id true deviceData).request = true := by simp
      unfold disturbs at hspared
      rw [hforced] at hspared
      simpa [Order.request] using hspared
    exact (hold.of_dropped hn.sessions hn.devices hne).of_added deviceData
  | left client id deviceData hcheck hremove hinsert => exact absurd hinsert (hnever 2)
  | dropped client id forced deviceData => exact hold.of_dropped hn.sessions hn.devices hspared
  | removed client id forced sessionData => exact hold.of_removed hn.sessions hspared
  | cleared deviceHash info =>
    have hne : hashMatches type info.hash hash = false := (Bool.or_eq_false_iff.mp hspared).1
    exact hold.of_removed hn.sessions hne
  | opened deviceHash info owner =>
    obtain ⟨hne, hne'⟩ := Bool.or_eq_false_iff.mp hspared
    exact (hold.of_removed hn.sessions hne).of_joined hne' rfl rfl rfl
  | doubled deviceHash info owner =>
    obtain ⟨-, hne'⟩ := Bool.or_eq_false_iff.mp hspared
    exact hold.of_joined hne' rfl rfl rfl
  | ended hash' => exact hold.of_ended hspared io.now
  | stored sessionHash data owner upTo =>
    exact ⟨hold.found, hold.alone, hold.hash, hold.device, hold.goesOn, List.nil_sublist _⟩

end Effects

/-- A request that records a session finds the row of its device, the hash picks the new row, and
the id of a row that it replaces is not read as -1. -/
def FindsDevice (type : DbType) (t : Tables) (rq : IDatabase.Request) : Prop :=
  match rq.action, rq.bulkData with
  | .addSession, .sessionInfo info => hashMatches type info.hash info.hash = true ∧
      (∃ device ∈ t.devices, rq.args.lookup .deviceHash = some device.hash ∧
        scalar type (deviceIds type device.hash t) = some device.id) ∧
      ¬ Misread type (checkedSession type info.hash t)
  | _, _ => True

instance (type : DbType) (t : Tables) (rq : IDatabase.Request) : Decidable (FindsDevice type t rq) := by
  unfold FindsDevice
  rcases rq.action with ⟨⟩ <;> rcases rq.bulkData with ⟨⟩ <;> infer_instance

/-- The tables hold the sessions that live. -/
def LivesHeld (type : DbType) (t : Tables) (requests : List IDatabase.Request) : Prop :=
  ∀ k hash, liveFor type k hash requests = true → ∃ row, Holds type t k hash ⟨true, []⟩ [] row []

lemma opens_order {k hash : String} {order : Order} (h : opens k hash order.request = true) :
    ∃ info, order = .addSession k info ∧ info.hash = hash := by
  cases order with
  | addSession deviceHash info =>
    have hboth : decide ((addSessionRequest deviceHash info).args.lookup .deviceHash = some k) = true ∧
        decide (info.hash = hash) = true := Bool.and_eq_true_iff.mp h
    have hk : some deviceHash = some k := of_decide_eq_true hboth.1
    rw [Option.some.inj hk]
    exact ⟨info, rfl, of_decide_eq_true hboth.2⟩
  | initDatabase client forced => cases client <;> cases h
  | _ => cases h

/-- The tables hold the sessions that live, after an order as before. -/
lemma livesHeld_handled {b : Backend} {states : String → Option Control.DeviceState} {io : DbIo}
    {t : Tables} {order : Order} {o : DbOutcome} {requests : List IDatabase.Request}
    (ho : requestHandler b states io t order.request = .ok o) (hio : io.fails = [])
    (hplain : ∀ v ∈ order.strings, Plain v) (hfinds : FindsDevice b.type t order.request)
    (hn : Numbering b.type t) (hold : LivesHeld b.type t requests) :
    LivesHeld b.type o.tables (requests ++ [order.request]) := by
  intro k hash hlive
  rw [liveFor_concat, Bool.or_eq_true] at hlive
  obtain hopens | hkept := hlive
  · obtain ⟨info, rfl, rfl⟩ := opens_order hopens
    obtain ⟨hself, ⟨device, hdevice, hk, howner⟩, hread⟩ := hfinds
    obtain rfl : k = device.hash := Option.some.inj hk
    have hcalm : doAddSession b io t (Order.addSession device.hash info).request =
        .ok (quiet (opened b.type device.hash info io.now t)) :=
      doAddSession_calm hio (hplain _ (by simp [Order.strings])) (hplain _ (by simp [Order.strings]))
        (hplain _ (by simp [Order.strings])) rfl rfl
    have htables : o.tables = opened b.type device.hash info io.now t := by
      have hadd : doAddSession b io t (Order.addSession device.hash info).request = .ok o := ho
      rw [hcalm] at hadd
      rw [← Except.ok.inj hadd]
      rfl
    rw [htables]
    exact ⟨_, holds_opened hself hdevice howner hread io.now⟩
  · obtain ⟨hlive, hspared⟩ := Bool.and_eq_true_iff.mp hkept
    obtain ⟨row, hrow⟩ := hold k hash hlive
    have heffect := requestHandler_effect (runsPlain_of_plain hplain) ho
    exact ⟨row, holds_effect heffect hio hn hrow (by simpa using hspared)⟩

end TkmCollector.Proofs
