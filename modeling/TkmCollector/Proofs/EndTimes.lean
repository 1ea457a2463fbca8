import TkmCollector.Library.History
import TkmCollector.Proofs.ChannelFrame
import TkmCollector.Proofs.HashUniqueness
import TkmCollector.Proofs.QueuedOrders
import TkmCollector.Proofs.ReferentialIntegrity

/-!
# End times are written once

`UPDATE` of `endSession` is keyed by the hash alone. It comes from the end of every connection
and from the clean-up at start, and writes over an end time that is there already. The sessions
keep their end times as long as nobody asks to end a hash of which an ended session may be left.
-/

namespace TkmCollector.Proofs

open Application

/-- A session that was not deleted is itself, and an end time stays as it is. -/
def EndKept (row row' : SessionRow) : Prop :=
  SameSession row row' ∧ (row.endTimestamp ≠ 0 → row' = row)

instance (row row' : SessionRow) : Decidable (EndKept row row') :=
  inferInstanceAs (Decidable ({ row with endTimestamp := row'.endTimestamp } = row' ∧ _))

/-- The step handles a request to record a session. -/
def Records (s : Application) (e : Process.Event) : Prop :=
  (∃ io, e = .app (.database io)) ∧ ∃ entry ∈ s.collector.queue.head?, entry.request.action = .addSession

/-- Sessions are deleted or keep their end times, and those that are recorded have none. -/
def EndsOnce (s : Application) (e : Process.Event) (s' : Application) : Prop :=
  ∃ kept after added, kept.Sublist s.collector.tables.sessions ∧
    s'.collector.tables.sessions = after ++ added ∧ List.Forall₂ EndKept kept after ∧
    (∀ row ∈ added, row.endTimestamp = 0) ∧ (added ≠ [] → Records s e)

/-- No session with the hash has ended. -/
def NoneEnded (type : DbType) (hash : String) (t : Tables) : Prop :=
  ∀ row ∈ t.sessions, hashMatches type hash row.hash = true → row.endTimestamp = 0

/-- No session has both of the hashes. -/
def DisjointHashes (type : DbType) (hash hash' : String) : Prop :=
  ∀ value, hashMatches type hash value = true → hashMatches type hash' value = false

/-- The hash of the sessions that a request ends. -/
def closedHash (rq : IDatabase.Request) : Option String :=
  if rq.action = .endSession then some ((rq.args.lookup .sessionHash).getD "") else none

/-- The hash of the session that a request records in the place of others. -/
def recordedHash (rq : IDatabase.Request) : Option String :=
  match rq.action, rq.bulkData with
  | .addSession, .sessionInfo info => some info.hash
  | _, _ => none

/-- What is left of the hash once the request is handled: it is recorded anew, or is not ended. -/
def LeavesOpen (type : DbType) (hash : String) (now : Prop) (rq : IDatabase.Request) : Prop :=
  recordedHash rq = some hash ∨ now ∧ ∀ hash' ∈ closedHash rq, DisjointHashes type hash' hash

/-- No session with the hash will have ended once the requests are handled. -/
def StaysOpen (type : DbType) (hash : String) (now : Prop) (queue : List IDatabase.Request) : Prop :=
  queue.foldl (LeavesOpen type hash) now

/-- The hashes can be ended one after the other behind the queue. -/
def MayEnd (type : DbType) (t : Tables) : List IDatabase.Request → List String → Prop
  | _, [] => True
  | queue, hash :: hashes =>
    StaysOpen type hash (NoneEnded type hash t) queue ∧
      MayEnd type t (queue ++ [endSessionRequest hash]) hashes

/-- The hashes that a step asks to end: a connection is lost or not made, or the sessions that an
earlier run left open are listed. -/
def endsAsked (s : Application) : Process.Event → List String
  | .restart _ _ => []
  | .app (.database io) =>
    match s.collector.queue with
    | [] => []
    | entry :: _ =>
      if entry.request.action = .cleanSessions ∧ (0, 0) ∉ io.fails then
        (s.collector.tables.sessions.filter fun row => row.endTimestamp = 0).map SessionRow.hash
      else []
  | .app e =>
    match deviceEvent e with
    | none => []
    | some (hash, event) =>
      match s.collector.devices.getDevice hash with
      | none => []
      | some d => if EndsSession d event ∧ d.sessionData.hash ≠ "" then [d.sessionData.hash] else []

/-- The sessions that were recorded with the hash are deleted. -/
def Clears (type : DbType) (io : DbIo) (hash : String) (t : Tables) : Prop :=
  DeletesRun io ∧ ¬ Misread type (checkedSession type hash t)

instance (type : DbType) (io : DbIo) (hash : String) (t : Tables) : Decidable (Clears type io hash t) :=
  inferInstanceAs (Decidable (_ ∧ _))

/-- A hash is only ended when no session with it can have ended by then. The strings of the
request that is handled stay inside of their literals, and when it records a session beside
others that are not deleted, none of them has ended. -/
def EndGuard (type : DbType) (s : Application) (e : Process.Event) : Prop :=
  MayEnd type s.collector.tables (waitingRequests s) (endsAsked s e) ∧
    match e with
    | .app (.database io) => ∀ entry ∈ s.collector.queue.head?,
      (∀ v ∈ requestStrings entry.request, Plain v) ∧
        ∀ hash ∈ recordedHash entry.request,
          Clears type io hash s.collector.tables ∨ NoneEnded type hash s.collector.tables
    | _ => True

lemma LeavesOpen.mono {type : DbType} {hash : String} {now now' : Prop} {rq : IDatabase.Request}
    (himp : now → now') (h : LeavesOpen type hash now rq) : LeavesOpen type hash now' rq :=
  h.imp_right (And.imp_left himp)

lemma StaysOpen.mono {type : DbType} {hash : String} {now now' : Prop}
    {queue : List IDatabase.Request} (himp : now → now') (h : StaysOpen type hash now queue) :
    StaysOpen type hash now' queue := by
  induction queue generalizing now now' with
  | nil => exact himp h
  | cons rq queue ih => exact ih (LeavesOpen.mono himp) h

lemma disjointHashes_sqlite3 {hash hash' : String} : DisjointHashes .sqlite3 hash hash' ↔ hash ≠ hash' := by
  simp [DisjointHashes, hashMatches, eq_comm]

instance (type : DbType) (hash : String) (t : Tables) : Decidable (NoneEnded type hash t) :=
  inferInstanceAs (Decidable (∀ row ∈ t.sessions, _ → _))

instance (hash : String) (now : Prop) [Decidable now] (rq : IDatabase.Request) :
    Decidable (LeavesOpen .sqlite3 hash now rq) :=
  decidable_of_iff (recordedHash rq = some hash ∨ now ∧ ∀ hash' ∈ closedHash rq, hash' ≠ hash)
    (by simp only [LeavesOpen, disjointHashes_sqlite3])

instance decidableStaysOpen (hash : String) (now : Prop) [Decidable now] :
    (queue : List IDatabase.Request) → Decidable (StaysOpen .sqlite3 hash now queue)
  | [] => inferInstanceAs (Decidable now)
  | rq :: queue => decidableStaysOpen hash (LeavesOpen .sqlite3 hash now rq) queue

instance decidableMayEnd (t : Tables) :
    (hashes : List String) → (queue : List IDatabase.Request) → Decidable (MayEnd .sqlite3 t queue hashes)
  | [], _ => isTrue trivial
  | hash :: hashes, queue =>
    have := decidableMayEnd t hashes (queue ++ [endSessionRequest hash])
    inferInstanceAs (Decidable (StaysOpen .sqlite3 hash (NoneEnded .sqlite3 hash t) queue ∧ _))

instance (s : Application) : (e : Process.Event) → Decidable (EndGuard .sqlite3 s e)
  | .restart _ _ => inferInstanceAs (Decidable (_ ∧ True))
  | .app (.database io) => inferInstanceAs (Decidable (_ ∧ ∀ entry ∈ s.collector.queue.head?,
      (∀ v ∈ requestStrings entry.request, Plain v) ∧
        ∀ hash ∈ recordedHash entry.request, Clears .sqlite3 io hash s.collector.tables ∨
          NoneEnded .sqlite3 hash s.collector.tables))
  | .app .accept | .app (.control _ _ _) | .app (.dispatcher _) | .app (.connection _ _ _ _)
  | .app (.finalize _) | .app (.queue _ _) | .app (.timer _ _) => inferInstanceAs (Decidable (_ ∧ True))

/-- Every request to end a session will find none that has ended. -/
def EndsOrdered (type : DbType) (t : Tables) (queue : List IDatabase.Request) : Prop :=
  History.Justified (fun pre rq => ∀ hash ∈ closedHash rq, StaysOpen type hash (NoneEnded type hash t) pre)
    queue

lemma endsOrdered_concat {type : DbType} {t : Tables} {queue : List IDatabase.Request}
    {rq : IDatabase.Request} :
    EndsOrdered type t (queue ++ [rq]) ↔ EndsOrdered type t queue ∧
      ∀ hash ∈ closedHash rq, StaysOpen type hash (NoneEnded type hash t) queue :=
  History.justified_concat

lemma endsOrdered_quiet {type : DbType} {t : Tables} {queue new : List IDatabase.Request}
    (h : EndsOrdered type t queue) (hnew : ∀ rq ∈ new, closedHash rq = none) :
    EndsOrdered type t (queue ++ new) := by
  induction new using List.reverseRecOn with
  | nil => simpa using h
  | append_singleton new rq ih =>
    rw [← List.append_assoc]
    apply endsOrdered_concat.mpr
    refine ⟨ih fun x hx => hnew x (List.mem_append_left _ hx), ?_⟩
    rw [hnew rq (by simp)]
    rintro hash ⟨⟩

lemma closedHash_end (hash : String) : closedHash (endSessionRequest hash) = some hash := rfl

lemma endsOrdered_ends {type : DbType} {t : Tables} {queue : List IDatabase.Request}
    {hashes : List String} (h : EndsOrdered type t queue) (hends : MayEnd type t queue hashes) :
    EndsOrdered type t (queue ++ hashes.map endSessionRequest) := by
  induction hashes generalizing queue with
  | nil => simpa using h
  | cons hash hashes ih =>
    rw [List.map_cons, List.append_cons]
    refine ih (endsOrdered_concat.mpr ⟨h, ?_⟩) hends.2
    rintro hash' ⟨⟩
    exact hends.1

lemma mayEnd_tail {type : DbType} {t : Tables} {rq : IDatabase.Request} {queue : List IDatabase.Request}
    {hashes : List String} (hrecorded : recordedHash rq = none)
    (h : MayEnd type t (rq :: queue) hashes) : MayEnd type t queue hashes := by
  have hnow : ∀ hash now, LeavesOpen type hash now rq → now := by
    intro hash now h
    unfold LeavesOpen at h
    rw [hrecorded] at h
    obtain h | h := h
    · cases h
    · exact h.1
  induction hashes generalizing queue with
  | nil => trivial
  | cons hash hashes ih =>
    have hstays : StaysOpen type hash (NoneEnded type hash t) (rq :: queue) := h.1
    exact ⟨StaysOpen.mono (hnow hash _) hstays, ih h.2⟩

lemma EndsOrdered.handled {type : DbType} {t t' : Tables} {rq : IDatabase.Request}
    {rest : List IDatabase.Request} (h : EndsOrdered type t (rq :: rest))
    (hstep : ∀ hash, LeavesOpen type hash (NoneEnded type hash t) rq → NoneEnded type hash t') :
    EndsOrdered type t' rest := by
  have hrest := (History.justified_cons.mp h).2
  exact hrest.mono fun pre x _ hclosed hash hhash =>
    StaysOpen.mono (hstep hash) (hclosed hash hhash)

lemma EndsOrdered.head {type : DbType} {t : Tables} {rq : IDatabase.Request}
    {rest : List IDatabase.Request} (h : EndsOrdered type t (rq :: rest)) {hash : String}
    (hclosed : closedHash rq = some hash) : NoneEnded type hash t :=
  (History.justified_cons.mp h).1 hash hclosed

section Effects

variable {type : DbType} {t t' : Tables} {io : DbIo} {order : Order} {status : Option String}

lemma effect_sessions (h : Effect type t io order t' status) :
    (∃ hash, order = .endSession hash ∧ t'.sessions = (ended type hash io.now t).sessions) ∨
      ∃ rows new, rows.Sublist t.sessions ∧ t'.sessions = rows ++ new ∧
        (∀ row ∈ new, row.endTimestamp = 0) ∧ (new ≠ [] → ∃ k info, order = .addSession k info) ∧
        ∀ hash ∈ recordedHash order.request, Clears type io hash t →
          ∀ row ∈ rows, hashMatches type hash row.hash = false := by
  have hrows : ∀ {t'' : Tables}, t''.sessions.Sublist t.sessions → recordedHash order.request = none →
      ∃ rows new, rows.Sublist t.sessions ∧ t''.sessions = rows ++ new ∧
        (∀ row ∈ new, row.endTimestamp = 0) ∧ (new ≠ [] → ∃ k info, order = .addSession k info) ∧
        ∀ hash ∈ recordedHash order.request, Clears type io hash t →
          ∀ row ∈ rows, hashMatches type hash row.hash = false := by
    intro t'' hsub hnone
    refine ⟨t''.sessions, [], hsub, by simp, by simp, by simp, ?_⟩
    rw [hnone]
    rintro hash ⟨⟩
  have hgone : ∀ hash : String, ∀ row ∈ (removed type hash t).sessions,
      hashMatches type hash row.hash = false := fun hash row hrow => (mem_removed.mp hrow).2
  have hsub : ∀ hash : String, (removed type hash t).sessions.Sublist t.sessions :=
    fun hash => List.filter_sublist
  cases h with
  | same order status hsame =>
    refine .inr ⟨t.sessions, [], List.Sublist.refl _, by simp, by simp, by simp, ?_⟩
    intro hash hhash hclears
    cases order with
    | addSession k info =>
      cases hhash
      obtain hcheck | hremove | hmisread := hsame
      · exact absurd hcheck hclears.1.1
      · exact absurd hremove hclears.1.2
      · exact absurd hmisread hclears.2
    | initDatabase client forced => cases client <;> cases hhash
    | _ => cases hhash
  | created client status hlink hcreate =>
    exact .inr (hrows (List.Sublist.refl _) (by cases client <;> rfl))
  | erased client status hlink hcreate =>
    refine .inr (hrows ?_ (by cases client <;> rfl))
    change (erased (droppedNames type io 0) t).sessions.Sublist t.sessions
    rw [erased_sessions]
    split
    · exact List.nil_sublist _
    · exact List.Sublist.refl _
  | added => exact .inr (hrows (List.Sublist.refl _) rfl)
  | replaced client id deviceData =>
    exact .inr (hrows (sessions_dropped_sublist deviceData.hash) rfl)
  | left client id deviceData => exact .inr (hrows (sessions_dropped_sublist deviceData.hash) rfl)
  | dropped client id forced deviceData => exact .inr (hrows (sessions_dropped_sublist deviceData.hash) rfl)
  | removed client id forced sessionData => exact .inr (hrows (hsub sessionData.hash) rfl)
  | cleared k info =>
    refine .inr ⟨_, [], hsub info.hash, by simp, by simp, by simp, ?_⟩
    rintro hash ⟨⟩ -
    exact hgone info.hash
  | opened k info owner =>
    refine .inr ⟨_, [newSession type info io.now owner (removed type info.hash t)], hsub info.hash, rfl,
      ?_, fun _ => ⟨k, info, rfl⟩, ?_⟩
    · intro row hrow
      rw [List.mem_singleton.mp hrow]
      rfl
    · rintro hash ⟨⟩ -
      exact hgone info.hash
  | doubled k info owner howner hfails =>
    refine .inr ⟨t.sessions, [newSession type info io.now owner t], List.Sublist.refl _, rfl,
      ?_, fun _ => ⟨k, info, rfl⟩, ?_⟩
    · intro row hrow
      rw [List.mem_singleton.mp hrow]
      rfl
    · rintro hash ⟨⟩ ⟨⟨hcheck, hremove⟩, hread⟩
      obtain h | h | h := hfails
      · exact absurd h hcheck
      · exact absurd h hremove
      · exact absurd h hread
  | ended hash => exact .inl ⟨hash, rfl, rfl⟩
  | stored => exact .inr (hrows (List.Sublist.refl _) rfl)

lemma effect_noneEnded (h : Effect type t io order t' status)
    (hrecorded : ∀ hash ∈ recordedHash order.request, Clears type io hash t ∨ NoneEnded type hash t)
    {hash : String} (hstays : LeavesOpen type hash (NoneEnded type hash t) order.request) :
    NoneEnded type hash t' := by
  intro row hrow hmatch
  obtain ⟨hash', rfl, hsessions⟩ | ⟨rows, new, hsub, hsessions, hzero, -, hgone⟩ := effect_sessions h
  · obtain hnew | ⟨hnone, hapart⟩ := hstays
    · cases hnew
    · rw [hsessions] at hrow
      obtain ⟨old, hold, rfl⟩ := List.mem_map.mp hrow
      by_cases hends : hashMatches type hash' old.hash = true
      · have hnot := hapart hash' rfl old.hash hends
        rw [if_pos hends] at hmatch
        exact absurd hmatch (by simp [hnot])
      · rw [if_neg hends] at hmatch ⊢
        exact hnone old hold hmatch
  · rw [hsessions] at hrow
    obtain hold | hnew := List.mem_append.mp hrow
    · obtain hrecord | ⟨hnone, -⟩ := hstays
      · obtain hclears | hnone := hrecorded hash hrecord
        · exact absurd hmatch (by simp [hgone hash hrecord hclears row hold])
        · exact hnone row (hsub.subset hold) hmatch
      · exact hnone row (hsub.subset hold) hmatch
    · exact hzero row hnew

lemma endKept_refl (row : SessionRow) : EndKept row row := ⟨rfl, fun _ => rfl⟩

lemma effect_endsOnce (h : Effect type t io order t' status)
    (hclosed : ∀ hash, order = .endSession hash → NoneEnded type hash t) :
    ∃ kept after added, kept.Sublist t.sessions ∧ t'.sessions = after ++ added ∧
      List.Forall₂ EndKept kept after ∧ (∀ row ∈ added, row.endTimestamp = 0) ∧
      (added ≠ [] → ∃ k info, order = .addSession k info) := by
  obtain ⟨hash, horder, hsessions⟩ | ⟨rows, new, hsub, hsessions, hzero, hnew, -⟩ := effect_sessions h
  · refine ⟨t.sessions, t'.sessions, [], List.Sublist.refl _, by simp, ?_, by simp, by simp⟩
    rw [hsessions]
    apply List.forall₂_map_right_iff.mpr
    apply List.forall₂_same.mpr
    intro row hrow
    by_cases hends : hashMatches type hash row.hash = true
    · rw [if_pos hends]
      exact ⟨rfl, fun hne => absurd (hclosed hash horder row hrow hends) hne⟩
    · rw [if_neg hends]
      exact endKept_refl row
  · exact ⟨rows, rows, new, hsub, hsessions, List.forall₂_same.mpr fun row _ => endKept_refl row,
      hzero, hnew⟩

end Effects

/-- A device asks for the end of the session that it holds, when its connection is lost or not
made. -/
lemma dispatch_ends {d d' : MonitorDevice} {e : MonitorDevice.Event} {dbrq : List IDatabase.Request}
    (h : Dispatch d e d' dbrq) :
    EndsSession d e ∧ d.sessionData.hash ≠ "" ∧ dbrq = [endSessionRequest d.sessionData.hash] ∨
      ∀ rq ∈ dbrq, closedHash rq = none := by
  cases dispatch_database h with
  | nothing => exact .inr (by simp)
  | ended e hends hne => exact .inl ⟨hends, hne, rfl⟩
  | opened | stored =>
    right
    intro x hx
    rw [List.mem_singleton.mp hx]
    rfl

lemma pushedFor_ends (t : Tables) (io : DbIo) (status : Option String) (order : Order) :
    (order = .cleanSessions ∧ (0, 0) ∉ io.fails ∧ pushedFor t io status order =
      ((t.sessions.filter fun row => row.endTimestamp = 0).map SessionRow.hash).map endSessionRequest) ∨
      ∀ rq ∈ pushedFor t io status order, closedHash rq = none := by
  cases order with
  | cleanSessions =>
    by_cases hfails : (0, 0) ∈ io.fails
    · simp [pushedFor, hfails]
    · left
      simp [pushedFor, hfails]
  | addDevice client id forced deviceData =>
    right
    intro rq hrq
    obtain ⟨-, hrq⟩ := List.mem_ite_nil_right.mp hrq
    rw [List.mem_singleton.mp hrq]
    rfl
  | _ => exact .inr (by simp [pushedFor])

section Steps

variable {b : Backend} {s s' : Application}

/-- What holds in every state: the queue of the database holds orders, and an order to end
sessions will find none that has ended. -/
structure EndsRight (type : DbType) (s : Application) : Prop where
  orders : OrdersQueued s
  ends : EndsOrdered type s.collector.tables (waitingRequests s)

lemma endsAsked_device {e : Application.Event} {hash : String} {event : MonitorDevice.Event}
    (he : deviceEvent e = some (hash, event)) :
    endsAsked s (.app e) = match s.collector.devices.getDevice hash with
      | none => []
      | some d => if EndsSession d event ∧ d.sessionData.hash ≠ "" then [d.sessionData.hash] else [] := by
  cases e <;> simp_all [endsAsked, deviceEvent]

lemma endsOrdered_turn {e : Application.Event} (h : Turn b s e s') (hs : EndsRight b.type s)
    (hg : EndGuard b.type s (.app e)) :
    EndsOrdered b.type s'.collector.tables (waitingRequests s') := by
  have hends := hs.ends
  cases h with
  | idle => exact hends
  | accept => exact hends
  | control client input last s₁ clients hasks =>
    have hcollector := asks_collector hasks
    unfold waitingRequests
    rw [show ({ s₁ with clients := clients } : Application).collector = s.collector from hcollector]
    exact hends
  | dispatcher write entry rest o hq ho =>
    have hnew := dispatched_action ho
    unfold waitingRequests deliver
    rw [List.map_append, List.map_map]
    apply endsOrdered_quiet hends
    intro rq hrq
    simp only [Function.comp_def, List.map_id_fun', id_eq] at hrq
    obtain ⟨action, haction⟩ := hnew rq hrq
    unfold closedHash
    rw [haction]
    cases action <;> rfl
  | device _ hash event d o he hget ho =>
    have hqueue : waitingRequests (afterDevice s hash o) = waitingRequests s ++ o.database := by
      simp [waitingRequests, afterDevice, Function.comp_def]
    rw [hqueue]
    obtain ⟨hd, hne, hpush⟩ | hquiet := dispatch_ends (step_dispatch ho)
    · have hasked : endsAsked s (.app e) = [d.sessionData.hash] := by
        rw [endsAsked_device he, hget]
        exact if_pos ⟨hd, hne⟩
      rw [hpush]
      have hmay := hg.1
      rw [hasked] at hmay
      exact endsOrdered_ends hends hmay
    · exact endsOrdered_quiet hends hquiet
  | database io entry rest o hq ho =>
    obtain ⟨order, horder⟩ := hs.orders.database entry (by simp [journal, hq])
    obtain ⟨hplain, hrecorded⟩ := hg.2 entry (by rw [hq]; rfl)
    rw [horder] at ho hplain hrecorded
    rw [requestStrings_request] at hplain
    have heffect := requestHandler_effect (runsPlain_of_plain hplain) ho
    have hhead : EndsOrdered b.type s.collector.tables
        (order.request :: rest.map DbEntry.request) := by
      rw [← horder, ← waitingRequests_head hq]
      exact hends
    have hrest := hhead.handled fun hash hstays => effect_noneEnded heffect hrecorded hstays
    rw [waitingRequests_database, (order_follows ho).1]
    obtain ⟨rfl, hdone, hpush⟩ | hquiet :=
      pushedFor_ends s.collector.tables io (answered o) order
    · have htables : o.tables = s.collector.tables := by
        generalize ht : o.tables = t' at heffect
        cases heffect
        rfl
      have hasked : endsAsked s (.app (.database io)) =
          (s.collector.tables.sessions.filter fun row => row.endTimestamp = 0).map SessionRow.hash := by
        unfold endsAsked
        rw [hq]
        exact if_pos ⟨by rw [horder]; rfl, hdone⟩
      have hmay := hg.1
      rw [hasked] at hmay
      rw [waitingRequests_head hq, horder] at hmay
      rw [hpush]
      apply endsOrdered_ends hrest
      rw [htables]
      exact mayEnd_tail rfl hmay
    · exact endsOrdered_quiet hrest hquiet

lemma endsOnce_turn {e : Application.Event} (h : Turn b s e s') (hs : EndsRight b.type s)
    (hg : EndGuard b.type s (.app e)) : EndsOnce s (.app e) s' := by
  have hsame : s'.collector.tables = s.collector.tables → EndsOnce s (.app e) s' := by
    intro htables
    refine ⟨s.collector.tables.sessions, s.collector.tables.sessions, [], List.Sublist.refl _, ?_,
      List.forall₂_same.mpr fun row _ => endKept_refl row, by simp, by simp⟩
    rw [htables, List.append_nil]
  cases h with
  | idle | accept | dispatcher | device => exact hsame rfl
  | control client input last s₁ clients hasks =>
    have hcollector := asks_collector hasks
    exact hsame (congrArg Collector.tables hcollector)
  | database io entry rest o hq ho =>
    obtain ⟨order, horder⟩ := hs.orders.database entry (by simp [journal, hq])
    obtain ⟨hplain, -⟩ := hg.2 entry (by rw [hq]; rfl)
    have hends := hs.ends
    rw [waitingRequests_head hq, horder] at hends
    rw [horder] at ho hplain
    rw [requestStrings_request] at hplain
    have heffect := requestHandler_effect (runsPlain_of_plain hplain) ho
    have hclosed : ∀ hash, order = .endSession hash → NoneEnded b.type hash s.collector.tables := by
      rintro hash rfl
      exact hends.head (closedHash_end hash)
    obtain ⟨kept, after, added, hsub, hsessions, hkept, hzero, hadded⟩ :=
      effect_endsOnce heffect hclosed
    refine ⟨kept, after, added, hsub, hsessions, hkept, hzero, fun hne => ?_⟩
    obtain ⟨k, info, rfl⟩ := hadded hne
    exact ⟨⟨io, rfl⟩, entry, by rw [hq]; rfl, by rw [horder]; rfl⟩

lemma endsRight_start (type : DbType) (tables : Tables) (erase failed : Bool) :
    EndsRight type (Application.start tables erase failed) := by
  refine ⟨ordersQueued_start tables erase failed, ?_⟩
  have hquiet : ∀ rq ∈ waitingRequests (Application.start tables erase failed), closedHash rq = none := by
    intro rq hrq
    obtain ⟨entry, hentry, rfl⟩ := List.mem_map.mp hrq
    cases erase with
    | false =>
      simp only [Application.start, Collector.start, Bool.false_eq_true, if_false, List.mem_cons,
        List.not_mem_nil, or_false] at hentry
      obtain rfl | rfl | rfl := hentry <;> rfl
    | true =>
      simp only [Application.start, Collector.start, if_true, List.cons_append, List.nil_append,
        List.mem_cons, List.not_mem_nil, or_false] at hentry
      obtain rfl | rfl | rfl | rfl := hentry <;> rfl
  have hnil : EndsOrdered type (Application.start tables erase failed).collector.tables [] :=
    History.justified_nil
  exact endsOrdered_quiet hnil hquiet

end Steps

/-- An end time is written once, when no connection ends, and no clean-up lists, a hash of which
an ended session may be left: across all runs of the application and its restarts, on any
tables. -/
theorem end_times_once (b : Backend) (tables : Tables) (erase failed : Bool)
    (events : List Process.Event)
    (hguard : Machine.Guarded (Process.step b) (EndGuard b.type)
      (Application.start tables erase failed) events) :
    Machine.EachStep (Process.step b) EndsOnce (Application.start tables erase failed) events := by
  have hinv : Machine.Preserves (Process.step b) (EndGuard b.type) (EndsRight b.type) := by
    intro s e s' hs hg hstep
    cases e with
    | app e =>
      have hturn := step_turn hstep
      exact ⟨ordersQueued_turn hturn hs.orders, endsOrdered_turn hturn hs hg⟩
    | restart erase failed =>
      rw [← Except.ok.inj hstep]
      exact endsRight_start b.type s.collector.tables erase failed
  refine Machine.eachStep_of_guarded hinv ?_ (endsRight_start b.type tables erase failed) hguard
  intro s e s' hs hg hstep
  cases e with
  | app e => exact endsOnce_turn (step_turn hstep) hs hg
  | restart erase failed =>
    rw [← Except.ok.inj hstep]
    exact ⟨s.collector.tables.sessions, s.collector.tables.sessions, [], List.Sublist.refl _, by
      simp [Application.start, Collector.start]; cases erase <;> rfl,
      List.forall₂_same.mpr fun row _ => endKept_refl row, by simp, by simp⟩

/-- A client connects the device d, which announces a session. -/
def sessionUp (session : String) : List Application.Event :=
  [.accept, asks 0 (requestFor "1" .connectDevice "d"), dispatched, deviceServed "d", deviceServed "d",
    dispatched, .connection "d" ⟨0, 0⟩ [sessionEnvelope session] .again, deviceServed "d",
    deviceServed "d", served]

/-- The connection of the device d breaks. -/
def connectionLost : List Application.Event :=
  [.connection "d" ⟨0, 0⟩ [] .endOfFile, .finalize "d", served]

/-- A session that a disconnect ends, and one that the next start cleans up. -/
theorem end_times_once_restarted :
    Machine.Guarded (Process.step (plainBackend .sqlite3)) (EndGuard .sqlite3)
      (Application.start (tablesWith ["d"]) false false)
      (([served, served, served] ++ sessionUp "s" ++ connectionLost).map .app ++ .restart false false ::
        ([served, served, served] ++ sessionUp "r").map .app ++ .restart false false ::
        [served, served, served, served].map .app) ∧
    Machine.EachStep (Process.step (plainBackend .sqlite3)) EndsOnce
      (Application.start (tablesWith ["d"]) false false)
      (([served, served, served] ++ sessionUp "s" ++ connectionLost).map .app ++ .restart false false ::
        ([served, served, served] ++ sessionUp "r").map .app ++ .restart false false ::
        [served, served, served, served].map .app) := by
  have hguard : Machine.Guarded (Process.step (plainBackend .sqlite3)) (EndGuard .sqlite3)
      (Application.start (tablesWith ["d"]) false false)
      (([served, served, served] ++ sessionUp "s" ++ connectionLost).map .app ++ .restart false false ::
        ([served, served, served] ++ sessionUp "r").map .app ++ .restart false false ::
        [served, served, served, served].map .app) := by decide
  exact ⟨hguard, end_times_once (plainBackend .sqlite3) (tablesWith ["d"]) false false _ hguard⟩

lemma EndsOnce.kept {s s' : Application} {e : Process.Event} (h : EndsOnce s e s')
    (hrecords : ¬ Records s e) :
    ∀ row' ∈ s'.collector.tables.sessions, ∃ row ∈ s.collector.tables.sessions, EndKept row row' := by
  obtain ⟨kept, after, added, hsub, hsessions, hkept, -, hadded⟩ := h
  obtain rfl : added = [] := by
    by_contra hne
    exact hrecords (hadded hne)
  intro row' hrow'
  rw [hsessions, List.append_nil] at hrow'
  obtain ⟨i, hi, rfl⟩ := List.mem_iff_getElem.mp hrow'
  have hlength : i < kept.length := by rw [hkept.length_eq]; exact hi
  exact ⟨kept[i], hsub.subset (List.getElem_mem hlength), hkept.get hlength hi⟩

/-- The device d cannot be reached when it is connected again, and the session that has ended is
ended again. -/
theorem end_time_rewritten :
    ¬ Machine.EachStep (Process.step (plainBackend .sqlite3)) EndsOnce
      (Application.start (tablesWith ["d"]) false false)
      (([served, served, served] ++ sessionUp "s" ++ connectionLost ++
        [asks 0 (requestFor "2" .connectDevice "d"), dispatched,
          .queue "d" ⟨true, .failed, true, true⟩]).map .app ++
        [.app (.database ⟨2, by decide, [], true, .isOpen⟩)]) := by
  intro h
  have hkept := (h.last rfl rfl).kept (by rintro ⟨-, hrecords⟩; revert hrecords; decide)
  exact absurd hkept (by decide)

end TkmCollector.Proofs
