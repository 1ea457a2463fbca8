import TkmCollector.Exchange
import TkmCollector.Proofs.ListClients

namespace TkmCollector.Proofs

open Application Exchange

section Streams

variable {b : Backend} {client : ClientId} {s s' : Application} {e : Application.Event}

lemma stream_eq (client : ClientId) (s : Application) :
    stream client s = ((s.sent.filter fun x => x.client = client).filter fun x => x.ok).map
      fun x => x.message := by
  unfold stream
  rw [List.filter_filter]
  congr 2
  funext x
  simp [Bool.and_comm]

lemma stream_sublist (client : ClientId) (s : Application) :
    (stream client s).Sublist (sentTo client s) := by
  rw [stream_eq]
  exact List.filter_sublist.map _

lemma step_stream (client : ClientId) (h : Application.step b s e = .ok s') :
    stream client s <+: stream client s' := by
  have hsent : s.sent <+: s'.sent := by
    cases turn_answerTurn (step_turn h) with
    | quiet _ entries new _ hdispatcher hsent => exact ⟨new, hsent.symm⟩
    | dispatched write entry rest o hq ho => exact List.prefix_append _ _
    | served io entry rest o hq ho => exact List.prefix_append _ _
  exact (hsent.filter _).map _

lemma step_clients (h : Application.step b s e = .ok s') (hold : client < s.nextClient)
    (hclient : client ∉ s.clients) : client < s'.nextClient ∧ client ∉ s'.clients := by
  have hother : ∀ event served, Application.onCollector b s event served = .ok s' →
      s'.nextClient = s.nextClient ∧ s'.clients = s.clients := by
    intro event served hevent
    unfold Application.onCollector at hevent
    split at hevent
    · cases hevent
    · rw [← Except.ok.inj hevent]
      exact ⟨rfl, rfl⟩
  have hread : ∀ (asking : ClientId) t, Relation.ReflTransGen (Ask asking) s t →
      t.nextClient = s.nextClient ∧ t.clients = s.clients := by
    intro asking t hasks
    induction hasks with
    | refl => exact ⟨rfl, rfl⟩
    | tail _ hlast ih => cases hlast <;> exact ih
  cases e with
  | accept =>
    rw [← Except.ok.inj h]
    refine ⟨Nat.lt_succ_of_lt hold, ?_⟩
    simp only [List.mem_append, List.mem_singleton, not_or]
    exact ⟨hclient, Nat.ne_of_lt hold⟩
  | control asking input last =>
    simp only [Application.step] at h
    split at h
    · rw [← Except.ok.inj h]
      exact ⟨hold, hclient⟩
    · obtain ⟨hnext, hclients⟩ := hread asking _ (readEnvelopes_asks asking last s input)
      rw [← Except.ok.inj h]
      split
      · rw [hnext, hclients]
        exact ⟨hold, hclient⟩
      · simp only [hnext, hclients]
        exact ⟨hold, fun hmem => hclient (List.mem_of_mem_filter hmem)⟩
  | dispatcher write =>
    simp only [Application.step] at h
    split at h
    · rw [← Except.ok.inj h]
      exact ⟨hold, hclient⟩
    · split at h
      · cases h
      · rw [← Except.ok.inj h]
        exact ⟨hold, hclient⟩
  | connection | finalize | queue | timer | database =>
    obtain ⟨hnext, hclients⟩ := hother _ _ h
    rw [hnext, hclients]
    exact ⟨hold, hclient⟩

lemma Forgotten.untouched (hs : Forgotten client s) (h : Application.step b s e = .ok s')
    (hreads : reads client e = false) : Untouched client s s' := by
  obtain ⟨hdispatcher, hqueue, hdevices⟩ := hs
  cases step_turn h with
  | idle => exact ⟨hdevices, rfl, rfl, rfl, rfl⟩
  | accept => exact ⟨hdevices, rfl, rfl, rfl, rfl⟩
  | control asking input last s₁ clients hasks =>
    have hother : asking ≠ client := by simpa [reads] using hreads
    have hread : Untouched client s s₁ := by
      clear h
      induction hasks with
      | refl => exact ⟨hdevices, rfl, rfl, rfl, rfl⟩
      | tail _ hlast ih =>
        have hlast := untouched_ask hlast hother ih.devices
        exact ⟨hlast.devices, hlast.dispatcher.trans ih.dispatcher, hlast.queue.trans ih.queue,
          hlast.asked.trans ih.asked, hlast.sent.trans ih.sent⟩
    exact ⟨hread.devices, hread.dispatcher, hread.queue, hread.asked, hread.sent⟩
  | dispatcher write entry rest o hq ho =>
    exact untouched_deliver hq ho (hdispatcher entry (by rw [hq]; exact List.mem_cons_self)) hdevices
  | device _ hash event d o he hget ho => exact untouched_device (not_control he) hget ho hdevices
  | database io entry rest o hq ho =>
    exact untouched_database hq ho (hqueue entry (by rw [hq]; exact List.mem_cons_self)) hdevices

lemma dispatcherOf_nil : dispatcherOf client s = [] ↔
    ∀ e ∈ s.dispatcher, e.request.client ≠ some client := by
  simp [dispatcherOf]

lemma queueOf_nil : queueOf client s = [] ↔
    ∀ e ∈ s.collector.queue, e.request.client ≠ some client := by
  simp [queueOf]

lemma askedBy_other (h : Application.step b s e = .ok s') (hreads : reads client e = false) :
    askedBy client s' = askedBy client s := by
  cases step_turn h with
  | control asking input last s₁ clients hasks =>
    have hother : asking ≠ client := by simpa [reads] using hreads
    have hread : askedBy client s₁ = askedBy client s := by
      clear h
      induction hasks with
      | refl => rfl
      | tail _ hlast ih =>
        obtain ⟨rq, hasked⟩ := ask_asked hlast
        rw [askedBy_append [rq] hasked, if_neg hother, List.append_nil, ih]
    exact hread
  | _ => rfl

lemma gone_step (hs : Gone client s) (h : Application.step b s e = .ok s') :
    Gone client s' ∧ stream client s' = stream client s := by
  obtain ⟨hold, hclient, hforgotten⟩ := hs
  obtain ⟨hold', hclient'⟩ := step_clients h hold hclient
  cases hreads : reads client e with
  | true =>
    have hsame : s' = s := by
      cases e with
      | control asking input last =>
        obtain rfl : asking = client := by simpa [reads] using hreads
        simp only [Application.step, if_pos hclient, Except.ok.injEq] at h
        exact h.symm
      | _ => simp [reads] at hreads
    rw [hsame]
    exact ⟨⟨hold, hclient, hforgotten⟩, rfl⟩
  | false =>
    have huntouched := Forgotten.untouched hforgotten h hreads
    refine ⟨⟨hold', hclient', ?_, ?_, huntouched.devices⟩, ?_⟩
    · exact dispatcherOf_nil.mp (huntouched.dispatcher.trans (dispatcherOf_nil.mpr hforgotten.1))
    · exact queueOf_nil.mp (huntouched.queue.trans (queueOf_nil.mpr hforgotten.2.1))
    · rw [stream_eq, stream_eq, huntouched.sent]

lemma readEnvelopes_known (client : ClientId) (last : MonitorDevice.ReadStatus) (s : Application)
    (requests : List (Control.Request × Bool)) (h : ∀ x ∈ requests, x.1.type ≠ .unknown) :
    (Application.readEnvelopes client last s (requests.map fun (rq, write) =>
      (⟨.control, rq⟩, write))).1.asked = s.asked ++ requests.map fun x => (client, x.1) := by
  induction requests generalizing s with
  | nil => simp [Application.readEnvelopes]
  | cons pair rest ih =>
    obtain ⟨rq, write⟩ := pair
    have hknown : rq.type ≠ .unknown := h (rq, write) List.mem_cons_self
    rw [List.map_cons, Application.readEnvelopes, if_neg (by simp)]
    cases hrq : ControlClient.requestHandler client rq write with
    | none => exact absurd (requestHandler_eq_none.mp hrq) hknown
    | some result =>
      obtain ⟨message, nrq⟩ := result
      simp only
      rw [ih _ fun x hx => h x (List.mem_cons_of_mem _ hx)]
      simp [Application.ask]

lemma step_known {last : MonitorDevice.ReadStatus} {requests : List (Control.Request × Bool)}
    (hclient : client ∈ s.clients) (hknown : ∀ x ∈ requests, x.1.type ≠ .unknown)
    (h : Application.step b s (.control client (requests.map fun (rq, write) =>
      (⟨.control, rq⟩, write)) last) = .ok s') :
    askedBy client s' = askedBy client s ++ requests.map fun x => x.1 := by
  have hasked : s'.asked = s.asked ++ requests.map fun x => (client, x.1) := by
    rw [← readEnvelopes_known client last s requests hknown]
    simp only [Application.step, hclient, not_true_eq_false, if_false, Except.ok.injEq] at h
    rw [← h]
    split <;> rfl
  rw [askedBy_append (requests.map fun x => x.1) (by simpa [Function.comp_def] using hasked), if_pos rfl]

end Streams

/-- The events of the utility that are not read from the collector change neither what it has read
nor its place in the loop. -/
lemma controlTurn_frame {s s' : ControlApp.State} {e : ControlApp.Event} (h : ControlTurn s e s') :
    s.sent <+: s'.sent ∧ ((∀ input last, e ≠ .connection input last) →
      s'.received = s.received ∧ s'.attached = s.attached) := by
  cases h with
  | written io rq rest hq ha => exact ⟨List.prefix_append _ _, fun _ => ⟨rfl, rfl⟩⟩
  | read input last added keep hc ha hread =>
    exact ⟨List.prefix_rfl, fun hother => absurd rfl (hother input last)⟩
  | _ => exact ⟨List.prefix_rfl, fun _ => ⟨rfl, rfl⟩⟩

lemma controlTurn_messages {s s' : ControlApp.State} {messages : List Control.Message}
    {last : MonitorDevice.ReadStatus}
    (h : ControlTurn s (.connection (messages.map fun m => ⟨.collector, some m⟩) last) s') :
    s' = s ∨ s.attached = true ∧ s'.received = s.received ++ messages ∧ s'.sent = s.sent ∧
      s'.attached = decide (last = .again) := by
  cases h with
  | idle => exact .inl rfl
  | read input last added keep hc ha hread =>
    rw [readEnvelopes_messages] at hread
    obtain ⟨hstate, hkeep⟩ := Prod.mk.inj hread
    have hreceived : s.received ++ messages = s.received ++ added :=
      congrArg ControlApp.State.received hstate
    exact .inr ⟨ha, hreceived.symm, rfl, hkeep.symm⟩

/-- What the utility has written, and what it has still to write. -/
def planned (s : ControlApp.State) : Multiset Control.Request := s.sent + upcoming s

/-- The books of the two programs: the collector has read the first requests of the utility, and
the utility the first messages of the collector, which are all there are once it has left. -/
structure Linked (client : ClientId) (s : Exchange) : Prop where
  books : ListClient client s.collector
  orderly : Orderly s.control
  introduces : ∀ rq ∈ planned s.control, Introduces rq
  once : Multiset.countP (fun rq => rq.id ≠ "RequestSession") (planned s.control) ≤ 1
  bound : s.taken ≤ s.control.sent.length
  taken : askedBy client s.collector = s.control.sent.take s.taken
  received : s.control.received <+: stream client s.collector
  ended : s.control.attached = false →
    (s.down = true ∨ Gone client s.collector) ∧ s.control.received = stream client s.collector

/-- The utility gets its descriptor to the collector. -/
def Introduced : Exchange.Event → Prop
  | .control e => DescriptorSent e
  | .collector _ | .ask _ | .receive _ => True

instance : DecidablePred Introduced := fun e => by
  unfold Introduced
  split <;> infer_instance

inductive ShowsState : Control.DeviceState → String → Prop
  | loaded : ShowsState .loaded "Loaded"
  | connected : ShowsState .connected "Connected"
  | disconnected : ShowsState .disconnected "Disconnected"
  | reconnecting : ShowsState .reconnecting "Reconnecting"
  | collecting : ShowsState .collecting "Collecting"
  | idle : ShowsState .idle "Idle"
  | unknown : ShowsState .unknown "Unknown"
  | sessionSet : ShowsState .sessionSet "Unknown"

inductive ShowsSessionState : Control.SessionState → String → Prop
  | progress : ShowsSessionState .progress "Progress"
  | complete : ShowsSessionState .complete "Complete"
  | unknown : ShowsSessionState .unknown "Unknown"

/-- The lines that tell the user of a device. -/
inductive ShowsDevice (d : Control.DeviceData) : List String → Prop
  | lines (state : String) (hstate : ShowsState d.state state) : ShowsDevice d
      ["Id\t: " ++ d.hash, "Name\t: " ++ d.name, "Address\t: " ++ d.address,
        "Port\t: " ++ toString d.port, "State\t: " ++ state]

/-- The lines that tell the user of a session. -/
inductive ShowsSession (d : Control.SessionData) : List String → Prop
  | lines (state : String) (hstate : ShowsSessionState d.state state) : ShowsSession d
      ["Id\t: " ++ d.hash, "Name\t: " ++ d.name, "Started\t: " ++ toString d.started,
        "Ended\t: " ++ toString d.ended, "State\t: " ++ state]

/-- Every entry is shown, in order and with an empty line between two. -/
inductive ShowsEach {α : Type} (Shows : α → List String → Prop) : List α → List String → Prop
  | nil : ShowsEach Shows [] []
  | last {a : α} {lines : List String} (ha : Shows a lines) : ShowsEach Shows [a] lines
  | cons {a a' : α} {entries : List α} {lines rest : List String} (ha : Shows a lines)
      (hrest : ShowsEach Shows (a' :: entries) rest) :
      ShowsEach Shows (a :: a' :: entries) (lines ++ "" :: rest)

/-- The text of a list on the terminal. -/
inductive ShowsList : Control.Message → List String → Prop
  | devices {list : List Control.DeviceData} {lines : List String}
      (h : ShowsEach ShowsDevice list lines) : ShowsList (.deviceList list)
        ("--------------------------------------------------" :: lines)
  | sessions {list : List Control.SessionData} {lines : List String}
      (h : ShowsEach ShowsSession list lines) : ShowsList (.sessionList list)
        ("--------------------------------------------------" :: lines)

lemma showsState_text (state : Control.DeviceState) : ShowsState state (ControlApp.deviceStateText state) := by
  cases state <;> constructor

lemma showsSessionState_text (state : Control.SessionState) :
    ShowsSessionState state (ControlApp.sessionStateText state) := by
  cases state <;> constructor

lemma showsEach_entryLines {α : Type} {Shows : α → List String → Prop} {f : α → List String}
    (h : ∀ a, Shows a (f a)) (entries : List α) :
    ShowsEach Shows entries (ControlApp.entryLines (entries.map f)) := by
  induction entries with
  | nil => exact .nil
  | cons a entries ih =>
    cases entries with
    | nil =>
      rw [ControlApp.entryLines, List.map_cons, List.map_nil, List.intercalate_singleton]
      exact .last (h a)
    | cons a' entries =>
      rw [ControlApp.entryLines, List.map_cons, List.map_cons, List.intercalate_cons_cons, List.append_assoc]
      exact .cons (h a) ih

lemma showsList_lines {m : Control.Message} (h : IsList m) : ShowsList m (listLines m) := by
  cases m with
  | deviceList list =>
    exact .devices (showsEach_entryLines (fun d => ShowsDevice.lines _ (showsState_text d.state)) list)
  | sessionList list =>
    exact .sessions
      (showsEach_entryLines (fun d => ShowsSession.lines _ (showsSessionState_text d.state)) list)
  | setSession | status => cases h

/-- A utility that has exited has printed the lists that were written to it, each in one piece. -/
def ListsPrinted (client : ClientId) (s : Exchange) : Prop :=
  s.control.exited = true → ∀ m ∈ stream client s.collector, IsList m →
    ∃ lines, ShowsList m lines ∧ lines <:+: s.control.printed

section Exchanges

variable {b : Backend} {hashForDevice : Control.DeviceData → String} {client : ClientId}
  {s s' : Exchange}

lemma Linked.introduces_sent (hs : Linked client s) {rq : Control.Request}
    (hrq : rq ∈ s.control.sent) : Introduces rq :=
  hs.introduces rq (Multiset.mem_add.mpr (.inl (Multiset.mem_coe.mpr hrq)))

lemma Linked.asksOnce (hs : Linked client s) : AsksOnce client s.collector := by
  unfold AsksOnce
  rw [hs.taken]
  calc (s.control.sent.take s.taken).countP (fun rq => rq.id ≠ "RequestSession")
      ≤ s.control.sent.countP (fun rq => rq.id ≠ "RequestSession") :=
        (List.take_sublist _ _).countP_le
    _ ≤ Multiset.countP (fun rq => rq.id ≠ "RequestSession") (planned s.control) := by
        rw [planned, Multiset.countP_add, Multiset.coe_countP]
        exact Nat.le_add_right _ _
    _ ≤ 1 := hs.once

lemma linked_collector {e : Application.Event} {c : Application} (hs : Linked client s)
    (hdown : s.down = false) (h : Application.step b s.collector e = .ok c) (count : Nat)
    (hbound : s.taken + count ≤ s.control.sent.length)
    (hasked : askedBy client c = s.control.sent.take (s.taken + count)) :
    Linked client { s with collector := c, taken := s.taken + count } := by
  constructor
  · refine listClient_turn (step_turn h) ?_ hs.asksOnce hs.books
    rw [hasked]
    exact fun rq hrq => hs.introduces_sent (List.mem_of_mem_take hrq)
  · exact hs.orderly
  · exact hs.introduces
  · exact hs.once
  · exact hbound
  · exact hasked
  · exact hs.received.trans (step_stream client h)
  · intro hattached
    obtain ⟨hno | hgone, hreceived⟩ := hs.ended hattached
    · rw [hdown] at hno
      cases hno
    · obtain ⟨hgone', hstream⟩ := gone_step hgone h
      exact ⟨.inr hgone', hreceived.trans hstream.symm⟩

lemma linked_down (hs : Linked client s) : Linked client { s with down := true } where
  books := hs.books
  orderly := hs.orderly
  introduces := hs.introduces
  once := hs.once
  bound := hs.bound
  taken := hs.taken
  received := hs.received
  ended := fun h => ⟨.inl rfl, (hs.ended h).2⟩

lemma linked_control {e : ControlApp.Event} {c : ControlApp.State} (hs : Linked client s)
    (hsent : DescriptorSent e) (h : ControlApp.step hashForDevice s.control e = .ok c)
    (hreceived : c.received <+: stream client s.collector)
    (hended : c.attached = false → (s.down = true ∨ Gone client s.collector) ∧
      c.received = stream client s.collector) : Linked client { s with control := c } := by
  have hturn := step_controlTurn hs.orderly.commands hs.orderly.expected h
  have hle := upcoming_turn hturn
  have hprefix := (controlTurn_frame hturn).1
  constructor
  · exact hs.books
  · exact orderly_step hs.orderly hsent h
  · exact fun rq hrq => hs.introduces rq (Multiset.mem_of_le hle hrq)
  · exact (Multiset.countP_le_of_le _ hle).trans hs.once
  · exact hs.bound.trans hprefix.length_le
  · obtain ⟨new, hnew⟩ := hprefix
    rw [hs.taken, ← hnew, List.take_append_of_le_length hs.bound]
  · exact hreceived
  · exact hended

/-- What the collector reads of the utility is what the utility wrote, in order. -/
lemma asking_requests (s : Exchange) (writes : List Bool) :
    ∃ requests : List (Control.Request × Bool),
      (s.asking writes).1 = requests.map (fun (rq, write) => (⟨.control, rq⟩, write)) ∧
      requests.map (fun x => x.1) = (s.control.sent.drop s.taken).take requests.length := by
  refine ⟨(s.control.sent.drop s.taken).zip writes, rfl, ?_⟩
  rw [List.length_zip, List.zip_eq_zip_take_min, List.map_fst_zip]
  simp

lemma introduces_known {rq : Control.Request} (h : Introduces rq) : rq.type ≠ .unknown := by
  intro htype
  simp [Introduces, htype] at h

lemma receive_turn {count : Nat} {c : ControlApp.State} (hs : Linked client s)
    (h : ControlTurn s.control (.connection (receiving client s count).1 (receiving client s count).2)
      c) : c.received <+: stream client s.collector ∧ (c.attached = false →
      (s.down = true ∨ Gone client s.collector) ∧ c.received = stream client s.collector) := by
  obtain ⟨rest, hrest⟩ := hs.received
  have hdrop : (stream client s.collector).drop s.control.received.length = rest := by
    rw [← hrest, List.drop_left]
  have hinput : (receiving client s count).1 =
      (rest.take count).map fun m => ⟨.collector, some m⟩ := by
    simp only [receiving, hdrop]
  rw [hinput] at h
  obtain rfl | ⟨hattached, hreceived, hsent, hkeep⟩ := controlTurn_messages h
  · exact ⟨hs.received, hs.ended⟩
  · rw [hreceived, ← hrest]
    refine ⟨(List.prefix_append_right_inj _).mpr (List.take_prefix _ _), ?_⟩
    rw [hkeep, decide_eq_false_iff_not]
    intro hlast
    simp only [receiving, hdrop] at hlast
    split at hlast
    · rename_i hgone
      exact ⟨hgone.1, by rw [List.take_of_length_le hgone.2]⟩
    · exact absurd rfl hlast

lemma linked_step {e : Exchange.Event} (hs : Linked client s)
    (hsent : Introduced e) (h : Exchange.step b hashForDevice client s e = .ok s') : Linked client s' := by
  cases e with
  | collector event =>
    simp only [Exchange.step] at h
    split at h
    · rw [← Except.ok.inj h]
      exact hs
    · rename_i hup
      simp only [not_or, Bool.not_eq_true] at hup
      rw [← Except.ok.inj h]
      unfold Exchange.onCollector
      split
      · rename_i c hc
        apply linked_collector hs hup.1 hc 0 hs.bound
        rw [Nat.add_zero, ← hs.taken]
        exact askedBy_other hc hup.2
      · exact linked_down hs
  | ask writes =>
    simp only [Exchange.step] at h
    split at h
    · rw [← Except.ok.inj h]
      exact hs
    · rename_i hup
      simp only [not_or, Bool.not_eq_true, not_not] at hup
      rw [← Except.ok.inj h]
      obtain ⟨requests, hinput, hrequests⟩ := asking_requests s writes
      have hlength : requests.length ≤ (s.control.sent.drop s.taken).length := by
        have hlen := congrArg List.length hrequests
        rw [List.length_map, List.length_take] at hlen
        omega
      rw [List.length_drop] at hlength
      unfold Exchange.onCollector
      split
      · rename_i c hc
        have hcount : (s.asking writes).1.length = requests.length := by rw [hinput, List.length_map]
        have hbound := hs.bound
        rw [hcount]
        apply linked_collector hs hup.1 hc requests.length (by omega)
        rw [hinput] at hc
        rw [step_known hup.2 ?_ hc, hs.taken, hrequests, List.take_add]
        intro x hx
        apply introduces_known
        apply hs.introduces_sent
        have hmem : x.1 ∈ requests.map fun x => x.1 := List.mem_map_of_mem hx
        rw [hrequests] at hmem
        exact List.mem_of_mem_drop (List.mem_of_mem_take hmem)
      · exact linked_down hs
  | control event =>
    have hother : s.onControl hashForDevice event = .ok s' →
        (∀ input last, event ≠ .connection input last) → Linked client s' := by
      intro hevent hevents
      unfold onControl at hevent
      split at hevent
      · rename_i c hc
        obtain ⟨-, hframe⟩ := controlTurn_frame
          (step_controlTurn hs.orderly.commands hs.orderly.expected hc)
        obtain ⟨hreceived, hattached⟩ := hframe hevents
        rw [← Except.ok.inj hevent]
        refine linked_control hs hsent hc ?_ ?_
        · rw [hreceived]
          exact hs.received
        · rw [hreceived, hattached]
          exact hs.ended
      · cases hevent
    cases event with
    | connection input last =>
      rw [← Except.ok.inj h]
      exact hs
    | queue io => exact hother h fun _ _ => nofun
    | command => exact hother h fun _ _ => nofun
  | receive count =>
    simp only [Exchange.step, onControl] at h
    split at h
    · rename_i c hc
      rw [← Except.ok.inj h]
      obtain ⟨hreceived, hended⟩ := receive_turn hs
        (step_controlTurn hs.orderly.commands hs.orderly.expected hc)
      have hquiet : DescriptorSent (.connection (receiving client s count).1
        (receiving client s count).2) := trivial
      exact linked_control hs hquiet hc hreceived hended
    · cases h

lemma Linked.printed (hs : Linked client s) : ListsPrinted client s := by
  intro hx m hm hlist
  have hlists : ListsFirst (stream client s.collector) :=
    hs.books.lists.sublist (stream_sublist client s.collector)
  have hread : m ∈ s.control.received := by
    obtain ⟨x, hx, hends⟩ | hattached | hconnected := hs.orderly.reason (.inr hx)
    · obtain ⟨rest, hrest⟩ := hs.received
      rw [← hrest] at hm hlists
      obtain hread | hbehind := List.mem_append.mp hm
      · exact hread
      · exact absurd hlist ((List.pairwise_append.mp hlists).2.2 x hx m hbehind hends)
    · rw [(hs.ended hattached).2]
      exact hm
    · have hasked : askedBy client s.collector = [] := by
        rw [hs.taken, (hs.orderly.fresh hconnected).2.1, List.take_nil]
      have hnone := (stream_sublist client s.collector).subset hm
      rw [hs.books.silent hasked] at hnone
      cases hnone
  have hprinted := hs.orderly.exits hx (hlists.sublist hs.received.sublist) m hread hlist
  exact ⟨listLines m, showsList_lines hlist, hprinted⟩

end Exchanges

lemma linked_start (client : ClientId) (tables : Tables) (erase failed : Bool)
    {request : ControlApp.Command.Request} (h : request.action ∈ [.getDevices, .getSessions]) :
    Linked client (Exchange.start tables erase failed [request]) := by
  have hplanned : planned (ControlApp.start [request]) =
      (sessionAsked :: (commandWrites request).toList : List Control.Request) := by
    unfold planned upcoming
    cases hcommand : commandWrites request <;>
      simp [ControlApp.start, ControlApp.request, writes, hcommand]
  have hget : ∀ rq, commandWrites request = some rq →
      rq.type ∈ [.getDevices, .getSessions] ∧ rq.id ≠ "RequestSession" := by
    intro rq hrq
    simp only [List.mem_cons, List.not_mem_nil, or_false] at h
    obtain ha | ha := h
    · simp only [commandWrites, ControlApp.Command.Request.toRequest, ha,
        ControlApp.Command.Request.push, ControlApp.copyArgs, writes, Option.some.injEq] at hrq
      rw [← hrq]
      decide
    · simp only [commandWrites, ControlApp.Command.Request.toRequest, ha, writes,
        Option.some.injEq] at hrq
      rw [← hrq]
      exact ⟨by simp, by simp⟩
  constructor
  · exact listClient_start client tables erase failed
  · apply orderly_start
    intro r hr
    rw [List.mem_singleton.mp hr]
    exact h
  · intro rq hrq
    change rq ∈ planned (ControlApp.start [request]) at hrq
    rw [hplanned] at hrq
    obtain rfl | hrq := List.mem_cons.mp (Multiset.mem_coe.mp hrq)
    · exact .inl ⟨rfl, rfl⟩
    · exact .inr (hget rq (Option.mem_toList.mp hrq))
  · change Multiset.countP _ (planned (ControlApp.start [request])) ≤ 1
    rw [hplanned, Multiset.coe_countP, List.countP_cons_of_neg (by decide)]
    refine List.countP_le_length.trans ?_
    cases commandWrites request <;> simp
  · exact Nat.le_refl _
  · rfl
  · exact List.prefix_rfl
  · intro hattached
    cases hattached

/-- The list is the first answer to the entry of the database queue, and the status the second. -/
def Answered (client : ClientId) (id : String) (list : Control.Message) (n : Nat) (s : Application) :
    Prop :=
  ∃ write reason, answersTo n s = [⟨client, list, true, some n⟩,
    ⟨client, .status ⟨id, .ok, reason⟩, write, some n⟩]

lemma answered_of_drained {client : ClientId} {id : String} {list : Control.Message} {n : Nat}
    {s : Application} (hs : Answering client id list n s) (h : s.dispatcher = []) :
    Answered client id list n s := by
  cases hs with
  | waiting entry _ _ hwaiting =>
    rw [waitingFor, h] at hwaiting
    cases hwaiting
  | answered write reason _ hsent => exact ⟨write, reason, hsent⟩

section Applications

variable {b : Backend} {s s' : Application}

lemma tagged_reachable {tables : Tables} {erase failed : Bool}
    (h : Machine.Reachable (Application.step b) (Application.start tables erase failed) s) :
    Tagged s ∧ ListsInOrder s := by
  obtain ⟨events, hrun⟩ := h
  have hstep : Machine.Preserves (Application.step b) (fun _ _ => True)
      (fun s => Tagged s ∧ ListsInOrder s) := fun s e s' hs _ h =>
    ⟨tagged_turn (step_turn h) hs.1, listsInOrder_turn (step_turn h) hs.2⟩
  exact Machine.invariant_run hstep ⟨tagged_start tables erase failed, listsInOrder_start _ _ _⟩
    (Machine.guarded_true _ _) hrun

lemma answering_run {client : ClientId} {id : String} {list : Control.Message} {n : Nat}
    {events : List Application.Event} (hs : Tagged s ∧ Answering client id list n s)
    (h : Machine.run (Application.step b) s events = .ok s') : Answering client id list n s' := by
  have hstep : Machine.Preserves (Application.step b) (fun _ _ => True)
      (fun s => Tagged s ∧ Answering client id list n s) := fun s e s' hs _ h =>
    ⟨tagged_turn (step_turn h) hs.1, answering_turn (step_turn h) hs.1 hs.2⟩
  exact (Machine.invariant_run hstep hs (Machine.guarded_true _ _) h).2

end Applications

/-- A dispatch of the utility in which no system call fails. -/
def controlUp : Exchange.Event := .control (.queue ⟨true, true, true⟩)

end TkmCollector.Proofs
