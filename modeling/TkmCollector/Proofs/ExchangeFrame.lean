import TkmCollector.Proofs.FairAnswers
import TkmCollector.Proofs.UtilitySession

namespace TkmCollector.Proofs

open Application Exchange

variable {b : Backend} {hashForDevice : Control.DeviceData → String} {client : ClientId}

/-- What a step of the two programs is for the collector. -/
def collectorEvent (client : ClientId) (s : Exchange) : Exchange.Event → Application.Event
  | .collector e => if reads client e then .control client [] .again else e
  | .ask writes => .control client (s.asking writes).1 (s.asking writes).2
  | .control _ | .receive _ => .control client [] .again

/-- What a step of the two programs is for the utility. -/
def controlEvent (client : ClientId) (s : Exchange) : Exchange.Event → ControlApp.Event
  | .collector _ | .ask _ | .control (.connection _ _) => .connection [] .again
  | .control e => e
  | .receive count => .connection (receiving client s count).1 (receiving client s count).2

section Parts

variable {s s' : Exchange} {e : Exchange.Event}

lemma step_reads_nothing (s : Application) :
    Application.step b s (.control client [] .again) = .ok s := by
  simp [Application.step, Application.readEnvelopes]

lemma step_receives_nothing (s : ControlApp.State) :
    ControlApp.step hashForDevice s (.connection [] .again) = .ok s := by
  simp [ControlApp.step, ControlApp.readEnvelopes]

lemma step_collector (h : Exchange.step b hashForDevice client s e = .ok s') :
    Application.step b s.collector (collectorEvent client s e) = .ok s'.collector ∨
      s'.down = true ∧ s'.collector = s.collector := by
  have hown : ∀ event count, s' = s.onCollector b event count →
      Application.step b s.collector event = .ok s'.collector ∨
        s'.down = true ∧ s'.collector = s.collector := by
    intro event count hs'
    rw [hs']
    unfold Exchange.onCollector
    split
    · rename_i collector hcollector
      exact .inl hcollector
    · exact .inr ⟨rfl, rfl⟩
  have hidle : s'.collector = s.collector →
      Application.step b s.collector (.control client [] .again) = .ok s'.collector := by
    intro hsame
    rw [hsame]
    exact step_reads_nothing s.collector
  cases e with
  | collector event =>
    simp only [Exchange.step] at h
    split at h
    · rename_i hstays
      rw [← Except.ok.inj h]
      obtain hdown | hreads := hstays
      · exact .inr ⟨hdown, rfl⟩
      · rw [collectorEvent, if_pos hreads]
        exact .inl (step_reads_nothing s.collector)
    · rename_i hruns
      rw [not_or] at hruns
      rw [collectorEvent, if_neg hruns.2]
      exact hown event 0 (Except.ok.inj h).symm
  | ask writes =>
    simp only [Exchange.step] at h
    split at h
    · rename_i hstays
      rw [← Except.ok.inj h]
      obtain hdown | hout := hstays
      · exact .inr ⟨hdown, rfl⟩
      · exact .inl (by simp [collectorEvent, Application.step, hout])
    · exact hown _ _ (Except.ok.inj h).symm
  | control event =>
    refine .inl (hidle ?_)
    cases event with
    | connection input last => rw [← Except.ok.inj h]
    | queue | command =>
      simp only [Exchange.step, Exchange.onControl] at h
      split at h
      · rw [← Except.ok.inj h]
      · cases h
  | receive count =>
    refine .inl (hidle ?_)
    simp only [Exchange.step, Exchange.onControl] at h
    split at h
    · rw [← Except.ok.inj h]
    · cases h

lemma step_control (h : Exchange.step b hashForDevice client s e = .ok s') :
    ControlApp.step hashForDevice s.control (controlEvent client s e) = .ok s'.control := by
  have hown : ∀ event, s.onControl hashForDevice event = .ok s' →
      ControlApp.step hashForDevice s.control event = .ok s'.control := by
    intro event hevent
    unfold Exchange.onControl at hevent
    split at hevent
    · rename_i control hcontrol
      rw [hcontrol, ← Except.ok.inj hevent]
    · cases hevent
  have hidle : s'.control = s.control →
      ControlApp.step hashForDevice s.control (.connection [] .again) = .ok s'.control := by
    intro hsame
    rw [hsame]
    exact step_receives_nothing s.control
  have hcollector : ∀ event count, (s.onCollector b event count).control = s.control := by
    intro event count
    unfold Exchange.onCollector
    split <;> rfl
  cases e with
  | collector event =>
    apply hidle
    simp only [Exchange.step] at h
    split at h
    · rw [← Except.ok.inj h]
    · rw [← Except.ok.inj h, hcollector]
  | ask writes =>
    apply hidle
    simp only [Exchange.step] at h
    split at h
    · rw [← Except.ok.inj h]
    · rw [← Except.ok.inj h, hcollector]
  | control event =>
    cases event with
    | connection input last =>
      apply hidle
      rw [← Except.ok.inj h]
    | queue | command => exact hown _ h
  | receive count => exact hown _ h

lemma step_down (h : Exchange.step b hashForDevice client s e = .ok s') (hdown : s.down = true) :
    s'.down = true ∧ s'.collector = s.collector := by
  have hcontrol : ∀ event, s.onControl hashForDevice event = .ok s' →
      s'.down = true ∧ s'.collector = s.collector := by
    intro event hevent
    unfold Exchange.onControl at hevent
    split at hevent
    · rw [← Except.ok.inj hevent]
      exact ⟨hdown, rfl⟩
    · cases hevent
  cases e with
  | collector event | ask writes =>
    simp only [Exchange.step, hdown, true_or, if_true, Except.ok.injEq] at h
    rw [← h]
    exact ⟨hdown, rfl⟩
  | control event =>
    cases event with
    | connection input last =>
      rw [← Except.ok.inj h]
      exact ⟨hdown, rfl⟩
    | queue | command => exact hcontrol _ h
  | receive count => exact hcontrol _ h

lemma controlEvent_queue {s : Exchange} {e : Exchange.Event} {io : ControlApp.Io} :
    controlEvent client s e = .queue io ↔ e = .control (.queue io) := by
  cases e with
  | control event => cases event <;> simp [controlEvent]
  | _ => simp [controlEvent]

lemma step_askedBy {s s' : Application} {e : Application.Event}
    (h : Application.step b s e = .ok s') : askedBy client s <+: askedBy client s' := by
  obtain ⟨new, hnew, -⟩ := (taken_turn (step_turn h)).asked
  unfold askedBy
  rw [hnew, List.filter_append, List.map_append]
  exact List.prefix_append _ _

lemma step_ask {writes : List Bool} (h : Exchange.step b hashForDevice client s (.ask writes) = .ok s')
    (hup : s'.down = false) (hclient : client ∈ s.collector.clients) (hwrites : writes ≠ [])
    (hmore : s.taken < s.control.sent.length) : s.taken < s'.taken := by
  simp only [Exchange.step, hclient, not_true_eq_false, or_false] at h
  split at h
  · rename_i hdown
    rw [← Except.ok.inj h, hdown] at hup
    cases hup
  · rw [← Except.ok.inj h] at hup ⊢
    unfold Exchange.onCollector at hup ⊢
    split at hup
    · have hlength : 0 < (s.asking writes).1.length := by
        have hpos := List.length_pos_of_ne_nil hwrites
        simp only [Exchange.asking, List.length_map, List.length_zip, List.length_drop]
        omega
      exact Nat.lt_add_of_pos_right hlength
    · cases hup

/-- The utility reads what was written to it, and leaves behind the last message of a collector that
has ended. -/
lemma step_receive {count : ℕ}
    (h : Exchange.step b hashForDevice client s (.receive count) = .ok s')
    (hruns : s.control.exited = false) (hc : s.control.connected = true)
    (ha : s.control.attached = true) :
    s'.control.received = s.control.received ++
        ((stream client s.collector).drop s.control.received.length).take count ∧
      (s.down = true → (stream client s.collector).length ≤ s.control.received.length + count →
        s'.control.attached = false) := by
  have hstep := step_control h
  simp only [controlEvent, ControlApp.step, receiving, readEnvelopes_messages, hruns, hc, ha,
    Bool.false_eq_true, if_false, Bool.true_eq_false, or_false, Except.ok.injEq] at hstep
  rw [← hstep]
  constructor
  · split <;> rfl
  · intro hdown hshort
    have hlast : (stream client s.collector).length - s.control.received.length ≤ count := by omega
    simp [hdown, hlast, ControlApp.State.pushRequest]

end Parts

section Clients

variable {s s' : Application} {e : Application.Event}

lemma readEnvelopes_keeps (client : ClientId) (last : MonitorDevice.ReadStatus) (s : Application)
    (requests : List (Control.Request × Bool)) (h : ∀ x ∈ requests, x.1.type ≠ .unknown) :
    (Application.readEnvelopes client last s (requests.map fun (rq, write) =>
      (⟨.control, rq⟩, write))).2 = decide (last = .again) := by
  induction requests generalizing s with
  | nil => rfl
  | cons pair rest ih =>
    obtain ⟨rq, write⟩ := pair
    rw [List.map_cons, Application.readEnvelopes, if_neg (by simp)]
    cases hrq : ControlClient.requestHandler client rq write with
    | none => exact absurd (requestHandler_eq_none.mp hrq) (h (rq, write) List.mem_cons_self)
    | some result =>
      simp only
      exact ih _ fun x hx => h x (List.mem_cons_of_mem _ hx)

lemma keeps_client (h : Application.step b s e = .ok s')
    (hkeeps : ∀ input last, e = .control client input last →
      (Application.readEnvelopes client last s input).2 = true)
    (hs : client < s.nextClient → client ∈ s.clients) :
    s.nextClient ≤ s'.nextClient ∧ (client < s'.nextClient → client ∈ s'.clients) := by
  have hread : ∀ (asking : ClientId) t, Relation.ReflTransGen (Ask asking) s t →
      t.nextClient = s.nextClient ∧ t.clients = s.clients := by
    intro asking t hasks
    induction hasks with
    | refl => exact ⟨rfl, rfl⟩
    | tail _ hlast ih => cases hlast <;> exact ih
  cases e with
  | accept =>
    rw [← Except.ok.inj h]
    refine ⟨Nat.le_succ _, fun hlt => ?_⟩
    obtain hold | rfl := Nat.lt_succ_iff_lt_or_eq.mp hlt
    · exact List.mem_append_left _ (hs hold)
    · exact List.mem_append_right _ List.mem_cons_self
  | control asking input last =>
    simp only [Application.step] at h
    split at h
    · rw [← Except.ok.inj h]
      exact ⟨le_rfl, hs⟩
    · obtain ⟨hnext, hclients⟩ := hread asking _ (readEnvelopes_asks asking last s input)
      rw [← Except.ok.inj h]
      split
      · rw [hnext, hclients]
        exact ⟨le_rfl, hs⟩
      · rename_i hends
        refine ⟨hnext.ge, fun hlt => ?_⟩
        have hother : client ≠ asking := by
          rintro rfl
          exact hends (hkeeps input last rfl)
        rw [hnext] at hlt
        rw [hclients]
        exact List.mem_filter.mpr ⟨hs hlt, by simpa using hother⟩
  | dispatcher | connection | finalize | queue | timer | database =>
    cases step_turn h <;> exact ⟨le_rfl, hs⟩

lemma asked_of_askedBy {rq : Control.Request} (h : Application.step b s e = .ok s')
    (hrq : rq ∈ (askedBy client s').drop (askedBy client s).length) :
    (client, rq) ∈ s'.asked.drop s.asked.length := by
  obtain ⟨new, hnew, -⟩ := (taken_turn (step_turn h)).asked
  unfold askedBy at hrq
  rw [hnew, List.filter_append, List.map_append, List.drop_left] at hrq
  obtain ⟨x, hx, rfl⟩ := List.mem_map.mp hrq
  obtain ⟨hmem, hclient⟩ := List.mem_filter.mp hx
  rw [hnew, List.drop_left]
  obtain rfl : x.1 = client := by simpa using hclient
  exact hmem

lemma session_message {rq : Control.Request} {write : Bool} {message : Option Control.Message}
    {nrq : Dispatcher.Request}
    (h : ControlClient.requestHandler client rq write = some (message, nrq))
    (htype : rq.type = .requestSession) :
    message = some (.setSession rq.payload.unpackSessionInfo) := by
  simp only [ControlClient.requestHandler, htype, ControlClient.doRequestSession, Option.some.injEq,
    Prod.mk.injEq] at h
  exact h.1.symm

/-- A client that asks for a session gets one. -/
def SessionsSet (s : Application) : Prop :=
  ∀ x ∈ s.asked, x.2.type = .requestSession →
    ∃ info ok served, (⟨x.1, .setSession info, ok, served⟩ : Sent) ∈ s.sent

lemma sessionsSet_turn (h : Turn b s e s') (hs : SessionsSet s) : SessionsSet s' := by
  have hadded : ∀ new : List Sent, ∀ x ∈ s.asked, x.2.type = .requestSession →
      ∃ info ok served, (⟨x.1, .setSession info, ok, served⟩ : Sent) ∈ s.sent ++ new := by
    intro new x hx htype
    obtain ⟨info, ok, served, hmem⟩ := hs x hx htype
    exact ⟨info, ok, served, List.mem_append_left _ hmem⟩
  cases h with
  | idle | accept | device => exact hs
  | dispatcher | database => exact hadded _
  | control asking input last s₁ clients hasks =>
    have hread : SessionsSet s₁ := by
      clear hadded
      induction hasks with
      | refl => exact hs
      | tail _ hlast ih =>
        cases hlast with
        | unknown rq hrq =>
          intro x hx htype
          obtain hold | hnew := List.mem_append.mp hx
          · exact ih x hold htype
          · rw [List.mem_singleton.mp hnew, requestHandler_eq_none.mp (hrq true)] at htype
            cases htype
        | known rq write message nrq hrq =>
          intro x hx htype
          obtain hold | hnew := List.mem_append.mp hx
          · obtain ⟨info, ok, served, hmem⟩ := ih x hold htype
            exact ⟨info, ok, served, List.mem_append_left _ hmem⟩
          · -- the session is set when the request is read
            rw [List.mem_singleton.mp hnew] at htype ⊢
            rw [session_message hrq htype]
            exact ⟨_, write, none, List.mem_append_right _ List.mem_cons_self⟩
    exact hread

end Clients

section Queue

variable {s s' : ControlApp.State} {rq : ControlApp.Dispatcher.Request} {io : ControlApp.Io}

@[simp] lemma write_queue (asked : Control.Request) : (s.write io asked).queue = s.queue := by
  rw [write_eq]

lemma handler_queue (h : ControlApp.requestHandler hashForDevice s rq io = .ok s') :
    s.queue <+: s'.queue := by
  unfold ControlApp.requestHandler at h
  cases ha : rq.action with
  | connect =>
    simp only [ha, ControlApp.doConnect, Except.ok.injEq] at h
    rw [← h]
    split <;> exact List.prefix_append _ _
  | sendDescriptor =>
    simp only [ha, Except.ok.injEq] at h
    rw [← h]
    exact List.prefix_append _ _
  | requestSession | initDatabase | getDevices | getSessions =>
    simp only [ha, Except.ok.injEq] at h
    rw [← h]
    simp [ControlApp.doRequestSession, ControlApp.doInitDatabase, ControlApp.doGetDevices,
      ControlApp.doGetSessions]
  | quitCollector =>
    simp only [ha, ControlApp.doQuitCollector, Except.ok.injEq] at h
    rw [← h]
    simp [ControlApp.State.pushRequest, ControlApp.State.print]
  | quit =>
    simp only [ha, Except.ok.injEq] at h
    rw [← h]
    exact List.prefix_rfl
  | setSession =>
    simp only [ha, ControlApp.doSetSession] at h
    split at h
    · rw [← Except.ok.inj h]
    · cases h
  | collectorStatus =>
    simp only [ha, ControlApp.doCollectorStatus] at h
    split at h
    · split at h
      · rw [← Except.ok.inj h]
      · rw [← Except.ok.inj h]
        exact List.prefix_append _ _
    · cases h
  | deviceList =>
    simp only [ha, ControlApp.doDeviceList] at h
    split at h
    · rw [← Except.ok.inj h]
      exact List.prefix_rfl
    · cases h
  | sessionList =>
    simp only [ha, ControlApp.doSessionList] at h
    split at h
    · rw [← Except.ok.inj h]
      exact List.prefix_rfl
    · cases h
  | addDevice =>
    simp only [ha, ControlApp.doAddDevice] at h
    split at h
    · split at h
      · cases h
      · rw [← Except.ok.inj h, write_queue]
    all_goals cases h
  | removeSession =>
    simp only [ha, ControlApp.doRemoveSession] at h
    split at h
    · cases h
    · rw [← Except.ok.inj h, write_queue]
  | removeDevice | connectDevice | disconnectDevice | startCollecting | stopCollecting =>
    simp only [ha, ControlApp.doRemoveDevice, ControlApp.doConnectDevice,
      ControlApp.doDisconnectDevice, ControlApp.doStartCollecting, ControlApp.doStopCollecting,
      ControlApp.writeForDevice] at h
    split at h
    · cases h
    · rw [← Except.ok.inj h, write_queue]

lemma pushCommands_queue {commands : List ControlApp.Command.Request}
    (h : ControlApp.pushCommands s commands = .ok s') :
    ∃ added, s' = { s with queue := s.queue ++ added } := by
  obtain ⟨added, hs', -⟩ := @pushCommands_asks (fun _ => "") s s' commands h
  exact ⟨added, hs'⟩

lemma step_queue {e : ControlApp.Event} (h : ControlApp.step hashForDevice s e = .ok s')
    (hruns : s.exited = false) :
    (∃ io rq rest, e = .queue io ∧ s.queue = rq :: rest ∧
        ControlApp.requestHandler hashForDevice { s with queue := rest } rq io = .ok s') ∨
      (∀ io, e = .queue io → s.queue = []) ∧ s.queue <+: s'.queue := by
  unfold ControlApp.step at h
  rw [if_neg (by simp [hruns])] at h
  cases e with
  | queue io =>
    simp only at h
    cases hq : s.queue with
    | nil => exact .inr ⟨fun _ _ => rfl, List.nil_prefix⟩
    | cons rq rest =>
      simp only [hq] at h
      exact .inl ⟨io, rq, rest, rfl, rfl, h⟩
  | connection input last =>
    refine .inr ⟨fun _ hevent => (by cases hevent), ?_⟩
    obtain ⟨added, keep, hread⟩ := readEnvelopes_added last s input
    simp only [hread] at h
    split at h
    · rw [← Except.ok.inj h]
    · rw [← Except.ok.inj h]
      cases keep with
      | true => exact List.prefix_append _ _
      | false => simp [ControlApp.State.pushRequest]
  | command =>
    refine .inr ⟨fun _ hevent => (by cases hevent), ?_⟩
    simp only at h
    split at h
    · obtain ⟨added, rfl⟩ := pushCommands_queue h
      exact List.prefix_append _ _
    · rw [← Except.ok.inj h]

lemma stays_attached {e : ControlApp.Event} (h : ControlApp.step hashForDevice s e = .ok s')
    (ha : s.attached = true) : s'.attached = true ∨ ∃ rq ∈ s'.queue, rq.action = .quit := by
  cases e with
  | connection input last =>
    unfold ControlApp.step at h
    split at h
    · rw [← Except.ok.inj h]
      exact .inl ha
    · obtain ⟨added, keep, hread⟩ := readEnvelopes_added last s input
      simp only [hread] at h
      split at h
      · rw [← Except.ok.inj h]
        exact .inl ha
      · rw [← Except.ok.inj h]
        cases keep with
        | true => exact .inl ha
        | false =>
          exact .inr ⟨ControlApp.request .quit, List.mem_append_right _ List.mem_cons_self, rfl⟩
  | queue | command => cases step_utilityTurn h <;> exact .inl ha

lemma stays_connected {commands : List ControlApp.Command.Request} {e : ControlApp.Event}
    (hs : SessionFirst hashForDevice commands s) (h : UtilityTurn hashForDevice s e s')
    (hc : s.connected = true) : s'.connected = true := by
  cases h with
  | introduced io rq next rest connected printed hq ha hnext hlast hconnected =>
    have hmem : rq ∈ s.queue := by
      rw [hq]
      exact List.mem_cons_self
    have haction := ha
    simp only [Introducing, List.mem_cons, List.not_mem_nil, or_false] at haction
    obtain hconnect | hdescriptor := haction
    · obtain ⟨rest', -, -, hfirst⟩ := (hs.comingUp rq hmem ha).first
      cases (hfirst hconnect).1.symm.trans hc
    · exact (hconnected hdescriptor).trans hc
  | _ => exact hc

lemma utilityTurn_sent {e : ControlApp.Event} (h : UtilityTurn hashForDevice s e s') :
    s.sent <+: s'.sent := by
  cases h with
  | asked => exact List.prefix_append _ _
  | _ => exact List.prefix_rfl

lemma utilityTurn_received {e : ControlApp.Event} (h : UtilityTurn hashForDevice s e s') :
    s.received <+: s'.received ∧
      ∀ m ∈ s'.received.drop s.received.length, ControlApp.messageRequest m ∈ s'.queue := by
  cases h with
  | read input last added attached quits =>
    refine ⟨List.prefix_append _ _, fun m hm => ?_⟩
    rw [List.drop_left] at hm
    exact List.mem_append_left _ (List.mem_append_right _ (List.mem_map_of_mem hm))
  | _ => exact ⟨List.prefix_rfl, by simp⟩

lemma utilityTurn_command {e : ControlApp.Event} (h : UtilityTurn hashForDevice s e s') :
    (s.command ≠ .waiting → s'.command ≠ .waiting) ∧ (s.command = .done → s'.command = .done) := by
  cases h with
  | told =>
    dsimp only
    split <;> simp_all
  | commanded => simp
  | _ => exact ⟨id, id⟩

/-- The first command of the user joins the queue when the loop over the commands runs. -/
lemma pushCommands_first {request : ControlApp.Command.Request}
    {rest : List ControlApp.Command.Request}
    (h : ControlApp.pushCommands s (request :: rest) = .ok s') :
    ∃ rq, request.toRequest = .ok rq ∧ rq ∈ s'.queue := by
  rw [ControlApp.pushCommands] at h
  cases hrq : request.toRequest with
  | error fault => simp [hrq] at h
  | ok rq =>
    simp only [hrq] at h
    obtain ⟨added, rfl⟩ := pushCommands_queue h
    exact ⟨rq, rfl, List.mem_append_left _ (List.mem_append_right _ List.mem_cons_self)⟩

lemma toRequest_action {request : ControlApp.Command.Request} (h : request.toRequest = .ok rq) :
    rq.action ∈ [.initDatabase, .quitCollector, .getDevices, .getSessions, .removeSession,
      .addDevice, .removeDevice, .connectDevice, .disconnectDevice, .startCollecting,
      .stopCollecting, .quit] := by
  have hpush : ∀ {action keys}, request.push action keys = .ok rq → rq.action = action := by
    intro action keys hrq
    unfold ControlApp.Command.Request.push at hrq
    split at hrq
    · cases hrq
    · rw [← Except.ok.inj hrq]
  unfold ControlApp.Command.Request.toRequest at h
  cases ha : request.action with
  | getSessions | quit =>
    simp only [ha, Except.ok.injEq] at h
    simp [← h]
  | _ =>
    simp only [ha] at h
    rw [hpush h]
    decide

lemma write_sent (hwrite : io.write = true) (asked : Control.Request) :
    asked ∈ (s.write io asked).sent := by
  simp [write_eq, hwrite]

lemma handler_command {request : ControlApp.Command.Request} (hrq : request.toRequest = .ok rq)
    (hwrite : io.write = true)
    (h : ControlApp.requestHandler hashForDevice s rq io = .ok s') :
    s'.exited = true ∨ (∃ x ∈ s'.queue, x.action = .quit) ∨
      ∃ asked ∈ s'.sent, Answerable asked.type ∧ asked.id ≠ "RequestSession" := by
  have haction := toRequest_action hrq
  have hasks : ∀ {id type given payload}, Answerable type → id ≠ "RequestSession" →
      s' = s.write io ⟨id, type, given, payload⟩ →
      s'.exited = true ∨ (∃ x ∈ s'.queue, x.action = .quit) ∨
        ∃ asked ∈ s'.sent, Answerable asked.type ∧ asked.id ≠ "RequestSession" := by
    intro id type given payload htype hid hs'
    rw [hs']
    exact .inr (.inr ⟨_, write_sent hwrite _, htype, hid⟩)
  unfold ControlApp.requestHandler at h
  cases ha : rq.action with
  | connect | sendDescriptor | requestSession | setSession | collectorStatus | deviceList
  | sessionList => simp [ha] at haction
  | quit =>
    simp only [ha, ControlApp.doQuit, Except.ok.injEq] at h
    exact .inl (by rw [← h])
  | quitCollector =>
    simp only [ha, ControlApp.doQuitCollector, Except.ok.injEq] at h
    refine .inr (.inl ⟨ControlApp.request .quit, ?_, rfl⟩)
    rw [← h]
    exact List.mem_append_right _ List.mem_cons_self
  | initDatabase | getDevices | getSessions =>
    simp only [ha, ControlApp.doInitDatabase, ControlApp.doGetDevices, ControlApp.doGetSessions,
      Except.ok.injEq] at h
    exact hasks (by decide) (by decide) h.symm
  | addDevice =>
    simp only [ha, ControlApp.doAddDevice] at h
    split at h
    · split at h
      · cases h
      · exact hasks (by decide) (by decide) (Except.ok.inj h).symm
    all_goals cases h
  | removeSession =>
    simp only [ha, ControlApp.doRemoveSession] at h
    split at h
    · cases h
    · exact hasks (by decide) (by decide) (Except.ok.inj h).symm
  | removeDevice | connectDevice | disconnectDevice | startCollecting | stopCollecting =>
    simp only [ha, ControlApp.doRemoveDevice, ControlApp.doConnectDevice,
      ControlApp.doDisconnectDevice, ControlApp.doStartCollecting, ControlApp.doStopCollecting,
      ControlApp.writeForDevice] at h
    split at h
    · cases h
    · exact hasks (by decide) (by decide) (Except.ok.inj h).symm

lemma step_command {e : ControlApp.Event} (h : ControlApp.step hashForDevice s e = .ok s')
    (hbefore : s.command ≠ .done) (hafter : s'.command = .done) :
    ControlApp.pushCommands { s with command := .done } s.commands = .ok s' := by
  cases e with
  | command =>
    unfold ControlApp.step at h
    split at h
    · rw [← Except.ok.inj h] at hafter
      exact absurd hafter hbefore
    · simp only at h
      split at h
      · exact h
      · rw [← Except.ok.inj h] at hafter
        exact absurd hafter hbefore
  | connection => cases step_utilityTurn h <;> exact absurd hafter hbefore
  | queue =>
    cases step_utilityTurn h with
    | told => simp [hbefore] at hafter
    | _ => exact absurd hafter hbefore

end Queue

end TkmCollector.Proofs
