import TkmCollector.Proofs.FairAnswers

namespace TkmCollector.Proofs

open Application

/-- The requests that end the process. -/
def Quits (action : Dispatcher.Action) : Prop := action ∈ [.quitCollector, .quit]

instance : DecidablePred Quits := fun _ => inferInstanceAs (Decidable (_ ∈ _))

/-- A request to quit is on its way. -/
def Quitting (queue : List DispatcherEntry) : Prop := ∃ entry ∈ queue, Quits entry.request.action

/-- The start has failed, or a client has asked to quit. -/
def ToldToQuit (failed : Bool) (asked : List (ClientId × Control.Request)) : Prop :=
  failed = true ∨ ∃ p ∈ asked, p.2.type = .quitCollector

/-- The process is about to quit exactly when it was told to. -/
def QuitsAsTold (failed : Bool) (s : Application) : Prop :=
  Quitting s.dispatcher ↔ ToldToQuit failed s.asked

section Quitting

variable {b : Backend} {s s' : Application} {failed : Bool}

lemma quitting_append (queue new : List DispatcherEntry) :
    Quitting (queue ++ new) ↔ Quitting queue ∨ Quitting new := by
  simp [Quitting, or_and_right, exists_or]

lemma quitting_cons (entry : DispatcherEntry) (queue : List DispatcherEntry) :
    Quitting (entry :: queue) ↔ Quits entry.request.action ∨ Quitting queue := by
  simp [Quitting]

lemma not_quitting_statuses {requests : List Dispatcher.Request} {served : Option Nat}
    (h : ∀ rq ∈ requests, rq.action = .sendStatus) :
    ¬ Quitting (requests.map fun rq => ⟨rq, served⟩) := by
  rintro ⟨entry, hentry, hquits⟩
  obtain ⟨rq, hrq, rfl⟩ := List.mem_map.mp hentry
  rw [show (⟨rq, served⟩ : DispatcherEntry).request.action = rq.action from rfl, h rq hrq] at hquits
  exact absurd hquits (by decide)

lemma toldToQuit_append (asked new : List (ClientId × Control.Request)) :
    ToldToQuit failed (asked ++ new) ↔
      ToldToQuit failed asked ∨ ∃ p ∈ new, p.2.type = .quitCollector := by
  simp [ToldToQuit, or_and_right, exists_or, or_assoc]

lemma quits_asked {type : Control.RequestType} {action : Dispatcher.Action}
    (h : askedAction type = some action) : Quits action ↔ type = .quitCollector := by
  unfold Quits
  cases type with
  | unknown => cases h
  | _ =>
    rw [← Option.some.inj h]
    decide

lemma quitsAsTold_asks {client : ClientId} (h : Relation.ReflTransGen (Ask client) s s')
    (hs : QuitsAsTold failed s) : QuitsAsTold failed s' := by
  induction h with
  | refl => exact hs
  | tail _ hlast ih =>
    unfold QuitsAsTold at ih ⊢
    cases hlast with
    | unknown rq hrq =>
      have htype : rq.type ≠ .quitCollector := by
        rw [requestHandler_eq_none.mp (hrq true)]
        decide
      rw [toldToQuit_append]
      simpa [htype] using ih
    | known rq write message nrq hrq =>
      obtain ⟨-, -, haction⟩ := request_asked hrq
      simp only [ask]
      rw [toldToQuit_append, quitting_append, ih]
      simp [Quitting, quits_asked haction]

lemma not_quits_handedOn {action : Dispatcher.Action}
    (h : (databaseAction action).isSome = true ∨ (deviceAction action).isSome = true) :
    ¬ Quits action := by
  revert h
  cases action <;> decide

lemma quitting_dispatched {known : String → Bool} {entry : DispatcherEntry}
    {rest : List DispatcherEntry} {o : Dispatcher.Outcome}
    (h : Dispatcher.requestHandler known entry.request = .ok o) :
    Quitting (rest ++ o.dispatcher.map fun rq => ⟨rq, none⟩) ↔ Quitting (entry :: rest) := by
  rw [quitting_append, quitting_cons, or_comm]
  refine or_congr_left ?_
  have hnone : ¬ Quits entry.request.action → (∀ rq ∈ o.dispatcher, rq.action = .sendStatus) →
      (Quitting (o.dispatcher.map fun rq => ⟨rq, none⟩) ↔ Quits entry.request.action) :=
    fun hquits hstatuses => iff_of_false (not_quitting_statuses hstatuses) hquits
  cases requestHandler_dispatched h with
  | database action ha =>
    exact hnone (not_quits_handedOn (.inl (by rw [ha]; rfl))) (by simp [Dispatcher.toDatabase])
  | device action deviceData ha =>
    exact hnone (not_quits_handedOn (.inr (by rw [ha]; rfl))) (by simp)
  | unknown action deviceData ha =>
    exact hnone (not_quits_handedOn (.inr (by rw [ha]; rfl))) (by simp [noSuchDevice])
  | quitting ha => exact iff_of_true ⟨_, List.mem_cons_self, by decide⟩ (by rw [ha]; decide)
  | unheard ha => exact hnone (by rw [ha]; decide) (by simp)
  | answered client status ha => exact hnone (by rw [ha]; decide) (by simp)

lemma quitsAsTold_turn {e : Application.Event} (h : Turn b s e s') (hs : QuitsAsTold failed s) :
    QuitsAsTold failed s' := by
  cases h with
  | idle => exact hs
  | accept => exact hs
  | control client input last s₁ clients hasks =>
    have hread : QuitsAsTold failed s₁ := quitsAsTold_asks hasks hs
    exact hread
  | dispatcher write entry rest o hq ho =>
    unfold QuitsAsTold at hs ⊢
    rw [hq] at hs
    exact (quitting_dispatched ho).trans hs
  | device _ hash event d o he hget ho =>
    unfold QuitsAsTold at hs ⊢
    change Quitting (s.dispatcher ++ _) ↔ _
    rw [quitting_append, or_iff_left (not_quitting_statuses (dispatcher_sendStatus ho))]
    exact hs
  | database io entry rest o hq ho =>
    unfold QuitsAsTold at hs ⊢
    change Quitting (s.dispatcher ++ _) ↔ _
    rw [quitting_append, or_iff_left (not_quitting_statuses (database_sendStatus ho))]
    exact hs

lemma quitsAsTold_start (tables : Tables) (erase : Bool) :
    QuitsAsTold failed (Application.start tables erase failed) := by
  unfold QuitsAsTold Application.start
  cases failed with
  | true => exact iff_of_true ⟨quitRequest, List.mem_cons_self, by decide⟩ (.inl rfl)
  | false => simp [Quitting, ToldToQuit]

lemma quitsAsTold_preserves (b : Backend) (failed : Bool) :
    Machine.Preserves (Application.step b) (fun _ _ => True) (QuitsAsTold failed) :=
  fun _ _ _ hs _ h => quitsAsTold_turn (step_turn h) hs

lemma quit_of_exit {known : String → Bool} {rq : Dispatcher.Request}
    (h : Dispatcher.requestHandler known rq = .error .exit) : rq.action = .quit := by
  have hdevice : ∀ action, Dispatcher.toDevice known rq action ≠ .error .exit := by
    intro action h
    unfold Dispatcher.toDevice at h
    split at h
    · cases h
    · split at h <;> cases h
  unfold Dispatcher.requestHandler at h
  cases ha : rq.action with
  | quit => rfl
  | connectDevice | disconnectDevice | startCollecting | stopCollecting =>
    rw [ha] at h
    exact absurd h (hdevice _)
  | sendStatus =>
    simp only [ha, Dispatcher.doSendStatus] at h
    split at h <;> cases h
  | _ => simp [ha] at h

lemma onCollector_ne_exit {e : Collector.Event} {served : Option Nat} :
    onCollector b s e served ≠ .error .exit := by
  unfold onCollector
  split <;> simp

lemma quitting_of_exit {e : Application.Event} (h : Application.step b s e = .error .exit) :
    Quitting s.dispatcher := by
  cases e with
  | accept => cases h
  | control client input last =>
    simp only [Application.step] at h
    split at h <;> cases h
  | dispatcher write =>
    cases hq : s.dispatcher with
    | nil =>
      rw [step_dispatcher_of_nil hq] at h
      cases h
    | cons entry rest =>
      rw [step_dispatcher_of_entry hq] at h
      cases ho : Dispatcher.requestHandler s.known entry.request with
      | ok o => simp [ho] at h
      | error stop =>
        simp only [ho, Except.error.injEq] at h
        rw [h] at ho
        exact ⟨entry, List.mem_cons_self, by rw [quit_of_exit ho]; decide⟩
  | connection | finalize | queue | timer | database => exact absurd h onCollector_ne_exit

/-- A request to quit at the head of the queue makes way for one that ends the process. -/
lemma not_quitting {states : ℕ → Application} {events : ℕ → Application.Event}
    (h : Machine.Endless (Application.step b) states events)
    (hfair : Machine.Recurring events Source.dispatcher.Dispatches) (n : ℕ) :
    ¬ Quitting (states n).dispatcher := by
  have hquit : ∀ m rq, rq.action = .quit →
      ¬ Source.dispatcher.Holds (states m) (.dispatcher rq) := by
    intro m rq ha hrq
    obtain ⟨k, -, hdispatches, hhead⟩ := head_reached h hfair hrq
    obtain ⟨write, entry, rest, o, rfl, hq, ho, -⟩ := step_head_dispatcher hdispatches hhead (h k)
    simp [Dispatcher.requestHandler, ha, Dispatcher.doQuit] at ho
  rintro ⟨entry, hentry, hquits⟩
  obtain ha | ha : entry.request.action = .quitCollector ∨ entry.request.action = .quit := by
    simpa [Quits] using hquits
  · obtain ⟨m, -, hdispatches, hhead⟩ := head_reached h hfair (holds_dispatcher hentry)
    obtain ⟨write, x, rest, o, hx, hq, ho, hs'⟩ := step_head_dispatcher hdispatches hhead (h m)
    rw [Dispatcher.requestHandler, ha] at ho
    have hpushed : (⟨⟨none, .quit, [], .int 0⟩, none⟩ : DispatcherEntry) ∈
        (states (m + 1)).dispatcher := by
      rw [hs', ← Except.ok.inj ho]
      simp [deliver, Dispatcher.doQuitCollector]
    exact hquit (m + 1) _ rfl (holds_dispatcher hpushed)
  · exact hquit n _ ha (holds_dispatcher hentry)

end Quitting

/-- The process ends on its own when it is told to and only then: it exits after a failed start or a
`QuitCollector` only, and after these no run in which the dispatcher is dispatched again and again
goes on for ever, whatever else arrives. -/
theorem quits_when_told (b : Backend) (tables : Tables) (erase failed : Bool) :
    (∀ events s e, Machine.run (Application.step b) (Application.start tables erase failed) events =
        .ok s → Application.step b s e = .error .exit → ToldToQuit failed s.asked) ∧
      ∀ states events, states 0 = Application.start tables erase failed →
        Machine.Endless (Application.step b) states events →
        Machine.Recurring events Source.dispatcher.Dispatches →
        ∀ n, ¬ ToldToQuit failed (states n).asked := by
  have hstart : QuitsAsTold failed (Application.start tables erase failed) :=
    quitsAsTold_start tables erase
  have hstep := quitsAsTold_preserves b failed
  constructor
  · intro events s e hrun hexit
    have hs := Machine.invariant_run hstep hstart (Machine.guarded_true _ _) hrun
    exact hs.mp (quitting_of_exit hexit)
  · intro states events h0 h hfair n htold
    have hs := h.invariant hstep (h0 ▸ hstart) (fun _ => trivial) n
    exact not_quitting h hfair n (hs.mpr htold)

/-- A client tells the collector to quit. -/
theorem quits_when_told_asked :
    ∃ s, Machine.run (Application.step (plainBackend .sqlite3))
        (Application.start (tablesWith []) false false)
        [.accept, asks 0 (requestFor "1" .quitCollector ""), dispatched] = .ok s ∧
      ToldToQuit false s.asked :=
  ⟨_, rfl, (quits_when_told (plainBackend .sqlite3) (tablesWith []) false false).1
    [.accept, asks 0 (requestFor "1" .quitCollector ""), dispatched] _ dispatched rfl rfl⟩

end TkmCollector.Proofs
