import TkmCollector.Proofs.CalmRuns
import TkmCollector.Proofs.Conservation

/-!
# A device is a channel

Every dispatch of a device in a calm run is a sequence of steps of its channel, and what
the device pushes to the database queue is what the channel pushes. So the invariants of
channels hold for all devices of a collector.
-/

namespace TkmCollector.Proofs

open MonitorDevice

/-- The message that waits in a queue entry of a device. -/
def waitingItem (rq : IDevice.Request) : Option StreamItem :=
  match rq.action, rq.bulkData with
  | .setSession, .sessionInfo info => some (.session info)
  | .processData, .data data => some (.data data)
  | _, _ => none

def view (d : MonitorDevice) (pushed : List Push) : Channel where
  up := d.connection.isSome
  lost := d.state == .disconnected
  streams := d.streams
  waiting := d.queue.filterMap waitingItem
  hash := d.sessionData.hash
  pushed := pushed

def pushEntry (k : String) : Push → DbEntry
  | .opened info => openEntry k info
  | .closed hash => closeEntry (some k) hash
  | .stored hash data => storeEntry k hash data

/-- What a queue entry is for the channel of a device. -/
def pushOf (k : String) (e : DbEntry) : Option Push :=
  if e.device = some k then
    match e.request.action, e.request.bulkData, e.request.args.lookup .sessionHash with
    | .addSession, .sessionInfo info, _ => some (.opened info)
    | .endSession, _, some hash => some (.closed hash)
    | .addData, .data data, some hash => some (.stored hash data)
    | _, _, _ => none
  else none

/-- What a device pushed, in a part of the journal. -/
def pushedBy (k : String) (entries : List DbEntry) : List Push := entries.filterMap (pushOf k)

/-- The channel of a device of the collector. -/
def channel (c : Collector) (k : String) (d : MonitorDevice) : Channel := view d (pushedBy k (journal c))

@[simp] lemma pushOf_pushEntry (k : String) (p : Push) : pushOf k (pushEntry k p) = some p := by
  cases p <;> simp [pushOf, pushEntry, openEntry, closeEntry, storeEntry, addSessionRequest,
    endSessionRequest, addDataRequest, Args.emplace, Args.count]

lemma pushOf_other {k : String} {e : DbEntry} (h : e.device ≠ some k) : pushOf k e = none := by
  unfold pushOf
  rw [if_neg h]

@[simp] lemma pushedBy_append (k : String) (entries new : List DbEntry) :
    pushedBy k (entries ++ new) = pushedBy k entries ++ pushedBy k new := List.filterMap_append

lemma pushedBy_split (k : String) (p : Push) (before after : List DbEntry) :
    pushedBy k (before ++ pushEntry k p :: after) = pushedBy k before ++ p :: pushedBy k after := by
  rw [pushedBy_append]
  unfold pushedBy
  rw [List.filterMap_cons_some (pushOf_pushEntry k p)]

@[simp] lemma pushedBy_entries (k : String) (new : List Push) :
    pushedBy k (new.map (pushEntry k)) = new := by
  unfold pushedBy
  rw [List.filterMap_map]
  have hcomp : pushOf k ∘ pushEntry k = some := by
    funext p
    exact pushOf_pushEntry k p
  rw [hcomp, List.filterMap_some]

lemma pushedBy_other {k : String} {entries : List DbEntry} (h : ∀ e ∈ entries, e.device ≠ some k) :
    pushedBy k entries = [] := by
  unfold pushedBy
  rw [List.filterMap_eq_nil_iff]
  intro e he
  exact pushOf_other (h e he)

/-- A push of a calm run comes from the entry that is written for it. -/
lemma pushOf_eq_some {type : DbType} {k : String} {e : DbEntry} {p : Push} (hq : Queued type e)
    (h : pushOf k e = some p) : e = pushEntry k p := by
  unfold pushOf at h
  split at h
  · rename_i hk
    cases hq with
    | check | load | clean => simp [Collector.startRequest, cleanEntry] at hk
    | client => cases hk
    | closed owner hash hplain =>
      obtain rfl : owner = some k := hk
      simp only [closeEntry, endSessionRequest, Args.emplace, Args.count, List.lookup_nil,
        Option.isSome_none, Bool.false_eq_true, if_false, List.nil_append, List.lookup_cons_self,
        Option.some.injEq] at h
      subst h
      rfl
    | opened k' info =>
      obtain rfl : k' = k := Option.some.inj hk
      simp only [openEntry, addSessionRequest, Option.some.injEq] at h
      subst h
      rfl
    | stored k' hash data =>
      obtain rfl : k' = k := Option.some.inj hk
      simp only [storeEntry, addDataRequest, Args.emplace, Args.count, List.lookup_nil,
        Option.isSome_none, Bool.false_eq_true, if_false, List.nil_append, List.lookup_cons_self,
        Option.some.injEq] at h
      subst h
      rfl
  · cases h

lemma mem_pushedBy {type : DbType} {k : String} {entries : List DbEntry} {p : Push}
    (hq : ∀ e ∈ entries, Queued type e) :
    p ∈ pushedBy k entries ↔ pushEntry k p ∈ entries := by
  unfold pushedBy
  rw [List.mem_filterMap]
  constructor
  · rintro ⟨e, he, hp⟩
    rw [← pushOf_eq_some (hq e he) hp]
    exact he
  · intro h
    exact ⟨_, h, pushOf_pushEntry k p⟩

lemma waitingItem_none {rq : IDevice.Request}
    (h : rq.action ≠ .setSession ∧ rq.action ≠ .processData) : waitingItem rq = none := by
  unfold waitingItem
  split <;> simp_all

/-- The session that the dispatch sets. -/
def setsSession (d : MonitorDevice) : Event → Option Monitor.SessionInfo
  | .queue _ =>
    match d.queue.head?.bind waitingItem with
    | some (.session info) => some info
    | _ => none
  | .control _ _ _ _ | .connection _ _ _ | .finalize | .timer _ => none

section Simulation

variable {ends : Channel → Prop} {sets : Channel → Monitor.SessionInfo → Prop}
  {k : String} {d d' : MonitorDevice} {pushed : List Push}

lemma view_popped {rq : IDevice.Request} {rest : List IDevice.Request} (hq : d.queue = rq :: rest)
    (hw : waitingItem rq = none) : view (popped d rest) pushed = view d pushed := by
  have hwaiting : d.queue.filterMap waitingItem = rest.filterMap waitingItem := by
    rw [hq, List.filterMap_cons_none hw]
  unfold view
  rw [hwaiting]
  rfl

lemma view_pushRequest (d : MonitorDevice) (rq : IDevice.Request) (pushed : List Push) :
    view (d.pushRequest rq) pushed = { view d pushed with
      waiting := (view d pushed).waiting ++ (waitingItem rq).toList } := by
  unfold view pushRequest
  cases h : waitingItem rq <;> simp [h] <;> rfl

lemma view_push_unread {rq : IDevice.Request} (hw : waitingItem rq = none) :
    view (d.pushRequest rq) pushed = view d pushed := by
  rw [view_pushRequest, hw, Option.toList_none, List.append_nil]

lemma view_record {stream : List StreamItem} {older : List (List StreamItem)}
    (hs : d.streams = stream :: older) (item : StreamItem) :
    view (d.record item) pushed = { view d pushed with streams := (stream ++ [item]) :: older } := by
  unfold record
  rw [hs]
  rfl

lemma view_resume {d₁ : MonitorDevice} {state : Control.DeviceState} (hstate : state ≠ .disconnected)
    (h : view d₁ pushed = view d pushed) :
    view (d₁.setState state) pushed = { view d pushed with lost := false } := by
  have hlost : (state == Control.DeviceState.disconnected) = false := by simpa using hstate
  rw [← h]
  unfold view
  rw [← hlost]
  rfl

lemma accepts_steps (ends : Channel → Prop) (sets : Channel → Monitor.SessionInfo → Prop)
    (pushed : List Push) (h : Relation.ReflTransGen Accept d d') (hup : d.connection.isSome = true)
    (hne : d.streams ≠ []) :
    Relation.ReflTransGen (Channel.Step ends sets) (view d pushed) (view d' pushed) ∧
      d'.connection.isSome = true ∧ d'.streams ≠ [] := by
  induction h with
  | refl => exact ⟨.refl, hup, hne⟩
  | @tail d₁ d₂ _ hlast ih =>
    obtain ⟨hsteps, hup₁, hne₁⟩ := ih
    cases hstreams : d₁.streams with
    | nil => exact absurd hstreams hne₁
    | cons stream older =>
      cases hlast with
      | session info =>
        refine ⟨hsteps.tail ?_, ?_⟩
        · rw [view_pushRequest, view_record hstreams]
          exact .accept (.session info) stream older hup₁ hstreams (by simp)
        · simpa [record, hstreams, pushRequest] using hup₁
      | data data horigin =>
        refine ⟨hsteps.tail ?_, ?_⟩
        · rw [view_pushRequest, view_record hstreams]
          refine .accept (.data data) stream older hup₁ hstreams ?_
          intro data' heq
          obtain rfl : data = data' := by simpa using heq
          simpa [streamSession, hstreams] using horigin
        · simpa [record, hstreams, pushRequest] using hup₁
      | status status =>
        refine ⟨?_, hup₁, by simp [pushRequest, hstreams]⟩
        rw [view_push_unread rfl]
        exact hsteps

/-- A dispatch of a device is matched by steps of its channel. -/
theorem dispatch_steps {e : Event} {dbrq : List IDatabase.Request} (h : Sound k d)
    (hd : Dispatch d e d' dbrq) (hends : EndsSession d e → ends (view d pushed))
    (hsets : ∀ info ∈ setsSession d e, sets (view d pushed) info) :
    ∃ new, dbrq.map (fun rq => (⟨rq, some k⟩ : DbEntry)) = new.map (pushEntry k) ∧
      Relation.ReflTransGen (Channel.Step ends sets) (view d pushed) (view d' (pushed ++ new)) := by
  have hclosing : (if d.sessionData.hash = "" then []
      else [endSessionRequest d.sessionData.hash]).map (fun rq => (⟨rq, some k⟩ : DbEntry)) =
      (view d pushed).closing.map (pushEntry k) := by
    unfold Channel.closing
    by_cases hempty : d.sessionData.hash = "" <;> simp [view, hempty, pushEntry, closeEntry]
  cases hd with
  | idle => exact ⟨[], rfl, by rw [List.append_nil]⟩
  | control action client args data =>
    refine ⟨[], rfl, ?_⟩
    rw [List.append_nil, view_push_unread (by cases action <;> rfl)]
  | read clock input last d₁ keep hc hr hacc =>
    have hup : d.connection ≠ none := h.attached ▸ hc
    obtain ⟨hsteps, -⟩ := accepts_steps ends sets pushed hacc
      (Option.isSome_iff_ne_none.mpr hup) (h.recorded hup)
    refine ⟨[], rfl, ?_⟩
    rw [List.append_nil]
    cases keep
    · exact hsteps
    · exact hsteps
  | finalize hc hr =>
    have hup : d.connection ≠ none := h.attached ▸ hc
    refine ⟨(view d pushed).closing, ?_, .single ?_⟩
    · rw [finalize_snd]
      exact hclosing
    · rw [finalize_fst]
      exact .lose (Option.isSome_iff_ne_none.mpr hup) (hends ⟨hc, hr⟩)
  | dropped io rq rest hq ha hs =>
    refine ⟨[], rfl, ?_⟩
    rw [List.append_nil, view_popped hq (waitingItem_none ⟨ha.1, ha.2.2.2⟩)]
  | connectFailed io rq rest hq ha hc hs hio =>
    have hw : waitingItem rq = none := waitingItem_none (by simp [ha])
    refine ⟨(view d pushed).closing, ?_, .single ?_⟩
    · rw [connectFailed_snd]
      exact hclosing
    · have hstep : Channel.Step ends sets (view d pushed) _ :=
        .fail (by simp [view, hc]) (hends ⟨⟨rq, by simp [hq], ha⟩, hc, hs, hio⟩)
      rw [connectFailed_fst]
      simpa [view, MonitorDevice.state, hq, hw, hc] using hstep
  | connected io rq rest hq ha hc =>
    have hview : view (popped d rest) pushed = view d pushed :=
      view_popped hq (waitingItem_none (by simp [ha]))
    refine ⟨[], rfl, .single ?_⟩
    rw [List.append_nil, view_push_unread (waitingItem_none (by simp)), ← hview]
    exact .connect (by simp [view, popped, hc])
  | descriptorSent io rq rest hq ha hc hs =>
    have hview : view (popped d rest) pushed = view d pushed :=
      view_popped hq (waitingItem_none (by simp [ha]))
    refine ⟨[], rfl, .single ?_⟩
    rw [List.append_nil, view_resume (by simp) hview]
    exact .resume
  | sessionSet io rq rest info hq ha hb =>
    obtain ⟨info', rfl, -⟩ := h.sessions rq (by simp [hq]) ha
    obtain rfl : info' = info := by simpa [sessionRequest] using hb
    have hw : (view d pushed).waiting = .session info' :: rest.filterMap waitingItem := by
      simp [view, hq, waitingItem, sessionRequest]
    refine ⟨[.opened info'], ?_, .single ?_⟩
    · rw [h.hash]
      rfl
    · rw [view_push_unread rfl]
      exact .setSession info' _ hw (hsets info' (by simp [setsSession, hq, waitingItem, sessionRequest]))
  | disconnecting io rq rest c hq ha hc hs =>
    have hview : view (popped d rest) pushed = view d pushed :=
      view_popped hq (waitingItem_none (by simp [ha]))
    refine ⟨[], rfl, ?_⟩
    rw [List.append_nil, remConnectionSource_eq]
    change Relation.ReflTransGen _ (view d pushed) (view (popped d rest) pushed)
    rw [hview]
  | streamStarted io rq rest hq ha =>
    have hview : view (popped d rest) pushed = view d pushed :=
      view_popped hq (waitingItem_none (by simp [ha]))
    refine ⟨[], rfl, .single ?_⟩
    rw [List.append_nil]
    change Channel.Step _ _ _ (view ((popped d rest).setState .collecting) pushed)
    rw [view_resume (by simp) hview]
    exact .resume
  | streamStopped io rq rest hq ha =>
    have hview : view (popped d rest) pushed = view d pushed :=
      view_popped hq (waitingItem_none (by simp [ha]))
    refine ⟨[], rfl, .single ?_⟩
    rw [List.append_nil, stopUpdateLanes_eq]
    change Channel.Step _ _ _ (view ((popped d rest).setState .idle) pushed)
    rw [view_resume (by simp) hview]
    exact .resume
  | requested io rq rest action hq ha hs =>
    have hw : waitingItem rq = none := waitingItem_none (by obtain ha | ha := ha <;> simp [ha])
    have hw' : waitingItem (internalRequest action) = none := by
      obtain ⟨rfl, -⟩ | ⟨rfl, -⟩ | ⟨rfl, -⟩ := hs <;> rfl
    refine ⟨[], rfl, ?_⟩
    rw [List.append_nil, view_push_unread hw', view_popped hq hw]
  | dataProcessed io rq rest hq ha =>
    obtain ⟨data, rfl, -⟩ := h.data rq (by simp [hq]) ha
    have hw : (view d pushed).waiting = .data data :: rest.filterMap waitingItem := by
      simp [view, hq, waitingItem, dataRequest]
    exact ⟨[.stored d.sessionData.hash data], rfl, .single (.processData data _ hw)⟩

end Simulation

/-- The invariant holds of the channel of a device. -/
def ChannelOf (Inv : Channel → Prop) (k : String) (c : Collector) : Prop :=
  ∀ d, c.devices.getDevice k = some d → Inv (channel c k d)

/-- The invariant holds of the channels of all devices. -/
def Channels (Inv : Channel → Prop) (c : Collector) : Prop := ∀ k, ChannelOf Inv k c

section Guards

variable (ends : Channel → Prop) (sets : Channel → Monitor.SessionInfo → Prop) (c : Collector)

/-- Sessions of a device are ended and set where the predicates allow it. -/
def RespectsAt (k : String) : Collector.Event → Prop
  | .device j e => j = k → ∀ d ∈ c.devices.getDevice k, (EndsSession d e → ends (channel c k d)) ∧
      ∀ info ∈ setsSession d e, sets (channel c k d) info
  | .database _ | .request _ _ _ _ => True

/-- Sessions are ended and set where the predicates allow it. -/
def Respects : Collector.Event → Prop
  | .device k e => RespectsAt ends sets c k (.device k e)
  | .database _ | .request _ _ _ _ => True

instance [∀ ch, Decidable (ends ch)] [∀ ch info, Decidable (sets ch info)] (k : String) :
    (e : Collector.Event) → Decidable (RespectsAt ends sets c k e)
  | .device j e => inferInstanceAs (Decidable (j = k → ∀ d ∈ c.devices.getDevice k,
      (EndsSession d e → ends (channel c k d)) ∧ ∀ info ∈ setsSession d e, sets (channel c k d) info))
  | .database _ | .request _ _ _ _ => isTrue trivial

instance [∀ ch, Decidable (ends ch)] [∀ ch info, Decidable (sets ch info)] :
    (e : Collector.Event) → Decidable (Respects ends sets c e)
  | .device k e => inferInstanceAs (Decidable (RespectsAt ends sets c k (.device k e)))
  | .database _ | .request _ _ _ _ => isTrue trivial

end Guards

section Collector

variable {ends : Channel → Prop} {sets : Channel → Monitor.SessionInfo → Prop}
  {Inv : Channel → Prop} {b : Backend} {c c' : Collector} {e : Collector.Event}

lemma channel_other {k : String} {d : MonitorDevice} {new : List DbEntry}
    (hjournal : journal c' = journal c ++ new) (hnew : ∀ e ∈ new, e.device ≠ some k) :
    channel c' k d = channel c k d := by
  unfold channel
  rw [hjournal, pushedBy_append, pushedBy_other hnew, List.append_nil]

lemma channel_same {k : String} (h : ChannelOf Inv k c) {new : List DbEntry}
    (hdevices : c'.devices = c.devices) (hjournal : journal c' = journal c ++ new)
    (hnew : ∀ e ∈ new, e.device = none) : ChannelOf Inv k c' := by
  intro d hget
  rw [channel_other hjournal fun e he => by simp [hnew e he]]
  exact h d (hdevices ▸ hget)

lemma Respects.at (h : Respects ends sets c e) (k : String) : RespectsAt ends sets c k e := by
  cases e with
  | device j ev =>
    rintro rfl
    exact h rfl
  | database | request => trivial

lemma steps_keep (hstep : ∀ ch ch', Inv ch → Channel.Step ends sets ch ch' → Inv ch') {ch ch' : Channel}
    (h : Relation.ReflTransGen (Channel.Step ends sets) ch ch') (hinv : Inv ch) : Inv ch' := by
  induction h with
  | refl => exact hinv
  | tail _ hlast ih => exact hstep _ _ ih hlast

/-- The rule for channels: what every step of a channel preserves, a move of the collector
preserves for a device. -/
theorem channel_move {k : String} (hb : Base b c) (hcalm : Calm b.type e) (hmove : Move b c e c')
    (hr : RespectsAt ends sets c k e) (hstart : Inv Channel.start)
    (hstep : ∀ ch ch', Inv ch → Channel.Step ends sets ch ch' → Inv ch')
    (h : ChannelOf Inv k c) : ChannelOf Inv k c' := by
  cases hmove with
  | idle => exact h
  | device j ev d₀ d₁ dbrq hget hd =>
    have hhash : d₁.deviceData.hash = j := (sound_dispatch (hb.sound j d₀ hget) hcalm hd).hash
    intro d hk
    by_cases hkj : j = k
    · subst hkj
      obtain ⟨hends, hsets⟩ := hr rfl d₀ hget
      obtain ⟨new, hnew, hsteps⟩ := dispatch_steps (hb.sound j d₀ hget) hd hends hsets
      obtain rfl : d₁ = d := Option.some.inj ((getDevice_update_self hhash hget).symm.trans hk)
      unfold channel
      rw [journal_device, hnew, pushedBy_append, pushedBy_entries]
      exact steps_keep hstep hsteps (h d₀ hget)
    · rw [channel_other (journal_device c _ _) ?_]
      · exact h d ((getDevice_update_ne hhash (Ne.symm hkj)).symm.trans hk)
      · intro entry hentry
        obtain ⟨rq, -, rfl⟩ := List.mem_map.mp hentry
        simpa using hkj
  | request action client args bulkData =>
    exact channel_same h rfl (List.append_assoc ..).symm (by simp)
  | passed io entry rest rows missing hq hrows =>
    intro d hget
    have hjournal := journal_served hq (c.devices.load (rows.map Database.DeviceRow.toData))
      (reshaped missing c.tables)
    unfold channel
    rw [hjournal, List.append_nil]
    cases hold : c.devices.getDevice k with
    | some d₀ =>
      obtain rfl : d₀ = d := Option.some.inj ((getDevice_load_of_some hold).symm.trans hget)
      exact h d₀ hold
    | none =>
      obtain hsome | ⟨row, -, -, rfl⟩ := getDevice_load hget
      · rw [hold] at hsome
        cases hsome
      · have hnone : pushedBy k (journal c) = [] := by
          apply pushedBy_other
          intro entry hentry hk
          obtain ⟨d, hd⟩ := hb.known entry hentry k hk
          rw [hold] at hd
          cases hd
        rw [hnone]
        exact hstart
  | added io entry rest deviceData hq | replaced io entry rest deviceData hq =>
    refine channel_same h rfl (journal_database hq _ _ _) ?_
    simp [Collector.startRequest]
  | cleaned io rest hq =>
    refine channel_same h rfl (journal_database hq _ _ _) ?_
    intro entry hentry
    obtain ⟨row, -, rfl⟩ := List.mem_map.mp hentry
    rfl
  | dropped io entry rest hash hq | removed io entry rest hash hq | closed io owner hash rest hq
  | opened io k' info rest hq | stored io k' hash data rest hq =>
    exact channel_same h rfl (journal_served hq _ _) (by simp)

theorem channels_move (hb : Base b c) (hcalm : Calm b.type e) (hmove : Move b c e c')
    (hr : Respects ends sets c e) (hstart : Inv Channel.start)
    (hstep : ∀ ch ch', Inv ch → Channel.Step ends sets ch ch' → Inv ch')
    (h : Channels Inv c) : Channels Inv c' :=
  fun k => channel_move hb hcalm hmove (hr.at k) hstart hstep (h k)

end Collector

end TkmCollector.Proofs
