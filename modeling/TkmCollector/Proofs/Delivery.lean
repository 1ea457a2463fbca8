import Mathlib.Data.List.Flatten
import TkmCollector.Proofs.SessionBooks

namespace TkmCollector.Proofs

open MonitorDevice History

/-- When the device is in the session, no data wait for it. The session with the empty hash is
never ended. -/
def Flushed (hash : String) (ch : Channel) : Prop :=
  ch.hash = hash → hash ≠ "" →
    ∀ item ∈ ch.waiting.takeWhile fun item => item.announces = none, item.origin = none

instance (hash : String) (ch : Channel) : Decidable (Flushed hash ch) :=
  inferInstanceAs (Decidable (_ → _ → ∀ item ∈ _, _ = _))

/-- The device stays, its session is ended when no data wait for it, nobody else disturbs the
session, and no other one stands open in its place. -/
def DeliveryGuard (b : Backend) (k hash : String) (c : Collector) (e : Collector.Event) : Prop :=
  Calm b.type e ∧ RespectsAt (Flushed hash) (fun _ _ => True) c k e ∧ KeepsDevice b.type k c e ∧
    Spared b.type k hash c e ∧ FindsOwn b.type k hash c e

instance (b : Backend) (k hash : String) (c : Collector) (e : Collector.Event) :
    Decidable (DeliveryGuard b k hash c e) :=
  inferInstanceAs (Decidable (_ ∧ _ ∧ _ ∧ _ ∧ _))

/-- The data behind the last announcement of a session that belong to it. -/
def dataOf (hash : String) (items : List StreamItem) : Option (List Monitor.Data) :=
  items.foldl (fun list item => match item with
    | .session info => if info.hash = hash then some [] else list
    | .data data => if data.origin = some hash then list.map fun l => l ++ [data] else list) none

/-- The session was opened, and not ended since. -/
def GoesOn (hash : String) (pushed : List Push) : Prop :=
  ∃ bk, book hash pushed = some bk ∧ bk.goesOn = true

/-- Data of the session find it open. -/
structure Delivering (hash : String) (ch : Channel) : Prop where
  waiting : ¬ GoesOn hash ch.pushed → Justified (fun pre item => item.origin = some hash →
    hash ∈ pre.filterMap StreamItem.announces) ch.waiting
  session : ch.up = true → ch.session = some hash → ¬ GoesOn hash ch.pushed →
    hash ∈ ch.waiting.filterMap StreamItem.announces
  data : ∀ list, dataOf hash (carried ch.pushed) = some list →
    ∃ bk, book hash ch.pushed = some bk ∧ list.Sublist bk.data

lemma dataOf_opened (hash : String) (pushed : List Push) (info : Monitor.SessionInfo) :
    dataOf hash (carried (pushed ++ [.opened info])) =
      if info.hash = hash then some [] else dataOf hash (carried pushed) := by
  simp [dataOf, carried, Push.item]

lemma dataOf_stored (hash hash' : String) (pushed : List Push) (data : Monitor.Data) :
    dataOf hash (carried (pushed ++ [.stored hash' data])) =
      if data.origin = some hash then (dataOf hash (carried pushed)).map fun l => l ++ [data]
      else dataOf hash (carried pushed) := by
  simp [dataOf, carried, Push.item]

lemma goesOn_opened {hash : String} {pushed : List Push} {info : Monitor.SessionInfo} :
    GoesOn hash (pushed ++ [.opened info]) ↔ info.hash = hash ∨ GoesOn hash pushed := by
  unfold GoesOn
  by_cases h : info.hash = hash <;> simp [enter, h]

lemma goesOn_stored {hash hash' : String} {pushed : List Push} {data : Monitor.Data} :
    GoesOn hash (pushed ++ [.stored hash' data]) ↔ GoesOn hash pushed := by
  unfold GoesOn
  by_cases h : hash' = hash
  · cases hbk : book hash pushed with
    | none => simp [enter, h, hbk]
    | some bk => by_cases hopen : bk.goesOn = true <;> simp [enter, h, hbk, hopen]
  · simp [enter, h]

lemma goesOn_closing {ch : Channel} {hash : String} :
    GoesOn hash (ch.pushed ++ ch.closing) ↔
      GoesOn hash ch.pushed ∧ (ch.hash = "" ∨ ch.hash ≠ hash) := by
  unfold Channel.closing
  by_cases hempty : ch.hash = ""
  · simp [hempty]
  · rw [if_neg hempty]
    unfold GoesOn
    by_cases h : ch.hash = hash
    · subst h
      cases hbk : book ch.hash ch.pushed <;> simp [enter, hbk, hempty]
    · simp [enter, h]

lemma book_closing {ch : Channel} {hash : String} {bk : Book} (h : book hash ch.pushed = some bk) :
    ∃ bk', book hash (ch.pushed ++ ch.closing) = some bk' ∧ bk'.data = bk.data := by
  unfold Channel.closing
  by_cases hempty : ch.hash = ""
  · exact ⟨bk, by simp [hempty, h], rfl⟩
  · rw [if_neg hempty]
    by_cases heq : ch.hash = hash
    · exact ⟨{ bk with goesOn := false }, by simp [enter, heq, h], rfl⟩
    · exact ⟨bk, by simp [enter, heq, h], rfl⟩

lemma book_stored {hash : String} {pushed : List Push} {bk : Book} (h : book hash pushed = some bk)
    (hash' : String) (data : Monitor.Data) :
    ∃ bk', book hash (pushed ++ [.stored hash' data]) = some bk' ∧ bk.data.Sublist bk'.data := by
  rw [book_concat, enter, h, Option.map_some]
  by_cases heq : hash' = hash
  · rw [if_pos heq]
    refine ⟨_, rfl, ?_⟩
    by_cases hopen : bk.goesOn = true
    · rw [if_pos hopen]
      exact List.sublist_append_left _ _
    · rw [if_neg hopen]
  · exact ⟨bk, if_neg heq, List.Sublist.refl _⟩

lemma delivering_start (hash : String) : Delivering hash Channel.start where
  waiting _ := justified_nil
  session := by simp [Channel.start]
  data := by simp [Channel.start, carried, dataOf]

/-- When no data wait for the session that the device is in, all that wait come behind the
announcement of the session. -/
lemma behind_announcement {ch : Channel} {hash : String} (hc : Conserved ch) (hf : Flushed hash ch)
    (hhash : ch.hash = hash) (hne : hash ≠ "") : Justified (fun pre item => item.origin = some hash →
      hash ∈ pre.filterMap StreamItem.announces) ch.waiting := by
  intro pre item post hsplit horigin
  cases item with
  | session info => cases horigin
  | data data =>
    have hitems : ch.items = (carried ch.pushed ++ pre) ++ .data data :: post := by
      rw [hc.items, hsplit, List.append_assoc]
    have hlast : lastSession (carried ch.pushed ++ pre) = some hash :=
      hc.origins _ _ _ hitems hash horigin
    rw [lastSession_eq, List.filterMap_append, List.getLast?_append] at hlast
    cases hnames : (pre.filterMap StreamItem.announces).getLast? with
    | some hash' =>
      rw [hnames, Option.some_or] at hlast
      obtain rfl := Option.some.inj hlast
      exact List.mem_of_getLast? hnames
    | none =>
      -- the data wait in front of every `SetSession`
      have hnone : ∀ x ∈ pre, decide (StreamItem.announces x = none) = true := by
        have hnil := List.getLast?_eq_none_iff.mp hnames
        intro x hx
        simpa using List.filterMap_eq_nil_iff.mp hnil x hx
      have hfront : .data data ∈ ch.waiting.takeWhile fun item => item.announces = none := by
        rw [hsplit, List.takeWhile_append_of_pos hnone, List.takeWhile_cons_of_pos (by rfl)]
        simp
      have horigin' := hf hhash hne _ hfront
      rw [horigin] at horigin'
      cases horigin'

lemma delivering_loss {ch : Channel} {hash : String} (hc : Conserved ch) (h : Delivering hash ch)
    (hf : Flushed hash ch) :
    (¬ GoesOn hash (ch.pushed ++ ch.closing) → Justified (fun pre item =>
      item.origin = some hash → hash ∈ pre.filterMap StreamItem.announces) ch.waiting) ∧
    ∀ list, dataOf hash (carried (ch.pushed ++ ch.closing)) = some list →
      ∃ bk, book hash (ch.pushed ++ ch.closing) = some bk ∧ list.Sublist bk.data := by
  constructor
  · intro hover
    rw [goesOn_closing] at hover
    by_cases hon : GoesOn hash ch.pushed
    · have hboth : ch.hash ≠ "" ∧ ch.hash = hash := by tauto
      exact behind_announcement hc hf hboth.2 (hboth.2 ▸ hboth.1)
    · exact h.waiting hon
  · intro list hlist
    rw [carried_append, carried_closing, List.append_nil] at hlist
    obtain ⟨bk, hbk, hsub⟩ := h.data list hlist
    obtain ⟨bk', hbk', hdata⟩ := book_closing hbk
    exact ⟨bk', hbk', hdata ▸ hsub⟩

lemma front_goesOn {ch : Channel} {hash : String} (hc : Conserved ch) (h : Delivering hash ch)
    {data : Monitor.Data} {rest : List StreamItem} (hw : ch.waiting = .data data :: rest)
    (horigin : data.origin = some hash) : ch.hash = hash ∧ GoesOn hash ch.pushed := by
  constructor
  · have hitems : ch.items = carried ch.pushed ++ .data data :: rest := by rw [hc.items, hw]
    have hlast : lastSession (carried ch.pushed) = some hash := hc.origins _ _ _ hitems hash horigin
    rw [hc.hash, current, hlast, Option.getD_some]
  · by_contra hover
    have hwaiting := h.waiting hover
    rw [hw, justified_cons] at hwaiting
    have hmem := hwaiting.1 horigin
    simp at hmem

lemma delivering_step {ch ch' : Channel} {hash : String} (hc : Conserved ch) (h : Delivering hash ch)
    (hstep : Channel.Step (Flushed hash) (fun _ _ => True) ch ch') : Delivering hash ch' := by
  cases hstep with
  | resume => exact ⟨h.waiting, h.session, h.data⟩
  | accept item stream older hup hs ho =>
    refine ⟨?_, ?_, h.data⟩
    · intro hover
      rw [justified_concat]
      refine ⟨h.waiting hover, ?_⟩
      intro horigin
      cases item with
      | session info => cases horigin
      | data data =>
        have hsession : ch.session = lastSession stream := by simp [Channel.session, hs]
        exact h.session hup (hsession.trans ((ho data rfl).symm.trans horigin)) hover
    · intro _ hsession hover
      change lastSession (stream ++ [item]) = some hash at hsession
      rw [List.filterMap_append]
      cases item with
      | session info =>
        rw [lastSession_session] at hsession
        obtain rfl := Option.some.inj hsession
        exact List.mem_append_right _ (List.mem_singleton_self _)
      | data data =>
        rw [lastSession_data] at hsession
        have hold : ch.session = some hash := by simpa [Channel.session, hs] using hsession
        exact List.mem_append_left _ (h.session hup hold hover)
  | connect hup => exact ⟨h.waiting, fun _ hsession => by simp [Channel.session] at hsession, h.data⟩
  | fail hup hends =>
    obtain ⟨hwaiting, hdata⟩ := delivering_loss hc h hends
    exact ⟨hwaiting, fun hup' => by simp [hup] at hup', hdata⟩
  | lose hup hends =>
    obtain ⟨hwaiting, hdata⟩ := delivering_loss hc h hends
    exact ⟨hwaiting, fun hup' => by simp at hup', hdata⟩
  | setSession info rest hw hsets =>
    refine ⟨?_, ?_, ?_⟩
    · intro hover
      rw [goesOn_opened, not_or] at hover
      have hwaiting := h.waiting hover.2
      rw [hw, justified_cons] at hwaiting
      refine hwaiting.2.mono fun pre item _ hitem horigin => ?_
      exact (List.mem_cons.mp (hitem horigin)).resolve_left (Ne.symm hover.1)
    · intro hup hsession hover
      rw [goesOn_opened, not_or] at hover
      have hmem := h.session hup hsession hover.2
      rw [hw] at hmem
      exact (List.mem_cons.mp hmem).resolve_left (Ne.symm hover.1)
    · intro list hlist
      rw [dataOf_opened] at hlist
      rw [book_concat, enter]
      by_cases heq : info.hash = hash
      · rw [if_pos heq] at hlist ⊢
        obtain rfl := Option.some.inj hlist
        exact ⟨_, rfl, List.nil_sublist _⟩
      · rw [if_neg heq] at hlist ⊢
        exact h.data list hlist
  | processData data rest hw =>
    refine ⟨?_, ?_, ?_⟩
    · intro hover
      rw [goesOn_stored] at hover
      have hwaiting := h.waiting hover
      rw [hw, justified_cons] at hwaiting
      exact hwaiting.2
    · intro hup hsession hover
      rw [goesOn_stored] at hover
      have hmem := h.session hup hsession hover
      rwa [hw] at hmem
    · intro list hlist
      rw [dataOf_stored] at hlist
      by_cases horigin : data.origin = some hash
      · rw [if_pos horigin] at hlist
        obtain ⟨old, hold, rfl⟩ := Option.map_eq_some_iff.mp hlist
        obtain ⟨bk, hbk, hsub⟩ := h.data old hold
        obtain ⟨hhash, bk', hbk', hopen⟩ := front_goesOn hc h hw horigin
        obtain rfl : bk = bk' := Option.some.inj (hbk.symm.trans hbk')
        refine ⟨{ bk with data := bk.data ++ [data] }, ?_, hsub.append_right [data]⟩
        rw [book_concat, enter, if_pos hhash, hbk, Option.map_some, if_pos hopen]
      · rw [if_neg horigin] at hlist
        obtain ⟨bk, hbk, hsub⟩ := h.data list hlist
        obtain ⟨bk', hbk', hmore⟩ := book_stored hbk ch.hash data
        exact ⟨bk', hbk', hsub.trans hmore⟩

structure DeliveryInvariant (b : Backend) (k hash : String) (c : Collector) : Prop where
  base : Base b c
  channel : ChannelOf (fun ch => Conserved ch ∧ Delivering hash ch) k c
  listed : Listed b.type c k
  numbered : Numbered b.type c.tables
  book : BookKept b.type k hash c

lemma deliveryInvariant_preserves (b : Backend) (k hash : String)
    (hself : hashMatches b.type hash hash = true) :
    Machine.Preserves (Collector.step b) (DeliveryGuard b k hash) (DeliveryInvariant b k hash) := by
  intro c e c' hinv ⟨hcalm, hrespects, hkeep, hspared, hfinds⟩ hstep
  have hmove := calm_move hinv.base hcalm hstep
  refine ⟨base_move hinv.base hcalm hmove, ?_,
    listed_move hinv.base hcalm (fun _ _ _ => hkeep) hmove hinv.listed, numbered_move hmove rfl hinv.numbered,
    bookKept_move hinv.base hinv.listed hinv.numbered hself hkeep hspared hfinds hmove hinv.book⟩
  refine channel_move hinv.base hcalm hmove hrespects ⟨conserved_start, delivering_start hash⟩ ?_
    hinv.channel
  intro ch ch' ⟨hc, hd⟩ hs
  exact ⟨conserved_step hc hs, delivering_step hc hd hs⟩

lemma deliveryInvariant_start {b : Backend} {t₀ : Tables} (k hash : String)
    (h : CleanStart b.type t₀) (hn : Numbered b.type t₀) :
    DeliveryInvariant b k hash (Collector.start t₀) where
  base := base_start h
  channel d hget := by simp [Collector.start, DeviceManager.getDevice] at hget
  listed := listed_start b.type t₀ k
  numbered := hn
  book := bookKept_start b.type k hash t₀

/-- When the queues on the way are drained, the rows of all data that were accepted behind the
announcement of the session are stored under the session. -/
def NothingLost (k hash : String) (c : Collector) : Prop :=
  c.queue = [] → ∀ d, c.devices.getDevice k = some d → d.queue = [] → ∀ list,
    dataOf hash d.streams.reverse.flatten = some list →
    ∃ row ∈ c.tables.sessions, row.hash = hash ∧ (row.device : Int) = d.deviceData.id ∧
      (list.flatMap fun data => dataRows data row.id).Sublist c.tables.data

lemma nothingLost {b : Backend} {k hash : String} {c : Collector} (hinv : DeliveryInvariant b k hash c) :
    NothingLost k hash c := by
  intro hqueue d hget hempty list hlist
  obtain ⟨hc, hd⟩ := hinv.channel d hget
  have hjournal : journal c = c.handled := by simp [journal, hqueue]
  have hpushed : (TkmCollector.Proofs.channel c k d).pushed = pushedBy k c.handled :=
    congrArg (pushedBy k) hjournal
  have hwaiting : (TkmCollector.Proofs.channel c k d).waiting = [] := by
    simp [TkmCollector.Proofs.channel, view, hempty]
  have hitems : d.streams.reverse.flatten = carried (TkmCollector.Proofs.channel c k d).pushed := by
    have heq := hc.items
    rwa [hwaiting, List.append_nil] at heq
  rw [hitems] at hlist
  obtain ⟨bk, hbk, hsub⟩ := hd.data list hlist
  rw [hpushed] at hbk
  obtain ⟨_, row, _, hrow, device, hdevice, hk, hid⟩ := hinv.book bk hbk
  refine ⟨row, hrow.mem, hrow.hash, ?_, (hsub.flatMap _).trans hrow.data⟩
  obtain ⟨device', hdevice', hk', hid'⟩ := hinv.listed d hget
  obtain rfl := hdevice.unique hdevice' hinv.base.keyed.ids (hk.trans hk'.symm)
  rw [hid, hid']

/-- Nothing is lost of a session in a run in which its data do not wait when it is ended, and
nobody but its device ends it. -/
theorem nothing_lost (b : Backend) (t₀ : Tables) (k hash : String) (events : List Collector.Event)
    (hstart : CleanStart b.type t₀) (hn : Numbered b.type t₀)
    (hself : hashMatches b.type hash hash = true)
    (h : Machine.Guarded (Collector.step b) (DeliveryGuard b k hash) (Collector.start t₀) events) :
    Machine.Throughout (Collector.step b) (NothingLost k hash) (Collector.start t₀) events :=
  (Machine.throughout_of_guarded (deliveryInvariant_preserves b k hash hself)
    (deliveryInvariant_start k hash hstart hn) h).mono fun _ hinv => nothingLost hinv

/-- The data are handled before the connection is taken out, and stored after that. -/
theorem nothing_lost_disconnect :
    Machine.Throughout (Collector.step (plainBackend .postgreSQL)) (NothingLost "d" "s")
      (Collector.start (tablesWith ["d"]))
      (startUp ++ onDevice "d" (connectionUp ++ [receivedLast [sessionEnvelope "s", dataEnvelope,
        dataEnvelope], queueUp, queueUp, queueUp, .finalize, queueUp]) ++
        List.replicate 4 databaseUp) :=
  nothing_lost _ _ "d" "s" _ (by decide) (by decide) (by decide) (by decide)

/-- Data that are still in the device queue when the connection is taken out are lost. -/
theorem data_lost :
    ∃ c, Machine.run (Collector.step (plainBackend .sqlite3)) (Collector.start (tablesWith ["d"]))
        (startUp ++ onDevice "d" (connectionUp ++ [received [sessionEnvelope "s"], queueUp, queueUp,
          receivedLast [dataEnvelope], .finalize, queueUp]) ++ List.replicate 3 databaseUp) = .ok c ∧
      ¬ NothingLost "d" "s" c := by
  refine ⟨_, rfl, ?_⟩
  intro h
  obtain ⟨row, hrow, -, -, hsub⟩ := h (by decide) _ rfl (by decide) _ rfl
  revert hsub
  revert row
  decide

end TkmCollector.Proofs
