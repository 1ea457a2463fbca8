import Mathlib.Data.List.Induction
import TkmCollector.Channel
import TkmCollector.Library.History

namespace TkmCollector.Proofs

open History

/-- The messages that a device carried on. -/
def carried (pushed : List Push) : List StreamItem := pushed.filterMap Push.item

/-- The hash of the session that was opened last. -/
def current (pushed : List Push) : String := (lastSession (carried pushed)).getD ""

/-- A session is ended, and data are stored, for the session that was opened last. -/
def PushedFor (pre : List Push) : Push → Prop
  | .opened _ => True
  | .closed hash => hash ≠ "" ∧ hash = current pre
  | .stored hash _ => hash = current pre

/-- Data that belong to a session come behind its announcement. -/
def Originates (pre : List StreamItem) : StreamItem → Prop
  | .session _ => True
  | .data data => ∀ hash, data.origin = some hash → lastSession pre = some hash

structure Conserved (ch : Channel) : Prop where
  items : ch.items = carried ch.pushed ++ ch.waiting
  hash : ch.hash = current ch.pushed
  pushes : Justified PushedFor ch.pushed
  origins : Justified Originates ch.items

@[simp] lemma lastSession_nil : lastSession [] = none := rfl

@[simp] lemma lastSession_session (stream : List StreamItem) (info : Monitor.SessionInfo) :
    lastSession (stream ++ [.session info]) = some info.hash := by
  simp [lastSession]

@[simp] lemma lastSession_data (stream : List StreamItem) (data : Monitor.Data) :
    lastSession (stream ++ [.data data]) = lastSession stream := by
  simp [lastSession]

lemma lastSession_eq (stream : List StreamItem) :
    lastSession stream = (stream.filterMap StreamItem.announces).getLast? := by
  induction stream using List.reverseRecOn with
  | nil => rfl
  | append_singleton stream item ih =>
    rw [List.filterMap_append]
    cases item with
    | session info =>
      rw [lastSession_session]
      exact List.getLast?_concat.symm
    | data data =>
      rw [lastSession_data, ih]
      exact congrArg List.getLast? (List.append_nil _).symm

lemma lastSession_append {stream stream' : List StreamItem} {hash : String}
    (h : lastSession stream' = some hash) : lastSession (stream ++ stream') = some hash := by
  rw [lastSession_eq] at h ⊢
  rw [List.filterMap_append, List.getLast?_append, h, Option.some_or]

lemma exists_of_lastSession {stream : List StreamItem} {hash : String}
    (h : lastSession stream = some hash) : ∃ info, .session info ∈ stream ∧ info.hash = hash := by
  rw [lastSession_eq] at h
  obtain ⟨item, hitem, hhash⟩ := List.mem_filterMap.mp (List.mem_of_getLast? h)
  cases item with
  | session info => exact ⟨info, hitem, Option.some.inj hhash⟩
  | data data => cases hhash

@[simp] lemma carried_append (pushed new : List Push) :
    carried (pushed ++ new) = carried pushed ++ carried new := List.filterMap_append

@[simp] lemma carried_opened (info : Monitor.SessionInfo) (pushed : List Push) :
    carried (.opened info :: pushed) = .session info :: carried pushed := rfl

@[simp] lemma carried_stored (hash : String) (data : Monitor.Data) (pushed : List Push) :
    carried (.stored hash data :: pushed) = .data data :: carried pushed := rfl

@[simp] lemma carried_closing (ch : Channel) : carried ch.closing = [] := by
  unfold Channel.closing
  split <;> rfl

lemma mem_carried_session {info : Monitor.SessionInfo} {pushed : List Push} :
    .session info ∈ carried pushed ↔ .opened info ∈ pushed := by
  unfold carried
  rw [List.mem_filterMap]
  constructor
  · rintro ⟨p, hp, hitem⟩
    cases p with
    | opened info' =>
      obtain rfl : info' = info := by simpa [Push.item] using hitem
      exact hp
    | closed | stored => simp [Push.item] at hitem
  · intro h
    exact ⟨_, h, rfl⟩

@[simp] lemma current_opened (pushed : List Push) (info : Monitor.SessionInfo) :
    current (pushed ++ [.opened info]) = info.hash := by
  simp [current, carried, Push.item]

@[simp] lemma current_stored (pushed : List Push) (hash : String) (data : Monitor.Data) :
    current (pushed ++ [.stored hash data]) = current pushed := by
  simp [current, carried, Push.item]

@[simp] lemma current_closing (pushed : List Push) (ch : Channel) :
    current (pushed ++ ch.closing) = current pushed := by
  simp [current]

lemma opened_current {pushed : List Push} (h : current pushed ≠ "") :
    ∃ info, .opened info ∈ pushed ∧ info.hash = current pushed := by
  unfold current at h ⊢
  cases hlast : lastSession (carried pushed) with
  | none => simp [hlast] at h
  | some hash =>
    obtain ⟨info, hmem, rfl⟩ := exists_of_lastSession hlast
    exact ⟨info, mem_carried_session.mp hmem, rfl⟩

lemma conserved_start : Conserved Channel.start where
  items := rfl
  hash := rfl
  pushes := justified_nil
  origins := justified_nil

lemma items_accept {ch : Channel} {stream : List StreamItem} {older : List (List StreamItem)}
    (hs : ch.streams = stream :: older) (item : StreamItem) (waiting : List StreamItem) :
    ({ ch with streams := (stream ++ [item]) :: older, waiting := waiting } : Channel).items =
      ch.items ++ [item] := by
  simp [Channel.items, hs]

lemma justified_closing {ch : Channel} (h : Conserved ch) :
    Justified PushedFor (ch.pushed ++ ch.closing) := by
  unfold Channel.closing
  by_cases hempty : ch.hash = ""
  · rw [if_pos hempty, List.append_nil]
    exact h.pushes
  · rw [if_neg hempty, justified_concat]
    exact ⟨h.pushes, hempty, h.hash⟩

theorem conserved_step {ends : Channel → Prop} {sets : Channel → Monitor.SessionInfo → Prop}
    {ch ch' : Channel} (h : Conserved ch) (hstep : Channel.Step ends sets ch ch') : Conserved ch' := by
  cases hstep with
  | resume => exact ⟨h.items, h.hash, h.pushes, h.origins⟩
  | accept item stream older hup hs ho =>
    have hitems := items_accept hs item (ch.waiting ++ [item])
    refine ⟨?_, h.hash, h.pushes, ?_⟩
    · rw [hitems, h.items, List.append_assoc]
    · rw [hitems, justified_concat]
      refine ⟨h.origins, ?_⟩
      cases item with
      | session info => trivial
      | data data =>
        intro hash horigin
        have hlast : lastSession stream = some hash := (ho data rfl).symm.trans horigin
        have heq : ch.items = older.reverse.flatten ++ stream := by simp [Channel.items, hs]
        rw [heq]
        exact lastSession_append hlast
  | connect hup =>
    have hitems : ({ ch with up := true, streams := [] :: ch.streams } : Channel).items = ch.items := by
      simp [Channel.items]
    exact ⟨hitems.trans h.items, h.hash, h.pushes, by rw [hitems]; exact h.origins⟩
  | fail hup hends =>
    have hitems : ({ ch with
        lost := true
        streams := [] :: ch.streams
        pushed := ch.pushed ++ ch.closing } : Channel).items = ch.items := by
      simp [Channel.items]
    refine ⟨?_, ?_, justified_closing h, ?_⟩
    · rw [hitems, h.items]
      simp
    · simpa using h.hash
    · rw [hitems]
      exact h.origins
  | lose hup hends =>
    refine ⟨?_, ?_, justified_closing h, h.origins⟩
    · change ch.items = _
      simpa using h.items
    · simpa using h.hash
  | setSession info rest hw hsets =>
    refine ⟨?_, by simp, ?_, h.origins⟩
    · have hitems := h.items
      rw [hw] at hitems
      change ch.items = _
      simpa [carried, Push.item] using hitems
    · rw [justified_concat]
      exact ⟨h.pushes, trivial⟩
  | processData data rest hw =>
    refine ⟨?_, by simpa using h.hash, ?_, h.origins⟩
    · have hitems := h.items
      rw [hw] at hitems
      change ch.items = _
      simpa [carried, Push.item] using hitems
    · rw [justified_concat]
      exact ⟨h.pushes, h.hash⟩

/-- Data that belong to a session are stored for this session, after it was opened. -/
lemma Conserved.stored {ch : Channel} (h : Conserved ch) {pre post : List Push} {hash hash' : String}
    {data : Monitor.Data} (hsplit : ch.pushed = pre ++ .stored hash data :: post)
    (horigin : data.origin = some hash') :
    hash = hash' ∧ ∃ info, .opened info ∈ pre ∧ info.hash = hash' := by
  have hitems : ch.items = carried pre ++ .data data :: (carried post ++ ch.waiting) := by
    rw [h.items, hsplit]
    simp
  have hlast : lastSession (carried pre) = some hash' :=
    h.origins _ _ _ hitems hash' horigin
  have hcurrent : hash = current pre := h.pushes _ _ _ hsplit
  obtain ⟨info, hmem, hinfo⟩ := exists_of_lastSession hlast
  exact ⟨by simp [hcurrent, current, hlast], info, mem_carried_session.mp hmem, hinfo⟩

lemma Conserved.closed {ch : Channel} (h : Conserved ch) {hash : String}
    (hmem : .closed hash ∈ ch.pushed) : hash ≠ "" ∧ ∃ info, .opened info ∈ ch.pushed ∧ info.hash = hash := by
  obtain ⟨pre, post, hsplit⟩ := List.append_of_mem hmem
  obtain ⟨hne, hcurrent⟩ := h.pushes _ _ _ hsplit
  obtain ⟨info, hinfo, heq⟩ := opened_current (hcurrent ▸ hne)
  exact ⟨hne, info, by rw [hsplit]; simp [hinfo], heq.trans hcurrent.symm⟩

end TkmCollector.Proofs
