import TkmCollector.Proofs.Inventory

/-!
# Where the devices come from

When statements fail, a request may do half of its work: a forced one can lose the old device and
not add the new one. Still every device of the table is one that a client has asked for, once for
each time and in the order of the requests, and none goes unless a client has asked for that.
-/

namespace TkmCollector.Proofs

open Application Database Dictionary

/-- The operation may take the device with the hash out of the table. -/
def Takes (type : DbType) (hash : String) : Operation String DeviceEntry → Prop
  | .clear => True
  | .remove key | .put key _ => hashMatches type key hash = true
  | .insert _ _ | .keep | .list => False

/-- The strings of the request that is handled stay inside of their literals. -/
def PlainHead (s : Application) : Application.Event → Prop
  | .database _ => ∀ entry ∈ s.collector.queue.head?, ∀ v ∈ requestStrings entry.request, Plain v
  | _ => True

instance (s : Application) : (e : Application.Event) → Decidable (PlainHead s e)
  | .database _ => inferInstanceAs (Decidable (∀ entry ∈ s.collector.queue.head?,
      ∀ v ∈ requestStrings entry.request, Plain v))
  | .accept | .control _ _ _ | .dispatcher _ | .connection _ _ _ _ | .finalize _ | .queue _ _
  | .timer _ _ => isTrue trivial

/-- From some tables to others, nothing has come or gone but by the operations. -/
structure AccountedFor (type : DbType) (t t' : Tables) (ops : List (Operation String DeviceEntry)) :
    Prop where
  come : (tabled t').Sublist (tabled t ++ ops.filterMap Operation.value)
  gone : ∀ row ∈ t.devices, row ∈ t'.devices ∨ ∃ op ∈ ops, Takes type row.hash op

lemma AccountedFor.refl (type : DbType) (t : Tables) : AccountedFor type t t [] :=
  ⟨by simp, fun _ hrow => .inl hrow⟩

lemma AccountedFor.trans {type : DbType} {t t' t'' : Tables}
    {ops ops' : List (Operation String DeviceEntry)} (h : AccountedFor type t t' ops)
    (h' : AccountedFor type t' t'' ops') : AccountedFor type t t'' (ops ++ ops') := by
  refine ⟨?_, ?_⟩
  · rw [List.filterMap_append, ← List.append_assoc]
    exact h'.come.trans (h.come.append_right _)
  · intro row hrow
    obtain hrow' | ⟨op, hop, htakes⟩ := h.gone row hrow
    · obtain hstays | ⟨op, hop, htakes⟩ := h'.gone row hrow'
      · exact .inl hstays
      · exact .inr ⟨op, List.mem_append_right _ hop, htakes⟩
    · exact .inr ⟨op, List.mem_append_left _ hop, htakes⟩

section Effects

variable {type : DbType} {t : Tables}

lemma accountedFor_of_devices {t' : Tables} (h : t'.devices = t.devices)
    (ops : List (Operation String DeviceEntry)) : AccountedFor type t t' ops := by
  refine ⟨?_, fun row hrow => .inl (by rw [h]; exact hrow)⟩
  unfold tabled
  rw [h]
  exact List.sublist_append_left _ _

lemma accountedFor_dropped {hash : String} {op : Operation String DeviceEntry}
    (h : ∀ key, hashMatches type hash key = true → Takes type key op) :
    AccountedFor type t (dropped type hash t) [op] := by
  refine ⟨?_, ?_⟩
  · rw [tabled_dropped]
    exact List.filter_sublist.trans (List.sublist_append_left _ _)
  · intro row hrow
    rw [dropped_devices]
    cases hmatch : hashMatches type hash row.hash with
    | false => exact .inl (List.mem_filter.mpr ⟨hrow, by simp [hmatch]⟩)
    | true => exact .inr ⟨op, List.mem_singleton_self op, h _ hmatch⟩

lemma accountedFor_added {deviceData : Control.DeviceData} {op : Operation String DeviceEntry}
    {t' : Tables} (h : AccountedFor type t t' [op]) (hshort : (tabled t').Sublist (tabled t))
    (hvalue : op.value = some (entryOf deviceData)) :
    AccountedFor type t (added type deviceData t') [op] := by
  refine ⟨?_, ?_⟩
  · rw [tabled_added, List.filterMap_cons, hvalue]
    exact hshort.append_right _
  · intro row hrow
    obtain hrow' | htaken := h.gone row hrow
    · exact .inl (List.mem_append_left _ hrow')
    · exact .inr htaken

lemma effect_accountedFor {t' : Tables} {io : DbIo} {order : Order} {status : Option String}
    (h : Effect type t io order t' status) :
    AccountedFor type t t' (operation order.request).toList := by
  cases h with
  | same | created | removed | cleared | opened | doubled | ended | stored =>
    apply accountedFor_of_devices
    rfl
  | erased client =>
    have hop : operation (Order.initDatabase client true).request = some .clear := by
      cases client <;> rfl
    rw [hop]
    refine ⟨?_, fun row _ => .inr ⟨.clear, List.mem_singleton_self _, trivial⟩⟩
    change ((erased (droppedNames type io 0) t).devices.map entryOfRow).Sublist _
    rw [erased_devices]
    split
    · exact List.nil_sublist _
    · exact List.sublist_append_left _ _
  | added client id forced deviceData =>
    have hop : operation (Order.addDevice client id forced deviceData).request =
        some (addOperation forced deviceData) := by
      cases forced <;> rfl
    rw [hop]
    refine accountedFor_added (accountedFor_of_devices rfl _) (List.Sublist.refl _) ?_
    cases forced <;> rfl
  | replaced client id deviceData =>
    refine accountedFor_added (accountedFor_dropped fun key hkey => hkey) ?_ rfl
    rw [tabled_dropped]
    exact List.filter_sublist
  | left client id deviceData => exact accountedFor_dropped fun key hkey => hkey
  | dropped client id forced deviceData => exact accountedFor_dropped fun key hkey => hkey

end Effects

/-- What relates the tables before and after some requests holds of every order, and adds up. -/
structure Cumulative (type : DbType) (R : Tables → Tables → List IDatabase.Request → Prop) : Prop where
  refl : ∀ t, R t t []
  trans : ∀ {t t' t'' : Tables} {requests requests' : List IDatabase.Request},
    R t t' requests → R t' t'' requests' → R t t'' (requests ++ requests')
  effect : ∀ {t t' : Tables} {io : DbIo} {order : Order} {status : Option String},
    Effect type t io order t' status → R t t' [order.request]

/-- Since the state `s₀`, the requests that were handled relate the tables. -/
structure Since (R : Tables → Tables → List IDatabase.Request → Prop) (s₀ s : Application) : Prop where
  orders : OrdersQueued s
  log : ∃ entries, s.collector.handled = s₀.collector.handled ++ entries ∧
    R s₀.collector.tables s.collector.tables (entries.map DbEntry.request)

section Runs

variable {b : Backend} {R : Tables → Tables → List IDatabase.Request → Prop} {s₀ s s' : Application}

lemma Cumulative.database (hR : Cumulative b.type R) {io : DbIo} {entry : DbEntry} {rest : List DbEntry}
    {o : DbOutcome} (hq : s.collector.queue = entry :: rest)
    (ho : requestHandler b s.collector.deviceState io s.collector.tables entry.request = .ok o)
    (hplain : PlainHead s (.database io)) (hs : Since R s₀ s) :
    ∃ entries, s.collector.handled ++ [entry] = s₀.collector.handled ++ entries ∧
      R s₀.collector.tables o.tables (entries.map DbEntry.request) := by
  obtain ⟨entries, hlog, hR₀⟩ := hs.log
  obtain ⟨order, horder⟩ := hs.orders.database entry (by simp [journal, hq])
  have hstrings := hplain entry (by rw [hq]; rfl)
  rw [horder, requestStrings_request] at hstrings
  rw [horder] at ho
  have heffect := requestHandler_effect (runsPlain_of_plain hstrings) ho
  refine ⟨entries ++ [entry], ?_, ?_⟩
  · rw [hlog, List.append_assoc]
  · rw [List.map_append, List.map_singleton, horder]
    exact hR.trans hR₀ (hR.effect heffect)

lemma Cumulative.turn (hR : Cumulative b.type R) {e : Application.Event} (h : Turn b s e s')
    (hplain : PlainHead s e) (hs : Since R s₀ s) : Since R s₀ s' := by
  have horders := ordersQueued_turn h hs.orders
  have hlog := hs.log
  cases h with
  | idle => exact hs
  | accept => exact ⟨horders, hlog⟩
  | control client input last s₁ clients hasks =>
    have hcollector : s₁.collector = s.collector := asks_collector hasks
    refine ⟨horders, ?_⟩
    simpa only [hcollector] using hlog
  | dispatcher => exact ⟨horders, hlog⟩
  | device => exact ⟨horders, hlog⟩
  | database io entry rest o hq ho => exact ⟨horders, hR.database hq ho hplain hs⟩

lemma Cumulative.run (hR : Cumulative b.type R) {events : List Application.Event}
    (horders : OrdersQueued s) (hrun : Machine.run (Application.step b) s events = .ok s')
    (hplain : Machine.Guarded (Application.step b) PlainHead s events) : Since R s s' := by
  have hsince : Machine.Preserves (Application.step b) PlainHead (Since R s) :=
    fun _ _ _ hs hg hstep => hR.turn (step_turn hstep) hg hs
  exact Machine.invariant_run hsince ⟨horders, [], (List.append_nil _).symm, hR.refl _⟩ hplain hrun

end Runs

lemma cumulative_accountedFor (type : DbType) :
    Cumulative type fun t t' requests => AccountedFor type t t' (requests.filterMap operation) where
  refl t := .refl type t
  trans h h' := by
    rw [List.filterMap_append]
    exact h.trans h'
  effect := by
    intro t t' io order status heffect
    have hone : [order.request].filterMap operation = (operation order.request).toList := by
      rw [List.filterMap_cons]
      cases operation order.request <;> rfl
    rw [hone]
    exact effect_accountedFor heffect

/-- The operations that are handled from one state of a run to a later one account for the devices. -/
lemma accounted_run {b : Backend} {tables : Tables} {erase failed : Bool}
    {before after : List Application.Event} {s s' : Application}
    (hbefore : Machine.run (Application.step b) (Application.start tables erase failed) before = .ok s)
    (hafter : Machine.run (Application.step b) s after = .ok s')
    (hplain : Machine.Guarded (Application.step b) PlainHead s after) :
    OperationsInOrder erase s' ∧ ∃ ops, s'.collector.handled.filterMap entryOperation =
        s.collector.handled.filterMap entryOperation ++ ops ∧
      AccountedFor b.type s.collector.tables s'.collector.tables ops := by
  have hordered : Machine.Preserves (Application.step b) (fun _ _ => True)
      fun s => OrdersQueued s ∧ OperationsInOrder erase s := by
    intro s e s' ⟨horders, hline⟩ _ hstep
    have hturn := step_turn hstep
    exact ⟨ordersQueued_turn hturn horders, operationsInOrder_turn hturn horders hline⟩
  obtain ⟨horders, hline⟩ := Machine.invariant_run hordered
    ⟨ordersQueued_start tables erase failed, operationsInOrder_start tables erase failed⟩
    (Machine.guarded_true _ _) hbefore
  have hline' := (Machine.invariant_run hordered ⟨horders, hline⟩ (Machine.guarded_true _ _) hafter).2
  obtain ⟨entries, hlog, haccounted⟩ :=
    ((cumulative_accountedFor b.type).run horders hafter hplain).log
  refine ⟨hline', entries.filterMap entryOperation, by rw [hlog, List.filterMap_append], ?_⟩
  have hops : (entries.map DbEntry.request).filterMap operation = entries.filterMap entryOperation := by
    rw [List.filterMap_map]
    rfl
  rwa [hops] at haccounted

end TkmCollector.Proofs
