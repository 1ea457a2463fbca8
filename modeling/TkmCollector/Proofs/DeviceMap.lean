import TkmCollector.DeviceObjects
import TkmCollector.Proofs.CollectorFrame
import Mathlib.Data.List.Nodup

namespace TkmCollector.Proofs

open DeviceObjects Machine

/-- The hashes of the entries. -/
def hashes (s : DeviceObjects) : List String := s.devices.items.map s.hash

/-- No two entries share a hash. -/
def KeyedByHash (s : DeviceObjects) : Prop := (hashes s).Nodup

/-- A device is added just when its hash is absent; else the manager stays as it is. -/
def AddsAbsent (s : DeviceObjects) (device : Nat) : Prop :=
  ((s.addDevice device).2 = true ↔ s.hash device ∉ hashes s) ∧
    (s.hash device ∈ hashes s → (s.addDevice device).1 = s) ∧
    (s.hash device ∉ hashes s →
      (s.addDevice device).1.devices.items = s.devices.items ++ [device] ∧
        (s.addDevice device).1.objects = s.objects)

/-- The removal completes, and takes out just the entry with the hash. -/
def RemovesPresent (s : DeviceObjects) (device : Nat) : Prop :=
  ∃ s' found, s.remDevice device = .ok (s', found) ∧
    (found = true ↔ s.hash device ∈ hashes s) ∧
    (s'.devices.items = s.devices.items.filter fun entry => s.hash entry ≠ s.hash device) ∧
    ∀ entry, s.hash entry ≠ s.hash device → s'.objects entry = s.objects entry

/-- The entry with the hash is found, if there is one. -/
def FindsUnique (s : DeviceObjects) (key : String) : Prop :=
  ∀ entry, s.getDevice key = some entry ↔ entry ∈ s.devices.items ∧ s.hash entry = key

/-- The entries and their objects stay, the hashes of the rows are there afterwards, and the same
rows change nothing any more. -/
def LoadsOnce (s : DeviceObjects) (rows : List Control.DeviceData) : Prop :=
  s.devices.items <+: (s.loadDevices rows).devices.items ∧
    (∀ entry < s.next, (s.loadDevices rows).objects entry = s.objects entry) ∧
    (∀ key, key ∈ hashes (s.loadDevices rows) ↔
      key ∈ hashes s ∨ key ∈ rows.map Control.DeviceData.hash) ∧
    (s.loadDevices rows).loadDevices rows = s.loadDevices rows

/-- What the operation does is what it does on a finite map. -/
def ActsAsMap (s : DeviceObjects) : DeviceObjects.Event → Prop
  | .addDevice device => device < s.next → AddsAbsent s device
  | .remDevice device => device < s.next → RemovesPresent s device
  | .getDevice key => FindsUnique s key
  | .loadDevices rows => LoadsOnce s rows
  | .make _ | .device _ _ => True

/-- A device that is removed has a connection. -/
def ConnectedToRemove (s : DeviceObjects) : DeviceObjects.Event → Prop
  | .remDevice device => device < s.next →
      ∀ entry ∈ s.devices.items, s.hash entry = s.hash device → (s.objects entry).connection ≠ none
  | .make _ | .device _ _ | .addDevice _ | .getDevice _ | .loadDevices _ => True

/-- The invariant: nothing waits for a commit, the entries are objects that were made, and no two
share a hash. -/
structure SoundList (s : DeviceObjects) : Prop where
  clean : s.devices.Clean
  made : ∀ entry ∈ s.devices.items, entry < s.next
  keyed : KeyedByHash s

section

variable {s s' : DeviceObjects} {device : Nat}

lemma mem_hashes {key : String} :
    key ∈ hashes s ↔ ∃ entry ∈ s.devices.items, s.hash entry = key := by
  simp [hashes]

lemma addDevice_eq : s.addDevice device =
    if s.hash device ∈ hashes s then (s, false)
    else ({ s with devices := (s.devices.append device).commit }, true) := by
  have hfound : s.devices.foreach
      (fun found entry => if s.hash entry = s.hash device then true else found) false =
      decide (s.hash device ∈ hashes s) := by
    have hany := s.devices.foreach_any fun entry => decide (s.hash entry = s.hash device)
    simp only [decide_eq_true_eq] at hany
    rw [hany, List.any_eq, decide_eq_decide, mem_hashes]
    simp
  unfold addDevice
  simp only [hfound, decide_eq_true_eq]

lemma getDevice_eq (key : String) :
    s.getDevice key = s.devices.items.reverse.find? fun entry => s.hash entry = key := by
  have hlast := s.devices.foreach_last fun entry => decide (s.hash entry = key)
  simp only [decide_eq_true_eq] at hlast
  exact hlast

lemma getDevice_eq_none {key : String} : s.getDevice key = none ↔ key ∉ hashes s := by
  rw [getDevice_eq, List.find?_eq_none, mem_hashes]
  simp

lemma findsUnique (hs : KeyedByHash s) (key : String) : FindsUnique s key := by
  intro entry
  rw [getDevice_eq]
  constructor
  · intro h
    exact ⟨List.mem_reverse.mp (List.mem_of_find?_eq_some h), by simpa using List.find?_some h⟩
  · rintro ⟨hmem, hhash⟩
    cases hfind : s.devices.items.reverse.find? fun entry => s.hash entry = key with
    | none =>
      have hnone := List.find?_eq_none.mp hfind entry (List.mem_reverse.mpr hmem)
      simp [hhash] at hnone
    | some other =>
      have hother : other ∈ s.devices.items :=
        List.mem_reverse.mp (List.mem_of_find?_eq_some hfind)
      have hsame : s.hash other = key := by simpa using List.find?_some hfind
      rw [List.inj_on_of_nodup_map hs hother hmem (hsame.trans hhash.symm)]

lemma addsAbsent (hs : SoundList s) : AddsAbsent s device := by
  unfold AddsAbsent
  rw [addDevice_eq]
  by_cases hmem : s.hash device ∈ hashes s
  · simp [hmem]
  · simp [hmem, SafeList.commit_append hs.clean]

/-- What the loop of `remDevice` leaves of the state after the entries `visited`. -/
structure Visited (s : DeviceObjects) (device : Nat) (visited : List Nat) (s' : DeviceObjects) :
    Prop where
  items : s'.devices.items = s.devices.items
  added : s'.devices.added = s.devices.added
  removed : s'.devices.removed =
    s.devices.removed ++ visited.filter fun entry => s.hash entry = s.hash device
  next : s'.next = s.next
  hash : s'.hash = s.hash
  connection : ∀ entry, (s'.objects entry).connection = (s.objects entry).connection
  others : ∀ entry, s.hash entry ≠ s.hash device → s'.objects entry = s.objects entry

lemma visited_nil : Visited s device [] s where
  items := rfl
  added := rfl
  removed := by simp
  next := rfl
  hash := rfl
  connection := fun _ => rfl
  others := fun _ _ => rfl

lemma visited_skip {visited : List Nat} {t : DeviceObjects} {entry : Nat}
    (ht : Visited s device visited t) (hentry : s.hash entry ≠ s.hash device) :
    Visited s device (visited ++ [entry]) t := by
  refine { ht with removed := ?_ }
  rw [ht.removed]
  simp [hentry]

/-- An entry of the hash is disconnected, which leaves its hash and its connection, and noted. -/
lemma visited_match {visited : List Nat} {t : DeviceObjects} {entry : Nat} (found : Bool)
    (ht : Visited s device visited t) (hentry : s.hash entry = s.hash device)
    (hconnection : (s.objects entry).connection ≠ none) :
    ∃ t', remEntry device (t, found) entry = .ok (t', true) ∧
      Visited s device (visited ++ [entry]) t' := by
  obtain ⟨c, hc⟩ := Option.ne_none_iff_exists'.mp hconnection
  have hc' : (t.objects entry).connection = some c := (ht.connection entry).trans hc
  have hsame : t.hash entry = t.hash device := by rw [ht.hash, hentry]
  have hdisconnect : (t.objects entry).disconnect.1 = (t.objects entry).setState .disconnected := by
    unfold MonitorDevice.disconnect MonitorDevice.updateState
    dsimp only
    split <;> rfl
  refine ⟨{ t.setObject entry ((t.objects entry).setState .disconnected) with
    devices := t.devices.remove entry
    database := t.database ++ (t.objects entry).disconnect.2 }, ?_, ?_⟩
  · simp only [remEntry, if_pos hsame, DeviceObjects.disconnect, hc', hdisconnect]
    rfl
  · have hobjects : ∀ other, other ≠ entry →
        (t.setObject entry ((t.objects entry).setState .disconnected)).objects other =
          t.objects other := fun other hother => Function.update_of_ne hother ..
    have hself : (t.setObject entry ((t.objects entry).setState .disconnected)).objects entry =
        (t.objects entry).setState .disconnected := Function.update_self ..
    constructor
    · exact ht.items
    · exact ht.added
    · change t.devices.removed ++ [entry] = _
      rw [ht.removed]
      simp [hentry]
    · exact ht.next
    · rw [← ht.hash]
      funext other
      unfold DeviceObjects.hash
      by_cases hother : other = entry
      · rw [hother, hself]
        rfl
      · rw [hobjects other hother]
    · intro other
      rw [← ht.connection other]
      by_cases hother : other = entry
      · rw [hother, hself]
        rfl
      · rw [hobjects other hother]
    · intro other hne
      have hother : other ≠ entry := fun heq => hne (heq ▸ hentry)
      rw [← ht.others other hne, hobjects other hother]

lemma remEntry_skip {t : DeviceObjects} {entry : Nat} {found : Bool}
    (hentry : t.hash entry ≠ t.hash device) : remEntry device (t, found) entry = .ok (t, found) := by
  simp only [remEntry, if_neg hentry]

lemma loop_connected (l : List Nat)
    (hconnected : ∀ entry ∈ l, s.hash entry = s.hash device → (s.objects entry).connection ≠ none)
    {visited : List Nat} {t : DeviceObjects} (found : Bool) (ht : Visited s device visited t) :
    ∃ t', l.foldlM (remEntry device) (t, found) =
        .ok (t', found || l.any fun entry => s.hash entry = s.hash device) ∧
      Visited s device (visited ++ l) t' := by
  induction l generalizing visited t found with
  | nil => exact ⟨t, by simp; rfl, by simpa using ht⟩
  | cons entry l ih =>
    have hrest := fun other hother => hconnected other (List.mem_cons_of_mem _ hother)
    by_cases hentry : s.hash entry = s.hash device
    · obtain ⟨u, hu, hvisited⟩ := visited_match found ht hentry
        (hconnected entry (List.mem_cons_self ..) hentry)
      obtain ⟨t', ht', hdone⟩ := ih hrest true hvisited
      refine ⟨t', ?_, by simpa using hdone⟩
      rw [List.foldlM_cons, hu]
      change l.foldlM (remEntry device) (u, true) = _
      simpa [hentry] using ht'
    · obtain ⟨t', ht', hdone⟩ := ih hrest found (visited_skip ht hentry)
      refine ⟨t', ?_, by simpa using hdone⟩
      rw [List.foldlM_cons, remEntry_skip (by rw [ht.hash]; exact hentry)]
      change l.foldlM (remEntry device) (t, found) = _
      simpa [hentry] using ht'

/-- The loop does not come back from an entry that has the hash and no connection. -/
lemma loop_unconnected (l : List Nat)
    (hexists : ∃ entry ∈ l, s.hash entry = s.hash device ∧ (s.objects entry).connection = none)
    {visited : List Nat} {t : DeviceObjects} (found : Bool) (ht : Visited s device visited t) :
    l.foldlM (remEntry device) (t, found) = .error .nullConnection := by
  induction l generalizing visited t found with
  | nil =>
    obtain ⟨entry, hmem, -⟩ := hexists
    cases hmem
  | cons entry l ih =>
    rw [List.foldlM_cons]
    by_cases hentry : s.hash entry = s.hash device
    · by_cases hconnection : (s.objects entry).connection = none
      · have hc : (t.objects entry).connection = none := (ht.connection entry).trans hconnection
        have hsame : t.hash entry = t.hash device := by rw [ht.hash, hentry]
        simp only [remEntry, if_pos hsame, DeviceObjects.disconnect, hc]
        rfl
      · obtain ⟨u, hu, hvisited⟩ := visited_match found ht hentry hconnection
        rw [hu]
        apply ih _ true hvisited
        obtain ⟨other, hmem, hother⟩ := hexists
        have hne : other ≠ entry := fun heq => hconnection (heq ▸ hother.2)
        exact ⟨other, (List.mem_cons.mp hmem).resolve_left hne, hother⟩
    · rw [remEntry_skip (by rw [ht.hash]; exact hentry)]
      apply ih _ found (visited_skip ht hentry)
      obtain ⟨other, hmem, hother⟩ := hexists
      have hne : other ≠ entry := fun heq => hentry (heq ▸ hother.1)
      exact ⟨other, (List.mem_cons.mp hmem).resolve_left hne, hother⟩

lemma remDevice_connected (hs : SoundList s)
    (hconnected : ∀ entry ∈ s.devices.items, s.hash entry = s.hash device →
      (s.objects entry).connection ≠ none) :
    ∃ s', s.remDevice device = .ok (s', decide (s.hash device ∈ hashes s)) ∧ s'.devices.Clean ∧
      (s'.devices.items = s.devices.items.filter fun entry => s.hash entry ≠ s.hash device) ∧
      s'.next = s.next ∧ s'.hash = s.hash ∧
      ∀ entry, s.hash entry ≠ s.hash device → s'.objects entry = s.objects entry := by
  obtain ⟨t, ht, hvisited⟩ := loop_connected s.devices.items hconnected false visited_nil
  have hfound : (s.devices.items.any fun entry => s.hash entry = s.hash device) =
      decide (s.hash device ∈ hashes s) := by
    rw [List.any_eq, decide_eq_decide, mem_hashes]
    simp
  rw [Bool.false_or, hfound] at ht
  refine ⟨{ t with devices := t.devices.commit }, ?_, SafeList.clean_commit _, ?_, hvisited.next,
    hvisited.hash, hvisited.others⟩
  · unfold remDevice SafeList.tryForeach
    rw [ht]
  · have hadded : t.devices.added = [] := hvisited.added.trans hs.clean.1
    have hremoved : ∀ entry ∈ t.devices.items, entry ∈ t.devices.removed ↔
        decide (s.hash entry = s.hash device) = true := by
      intro entry hentry
      rw [hvisited.items] at hentry
      rw [hvisited.removed, hs.clean.2]
      simp [hentry]
    change t.devices.commit.items = _
    rw [SafeList.commit_remove hadded hremoved, hvisited.items]
    simp

lemma remDevice_unconnected (hexists : ∃ entry ∈ s.devices.items,
    s.hash entry = s.hash device ∧ (s.objects entry).connection = none) :
    s.remDevice device = .error .nullConnection := by
  unfold remDevice SafeList.tryForeach
  rw [loop_unconnected s.devices.items hexists false visited_nil]

lemma removesPresent_iff (hs : SoundList s) : RemovesPresent s device ↔
    ∀ entry ∈ s.devices.items, s.hash entry = s.hash device → (s.objects entry).connection ≠ none := by
  constructor
  · rintro ⟨s', found, hremove, -⟩ entry hmem hentry hconnection
    rw [remDevice_unconnected ⟨entry, hmem, hentry, hconnection⟩] at hremove
    cases hremove
  · intro hconnected
    obtain ⟨s', hremove, -, hitems, -, -, hothers⟩ := remDevice_connected hs hconnected
    exact ⟨s', _, hremove, by simp, hitems, hothers⟩

lemma sound_remDevice {found : Bool} (hs : SoundList s)
    (hremove : s.remDevice device = .ok (s', found)) : SoundList s' := by
  by_cases hconnected : ∀ entry ∈ s.devices.items, s.hash entry = s.hash device →
      (s.objects entry).connection ≠ none
  · obtain ⟨t, ht, hclean, hitems, hnext, hhash, -⟩ := remDevice_connected hs hconnected
    rw [ht] at hremove
    have heq := (Prod.mk.inj (Except.ok.inj hremove)).1
    subst heq
    constructor
    · exact hclean
    · intro entry hentry
      rw [hitems] at hentry
      rw [hnext]
      exact hs.made entry (List.mem_of_mem_filter hentry)
    · unfold KeyedByHash hashes
      rw [hitems, hhash]
      exact hs.keyed.sublist (List.filter_sublist.map s.hash)
  · push Not at hconnected
    rw [remDevice_unconnected hconnected] at hremove
    cases hremove

/-- The state after a device is loaded from a row. -/
def withLoaded (s : DeviceObjects) (row : Control.DeviceData) : DeviceObjects where
  devices := ⟨s.devices.items ++ [s.next], [], []⟩
  objects := Function.update s.objects s.next (MonitorDevice.loaded row)
  next := s.next + 1
  database := s.database

lemma hash_update_of_made (hs : SoundList s) {object : MonitorDevice} {entry : Nat}
    (hentry : entry ∈ s.devices.items) :
    (Function.update s.objects s.next object) entry = s.objects entry := by
  have hmade := hs.made entry hentry
  exact Function.update_of_ne (by omega) ..

lemma hashes_update (hs : SoundList s) {s' : DeviceObjects} {object : MonitorDevice}
    (hitems : s'.devices.items = s.devices.items)
    (hobjects : s'.objects = Function.update s.objects s.next object) : hashes s' = hashes s := by
  unfold hashes
  rw [hitems]
  apply List.map_congr_left
  intro entry hentry
  unfold DeviceObjects.hash
  rw [hobjects, hash_update_of_made hs hentry]

lemma hashes_withLoaded (hs : SoundList s) (row : Control.DeviceData) :
    hashes (withLoaded s row) = hashes s ++ [row.hash] := by
  have hlast : (withLoaded s row).hash s.next = row.hash := by
    unfold DeviceObjects.hash withLoaded
    dsimp only
    rw [Function.update_self]
    rfl
  have hrest : s.devices.items.map (withLoaded s row).hash = hashes s := by
    apply List.map_congr_left
    intro entry hentry
    unfold DeviceObjects.hash withLoaded
    dsimp only
    rw [hash_update_of_made hs hentry]
  unfold hashes
  change (s.devices.items ++ [s.next]).map (withLoaded s row).hash = _
  rw [List.map_append, hrest, List.map_singleton, hlast]
  rfl

lemma sound_withLoaded (hs : SoundList s) {row : Control.DeviceData}
    (hrow : row.hash ∉ hashes s) : SoundList (withLoaded s row) where
  clean := ⟨rfl, rfl⟩
  made := by
    intro entry hentry
    change entry ∈ s.devices.items ++ [s.next] at hentry
    change entry < s.next + 1
    rcases List.mem_append.mp hentry with hold | hnew
    · have hmade := hs.made entry hold
      omega
    · rw [List.mem_singleton.mp hnew]
      omega
  keyed := by
    unfold KeyedByHash
    rw [hashes_withLoaded hs]
    rw [← List.concat_eq_append]
    exact hs.keyed.concat hrow

lemma loadDevices_known {rows : List Control.DeviceData}
    (hknown : ∀ row ∈ rows, row.hash ∈ hashes s) : s.loadDevices rows = s := by
  induction rows with
  | nil => rfl
  | cons row rows ih =>
    have hrow : s.getDevice row.hash ≠ none := fun hnone =>
      getDevice_eq_none.mp hnone (hknown row (List.mem_cons_self ..))
    obtain ⟨entry, hentry⟩ := Option.ne_none_iff_exists'.mp hrow
    rw [loadDevices, hentry]
    exact ih fun other hother => hknown other (List.mem_cons_of_mem _ hother)

lemma loadDevices_cons (hs : SoundList s) (row : Control.DeviceData)
    (rows : List Control.DeviceData) :
    s.loadDevices (row :: rows) =
      if row.hash ∈ hashes s then s.loadDevices rows else (withLoaded s row).loadDevices rows := by
  by_cases hrow : row.hash ∈ hashes s
  · have hsome : s.getDevice row.hash ≠ none := fun hnone => getDevice_eq_none.mp hnone hrow
    obtain ⟨entry, hentry⟩ := Option.ne_none_iff_exists'.mp hsome
    rw [loadDevices, hentry, if_pos hrow]
  · rw [loadDevices, getDevice_eq_none.mpr hrow, if_neg hrow]
    have hhashes : hashes (s.make row) = hashes s := hashes_update hs rfl rfl
    have hnew : (s.make row).hash s.next = row.hash := by
      unfold DeviceObjects.hash make setObject
      dsimp only
      rw [Function.update_self]
      rfl
    have hclean : (s.make row).devices.Clean := hs.clean
    have hadd : ((s.make row).addDevice s.next).1 =
        { s.make row with devices := ⟨s.devices.items ++ [s.next], [], []⟩ } := by
      rw [addDevice_eq, hhashes, hnew, if_neg hrow]
      rw [SafeList.commit_append hclean]
      rfl
    dsimp only
    rw [hadd]
    congr 1
    unfold withLoaded setObject make
    dsimp only [setObject]
    rw [Function.update_self, Function.update_idem]
    rfl

lemma loadDevices_spec (hs : SoundList s) (rows : List Control.DeviceData) :
    SoundList (s.loadDevices rows) ∧ s.devices.items <+: (s.loadDevices rows).devices.items ∧
      (∀ entry < s.next, (s.loadDevices rows).objects entry = s.objects entry) ∧
      ∀ key, key ∈ hashes (s.loadDevices rows) ↔
        key ∈ hashes s ∨ key ∈ rows.map Control.DeviceData.hash := by
  induction rows generalizing s with
  | nil => exact ⟨hs, List.prefix_rfl, fun _ _ => rfl, fun key => by simp [loadDevices]⟩
  | cons row rows ih =>
    rw [loadDevices_cons hs]
    by_cases hrow : row.hash ∈ hashes s
    · rw [if_pos hrow]
      obtain ⟨hsound, hkept, hobjects, hkeys⟩ := ih hs
      refine ⟨hsound, hkept, hobjects, fun key => ?_⟩
      rw [hkeys key, List.map_cons, List.mem_cons]
      constructor
      · tauto
      · rintro (hkey | hkey | hkey)
        · exact .inl hkey
        · exact .inl (hkey ▸ hrow)
        · exact .inr hkey
    · rw [if_neg hrow]
      obtain ⟨hsound, hkept, hobjects, hkeys⟩ := ih (sound_withLoaded hs hrow)
      refine ⟨hsound, (List.prefix_append _ _).trans hkept, ?_, fun key => ?_⟩
      · intro entry hentry
        rw [hobjects entry (Nat.lt_succ_of_lt hentry)]
        exact Function.update_of_ne (by omega) ..
      · rw [hkeys key, hashes_withLoaded hs, List.mem_append, List.mem_singleton, List.map_cons,
          List.mem_cons, or_assoc]

lemma loadsOnce (hs : SoundList s) (rows : List Control.DeviceData) : LoadsOnce s rows := by
  obtain ⟨-, hkept, hobjects, hkeys⟩ := loadDevices_spec hs rows
  refine ⟨hkept, hobjects, hkeys, loadDevices_known fun row hrow => ?_⟩
  exact (hkeys row.hash).mpr (.inr (List.mem_map_of_mem hrow))

/-- The devices of the entries, without their identity. -/
def objectList (s : DeviceObjects) : DeviceManager := s.devices.items.map s.objects

lemma objectList_getDevice (key : String) :
    (objectList s).getDevice key = (s.getDevice key).map s.objects := by
  rw [getDevice_eq, DeviceManager.getDevice, objectList, ← List.map_reverse, List.find?_map]
  rfl

lemma objectList_addDevice (hs : SoundList s) :
    objectList (s.addDevice device).1 = (objectList s).addDevice (s.objects device) := by
  have hany : ((objectList s).any fun entry => entry.deviceData.hash = (s.objects device).deviceData.hash) =
      decide (s.hash device ∈ hashes s) := by
    rw [objectList, List.any_map, List.any_eq, decide_eq_decide, mem_hashes]
    simp [DeviceObjects.hash]
  rw [addDevice_eq, DeviceManager.addDevice, hany]
  by_cases hmem : s.hash device ∈ hashes s
  · rw [if_pos hmem, if_pos (decide_eq_true hmem)]
  · rw [if_neg hmem, if_neg (by simpa using hmem), SafeList.commit_append hs.clean]
    exact List.map_append

lemma objectList_withLoaded (hs : SoundList s) (row : Control.DeviceData) :
    objectList (withLoaded s row) = objectList s ++ [MonitorDevice.loaded row] := by
  have hrest : s.devices.items.map (withLoaded s row).objects = objectList s := by
    apply List.map_congr_left
    intro entry hentry
    exact hash_update_of_made hs hentry
  have hlast : (withLoaded s row).objects s.next = MonitorDevice.loaded row :=
    Function.update_self ..
  change (s.devices.items ++ [s.next]).map (withLoaded s row).objects = _
  rw [List.map_append, hrest, List.map_singleton, hlast]

/-- The loop of `doLoadDevices` over the shared objects is the one over the list. -/
theorem objectList_loadDevices (hs : SoundList s) (rows : List Control.DeviceData) :
    objectList (s.loadDevices rows) = (objectList s).load rows := by
  induction rows generalizing s with
  | nil => rfl
  | cons row rows ih =>
    rw [loadDevices_cons hs, DeviceManager.load, objectList_getDevice]
    by_cases hrow : row.hash ∈ hashes s
    · have hsome : s.getDevice row.hash ≠ none := fun hnone => getDevice_eq_none.mp hnone hrow
      obtain ⟨entry, hentry⟩ := Option.ne_none_iff_exists'.mp hsome
      rw [if_pos hrow, hentry]
      exact ih hs
    · have habsent : (objectList s).getDevice (MonitorDevice.loaded row).deviceData.hash = none := by
        change (objectList s).getDevice row.hash = none
        rw [objectList_getDevice, getDevice_eq_none.mpr hrow]
        rfl
      rw [if_neg hrow, getDevice_eq_none.mpr hrow]
      change _ = ((objectList s).addDevice (MonitorDevice.loaded row)).load rows
      rw [addDevice_of_none habsent, ← objectList_withLoaded hs]
      exact ih (sound_withLoaded hs hrow)

lemma sound_start : SoundList DeviceObjects.start where
  clean := SafeList.clean_empty
  made := by simp [DeviceObjects.start, SafeList.empty]
  keyed := by simp [KeyedByHash, hashes, DeviceObjects.start, SafeList.empty]

lemma sound_addDevice (hs : SoundList s) (hdevice : device < s.next) :
    SoundList (s.addDevice device).1 := by
  rw [addDevice_eq]
  by_cases hmem : s.hash device ∈ hashes s
  · rw [if_pos hmem]
    exact hs
  · rw [if_neg hmem, SafeList.commit_append hs.clean]
    constructor
    · exact ⟨rfl, rfl⟩
    · intro entry hentry
      rcases List.mem_append.mp hentry with hold | hnew
      · exact hs.made entry hold
      · rw [List.mem_singleton.mp hnew]
        exact hdevice
    · have hhashes : hashes { s with devices := ⟨s.devices.items ++ [device], [], []⟩ } =
          hashes s ++ [s.hash device] := List.map_append
      unfold KeyedByHash
      rw [hhashes, ← List.concat_eq_append]
      exact hs.keyed.concat hmem

lemma sound_setObject (hs : SoundList s) {object : MonitorDevice} {database : List IDatabase.Request}
    (hobject : object.deviceData.hash = s.hash device) :
    SoundList { s.setObject device object with database := database } where
  clean := hs.clean
  made := hs.made
  keyed := by
    have hhash : (s.setObject device object).hash = s.hash := by
      funext entry
      unfold DeviceObjects.hash setObject
      dsimp only
      by_cases hentry : entry = device
      · rw [hentry, Function.update_self]
        exact hobject
      · rw [Function.update_of_ne hentry]
    have hhashes : hashes { s.setObject device object with database := database } = hashes s :=
      congrArg (List.map · s.devices.items) hhash
    unfold KeyedByHash
    rw [hhashes]
    exact hs.keyed

lemma sound_make (hs : SoundList s) (deviceData : Control.DeviceData) :
    SoundList (s.make deviceData) where
  clean := hs.clean
  made := fun entry hentry => Nat.lt_succ_of_lt (hs.made entry hentry)
  keyed := by
    have hhashes : hashes (s.make deviceData) = hashes s := hashes_update hs rfl rfl
    unfold KeyedByHash
    rw [hhashes]
    exact hs.keyed

lemma sound_step : Preserves DeviceObjects.step (fun _ _ => True) SoundList := by
  intro s e s' hs _ h
  cases e with
  | make deviceData =>
    rw [← Except.ok.inj h]
    exact sound_make hs deviceData
  | device device e =>
    unfold DeviceObjects.step at h
    dsimp only at h
    split at h
    · split at h
      · cases h
      · rename_i hstep
        rw [← Except.ok.inj h]
        exact sound_setObject hs (dispatch_hash (step_dispatch hstep))
    · rw [← Except.ok.inj h]
      exact hs
  | addDevice device =>
    unfold DeviceObjects.step at h
    dsimp only at h
    split at h
    · rename_i hdevice
      rw [← Except.ok.inj h]
      exact sound_addDevice hs hdevice
    · rw [← Except.ok.inj h]
      exact hs
  | remDevice device =>
    unfold DeviceObjects.step at h
    dsimp only at h
    split at h
    · split at h
      · cases h
      · rename_i hremove
        rw [← Except.ok.inj h]
        exact sound_remDevice hs hremove
    · rw [← Except.ok.inj h]
      exact hs
  | getDevice key =>
    rw [← Except.ok.inj h]
    exact hs
  | loadDevices rows =>
    rw [← Except.ok.inj h]
    exact (loadDevices_spec hs rows).1

lemma actsAsMap_iff (hs : SoundList s) (e : DeviceObjects.Event) :
    ActsAsMap s e ↔ ConnectedToRemove s e := by
  cases e with
  | remDevice device => exact forall_congr' fun _ => removesPresent_iff hs
  | addDevice device => exact ⟨fun _ => trivial, fun _ _ => addsAbsent hs⟩
  | getDevice key => exact ⟨fun _ => trivial, fun _ => findsUnique hs.keyed key⟩
  | loadDevices rows => exact ⟨fun _ => trivial, fun _ => loadsOnce hs rows⟩
  | make deviceData => exact Iff.rfl
  | device device e => exact Iff.rfl

end

/-- Along every run no two entries share a hash, and the operations are those of a finite map just
when every device that is removed has a connection. -/
theorem device_map (events : List DeviceObjects.Event) :
    (Throughout DeviceObjects.step KeyedByHash DeviceObjects.start events ∧
      Guarded DeviceObjects.step ActsAsMap DeviceObjects.start events) ↔
      Guarded DeviceObjects.step ConnectedToRemove DeviceObjects.start events := by
  have hkeyed : Throughout DeviceObjects.step KeyedByHash DeviceObjects.start events :=
    (throughout_of_guarded sound_step sound_start (guarded_true ..)).mono fun _ hs => hs.keyed
  have hguard : Guarded DeviceObjects.step ActsAsMap DeviceObjects.start events ↔
      Guarded DeviceObjects.step ConnectedToRemove DeviceObjects.start events :=
    guarded_congr (fun s e s' hs _ h => sound_step s e s' hs trivial h)
      (fun _ e hs => actsAsMap_iff hs e) sound_start
  constructor
  · intro h
    exact hguard.mp h.2
  · intro h
    exact ⟨hkeyed, hguard.mpr h⟩

/-- A device that is loaded and removed before anybody has connected it. -/
def loadedThenRemoved : List DeviceObjects.Event :=
  [.loadDevices [⟨1, "a", "a", "localhost", 3357, .unknown⟩], .remDevice 0]

/-- The removal does not come back. -/
theorem unconnected_removal :
    ¬ (Throughout DeviceObjects.step KeyedByHash DeviceObjects.start loadedThenRemoved ∧
      Guarded DeviceObjects.step ActsAsMap DeviceObjects.start loadedThenRemoved) := by
  rintro ⟨-, -, hacts⟩
  have hremoves := (hacts _ rfl).1 (by decide)
  obtain ⟨s', found, hremove, -⟩ := hremoves
  cases hremove

end TkmCollector.Proofs
