import Mathlib.Data.List.Nodup
import Mathlib.Data.List.Perm.Basic

namespace Mirror

variable {α κ : Type*}

/-- The keys tell the records apart, in the store and in the copy, and the copy holds records of
the store. -/
structure Mirrors (key : α → κ) (store copy : List α) : Prop where
  keyed : (store.map key).Nodup
  distinct : (copy.map key).Nodup
  sound : ∀ a ∈ copy, a ∈ store

variable {key : α → κ} {store store' copy copy' : List α} {a : α}

/-- A copy that knows every key is the store. -/
theorem Mirrors.perm (h : Mirrors key store copy) (hall : ∀ a ∈ store, key a ∈ copy.map key) :
    copy.Perm store := by
  have hcopy : copy.Nodup := h.distinct.of_map
  have hstore : store.Nodup := h.keyed.of_map
  apply (List.perm_ext_iff_of_nodup hcopy hstore).mpr
  intro a
  constructor
  · exact h.sound a
  · intro ha
    obtain ⟨c, hc, hkey⟩ := List.mem_map.mp (hall a ha)
    have hsame : c = a := List.inj_on_of_nodup_map h.keyed (h.sound c hc) ha hkey
    rw [← hsame]
    exact hc

lemma Mirrors.insert (h : Mirrors key store copy) (hnew : key a ∉ store.map key) :
    Mirrors key (store ++ [a]) copy := by
  refine ⟨?_, h.distinct, fun c hc => List.mem_append_left _ (h.sound c hc)⟩
  rw [List.map_append, List.map_singleton, List.nodup_append]
  refine ⟨h.keyed, List.nodup_singleton _, ?_⟩
  intro k hk k' hk' heq
  rw [List.mem_singleton.mp hk'] at heq
  exact hnew (heq ▸ hk)

lemma Mirrors.delete (h : Mirrors key store copy) (hsub : store'.Sublist store)
    (hkeep : ∀ a ∈ copy, a ∈ store') : Mirrors key store' copy :=
  ⟨h.keyed.sublist (hsub.map key), h.distinct, hkeep⟩

lemma Mirrors.replace (h : Mirrors key store copy) (gone : α → Bool)
    (hnew : key a ∉ (store.filter fun c => !gone c).map key)
    (hcopy : ∀ c ∈ copy, gone c = true → c = a) :
    Mirrors key ((store.filter fun c => !gone c) ++ [a]) copy := by
  refine ⟨?_, h.distinct, ?_⟩
  · have hkept : Mirrors key (store.filter fun c => !gone c) [] :=
      ⟨h.keyed.sublist (List.filter_sublist.map key), List.nodup_nil, by simp⟩
    exact (hkept.insert hnew).keyed
  · intro c hc
    by_cases hgone : gone c = true
    · rw [hcopy c hc hgone]
      simp
    · exact List.mem_append_left _ (List.mem_filter.mpr ⟨h.sound c hc, by simpa using hgone⟩)

lemma Mirrors.extend (h : Mirrors key store copy) (hdistinct : (copy'.map key).Nodup)
    (hfrom : ∀ a ∈ copy', a ∈ copy ∨ a ∈ store) : Mirrors key store copy' := by
  refine ⟨h.keyed, hdistinct, ?_⟩
  intro a ha
  obtain hold | hnew := hfrom a ha
  · exact h.sound a hold
  · exact hnew

end Mirror
