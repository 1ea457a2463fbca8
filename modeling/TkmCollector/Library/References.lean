import Mathlib.Data.List.Nodup

namespace References

variable {π χ κ : Type*}

/-- The keys of the parents are distinct, and every child names one of them. -/
structure Linked (key : π → κ) (link : χ → κ) (parents : List π) (children : List χ) : Prop where
  distinct : (parents.map key).Nodup
  named : ∀ c ∈ children, ∃ p ∈ parents, key p = link c

/-- What a step makes of two tables. The rows that are listed go; `same` and `inherits` say
how a row that stays may change. -/
structure Step (same : π → π → Prop) (inherits : χ → χ → Prop) (fresh : χ → Prop)
    (parents : List π) (children : List χ) (goneParents : List π) (goneChildren : List χ)
    (parents' : List π) (children' : List χ) : Prop where
  stay : ∀ p ∈ parents, p ∉ goneParents → ∃ p' ∈ parents', same p p'
  origin : ∀ c' ∈ children', (∃ c ∈ children, c ∉ goneChildren ∧ inherits c c') ∨ fresh c'

/-- The children of the parents that go are among the children that go. -/
def Cascades (key : π → κ) (link : χ → κ) (children : List χ) (goneParents : List π)
    (goneChildren : List χ) : Prop :=
  ∀ p ∈ goneParents, ∀ c ∈ children, link c = key p → c ∈ goneChildren

variable {key : π → κ} {link : χ → κ} {same : π → π → Prop} {inherits : χ → χ → Prop}
  {fresh : χ → Prop} {parents parents' goneParents : List π} {children children' goneChildren : List χ}

section Cascade

variable (hlinked : Linked key link parents children)
  (hstep : Step same inherits fresh parents children goneParents goneChildren parents' children')
  (hcascade : Cascades key link children goneParents goneChildren)
  (hlink : ∀ c c', inherits c c' → link c = link c')

include hlinked hstep hcascade hlink in
lemma Step.kept : ∀ c' ∈ children', (∃ c ∈ children, inherits c c' ∧
    ∃ p ∈ parents, key p = link c' ∧ ∃ p' ∈ parents', same p p') ∨ fresh c' := by
  intro c' hc'
  obtain ⟨c, hc, hstays, hinherits⟩ | hfresh := hstep.origin c' hc'
  · left
    obtain ⟨p, hp, hkey⟩ := hlinked.named c hc
    have hpstays : p ∉ goneParents := fun hgone => hstays (hcascade p hgone c hc hkey.symm)
    exact ⟨c, hc, hinherits, p, hp, hkey.trans (hlink c c' hinherits), hstep.stay p hp hpstays⟩
  · exact .inr hfresh

include hstep hcascade hlink in
lemma Step.abandoned (hfresh : ∀ c', fresh c' → ∀ p ∈ goneParents, link c' ≠ key p) :
    ∀ p ∈ goneParents, ∀ c' ∈ children', link c' ≠ key p := by
  intro p hp c' hc' heq
  obtain ⟨c, hc, hstays, hinherits⟩ | hnew := hstep.origin c' hc'
  · exact hstays (hcascade p hp c hc ((hlink c c' hinherits).trans heq))
  · exact hfresh c' hnew p hp heq

include hlinked hstep hcascade hlink in
lemma Step.linked (hsame : ∀ p p', same p p' → key p = key p') (hdistinct : (parents'.map key).Nodup)
    (hfresh : ∀ c' ∈ children', fresh c' → ∃ p' ∈ parents', key p' = link c') :
    Linked key link parents' children' := by
  refine ⟨hdistinct, fun c' hc' => ?_⟩
  obtain ⟨c, -, -, p, -, hkey, p', hp', hs⟩ | hnew :=
    Step.kept hlinked hstep hcascade hlink c' hc'
  · exact ⟨p', hp', (hsame p p' hs).symm.trans hkey⟩
  · exact hfresh c' hc' hnew

end Cascade

end References
