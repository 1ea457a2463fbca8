import TkmCollector.UDSServer

/-!
# The two ends of the control socket

The collector and `tkmcontrol` look at one path in two ways. They meet when both ways name the
same place, which is so for the paths that fit into an address.
-/

namespace TkmCollector.Proofs

open LocalSocket UDSServer

/-- The path of the socket has something before its first NUL, and fits into an address. -/
def FitsAddress (runtimeDirectory : Bytes) : Prop :=
  0 < (cString (sockPath runtimeDirectory)).length ∧
    (cString (sockPath runtimeDirectory)).length ≤ 107

instance (runtimeDirectory : Bytes) : Decidable (FitsAddress runtimeDirectory) := by
  unfold FitsAddress
  infer_instance

/-- With the socket `id` started, every user of `tkmcontrol` reaches it, and once its process has
ended without cleaning up another one starts. -/
def MeetAtSocket (sys : System) (id : Nat) (runtimeDirectory : Bytes) (h : Host) : Prop :=
  (∀ owner, Control.Connection.connect owner runtimeDirectory h = .ok (some id)) ∧
    ∀ id', (start sys id' runtimeDirectory (h.kill id)).2 = .ok ()

section

variable {sys : System} {id : Nat} {runtimeDirectory : Bytes} {h h' : Host}

/-- What a `start` that returns has done: nothing is at the path, the socket is bound, open to
all users if it is at the path, and listens. -/
lemma start_ok (hstart : start sys id runtimeDirectory h = (h', .ok ())) :
    ∃ h₁ h₂ : Host, h₁.files (cString (sockPath runtimeDirectory)) = none ∧
      h₁.bind sys id (sunPath (sockPath runtimeDirectory)) = some h₂ ∧
      (h₂.chmod (sockPath runtimeDirectory)).listen sys id = some h' := by
  unfold start at hstart
  dsimp only at hstart
  split at hstart
  · cases hstart
  · cases hstart
  · rename_i h₁ hclean
    have hnone : h₁.files (cString (sockPath runtimeDirectory)) = none := by
      by_cases hexists : h.pathExists (sockPath runtimeDirectory) = true
      · rw [if_pos hexists] at hclean
        exact h.remove_files hclean
      · rw [if_neg hexists] at hclean
        have heq := (Prod.mk.inj (Option.some.inj hclean)).2
        rw [← heq]
        simpa [Host.pathExists] using hexists
    split at hstart
    · cases hstart
    · rename_i h₂ hbind
      split at hstart
      · cases hstart
      · rename_i h₃ hlisten
        have heq := (Prod.mk.inj hstart).1
        exact ⟨h₁, h₂, hnone, hbind, by rw [hlisten, heq]⟩

lemma listen_ok (hlisten : h.listen sys id = some h') :
    sys.listens = true ∧ h'.files = h.files ∧ h'.listening id = true := by
  unfold Host.listen at hlisten
  split at hlisten
  · rename_i hl
    have heq := Option.some.inj hlisten
    subst heq
    exact ⟨hl, rfl, Function.update_self ..⟩
  · cases hlisten

lemma address_of_fits (hfits : FitsAddress runtimeDirectory) :
    addressOf (sunPath (sockPath runtimeDirectory)) = .path (cString (sockPath runtimeDirectory)) := by
  have hne : cString (sockPath runtimeDirectory) ≠ [] := List.ne_nil_of_length_pos hfits.1
  rw [addressOf_sunPath, if_neg hne, List.take_of_length_le hfits.2]

lemma bind_path {sun path : Bytes} (haddress : addressOf sun = .path path)
    (hbind : h.bind sys id sun = some h') :
    sys.bindable path = true ∧ h' = h.setFile path (some (.socket id sys.shared)) := by
  unfold Host.bind at hbind
  rw [haddress] at hbind
  dsimp only at hbind
  split at hbind
  · cases hbind
  · rename_i hfree
    have hbindable : sys.bindable path = true := by
      simp only [Bool.or_eq_true, not_or, Bool.not_eq_true', Bool.not_eq_false] at hfree
      exact hfree.2
    exact ⟨hbindable, (Option.some.inj hbind).symm⟩

lemma started_of_fits (hfits : FitsAddress runtimeDirectory)
    (hstart : start sys id runtimeDirectory h = (h', .ok ())) :
    h'.files (cString (sockPath runtimeDirectory)) = some (.socket id true) ∧
      h'.listening id = true ∧ sys.bindable (cString (sockPath runtimeDirectory)) = true ∧
      sys.listens = true := by
  obtain ⟨h₁, h₂, hnone, hbind, hlisten⟩ := start_ok hstart
  have hne : cString (sockPath runtimeDirectory) ≠ [] := List.ne_nil_of_length_pos hfits.1
  have hbound := bind_path (address_of_fits hfits) hbind
  have hlistens := listen_ok hlisten
  have hfile : h₂.files (cString (sockPath runtimeDirectory)) = some (.socket id sys.shared) := by
    rw [hbound.2, Host.files_setFile h₁ hne, Function.update_self]
  have hchmod : (h₂.chmod (sockPath runtimeDirectory)).files (cString (sockPath runtimeDirectory)) =
      some (.socket id true) := by
    unfold Host.chmod
    rw [hfile]
    dsimp only
    rw [Host.files_setFile h₂ hne, Function.update_self]
  exact ⟨by rw [hlistens.2.1, hchmod], hlistens.2.2, hbound.1, hlistens.1⟩

lemma connect_of_fits (hfits : FitsAddress runtimeDirectory)
    (hfile : h.files (cString (sockPath runtimeDirectory)) = some (.socket id true))
    (hlistening : h.listening id = true) (owner : Bool) :
    Control.Connection.connect owner runtimeDirectory h = .ok (some id) := by
  have hexists : h.pathExists (sockPath runtimeDirectory) = true := by
    rw [Host.pathExists, hfile]
    rfl
  unfold Control.Connection.connect Host.connect
  rw [if_pos hexists, address_of_fits hfits]
  simp [hfile, hlistening]

lemma restart_of_fits (hfits : FitsAddress runtimeDirectory) {old : Nat} {shared : Bool}
    (hfile : h.files (cString (sockPath runtimeDirectory)) = some (.socket old shared))
    (hbindable : sys.bindable (cString (sockPath runtimeDirectory)) = true)
    (hlistens : sys.listens = true) : (start sys id runtimeDirectory h).2 = .ok () := by
  have hne : cString (sockPath runtimeDirectory) ≠ [] := List.ne_nil_of_length_pos hfits.1
  have hexists : h.pathExists (sockPath runtimeDirectory) = true := by
    rw [Host.pathExists, hfile]
    rfl
  have hremove : h.remove (sockPath runtimeDirectory) =
      some (true, h.setFile (cString (sockPath runtimeDirectory)) none) := by
    rw [Host.remove, hfile]
  have hfree : (h.setFile (cString (sockPath runtimeDirectory)) none).files
      (cString (sockPath runtimeDirectory)) = none := h.remove_files hremove
  unfold start
  simp [hexists, hremove, Host.bind, address_of_fits hfits, hfree, hbindable, Host.listen, hlistens]

lemma missing_of_not_fits (hfits : ¬ FitsAddress runtimeDirectory)
    (hstart : start sys id runtimeDirectory h = (h', .ok ())) :
    h'.pathExists (sockPath runtimeDirectory) = false := by
  obtain ⟨h₁, h₂, hnone, hbind, hlisten⟩ := start_ok hstart
  have hfiles : h₂.files (cString (sockPath runtimeDirectory)) = none := by
    by_cases hempty : cString (sockPath runtimeDirectory) = []
    · rw [hempty]
      exact h₂.no_empty_path
    · have hpos : 0 < (cString (sockPath runtimeDirectory)).length := List.length_pos_iff.mpr hempty
      have hlong : 107 < (cString (sockPath runtimeDirectory)).length := by
        unfold FitsAddress at hfits
        omega
      have haddress := addressOf_sunPath (sockPath runtimeDirectory)
      rw [if_neg hempty] at haddress
      have hother : cString (sockPath runtimeDirectory) ≠
          (cString (sockPath runtimeDirectory)).take 107 := by
        intro heq
        have hlength := congrArg List.length heq
        rw [List.length_take] at hlength
        omega
      have hcut : (cString (sockPath runtimeDirectory)).take 107 ≠ [] := by
        intro hnil
        have hlength := congrArg List.length hnil
        rw [List.length_take, List.length_nil] at hlength
        omega
      rw [(bind_path haddress hbind).2, Host.files_setFile h₁ hcut, Function.update_of_ne hother]
      exact hnone
  rw [Host.pathExists, (listen_ok hlisten).2.1, Host.chmod_files_none h₂ hfiles, hfiles]
  rfl

end

/-- When `start` returns, the two programs meet at its socket, and a restart after an unclean end
succeeds, just when the path of the socket fits into an address. -/
theorem same_socket (sys : System) (id : Nat) (runtimeDirectory : Bytes) (h h' : Host)
    (hstart : start sys id runtimeDirectory h = (h', .ok ())) :
    MeetAtSocket sys id runtimeDirectory h' ↔ FitsAddress runtimeDirectory := by
  constructor
  · intro hmeet
    by_contra hfits
    have hconnect := hmeet.1 true
    unfold Control.Connection.connect at hconnect
    dsimp only at hconnect
    rw [missing_of_not_fits hfits hstart] at hconnect
    cases hconnect
  · intro hfits
    have hstarted := started_of_fits hfits hstart
    constructor
    · intro owner
      exact connect_of_fits hfits hstarted.1 hstarted.2.1 owner
    · intro id'
      exact restart_of_fits hfits (by rw [Host.kill_files]; exact hstarted.1) hstarted.2.2.1
        hstarted.2.2.2

/-- A system on which every call succeeds, with no files yet. -/
def plainSystem : System := ⟨fun _ => true, false, true⟩

def noFiles : Host := ⟨fun _ => none, rfl, fun _ => none, fun _ => false⟩

lemma start_plain (id : Nat) (runtimeDirectory : Bytes) :
    (start plainSystem id runtimeDirectory noFiles).2 = .ok () := by
  have hexists : noFiles.pathExists (sockPath runtimeDirectory) = false := rfl
  have hlistens : plainSystem.listens = true := rfl
  have hbind : (noFiles.bind plainSystem id (sunPath (sockPath runtimeDirectory))).isSome = true := by
    unfold Host.bind
    cases addressOf (sunPath (sockPath runtimeDirectory)) with
    | path path => rfl
    | abstract name => rfl
  obtain ⟨h, hbind⟩ := Option.isSome_iff_exists.mp hbind
  unfold start
  simp [hexists, hbind, Host.listen, hlistens]

/-- The directory `/run`. -/
def runDirectory : Bytes := [47, 114, 117, 110]

theorem same_socket_run :
    MeetAtSocket plainSystem 3 runDirectory (start plainSystem 3 runDirectory noFiles).1 :=
  (same_socket plainSystem 3 runDirectory noFiles (start plainSystem 3 runDirectory noFiles).1
    (Prod.ext rfl (start_plain ..))).mpr (by decide)

/-- A directory of 90 bytes, whose socket has a path of 108. -/
def longDirectory : Bytes := 47 :: List.replicate 89 97

/-- The collector starts, and `tkmcontrol` does not find the path it checks. -/
theorem socket_cut_off :
    (start plainSystem 3 longDirectory noFiles).2 = .ok () ∧
      ¬ MeetAtSocket plainSystem 3 longDirectory (start plainSystem 3 longDirectory noFiles).1 := by
  have hstart := start_plain 3 longDirectory
  have hfits : ¬ FitsAddress longDirectory := by decide
  constructor
  · exact hstart
  · intro hmeet
    have hconnect := hmeet.1 true
    unfold Control.Connection.connect at hconnect
    dsimp only at hconnect
    rw [missing_of_not_fits hfits (Prod.ext rfl hstart)] at hconnect
    cases hconnect

end TkmCollector.Proofs
