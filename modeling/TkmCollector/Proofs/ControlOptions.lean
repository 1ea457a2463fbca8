import TkmCollector.ControlMain

/-!
# Long and short options of the control utility

The table of long options, the string of short ones and the help text agree on fourteen of the
eighteen options. The other four take no argument by the string and by the help text, but the
table of long options has them take one. Long options can be written in short on every command
line exactly when none of these four is among them. What `main` starts with is one command that
the application can hand on.
-/

namespace TkmCollector.Proofs

open GetOpt ControlMain
open ControlApp (Command.Request Command.Action)

/-- The options of which the table of long options says something else than the rest. -/
def mismatched : List Char := ['c', 'd', 's', 'x']

/-- Every short option is the one of a long option, and the other way round. -/
theorem short_iff_long : (∀ s ∈ table.short, ∃ o ∈ longopts, o.val = s.1) ∧
    ∀ o ∈ longopts, ∃ s ∈ table.short, s.1 = o.val := by
  decide

/-- The help text shows both forms of an option as the tables have them, and the string of short
options goes by its arguments. -/
theorem help_forms : (∀ o ∈ longopts, ∃ h ∈ helpOptions, h.1 = o.name ∧ h.2.1 = o.val) ∧
    ∀ s ∈ table.short, s.2 = documented s.1 := by
  decide

lemma agrees_iff : ∀ o ∈ longopts, (o.val ≠ '-' ∧ table.short.lookup o.val = some o.takesArg ∧
    documented o.val = o.takesArg) ↔ o.val ∉ mismatched := by
  decide

lemma long_of_mismatched {val : Char} (h : val ∈ mismatched) : ∃ o ∈ longopts, o.val = val := by
  simp only [mismatched, List.mem_cons, List.not_mem_nil, or_false] at h
  rcases h with rfl | rfl | rfl | rfl
  · exact ⟨⟨"connect", true, 'c'⟩, by decide, rfl⟩
  · exact ⟨⟨"disconnect", true, 'd'⟩, by decide, rfl⟩
  · exact ⟨⟨"startCollecting", true, 's'⟩, by decide, rfl⟩
  · exact ⟨⟨"stopCollecting", true, 'x'⟩, by decide, rfl⟩

lemma set_mismatched {val : Char} (h : val ∈ mismatched) (o : Options) (arg : Option String) :
    o.set (.option val arg) = o.set (.option val none) := by
  simp only [mismatched, List.mem_cons, List.not_mem_nil, or_false] at h
  rcases h with rfl | rfl | rfl | rfl <;> rfl

/-- One of the four written in full costs the word behind it, at any point of a command line. -/
theorem word_lost {posix : Bool} {w : String} {body : List Char} {o : LongOption}
    (hkind : kind w = .long body) (hname : resolve table (splitLong body).1 = some o)
    (hnone : (splitLong body).2 = none) (hval : o.val ∈ mismatched) (a : String) (rest : List String)
    (s : Options) :
    (scan table posix (w :: a :: rest)).foldl Options.set s =
      (scan table posix (shortWord o.val :: rest)).foldl Options.set s := by
  have htables : ∀ o ∈ longopts, o.val ∈ mismatched →
      o.val ≠ '-' ∧ o.takesArg = true ∧ table.short.lookup o.val = some false := by
    decide
  obtain ⟨hne, htakes, hshort⟩ := htables o (resolve_mem hname) hval
  have hgiven : given (splitLong body).2 (a :: rest) = some (a, rest) := by
    rw [hnone]
    rfl
  have hword : wordReports table posix (shortWord o.val) rest.head? =
      some ([.option o.val none], false) := by
    rw [wordReports_short hne]
    simp [clusterReports, hshort]
  unfold scan
  rw [scanFrom_valued hkind hname htakes hgiven, scanFrom_cons hword, List.foldl_cons,
    set_mismatched hval]
  rfl

lemma last_word : ∀ o ∈ longopts, o.val ∈ mismatched →
    kind ("--" ++ o.name) = .long o.name.toList ∧
      splitLong o.name.toList = (o.name.toList, none) ∧ resolve table o.name.toList = some o ∧
      documented o.val = false := by
  decide

lemma last_reports : ∀ posix, ∀ o ∈ longopts, o.val ∈ mismatched →
    wordReports table posix ("--" ++ o.name) none = some ([.unknown], false) ∧
      parse posix ["--" ++ o.name] ≠ parse posix [shortWord o.val] := by
  decide

/-- What is the same of two command lines: the flags and values, and how `main` goes on. -/
def SameParse (posix : Bool) (fileExists : String → Bool) (argv argv' : List String) : Prop :=
  parse posix argv = parse posix argv' ∧
    outcome fileExists (parse posix argv) = outcome fileExists (parse posix argv')

/-- On every command line, the long options with the given short forms can be written in short,
any of them and anywhere. -/
def Interchangeable (posix : Bool) (fileExists : String → Bool) (replaced : Char → Prop) : Prop :=
  ∀ argv argv', Respelled table posix documented replaced argv argv' →
    SameParse posix fileExists argv argv'

theorem parse_respelled {posix : Bool} {replaced : Char → Prop}
    (h : ∀ val ∈ mismatched, ¬ replaced val) {argv argv' : List String}
    (hargv : Respelled table posix documented replaced argv argv') :
    parse posix argv = parse posix argv' := by
  unfold parse
  rw [scan_respelled _ hargv]
  intro o ho hreplaced
  apply (agrees_iff o ho).mpr
  intro hmem
  exact h o.val hmem hreplaced

lemma respelled_last {posix : Bool} {replaced : Char → Prop} {o : LongOption} (ho : o ∈ longopts)
    (hval : o.val ∈ mismatched) (hreplaced : replaced o.val) :
    Respelled table posix documented replaced ["--" ++ o.name] [shortWord o.val] := by
  obtain ⟨hkind, hsplit, hname, hdoc⟩ := last_word o ho hval
  have hreport := (last_reports posix o ho hval).1
  have hresolve : resolve table (splitLong o.name.toList).1 = some o := by
    rw [hsplit]
    exact hname
  exact @Respelled.bare _ _ _ _ _ [] [] _ _ _ _ hkind hresolve hreplaced (by rw [hsplit])
    (Or.inl hdoc) hreport .nil

/-- Long options can be written in short exactly when none of the four is among them. -/
theorem interchangeable_iff (posix : Bool) (fileExists : String → Bool) (replaced : Char → Prop) :
    Interchangeable posix fileExists replaced ↔ ∀ val ∈ mismatched, ¬ replaced val := by
  constructor
  · intro h val hval hreplaced
    obtain ⟨o, ho, rfl⟩ := long_of_mismatched hval
    have hsame := h _ _ (respelled_last ho hval hreplaced)
    exact (last_reports posix o ho hval).2 hsame.1
  · intro h argv argv' hargv
    have hparse := parse_respelled h hargv
    exact ⟨hparse, by rw [hparse]⟩

/-- The id behind `--connect` is lost, and the command line is refused. -/
theorem connect_not_interchangeable :
    Respelled table false documented (fun val => val = 'c') ["--connect", "--Id", "17"]
        ["-c", "--Id", "17"] ∧
      outcome (fun _ => true) (parse false ["--connect", "--Id", "17"]) =
        .rejected "Please provide the device hash id" ∧
      outcome (fun _ => true) (parse false ["-c", "--Id", "17"]) =
        .started none [⟨.connectDevice, [(.deviceHash, "17")]⟩] := by
  refine ⟨?_, by decide, by decide⟩
  have hlast : Respelled table false documented (fun val => val = 'c') ["17"] ["17"] :=
    @Respelled.keep _ _ _ _ "17" [] [] [] false (by decide) .nil
  exact @Respelled.bare _ _ _ _ "--connect" ["--Id", "17"] ["17"] "connect".toList
    ⟨"connect", true, 'c'⟩ [.option 'c' (some "--Id")] true (by decide) (by decide) rfl (by decide)
    (Or.inl (by decide)) (by decide) hlast

/-- The options passed the checks: one of the top level options is given and no other. -/
lemma passed_checks {o : Options} (h : rejection o = none) :
    o.noneGiven = false ∧
      ∀ e ∈ exclusions, e.option o = true → ∀ other ∈ e.others, other o = false := by
  unfold rejection at h
  split at h
  · cases h
  · next hnone =>
    refine ⟨by simpa using hnone, ?_⟩
    split at h
    · cases h
    · next hfind =>
      intro e he hoption other hother
      have hviolated := List.find?_eq_none.mp hfind e he
      simp only [Exclusion.violated, hoption, Bool.true_and, List.any_eq_true, not_exists,
        not_and] at hviolated
      simpa using hviolated other hother

lemma toRequest_idRequest (o : Options) {action : Command.Action} {key : Arg}
    (h : (action, key) ∈ [(Command.Action.removeDevice, Arg.deviceHash), (.connectDevice, .deviceHash),
      (.disconnectDevice, .deviceHash), (.startCollecting, .deviceHash), (.stopCollecting, .deviceHash),
      (.removeSession, .sessionHash)]) :
    ∃ rq, (idRequest o action key).toRequest = .ok rq := by
  simp only [List.mem_cons, Prod.mk.injEq, List.not_mem_nil, or_false] at h
  rcases h with ⟨rfl, rfl⟩ | ⟨rfl, rfl⟩ | ⟨rfl, rfl⟩ | ⟨rfl, rfl⟩ | ⟨rfl, rfl⟩ | ⟨rfl, rfl⟩ <;>
    unfold idRequest forcedArgs <;> cases o.force <;> exact ⟨_, rfl⟩

lemma one_of_requests {o : Options} {request : Command.Request} (hrequests : requests o = [request])
    (h : ∃ rq, request.toRequest = .ok rq) :
    ∃ request rq, requests o = [request] ∧ request.toRequest = .ok rq := by
  obtain ⟨rq, hrq⟩ := h
  exact ⟨request, rq, hrequests, hrq⟩

lemma of_started {fileExists : String → Bool} {o : Options} {path : Option String}
    {commands : List Command.Request} (h : outcome fileExists o = .started path commands) :
    rejection o = none ∧ o.help = false ∧ commands = requests o := by
  unfold outcome at h
  split at h
  · cases h
  · next hnone =>
    split at h
    · cases h
    · next hhelp =>
      refine ⟨hnone, by simpa using hhelp, ?_⟩
      split at h
      · cases h
        rfl
      · split at h
        · cases h
          rfl
        · cases h

lemma one_given {o : Options} (hgiven : o.noneGiven = false) (hhelp : o.help = false) :
    o.addDevice ∨ o.removeDevice ∨ o.connectDevice ∨ o.disconnectDevice ∨ o.startCollecting ∨
      o.stopCollecting ∨ o.initDatabase ∨ o.quit ∨ o.listDevices ∨ o.listSessions ∨
      o.removeSession := by
  unfold Options.noneGiven at hgiven
  grind

/-- The application starts with one command, and can hand it on. -/
theorem one_command {fileExists : String → Bool} {o : Options} {path : Option String}
    {commands : List Command.Request} (h : outcome fileExists o = .started path commands) :
    ∃ request rq, commands = [request] ∧ request.toRequest = .ok rq := by
  obtain ⟨hnone, hhelp, rfl⟩ := of_started h
  obtain ⟨hgiven, hothers⟩ := passed_checks hnone
  simp only [exclusions, List.forall_mem_cons, List.not_mem_nil, false_imp_iff, implies_true,
    and_true] at hothers
  obtain ⟨h1, h2, h3, h4, h5, h6, h7, h8, h9, h10, h11⟩ := hothers
  rcases one_given hgiven hhelp with ho | ho | ho | ho | ho | ho | ho | ho | ho | ho | ho
  · -- only the check of `--remSession` keeps the two apart
    have hsession : o.removeSession = false := by
      cases hs : o.removeSession
      · rfl
      · exact absurd (h11 hs).1 (by simp [ho])
    apply one_of_requests (by simp [requests, ho, h1 ho, hsession]; rfl)
    unfold forcedArgs
    cases o.force <;> exact ⟨_, rfl⟩
  · apply one_of_requests (by simp [requests, ho, h2 ho]; rfl)
    exact toRequest_idRequest o (by decide)
  · apply one_of_requests (by simp [requests, ho, h3 ho]; rfl)
    exact toRequest_idRequest o (by decide)
  · apply one_of_requests (by simp [requests, ho, h4 ho]; rfl)
    exact toRequest_idRequest o (by decide)
  · apply one_of_requests (by simp [requests, ho, h5 ho]; rfl)
    exact toRequest_idRequest o (by decide)
  · apply one_of_requests (by simp [requests, ho, h6 ho]; rfl)
    exact toRequest_idRequest o (by decide)
  · apply one_of_requests (by simp [requests, ho, h7 ho]; rfl)
    unfold forcedArgs
    cases o.force <;> exact ⟨_, rfl⟩
  · apply one_of_requests (by simp [requests, ho, h8 ho]; rfl)
    unfold forcedArgs
    cases o.force <;> exact ⟨_, rfl⟩
  · apply one_of_requests (by simp [requests, ho, h9 ho]; rfl)
    exact ⟨_, rfl⟩
  · apply one_of_requests (by simp [requests, ho, h10 ho]; rfl)
    exact ⟨_, rfl⟩
  · apply one_of_requests (by simp [requests, ho, h11 ho]; rfl)
    exact toRequest_idRequest o (by decide)

end TkmCollector.Proofs
