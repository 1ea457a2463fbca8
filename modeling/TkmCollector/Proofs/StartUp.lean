import TkmCollector.CollectorMain
import TkmCollector.Proofs.Provenance

namespace TkmCollector.Proofs

open GetOpt CollectorMain Database Dictionary

lemma collector_agrees : ∀ o ∈ CollectorMain.longopts,
    o.val ≠ '-' ∧ CollectorMain.table.short.lookup o.val = some o.takesArg ∧
      CollectorMain.documented o.val = o.takesArg := by
  decide

/-- Any of the long options can be written in short, everywhere on the command line: the collector
starts in the same way. -/
theorem launch_respelled (sys : System) (posix : Bool) (argv argv' input : List String)
    (tables : Tables)
    (h : Respelled CollectorMain.table posix CollectorMain.documented (fun _ => True) argv argv') :
    main sys posix argv input tables = main sys posix argv' input tables := by
  have hscan := scan_respelled (fun o ho _ => collector_agrees o ho) h
  unfold main CollectorMain.parse
  rw [hscan]

/-- The option that asks about an erasure. -/
def asksErasure : Report → Bool
  | .option val _ => val = 'e'
  | .unknown => false

/-- Nothing goes wrong, and no configuration file can be parsed. -/
def launchedSystem : System where
  confPath := "/etc/tkmcollector.conf"
  directory := "/root"
  pathExists _ := true
  parseFile _ := none
  createDirectories _ := .created
  daemonize := .inBackground
  databaseOpens _ := true
  serverStarts _ := true

theorem launch_respelled_config :
    Respelled CollectorMain.table false CollectorMain.documented (fun _ => True)
        ["--config", "tkm.conf", "--daemon"] ["-ctkm.conf", "-d"] ∧
      main launchedSystem false ["--config", "tkm.conf", "--daemon"] [] (tablesWith []) =
        main launchedSystem false ["-ctkm.conf", "-d"] [] (tablesWith []) := by
  have hdaemon : Respelled CollectorMain.table false CollectorMain.documented (fun _ => True)
      ["--daemon"] ["-d"] :=
    @Respelled.bare _ _ _ _ "--daemon" [] [] "daemon".toList ⟨"daemon", false, 'd'⟩ [.option 'd' none]
      false (by decide) (by decide) trivial (by decide) (Or.inl (by decide)) (by decide) .nil
  have hargv : Respelled CollectorMain.table false CollectorMain.documented (fun _ => True)
      ["--config", "tkm.conf", "--daemon"] ["-ctkm.conf", "-d"] :=
    @Respelled.valued _ _ _ _ "--config" "tkm.conf" ["tkm.conf", "--daemon"] ["--daemon"] ["-d"]
      ["-ctkm.conf"] "config".toList ⟨"config", true, 'c'⟩ (by decide) (by decide) trivial (by decide)
      (by decide) (by decide) hdaemon
  exact ⟨hargv, launch_respelled launchedSystem false _ _ [] (tablesWith []) hargv⟩

/-- How often the user is asked about an erasure. -/
def erasures (reports : List Report) : Nat := reports.countP asksErasure

/-- One of the answers to the questions that the command line causes confirms an erasure. -/
def Confirmed (posix : Bool) (argv input : List String) : Prop :=
  ∃ answer ∈ input.take (erasures (scan CollectorMain.table posix argv)), answer ∈ confirms

lemma set_other (l : Locals) {report : Report} (h : asksErasure report = false) :
    (l.set report).eraseDatabase = l.eraseDatabase ∧ (l.set report).input = l.input := by
  unfold Locals.set
  cases report with
  | unknown => exact ⟨rfl, rfl⟩
  | option val optarg =>
    dsimp only
    split
    · exact ⟨rfl, rfl⟩
    · cases h
    · exact ⟨rfl, rfl⟩
    · exact ⟨rfl, rfl⟩
    · exact ⟨rfl, rfl⟩

lemma set_asks (l : Locals) {report : Report} (h : asksErasure report = true) :
    l.set report = l.ask := by
  cases report with
  | unknown => cases h
  | option val optarg =>
    obtain rfl : val = 'e' := by simpa [asksErasure] using h
    rfl

lemma set_reports (reports : List Report) (l : Locals) :
    (reports.foldl Locals.set l).eraseDatabase = true ↔ l.eraseDatabase = true ∨
      ∃ answer ∈ l.input.take (erasures reports), answer ∈ confirms := by
  induction reports generalizing l with
  | nil => simp [erasures]
  | cons report reports ih =>
    rw [List.foldl_cons, ih]
    cases hask : asksErasure report with
    | false =>
      obtain ⟨herase, hinput⟩ := set_other l hask
      rw [herase, hinput, erasures, erasures, List.countP_cons_of_neg (by simp [hask])]
    | true =>
      have hcount : erasures (report :: reports) = erasures reports + 1 :=
        List.countP_cons_of_pos hask
      rw [set_asks l hask, hcount]
      cases hinput : l.input with
      | nil => simp [Locals.ask, hinput, confirms]
      | cons answer rest => simp [Locals.ask, hinput, or_assoc]

lemma parse_erase {posix : Bool} {argv input : List String} :
    (CollectorMain.parse posix argv input).eraseDatabase = true ↔ Confirmed posix argv input := by
  unfold CollectorMain.parse
  rw [set_reports]
  simp [Confirmed]

/-- An application that runs was started on the tables, with the erasure that was confirmed. -/
lemma started_of_running {sys : System} {posix : Bool} {argv input : List String} {tables : Tables}
    {options : Options} {start : Application}
    (h : main sys posix argv input tables = .running options start) :
    start = Application.start tables (CollectorMain.parse posix argv input).eraseDatabase
      (!sys.serverStarts options) := by
  unfold main at h
  dsimp only at h
  split at h
  · cases h
  · split at h
    · cases h
    · cases hdaemon : launchDaemon sys (CollectorMain.parse posix argv input) with
      | error ending => simp [hdaemon] at h
      | ok directory =>
        simp only [hdaemon, launchApplication] at h
        split at h
        · cases h
        · split at h
          · obtain ⟨rfl, rfl⟩ := Launch.running.inj h
            rfl
          · split at h <;> cases h

lemma taken_or_confirmed {b : Backend} {tables : Tables} {erase failed : Bool}
    {events : List Application.Event} {s : Application}
    (hrun : Machine.run (Application.step b) (Application.start tables erase failed) events = .ok s)
    (hplain : Machine.Guarded (Application.step b) PlainHead (Application.start tables erase failed) events) :
    ∀ row ∈ tables.devices, row ∈ s.collector.tables.devices ∨
      (∃ p ∈ s.asked, ∃ op ∈ askedOperation p.2, Takes b.type row.hash op) ∨ erase = true := by
  intro row hrow
  have htables : (Application.start tables erase failed).collector.tables = tables := by
    cases erase <;> rfl
  obtain ⟨hline, ops, hlog, hops⟩ := accounted_run (Machine.run_nil _) hrun hplain
  obtain hstays | ⟨op, hop, htakes⟩ := hops.gone row (by rw [htables]; exact hrow)
  · exact .inl hstays
  · have hasked : op ∈ erasure erase ++ s.asked.filterMap fun p => askedOperation p.2 := by
      apply (handled_initial hline).subset
      rw [hlog]
      exact List.mem_append_right _ hop
    obtain herasure | hclient := List.mem_append.mp hasked
    · exact .inr (.inr (List.mem_ite_nil_right.mp herasure).1)
    · obtain ⟨p, hp, hpop⟩ := List.mem_filterMap.mp hclient
      exact .inr (.inl ⟨p, hp, op, hpop, htakes⟩)

lemma erased_at_start {b : Backend} {tables : Tables} {failed : Bool}
    {events : List Application.Event} {s : Application}
    (hunique : (tables.devices.map DeviceRow.hash).Nodup)
    (hguard : Machine.Guarded (Application.step b) (InventoryGuard b.type)
      (Application.start tables true failed) events)
    (hrun : Machine.run (Application.step b) (Application.start tables true failed) events = .ok s)
    (hempty : QueuesEmpty s) : inventoryOf s.collector.tables =
      inventory.after (fun _ => none) (s.asked.filterMap fun p => askedOperation p.2) := by
  obtain ⟨hline, hs⟩ := linearized_run hunique hguard hrun
  rw [hs.current, SequentialObject.logged, handled_all hline hempty, SequentialObject.after_append]
  rfl

/-- What the command line and the answers of the user mean for the devices of earlier runs. Whatever
statements fail, a device is still there, or a request of a client took it, or the user was asked
about an erasure and confirmed it. And after a confirmed erasure the inventory is that of an empty
database, once the queues are empty and when no statement failed. -/
theorem erased_when_confirmed (b : Backend) (sys : System) (posix : Bool) (argv input : List String)
    (tables : Tables) (options : Options) (start : Application) (events : List Application.Event)
    (s : Application) (hlaunch : main sys posix argv input tables = .running options start)
    (hrun : Machine.run (Application.step b) start events = .ok s)
    (hplain : Machine.Guarded (Application.step b) PlainHead start events) :
    (∀ row ∈ tables.devices, row ∈ s.collector.tables.devices ∨
        (∃ p ∈ s.asked, ∃ op ∈ askedOperation p.2, Takes b.type row.hash op) ∨
          Confirmed posix argv input) ∧
      (Confirmed posix argv input → (tables.devices.map DeviceRow.hash).Nodup →
        Machine.Guarded (Application.step b) (InventoryGuard b.type) start events → QueuesEmpty s →
          inventoryOf s.collector.tables =
            inventory.after (fun _ => none) (s.asked.filterMap fun p => askedOperation p.2)) := by
  rw [started_of_running hlaunch] at hrun hplain ⊢
  rw [← parse_erase]
  refine ⟨taken_or_confirmed hrun hplain, ?_⟩
  intro herase hunique hguard hempty
  rw [herase] at hrun hguard
  exact erased_at_start hunique hguard hrun hempty

/-- The first answer is no, the second one yes. -/
theorem erased_when_confirmed_twice :
    let argv := ["-e", "--eraseDatabase"]
    let start := Application.start (tablesWith ["d"]) true false
    let events : List Application.Event := [served, served, served, served, dispatched]
    (∃ options, main launchedSystem false argv ["no", "Yes"] (tablesWith ["d"]) = .running options start) ∧
      Machine.Guarded (Application.step (plainBackend .sqlite3)) PlainHead start events ∧
      ∃ s, Machine.run (Application.step (plainBackend .sqlite3)) start events = .ok s ∧
        (s.collector.tables.devices = [] ∧ ∀ row ∈ (tablesWith ["d"]).devices,
          row ∈ s.collector.tables.devices ∨
            (∃ p ∈ s.asked, ∃ op ∈ askedOperation p.2, Takes .sqlite3 row.hash op) ∨
              Confirmed false argv ["no", "Yes"]) := by
  intro argv start events
  have hplain : Machine.Guarded (Application.step (plainBackend .sqlite3)) PlainHead start events := by
    decide
  exact ⟨⟨_, rfl⟩, hplain, _, rfl, by decide,
    (erased_when_confirmed (plainBackend .sqlite3) launchedSystem false argv ["no", "Yes"]
      (tablesWith ["d"]) _ start events _ rfl rfl hplain).1⟩

end TkmCollector.Proofs
