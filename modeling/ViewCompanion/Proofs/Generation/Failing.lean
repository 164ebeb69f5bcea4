import ViewCompanion.Build
import ViewCompanion.CommandLine.Run
import ViewCompanion.Proofs.Crate.Loading
import ViewCompanion.Proofs.Generation.Independence
import ViewCompanion.Proofs.Session

namespace ViewCompanion

open Session Storage FileTree

/-- What a run works on once it has read everything. -/
structure Job where
  config : Config
  output : String
  snapshot : Snapshot

namespace Job

variable {j : Job} {report : Report} {t u : FileTree}

def registry (j : Job) : Registry :=
  .ofSnapshot j.snapshot j.config.wellKnown

def views (j : Job) : List Declaration :=
  j.snapshot.views j.registry

def artifactOf? (j : Job) (d : Declaration) : Option Artifact :=
  Snapshot.artifact? (Snapshot.companion j.config j.registry d)

def write (j : Job) (report : Report) : Action WriteOutcome :=
  storage.writeReport j.output j.config.extension report

/-- The tree is left by writing a report with all artifacts that there are, and the report tells of
the views without one. -/
structure LeavesPart (j : Job) (report : Report) (outcome : WriteOutcome) (t u : FileTree) :
    Prop where
  generated : j.snapshot.generate j.config = .ok report
  artifacts : report.artifacts = j.views.filterMap j.artifactOf?
  manifests : report.manifests = Manifest.ofArtifacts j.config.crateName report.artifacts
  failed : report.failed =
    (j.views.filter fun d => (j.artifactOf? d).isNone).map Declaration.qualifiedName
  incomplete : report.failed ≠ []
  written : Ends (j.write report) t outcome u

/-- Writing what the run generates fails on the tree, and leaves `u`. -/
def FailsToWrite (j : Job) (t : FileTree) (f : Failure) (u : FileTree) : Prop :=
  ∃ report, j.snapshot.generate j.config = .ok report ∧
    (j.write report).run.run t = (.error f, u)

theorem artifacts_of_generate (h : j.snapshot.generate j.config = .ok report) :
    report.artifacts = j.views.filterMap j.artifactOf? := by
  obtain ⟨-, missing, rfl⟩ := Snapshot.exists_reportOf h
  exact List.filterMap_map

theorem isSome_reason?_inspected (d : Declaration) :
    (d.inspected j.config j.registry).reason?.isSome = (j.artifactOf? d).isNone := by
  unfold artifactOf? Snapshot.companion Declaration.inspected ViewReport.reason?
  dsimp only
  cases d.process j.registry j.config.rowLimit <;> rfl

theorem failed_of_generate (h : j.snapshot.generate j.config = .ok report) : report.failed =
    (j.views.filter fun d => (j.artifactOf? d).isNone).map Declaration.qualifiedName := by
  obtain ⟨-, missing, rfl⟩ := Snapshot.exists_reportOf h
  have haccounts := (Snapshot.reportOf_accountsFor (c := j.config) (r := j.registry)
    missing j.views).failed
  rw [List.filter_map, List.map_map] at haccounts
  simp only [Function.comp_def, isSome_reason?_inspected] at haccounts
  exact haccounts

theorem leavesPart {outcome : WriteOutcome} (h : j.snapshot.generate j.config = .ok report)
    (hfailed : report.failed ≠ []) (hwritten : Ends (j.write report) t outcome u) :
    j.LeavesPart report outcome t u :=
  ⟨h, artifacts_of_generate h, Snapshot.manifests_of_generate h, failed_of_generate h, hfailed,
    hwritten⟩

end Job

namespace Build

variable {b : Build} {t u : FileTree} {f : Failure} {j : Job} {report : Report}

def settingsIn (b : Build) (t : FileTree) : Except Failure Config :=
  match b.config? with
  | some c => .ok c
  | none => t.result (storage.loadConfigIfAny (Path.join b.packageFolder "porbeagle.toml"))

def output? (b : Build) : Option String :=
  b.outputFolder? <|> b.defaultOutput?

def sourceIn (b : Build) (c : Config) (t : FileTree) : Except Failure CrateSource :=
  t.result (storage.loadCrate c (b.sourceFolder?.getD (Path.join b.packageFolder "src")))

/-- What stops a build before it writes: its settings, no place for its output, its sources, or a
name that a strict registry misses. -/
inductive Stops (b : Build) (t : FileTree) : Failure → Prop
  | settings {f : Failure} (h : b.settingsIn t = .error f) : b.Stops t f
  | noOutput {c : Config} (hc : b.settingsIn t = .ok c) (h : b.output? = none) :
      b.Stops t .noOutput
  | sources {c : Config} {output : String} {f : Failure} (hc : b.settingsIn t = .ok c)
      (ho : b.output? = some output) (h : b.sourceIn c t = .error f) : b.Stops t f
  | registry {c : Config} {output : String} {source : CrateSource} {missing : MissingName}
      (hc : b.settingsIn t = .ok c) (ho : b.output? = some output)
      (hs : b.sourceIn c t = .ok source)
      (h : c.registry (.ofModules c source.modules) = .error missing) :
      b.Stops t (.registry missing)

structure Reaches (b : Build) (t : FileTree) (j : Job) : Prop where
  settings : b.settingsIn t = .ok j.config
  output : b.output? = some j.output
  sources : ∃ source, b.sourceIn j.config t = .ok source ∧
    j.snapshot = .ofModules j.config source.modules

theorem stops_or_reaches (b : Build) (t : FileTree) : (∃ f, b.Stops t f) ∨
    ∃ j report, b.Reaches t j ∧ j.snapshot.generate j.config = .ok report := by
  -- the stages in the order of the run: settings, place, sources, registry
  cases hc : b.settingsIn t with
  | error f => exact .inl ⟨f, .settings hc⟩
  | ok c =>
    cases ho : b.output? with
    | none => exact .inl ⟨_, .noOutput hc ho⟩
    | some output =>
      cases hs : b.sourceIn c t with
      | error f => exact .inl ⟨f, .sources hc ho hs⟩
      | ok source =>
        cases hreport : (Snapshot.ofModules c source.modules).generate c with
        | error missing =>
          exact .inl ⟨_, .registry hc ho hs (Snapshot.generate_eq_error_iff.1 hreport)⟩
        | ok report =>
          exact .inr ⟨⟨c, output, .ofModules c source.modules⟩, report, ⟨hc, ho, source, hs, rfl⟩,
            hreport⟩

theorem runOn_settings (b : Build) (t : FileTree) (k : Console) :
    ∃ said, runOn (b.settings storage) k t = ((b.settingsIn t, said), t) := by
  unfold settings settingsIn
  cases b.config? with
  | some c => exact ⟨k, rfl⟩
  | none =>
    refine ⟨k.say (rerunLine (Path.join b.packageFolder "porbeagle.toml")), ?_⟩
    dsimp only
    rw [runOn_bind_ok (runOn_say _), runOn_quietly_reads (reads_loadConfigIfAny _)]
    cases t.result (storage.loadConfigIfAny (Path.join b.packageFolder "porbeagle.toml")) <;> rfl

theorem runOn_source (b : Build) (c : Config) (t : FileTree) (k : Console) :
    runOn (quietly id (storage.loadCrate c
      (b.sourceFolder?.getD (Path.join b.packageFolder "src")))) k t =
      ((b.sourceIn c t, k), t) := by
  rw [runOn_quietly_reads (reads_loadCrate _ _)]
  unfold sourceIn
  cases t.result (storage.loadCrate c _) <;> rfl

theorem runOn_of_stops (h : b.Stops t f) (k : Console) :
    ∃ said, runOn (b.run storage) k t = ((.error f, said), t) := by
  obtain ⟨said, hsettings⟩ := b.runOn_settings t k
  unfold run
  cases h with
  | settings h =>
    rw [h] at hsettings
    exact ⟨said, runOn_bind_error hsettings _⟩
  | noOutput hc h =>
    rw [hc] at hsettings
    rw [runOn_bind_ok hsettings, show (b.outputFolder? <|> b.defaultOutput?) = none from h]
    exact ⟨said, rfl⟩
  | @sources c output f hc ho h =>
    rw [hc] at hsettings
    have hsource := b.runOn_source c t said
    rw [h] at hsource
    rw [runOn_bind_ok hsettings, show (b.outputFolder? <|> b.defaultOutput?) = some output from ho]
    exact ⟨said, runOn_bind_error hsource _⟩
  | @registry c output source missing hc ho hs h =>
    rw [hc] at hsettings
    have hsource := b.runOn_source c t said
    rw [hs] at hsource
    rw [runOn_bind_ok hsettings, show (b.outputFolder? <|> b.defaultOutput?) = some output from ho]
    dsimp only
    rw [runOn_bind_ok hsource, runOn_bind_ok (runOn_forM (fun file k => runOn_say _) _),
      Snapshot.generate_eq_error_iff.2 h]
    exact ⟨_, rfl⟩

/-- A build that has read everything writes, and then only the views can fail it. -/
theorem runOn_of_reaches (h : b.Reaches t j) (hreport : j.snapshot.generate j.config = .ok report)
    (k : Console) : ∃ said, runOn (b.run storage) k t = runOn (do
      let outcome ← quietly id (j.write report)
      if report.hasErrors then throw (.generation report.failed) else pure outcome) said t := by
  obtain ⟨hc, ho, source, hs, hsnapshot⟩ := h
  obtain ⟨said, hsettings⟩ := b.runOn_settings t k
  rw [hc] at hsettings
  have hsource := b.runOn_source j.config t said
  rw [hs] at hsource
  rw [hsnapshot] at hreport
  unfold run
  rw [runOn_bind_ok hsettings, show (b.outputFolder? <|> b.defaultOutput?) = some j.output from ho]
  dsimp only
  rw [runOn_bind_ok hsource, runOn_bind_ok (runOn_forM (fun file k => runOn_say _) _), hreport]
  exact ⟨_, runOn_bind_ok (runOn_forM (fun d k => runOn_say _) _) _⟩

/-- A build that fails is stopped before it writes, or fails to write, or leaves a part: everything
but the views that it fails on. -/
theorem failing_cases {said k : Console} (h : runOn (b.run storage) k t = ((.error f, said), u)) :
    b.Stops t f ∧ u = t ∨ ∃ j, b.Reaches t j ∧ (j.FailsToWrite t f u ∨
      ∃ report outcome, j.LeavesPart report outcome t u ∧ f = .generation report.failed) := by
  rcases b.stops_or_reaches t with ⟨f', hstops⟩ | ⟨j, report, hreaches, hreport⟩
  · obtain ⟨said', hrun⟩ := runOn_of_stops hstops k
    rw [h] at hrun
    cases hrun
    exact .inl ⟨hstops, rfl⟩
  · -- nothing is left that can fail but the writing, and the check for views behind it
    refine .inr ⟨j, hreaches, ?_⟩
    obtain ⟨said', hrun⟩ := runOn_of_reaches hreaches hreport k
    rw [h, runOn_bind, runOn_quietly] at hrun
    cases hwrite : (j.write report).run.run t with
    | mk ended v =>
      rw [hwrite] at hrun
      cases ended with
      | error f' =>
        cases hrun
        exact .inl ⟨report, hreport, hwrite⟩
      | ok outcome =>
        dsimp only at hrun
        split at hrun
        · rename_i hfailed
          cases hrun
          exact .inr ⟨report, outcome,
            Job.leavesPart hreport ((Report.hasErrors_iff _).1 hfailed) hwrite, rfl⟩
        · cases hrun

theorem not_stops_generation {failed : List QualifiedName} : ¬ b.Stops t (.generation failed) := by
  intro h
  -- the stages that read files spare views, the others fail with their own word
  generalize hf : Failure.generation failed = f at h
  cases h with
  | settings h =>
    subst hf
    unfold settingsIn at h
    split at h
    · cases h
    · exact (reads_loadConfigIfAny _).spares _ _ h
  | noOutput => cases hf
  | sources _ _ h =>
    subst hf
    exact (reads_loadCrate _ _).spares _ _ h
  | registry => cases hf

/-- A build fails on views exactly if it has written everything else. -/
theorem fails_on_views_iff {failed : List QualifiedName} {k : Console} :
    (∃ said, runOn (b.run storage) k t = ((.error (.generation failed), said), u)) ↔
      ∃ j report outcome, b.Reaches t j ∧ j.LeavesPart report outcome t u ∧
        failed = report.failed := by
  constructor
  · rintro ⟨said, h⟩
    rcases failing_cases h with ⟨hstops, -⟩ | ⟨j, hreaches, ⟨report, -, hwrite⟩ |
      ⟨report, outcome, hpart, hf⟩⟩
    · exact absurd hstops not_stops_generation
    · exact absurd (congrArg Prod.fst hwrite) (spares_writeReport _ _ _ t failed)
    · cases hf
      exact ⟨j, report, outcome, hreaches, hpart, rfl⟩
  · rintro ⟨j, report, outcome, hreaches, hpart, rfl⟩
    obtain ⟨said, hrun⟩ := runOn_of_reaches hreaches hpart.generated k
    refine ⟨said, hrun.trans ?_⟩
    rw [runOn_bind, runOn_quietly, show (j.write report).run.run t = _ from hpart.written]
    dsimp only
    rw [if_pos ((Report.hasErrors_iff report).2 hpart.incomplete)]
    rfl

end Build

namespace CommandLine

variable {config? : Option String} {input : Input} {output : String} {t u : FileTree}
  {trap : Trap} {j : Job} {report : Report}

def settingsIn (config? : Option String) (t : FileTree) : Except Failure Config :=
  match config? with
  | some path => t.result (storage.loadConfig path)
  | none => t.result (storage.loadConfigIfAny defaultConfig)

/-- The snapshot that a command finds, or takes of the sources. -/
def snapshotIn (c : Config) (t : FileTree) : Input → Except Failure Snapshot
  | .snapshot path => t.result (loadSnapshot storage path)
  | .sources place => (t.result (storage.loadCrate c place)).map fun source =>
      .ofModules c source.modules

def settingsTrap (config? : Option String) : Failure → Trap :=
  .failed (some ("Failed to load config file: " ++ config?.getD defaultConfig))

def inputTrap : Input → Failure → Trap
  | .snapshot path => .failed (some ("Failed to load snapshot: " ++ path))
  | .sources place => .failed (some ("Failed to scan sources in " ++ place))

/-- What stops a command before it writes: its settings, its snapshot or sources, or a name that a
strict registry misses. -/
inductive Stops (config? : Option String) (input : Input) (t : FileTree) : Trap → Prop
  | settings {f : Failure} (h : settingsIn config? t = .error f) :
      Stops config? input t (settingsTrap config? f)
  | input {c : Config} {f : Failure} (hc : settingsIn config? t = .ok c)
      (h : snapshotIn c t input = .error f) : Stops config? input t (inputTrap input f)
  | registry {c : Config} {s : Snapshot} {missing : MissingName}
      (hc : settingsIn config? t = .ok c) (hs : snapshotIn c t input = .ok s)
      (h : c.registry s = .error missing) :
      Stops config? input t (.failed none (.registry missing))

structure Reaches (config? : Option String) (input : Input) (output : String) (t : FileTree)
    (j : Job) : Prop where
  settings : settingsIn config? t = .ok j.config
  output : output = j.output
  snapshot : snapshotIn j.config t input = .ok j.snapshot

theorem stops_or_reaches (config? : Option String) (input : Input) (output : String)
    (t : FileTree) : (∃ trap, Stops config? input t trap) ∨
      ∃ j report, Reaches config? input output t j ∧ j.snapshot.generate j.config = .ok report := by
  cases hc : settingsIn config? t with
  | error f => exact .inl ⟨_, .settings hc⟩
  | ok c =>
    cases hs : snapshotIn c t input with
    | error f => exact .inl ⟨_, .input hc hs⟩
    | ok s =>
      cases hreport : s.generate c with
      | error missing =>
        exact .inl ⟨_, .registry hc hs (Snapshot.generate_eq_error_iff.1 hreport)⟩
      | ok report => exact .inr ⟨⟨c, output, s⟩, report, ⟨hc, rfl, hs⟩, hreport⟩

theorem reads_loadSnapshot (path : String) : Reads (loadSnapshot storage path) := by
  refine (reads_sourceText path).bind fun text => ?_
  cases Snapshot.ofJson text with
  | ok snapshot => exact reads_pure snapshot
  | error e => exact reads_throw nofun

theorem runOn_settings (config? : Option String) (t : FileTree) (k : Console) :
    runOn (settings storage config?) k t =
      (((settingsIn config? t).mapError (settingsTrap config?), k), t) := by
  cases config? with
  | some path => exact runOn_quietly_reads (reads_loadConfig path) _
  | none => exact runOn_quietly_reads (reads_loadConfigIfAny defaultConfig) _

theorem runOn_load (c : Config) (input : Input) (t : FileTree) (k : Console) :
    runOn (load storage c input) k t =
      (((snapshotIn c t input).mapError (inputTrap input), k), t) := by
  cases input with
  | snapshot path => exact runOn_quietly_reads (reads_loadSnapshot path) _
  | sources place =>
    unfold load scan attempt snapshotIn
    dsimp only
    rw [runOn_bind, runOn_quietly_reads (reads_loadCrate c place)]
    cases t.result (storage.loadCrate c place) <;> rfl

def toldLine (d : Diagnostic) : String :=
  if d.isError then failureLine d.display else warningLine d.display

/-- What a command has said about a report when it begins to write. -/
def told (report : Report) (k : Console) : Console :=
  report.diagnostics.foldl (fun k d => k.warn (toldLine d)) k

theorem runOn_of_stops (h : Stops config? input t trap) (output : String) (k : Console) :
    runOn (perform storage config? (.generate input output)) k t = ((.error trap, k), t) := by
  have hsettings := runOn_settings config? t k
  unfold perform generate
  cases h with
  | settings h =>
    rw [h] at hsettings
    exact runOn_bind_error hsettings _
  | @input c f hc h =>
    rw [hc] at hsettings
    have hload := runOn_load c input t k
    rw [h] at hload
    rw [runOn_bind_ok hsettings]
    exact runOn_bind_error hload _
  | @registry c s missing hc hs h =>
    rw [hc] at hsettings
    have hload := runOn_load c input t k
    rw [hs] at hload
    rw [runOn_bind_ok hsettings]
    dsimp only
    rw [runOn_bind_ok hload, Snapshot.generate_eq_error_iff.2 h]
    rfl

theorem runOn_of_reaches (h : Reaches config? input output t j)
    (hreport : j.snapshot.generate j.config = .ok report) (k : Console) :
    runOn (perform storage config? (.generate input output)) k t = runOn (do
      let outcome ← quietly (Trap.failed none) (j.write report)
      say (outcomeLine report j.output outcome)
      if report.failed.isEmpty then pure () else throw (.incomplete report.failed.length))
      (told report k) t := by
  obtain ⟨hc, rfl, hs⟩ := h
  have hsettings := runOn_settings config? t k
  rw [hc] at hsettings
  have hload := runOn_load j.config input t k
  rw [hs] at hload
  unfold perform generate
  rw [runOn_bind_ok hsettings]
  dsimp only
  have hunless : runOn (unlessMissing (.ok report) : CommandSession (StateM FileTree) Report) k t =
      ((.ok report, k), t) := runOn_pure report
  rw [runOn_bind_ok hload, hreport, runOn_bind_ok hunless]
  exact runOn_bind_ok (runOn_forM (fun d k => runOn_warn _) _) _

theorem failing_cases {said k : Console}
    (h : runOn (perform storage config? (.generate input output)) k t = ((.error trap, said), u)) :
    Stops config? input t trap ∧ u = t ∨ ∃ j, Reaches config? input output t j ∧
      ((∃ f, j.FailsToWrite t f u ∧ trap = .failed none f) ∨
        ∃ report outcome, j.LeavesPart report outcome t u ∧
          trap = .incomplete report.failed.length ∧
          said = (told report k).say (outcomeLine report output outcome)) := by
  rcases stops_or_reaches config? input output t with ⟨trap', hstops⟩ | ⟨j, report, hreaches,
    hreport⟩
  · have hrun := runOn_of_stops hstops output k
    rw [h] at hrun
    cases hrun
    exact .inl ⟨hstops, rfl⟩
  · refine .inr ⟨j, hreaches, ?_⟩
    have hrun := runOn_of_reaches hreaches hreport k
    rw [h, runOn_bind, runOn_quietly] at hrun
    cases hwrite : (j.write report).run.run t with
    | mk ended v =>
      rw [hwrite] at hrun
      cases ended with
      | error f =>
        cases hrun
        exact .inl ⟨f, ⟨report, hreport, hwrite⟩, rfl⟩
      | ok outcome =>
        dsimp only at hrun
        rw [runOn_bind_ok (runOn_say _)] at hrun
        split at hrun
        · cases hrun
        · rename_i hfailed
          cases hrun
          exact .inr ⟨report, outcome, Job.leavesPart hreport (by simpa using hfailed) hwrite, rfl,
            hreaches.output ▸ rfl⟩

theorem not_stops_incomplete {views : Nat} : ¬ Stops config? input t (.incomplete views) := by
  intro h
  generalize htrap : Trap.incomplete views = trap at h
  cases h with
  | settings => cases htrap
  | input => cases input <;> cases htrap
  | registry => cases htrap

/-- A command fails on views exactly if it has written everything else. It has told of each of them
before, and then of what it has written. -/
theorem fails_on_views_iff {views : Nat} {said k : Console} :
    runOn (perform storage config? (.generate input output)) k t =
        ((.error (.incomplete views), said), u) ↔
      ∃ j report outcome, Reaches config? input output t j ∧ j.LeavesPart report outcome t u ∧
        views = report.failed.length ∧
        said = (told report k).say (outcomeLine report output outcome) := by
  constructor
  · intro h
    rcases failing_cases h with ⟨hstops, -⟩ | ⟨j, hreaches, ⟨f, -, htrap⟩ |
      ⟨report, outcome, hpart, htrap, hsaid⟩⟩
    · exact absurd hstops not_stops_incomplete
    · cases htrap
    · cases htrap
      exact ⟨j, report, outcome, hreaches, hpart, rfl, hsaid⟩
  · rintro ⟨j, report, outcome, hreaches, hpart, rfl, rfl⟩
    rw [runOn_of_reaches hreaches hpart.generated, runOn_bind, runOn_quietly,
      show (j.write report).run.run t = _ from hpart.written]
    dsimp only
    rw [runOn_bind_ok (runOn_say _), if_neg (by simpa using hpart.incomplete), hreaches.output]
    rfl

end CommandLine

/-- A run that is stopped before it writes leaves the tree as it is. A run fails on views exactly if
it has written a report with everything else, and tells which views those are. The only other way
to fail is to fail to write. -/
theorem failing_run_leaves (t : FileTree) (k : Console) :
    (∀ (b : Build) f, b.Stops t f →
      ∃ said, runOn (b.run storage) k t = ((.error f, said), t)) ∧
    (∀ (b : Build) failed u,
      (∃ said, runOn (b.run storage) k t = ((.error (.generation failed), said), u)) ↔
        ∃ j report outcome, b.Reaches t j ∧ j.LeavesPart report outcome t u ∧
          failed = report.failed) ∧
    (∀ (b : Build) f said u, runOn (b.run storage) k t = ((.error f, said), u) →
      b.Stops t f ∧ u = t ∨ (∃ j, b.Reaches t j ∧ j.FailsToWrite t f u) ∨
        ∃ failed, f = .generation failed) ∧
    (∀ config? input output trap, CommandLine.Stops config? input t trap →
      runOn (CommandLine.perform storage config? (.generate input output)) k t =
        ((.error trap, k), t)) ∧
    (∀ config? input output views said u,
      runOn (CommandLine.perform storage config? (.generate input output)) k t =
          ((.error (.incomplete views), said), u) ↔
        ∃ j report outcome, CommandLine.Reaches config? input output t j ∧
          j.LeavesPart report outcome t u ∧ views = report.failed.length ∧
          said = (CommandLine.told report k).say
            (CommandLine.outcomeLine report output outcome)) ∧
    (∀ config? input output trap said u,
      runOn (CommandLine.perform storage config? (.generate input output)) k t =
          ((.error trap, said), u) →
        CommandLine.Stops config? input t trap ∧ u = t ∨
          (∃ j f, CommandLine.Reaches config? input output t j ∧ j.FailsToWrite t f u ∧
            trap = .failed none f) ∨
          ∃ views, trap = .incomplete views) := by
  refine ⟨?_, ?_, ?_, ?_, ?_, ?_⟩
  · intro b f h
    exact Build.runOn_of_stops h k
  · intro b failed u
    exact Build.fails_on_views_iff
  · intro b f said u h
    rcases Build.failing_cases h with hstops | ⟨j, hreaches, hwrite | ⟨report, -, -, hf⟩⟩
    · exact .inl hstops
    · exact .inr (.inl ⟨j, hreaches, hwrite⟩)
    · exact .inr (.inr ⟨report.failed, hf⟩)
  · intro config? input output trap h
    exact CommandLine.runOn_of_stops h output k
  · intro config? input output views said u
    exact CommandLine.fails_on_views_iff
  · intro config? input output trap said u h
    rcases CommandLine.failing_cases h with
      hstops | ⟨j, hreaches, ⟨f, hwrite, htrap⟩ | ⟨report, -, -, htrap, -⟩⟩
    · exact .inl hstops
    · exact .inr (.inl ⟨j, f, hreaches, hwrite, htrap⟩)
    · exact .inr (.inr ⟨report.failed.length, htrap⟩)

/-- A crate whose only view is generic, so it has no companion. -/
def pantry : FileTree :=
  .folder [("src", .folder [("lib.rs", .file ("use porbeagle::*;\n" ++
    "#[derive(DiscordView)] struct Jar<T>; impl MessageView for Jar<u8> \x7b\x7d").toUTF8)])]

def pantryItems : List Source.Item :=
  [.use (.path "porbeagle" .glob),
    .struct ⟨[⟨⟨false, ["derive"]⟩, .list [.ident "DiscordView"]⟩], "Jar", ["T"], []⟩,
    .implementation ⟨false, ⟨false, ["MessageView"]⟩, [],
      .path ⟨false, ["Jar"]⟩ false [.path ⟨false, ["u8"]⟩ true []]⟩]

def pantrySnapshot : Snapshot :=
  .ofModules .standard (SourceModule.inText ⟨Config.standard.crateName, pantryItems⟩)

def pantryJob : Job :=
  ⟨.standard, "out", pantrySnapshot⟩

def pantryBuild (output? : Option String) : Build :=
  ⟨some .standard, some "src", output?, "", none⟩

theorem stages_pantry : pantry.has "porbeagle.toml" = false ∧ pantry.rootFile? "lib" = none ∧
    pantry.rootFile? "src" = some "src/lib.rs" ∧
    pantry.itemsAt? "src/lib.rs" = some pantryItems ∧
    ((pantrySnapshot.generate .standard).toOption.map fun report =>
      (report.failed, (pantry.result (pantryJob.write report)).toOption.isSome)) =
        some (["crate::Jar"], true) := by
  decide +kernel

theorem result_pantry : ∃ source, pantry.result (storage.loadCrate .standard "src") = .ok source ∧
    pantrySnapshot = .ofModules .standard source.modules := by
  obtain ⟨-, -, hroot, hitems, -⟩ := stages_pantry
  have hinlines : pantry.Inlines "src" pantryItems pantryItems [] :=
    .keep rfl (.keep rfl (.keep rfl (.nil _)))
  obtain ⟨source, hsource, hsnapshot, -⟩ := exists_loadCrate hroot hitems hinlines
  exact ⟨source, hsource.result_eq, hsnapshot.symm⟩

theorem leavesPart_pantry : ∃ report outcome u,
    pantryJob.LeavesPart report outcome pantry u ∧ report.failed = ["crate::Jar"] := by
  obtain ⟨-, -, -, -, h⟩ := stages_pantry
  cases hreport : pantrySnapshot.generate .standard with
  | error missing =>
    rw [hreport] at h
    cases h
  | ok report =>
    rw [hreport] at h
    obtain ⟨hfailed, hwrite⟩ := Prod.mk.inj (Option.some.inj h)
    obtain ⟨outcome, hends⟩ := exists_ends_of_isSome hwrite
    exact ⟨report, outcome, _, Job.leavesPart hreport (by simp [hfailed]) hends, hfailed⟩

/-- A build without a place for its output and a command without a crate leave the pantry as it is.
Otherwise both fail on its view. -/
theorem failing_run_leaves_pantry :
    (∃ said, runOn ((pantryBuild none).run storage) .empty pantry =
      ((.error .noOutput, said), pantry)) ∧
    (∃ u said, runOn ((pantryBuild (some "out")).run storage) .empty pantry =
      ((.error (.generation ["crate::Jar"]), said), u)) ∧
    runOn (CommandLine.perform storage none (.generate (.sources "lib") "out")) .empty pantry =
      ((.error (CommandLine.inputTrap (.sources "lib") (.storage "lib" .noCrate)), .empty),
        pantry) ∧
    ∃ u said, runOn (CommandLine.perform storage none (.generate (.sources "src") "out"))
      .empty pantry = ((.error (.incomplete 1), said), u) := by
  obtain ⟨hbuild, hbuildViews, -, hcommand, hcommandViews, -⟩ := failing_run_leaves pantry .empty
  obtain ⟨report, outcome, u, hpart, hfailed⟩ := leavesPart_pantry
  obtain ⟨source, hsource, hjob⟩ := result_pantry
  obtain ⟨hnone, hroot, -⟩ := stages_pantry
  have hsettings : CommandLine.settingsIn none pantry = .ok .standard :=
    result_loadConfigIfAny hnone
  have hsnapshot : CommandLine.snapshotIn .standard pantry (.sources "src") =
      .ok pantryJob.snapshot := by
    unfold CommandLine.snapshotIn
    dsimp only
    rw [hsource, show pantryJob.snapshot = _ from hjob]
    rfl
  have hgone : CommandLine.snapshotIn .standard pantry (.sources "lib") =
      .error (.storage "lib" .noCrate) := by
    unfold CommandLine.snapshotIn
    dsimp only
    rw [result_loadCrate_of_not_root hroot]
    rfl
  refine ⟨hbuild _ _ (.noOutput rfl rfl), ⟨u, (hbuildViews _ _ u).2 ?_⟩,
    hcommand _ _ _ _ (.input hsettings hgone), u, ?_⟩
  · exact ⟨pantryJob, report, outcome, ⟨rfl, rfl, source, hsource, hjob⟩, hpart,
      hfailed.symm⟩
  · exact ⟨_, (hcommandViews _ _ _ _ _ u).2 ⟨pantryJob, report, outcome,
      ⟨hsettings, rfl, hsnapshot⟩, hpart, (congrArg List.length hfailed).symm, rfl⟩⟩

end ViewCompanion
