import ViewCompanion.Proofs.Artifact.FileName
import ViewCompanion.Proofs.Generation.Inspection

namespace ViewCompanion

/-- The diagnostics that are about single views. -/
def Report.errors (report : Report) : List Diagnostic :=
  report.diagnostics.filter Diagnostic.isError

/-- The registry is all that a run looks for in the snapshot as a whole. -/
theorem Config.registry_congr {c : Config} {s t : Snapshot}
    (h : Registry.ofSnapshot s c.wellKnown = .ofSnapshot t c.wellKnown) :
    c.registry s = c.registry t := by
  unfold registry
  rw [h]

namespace Snapshot

/-- The artifact that a declaration adds to a report, if it is a view without an error. -/
def artifactOf (c : Config) (r : Registry) (d : Declaration) : Option Artifact :=
  if r.selects d then artifact? (companion c r d) else none

/-- The error that a declaration adds to a report, if it is a view with one. -/
def errorOf (c : Config) (r : Registry) (d : Declaration) : Option Diagnostic :=
  if r.selects d then diagnostic? (companion c r d) else none

variable {c : Config} {r : Registry}

theorem artifacts_reportOf (missing : List MissingName) (s : Snapshot) :
    (reportOf c missing r (s.views r)).artifacts = s.declarations.filterMap (artifactOf c r) := by
  unfold reportOf views
  simp only [List.filterMap_map, List.filterMap_filter]
  rfl

theorem errors_reportOf (missing : List MissingName) (s : Snapshot) :
    (reportOf c missing r (s.views r)).errors = s.declarations.filterMap (errorOf c r) := by
  have haccounts := reportOf_accountsFor (c := c) (r := r) missing (s.views r)
  rw [Report.errors, haccounts.diagnostics, List.filter_append,
    Diagnostic.filter_isError_warnings, ViewReport.filter_isError_diagnostics, List.nil_append]
  unfold views
  simp only [List.filterMap_map, List.filterMap_filter, Function.comp_def,
    ← diagnostic?_companion]
  rfl

theorem exists_reportOf {s : Snapshot} {report : Report} (h : s.generate c = .ok report) :
    c.registry s = .ok (.ofSnapshot s c.wellKnown) ∧ ∃ missing,
      report = reportOf c missing (.ofSnapshot s c.wellKnown)
        (s.views (.ofSnapshot s c.wellKnown)) := by
  rw [generate_eq] at h
  cases hregistry : c.registry s with
  | error missing =>
    rw [hregistry] at h
    cases h
  | ok found =>
    obtain ⟨-, rfl⟩ := Config.registry_eq_ok_iff.1 hregistry
    rw [hregistry] at h
    exact ⟨rfl, _, (Except.ok.inj h).symm⟩

theorem generate_eq_error_iff {s : Snapshot} {c : Config} {missing : MissingName} :
    s.generate c = .error missing ↔ c.registry s = .error missing := by
  rw [generate_eq]
  cases c.registry s <;> simp [Except.map]

theorem manifests_of_generate {s : Snapshot} {c : Config} {report : Report}
    (h : s.generate c = .ok report) :
    report.manifests = Manifest.ofArtifacts c.crateName report.artifacts := by
  obtain ⟨-, missing, rfl⟩ := exists_reportOf h
  rfl

/-- With the registry the same, a run that does not fail goes on not failing, whatever else is
declared. -/
theorem exists_generate {s t : Snapshot} {report : Report} (h : s.generate c = .ok report)
    (hsame : Registry.ofSnapshot s c.wellKnown = .ofSnapshot t c.wellKnown) :
    ∃ other, t.generate c = .ok other := by
  obtain ⟨hregistry, -⟩ := exists_reportOf h
  rw [Config.registry_congr hsame] at hregistry
  rw [generate_eq, hregistry]
  exact ⟨_, rfl⟩

/-- The report is made up of what each declaration adds on its own. -/
theorem report_of_generate {s : Snapshot} {report : Report} (h : s.generate c = .ok report)
    (hr : Registry.ofSnapshot s c.wellKnown = r) :
    report.artifacts = s.declarations.filterMap (artifactOf c r) ∧
      report.errors = s.declarations.filterMap (errorOf c r) := by
  subst hr
  obtain ⟨-, missing, rfl⟩ := exists_reportOf h
  exact ⟨artifacts_reportOf missing s, errors_reportOf missing s⟩

/-- Under one registry, the report on two lists of declarations is the reports on both, one after
the other. A declaration gets the same artifact and the same error whatever stands around it. -/
theorem generate_append (c : Config) (r : Registry) :
    (∀ (as bs : List Declaration) (references : NameSet) (report : Report),
      Registry.ofSnapshot ⟨as, references⟩ c.wellKnown = r →
      Registry.ofSnapshot ⟨bs, references⟩ c.wellKnown = r →
      Registry.ofSnapshot ⟨as ++ bs, references⟩ c.wellKnown = r →
      generate ⟨as ++ bs, references⟩ c = .ok report →
      ∃ first second, generate ⟨as, references⟩ c = .ok first ∧
        generate ⟨bs, references⟩ c = .ok second ∧
        report.artifacts = first.artifacts ++ second.artifacts ∧
        report.errors = first.errors ++ second.errors) ∧
    ∀ (s : Snapshot) (report : Report), Registry.ofSnapshot s c.wellKnown = r →
      s.generate c = .ok report →
      report.artifacts = s.declarations.filterMap (artifactOf c r) ∧
        report.errors = s.declarations.filterMap (errorOf c r) := by
  refine ⟨fun as bs references report has hbs hboth h => ?_, fun s report hr h =>
    report_of_generate h hr⟩
  obtain ⟨first, hfirst⟩ := exists_generate h (hboth.trans has.symm)
  obtain ⟨second, hsecond⟩ := exists_generate h (hboth.trans hbs.symm)
  obtain ⟨hartifacts, herrors⟩ := report_of_generate h hboth
  obtain ⟨hartifactsA, herrorsA⟩ := report_of_generate hfirst has
  obtain ⟨hartifactsB, herrorsB⟩ := report_of_generate hsecond hbs
  refine ⟨first, second, hfirst, hsecond, ?_, ?_⟩
  · rw [hartifacts, hartifactsA, hartifactsB, List.filterMap_append]
  · rw [herrors, herrorsA, herrorsB, List.filterMap_append]

def genericView (home name : String) : Declaration :=
  { bareView home name with generics := ["T"] }

/-- A generic view before or behind another one fails alone. -/
theorem generate_append_generic : ∃ report first second swapped,
    (ofViews [bareView "crate" "Card", genericView "crate" "Any"]).generate .standard =
      .ok report ∧
    (ofViews [bareView "crate" "Card"]).generate .standard = .ok first ∧
    (ofViews [genericView "crate" "Any"]).generate .standard = .ok second ∧
    (ofViews [genericView "crate" "Any", bareView "crate" "Card"]).generate .standard =
      .ok swapped ∧
    report.artifacts = first.artifacts ++ second.artifacts ∧
    report.errors = first.errors ++ second.errors ∧
    report.artifacts.map Artifact.source = ["crate::Card"] ∧
    report.errors = [.error "crate::Any" (.genericDeclaration ["T"])] ∧
    swapped.errors = report.errors := by
  obtain ⟨happend, heach⟩ := generate_append .standard
    (.ofSnapshot (ofViews [bareView "crate" "Card"]) WellKnown.standard)
  obtain ⟨first, second, hfirst, hsecond, hartifacts, herrors⟩ :=
    happend [bareView "crate" "Card"] [genericView "crate" "Any"] _ _ rfl (by decide) (by decide)
      rfl
  have hswapped := (heach (ofViews [genericView "crate" "Any", bareView "crate" "Card"]) _
    (by decide) rfl).2
  exact ⟨_, first, second, _, rfl, hfirst, hsecond, rfl, hartifacts, herrors, by decide, by decide,
    hswapped.trans (by decide)⟩

end Snapshot

end ViewCompanion
