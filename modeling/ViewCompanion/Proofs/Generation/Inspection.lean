import Mathlib.Data.List.Forall2
import ViewCompanion.Proofs.Artifact.Factory
import ViewCompanion.Proofs.View.Registry

namespace ViewCompanion

namespace ViewReport

def reason? (r : ViewReport) : Option ViewError :=
  match r.outcome with
  | .ok _ => none
  | .error reason => some reason

def message? (r : ViewReport) : Option String :=
  r.reason?.map ViewError.message

def modelText? (r : ViewReport) : Option String :=
  match r.outcome with
  | .ok view => model? view
  | .error _ => none

def diagnostic? (r : ViewReport) : Option Diagnostic :=
  r.reason?.map (.error r.declaration)

end ViewReport

/-- A report on generation says of the inspected views what the inspection says of them, and of the
missing names that they are missing. -/
structure Report.AccountsFor (report : Report) (missing : List MissingName)
    (views : List ViewReport) : Prop where
  artifacts : List.Forall₂ (fun a r => a.source = r.declaration ∧
      (a.HasFactory ↔ r.modelText?.isSome = true))
    report.artifacts (views.filter fun r => r.reason?.isNone)
  diagnostics : report.diagnostics =
    missing.map Diagnostic.warning ++ views.filterMap ViewReport.diagnostic?
  failed : report.failed = (views.filter fun r => r.reason?.isSome).map ViewReport.declaration
  messages : (report.diagnostics.filter Diagnostic.isError).map Diagnostic.message =
    views.filterMap ViewReport.message?
  hasErrors : report.hasErrors = true ↔ report.failed ≠ []

namespace Report

theorem hasErrors_iff (report : Report) : report.hasErrors = true ↔ report.failed ≠ [] := by
  unfold hasErrors failed
  induction report.diagnostics with
  | nil => simp
  | cons d rest ih => cases d <;> simp_all [Diagnostic.isError, Diagnostic.declaration?]

end Report

theorem Diagnostic.filter_isError_warnings (missing : List MissingName) :
    (missing.map Diagnostic.warning).filter Diagnostic.isError = [] := by
  simp [isError]

namespace ViewReport

theorem filter_isError_diagnostics (views : List ViewReport) :
    (views.filterMap diagnostic?).filter Diagnostic.isError = views.filterMap diagnostic? := by
  refine List.filter_eq_self.2 fun d hd => ?_
  obtain ⟨r, -, hr⟩ := List.mem_filterMap.1 hd
  obtain ⟨reason, -, rfl⟩ := Option.map_eq_some_iff.1 hr
  rfl

theorem map_message_diagnostics (views : List ViewReport) :
    (views.filterMap diagnostic?).map Diagnostic.message = views.filterMap message? := by
  rw [List.map_filterMap]
  refine List.filterMap_congr fun r _ => ?_
  unfold diagnostic? message?
  cases r.reason? <;> rfl

theorem declarations_diagnostics (views : List ViewReport) :
    (views.filterMap diagnostic?).filterMap Diagnostic.declaration? =
      (views.filter fun r => r.reason?.isSome).map declaration := by
  induction views with
  | nil => rfl
  | cons r rest ih =>
    cases hr : r.reason? <;>
      simp [diagnostic?, hr, Diagnostic.declaration?] at ih ⊢ <;> exact ih

end ViewReport

namespace Declaration

def inspected (d : Declaration) (c : Config) (r : Registry) : ViewReport :=
  ⟨d.qualifiedName, d.process r c.rowLimit⟩

end Declaration

namespace Snapshot

variable {c : Config} {r : Registry}

theorem diagnostic?_companion (d : Declaration) :
    diagnostic? (companion c r d) = (d.inspected c r).diagnostic? := by
  unfold companion Declaration.inspected ViewReport.diagnostic? ViewReport.reason?
  cases d.process r c.rowLimit <;> rfl

theorem artifacts_accounted (ds : List Declaration) :
    List.Forall₂ (fun a r => a.source = r.declaration ∧
        (a.HasFactory ↔ r.modelText?.isSome = true))
      ((ds.map (companion c r)).filterMap artifact?)
      ((ds.map fun d => d.inspected c r).filter fun r => r.reason?.isNone) := by
  induction ds with
  | nil => exact .nil
  | cons d rest ih =>
    cases hprocess : d.process r c.rowLimit with
    | error reason =>
      -- neither side has anything for the view
      have hfirst : companion c r d = .error (.error d.qualifiedName reason) := by
        simp [companion, hprocess]
      have hbad : (d.inspected c r).reason?.isNone = false := by
        simp [Declaration.inspected, ViewReport.reason?, hprocess]
      simpa only [List.map_cons, hfirst, List.filterMap_cons, artifact?, List.filter_cons, hbad,
        Bool.false_eq_true, if_false] using ih
    | ok v =>
      have hfirst : companion c r d = .ok (.ofView c d v) := by
        simp [companion, hprocess]
      have hgood : (d.inspected c r).reason?.isNone = true := by
        simp [Declaration.inspected, ViewReport.reason?, hprocess]
      have hfactory : (Artifact.ofView c d v).HasFactory ↔
          (d.inspected c r).modelText?.isSome = true := by
        rw [Artifact.hasFactory_ofView_iff]
        simp [Declaration.inspected, ViewReport.modelText?, ViewReport.model?, hprocess]
      simp only [List.map_cons, hfirst, List.filterMap_cons, artifact?, List.filter_cons, hgood,
        if_true]
      exact .cons ⟨rfl, hfactory⟩ ih

/-- The report of a run over views whose registry is known. -/
def reportOf (c : Config) (missing : List MissingName) (r : Registry) (ds : List Declaration) :
    Report :=
  let companions := ds.map (companion c r)
  let artifacts := companions.filterMap artifact?
  { artifacts
    diagnostics := missing.map .warning ++ companions.filterMap diagnostic?
    manifests := Manifest.ofArtifacts c.crateName artifacts }

theorem reportOf_accountsFor (missing : List MissingName) (ds : List Declaration) :
    (reportOf c missing r ds).AccountsFor missing (ds.map fun d => d.inspected c r) := by
  have hdiagnostics : (reportOf c missing r ds).diagnostics = missing.map Diagnostic.warning ++
      (ds.map fun d => d.inspected c r).filterMap ViewReport.diagnostic? := by
    unfold reportOf
    simp only [List.filterMap_map, Function.comp_def, diagnostic?_companion]
  have herrors : (reportOf c missing r ds).diagnostics.filter Diagnostic.isError =
      (ds.map fun d => d.inspected c r).filterMap ViewReport.diagnostic? := by
    rw [hdiagnostics, List.filter_append, Diagnostic.filter_isError_warnings,
      ViewReport.filter_isError_diagnostics, List.nil_append]
  refine ⟨artifacts_accounted ds, hdiagnostics, ?_, ?_, Report.hasErrors_iff _⟩
  · rw [Report.failed, herrors, ViewReport.declarations_diagnostics]
  · rw [herrors, ViewReport.map_message_diagnostics]

theorem generate_eq (s : Snapshot) (c : Config) : s.generate c =
    (c.registry s).map fun r => reportOf c (r.missing c.wellKnown) r (s.views r) := by
  unfold generate
  cases c.registry s <;> rfl

theorem inspect_eq (s : Snapshot) (c : Config) : s.inspect c =
    (c.registry s).map fun r => (s.views r).map fun d => d.inspected c r := by
  unfold inspect
  cases c.registry s <;> rfl

/-- A generation and an inspection of the same snapshot stop at the same name, the first that is
missing, exactly if the run is strict and there is one. Otherwise both reach every view. -/
theorem generate_accounts_for_inspect (s : Snapshot) (c : Config) :
    (c.strictRegistry = true ∧ ∃ missing, (s.undefinedNames c.wellKnown).head? = some missing ∧
      s.generate c = .error missing ∧ s.inspect c = .error missing) ∨
    (¬ (c.strictRegistry = true ∧ s.undefinedNames c.wellKnown ≠ []) ∧
      ∃ report views, s.generate c = .ok report ∧ s.inspect c = .ok views ∧
        views.map ViewReport.declaration =
          (s.views (.ofSnapshot s c.wellKnown)).map Declaration.qualifiedName ∧
        report.AccountsFor (s.undefinedNames c.wellKnown) views) := by
  rw [generate_eq, inspect_eq]
  cases hregistry : c.registry s with
  | error missing =>
    obtain ⟨hstrict, hfirst⟩ := Config.registry_eq_error_iff.1 hregistry
    exact .inl ⟨hstrict, missing, hfirst, rfl, rfl⟩
  | ok r =>
    obtain ⟨hlenient, rfl⟩ := Config.registry_eq_ok_iff.1 hregistry
    refine .inr ⟨fun h => h.2 (hlenient h.1), _, _, rfl, rfl, ?_, ?_⟩
    · rw [List.map_map]
      rfl
    · rw [← Registry.missing_ofSnapshot]
      exact reportOf_accountsFor _ _

end Snapshot

end ViewCompanion
