import Mathlib.Data.List.Basic
import ViewCompanion.Generation

namespace ViewCompanion.Snapshot

variable {s : Snapshot} {c : Config} {report : Report}

theorem artifacts_of_generate (h : s.generate c = .ok report) : ∃ registry,
    report.artifacts = ((s.views registry).map (companion c registry)).filterMap artifact? := by
  unfold generate at h
  cases hregistry : c.registry s with
  | error missing =>
    rw [hregistry] at h
    cases h
  | ok registry =>
    rw [hregistry] at h
    exact ⟨registry, by rw [← Except.ok.inj h]⟩

theorem eq_ofView_of_companion {registry : Registry} {d : Declaration} {a : Artifact}
    (h : artifact? (companion c registry d) = some a) : ∃ v, a = .ofView c d v := by
  unfold companion at h
  cases hprocess : d.process registry c.rowLimit with
  | error reason =>
    rw [hprocess] at h
    cases h
  | ok v =>
    rw [hprocess] at h
    exact ⟨v, (Option.some.inj h).symm⟩

theorem exists_declaration_of_artifact (h : s.generate c = .ok report) {a : Artifact}
    (ha : a ∈ report.artifacts) : ∃ d ∈ s.declarations, ∃ v, a = .ofView c d v := by
  obtain ⟨registry, hartifacts⟩ := artifacts_of_generate h
  rw [hartifacts, List.filterMap_map, List.mem_filterMap] at ha
  obtain ⟨d, hd, hsome⟩ := ha
  exact ⟨d, List.mem_of_mem_filter hd, eq_ofView_of_companion hsome⟩

theorem sources_sublist (h : s.generate c = .ok report) :
    (report.artifacts.map Artifact.source).Sublist
      (s.declarations.map Declaration.qualifiedName) := by
  obtain ⟨registry, hartifacts⟩ := artifacts_of_generate h
  rw [hartifacts]
  have hviews : (((s.views registry).map (companion c registry)).filterMap artifact?).map
      Artifact.source |>.Sublist ((s.views registry).map Declaration.qualifiedName) := by
    induction s.views registry with
    | nil => exact .slnil
    | cons d rest ih =>
      rw [List.map_cons, List.filterMap_cons]
      split
      · exact ih.cons _
      · rename_i a hsome
        obtain ⟨v, rfl⟩ := eq_ofView_of_companion hsome
        exact ih.cons_cons _
  exact hviews.trans (List.filter_sublist.map _)

end ViewCompanion.Snapshot
