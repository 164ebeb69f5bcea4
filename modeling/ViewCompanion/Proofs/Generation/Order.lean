import Mathlib.Data.Prod.Lex
import Mathlib.Data.String.Basic
import ViewCompanion.Proofs.Generation.Independence

namespace ViewCompanion

namespace Artifact

/-- What a manifest says of an artifact, in the order of a manifest. -/
def entry (a : Artifact) : String ×ₗ QualifiedName :=
  toLex (a.fileName, a.source)

theorem precedes_iff {a b : Artifact} : a.precedes b = true ↔ a.entry ≤ b.entry := by
  simp only [precedes, entry, Prod.Lex.toLex_le_toLex, Bool.or_eq_true, Bool.and_eq_true,
    decide_eq_true_eq, beq_iff_eq, Bool.not_eq_true', decide_eq_false_iff_not, not_lt]

theorem pairwise_entry_mergeSort (artifacts : List Artifact) :
    ((artifacts.mergeSort precedes).map entry).Pairwise (· ≤ ·) := by
  have hsorted : (artifacts.mergeSort precedes).Pairwise fun a b => a.precedes b = true := by
    apply List.pairwise_mergeSort
    · intro a b c hab hbc
      rw [precedes_iff] at hab hbc ⊢
      exact le_trans hab hbc
    · intro a b
      rw [Bool.or_eq_true, precedes_iff, precedes_iff]
      exact le_total _ _
  rw [List.pairwise_map]
  exact hsorted.imp precedes_iff.1

variable {as bs : List Artifact}

/-- Artifacts of one file and one source may change places, but they have the same entry. -/
theorem map_entry_mergeSort (h : as.Perm bs) :
    (as.mergeSort precedes).map entry = (bs.mergeSort precedes).map entry := by
  have hperm : (as.mergeSort precedes).Perm (bs.mergeSort precedes) :=
    (List.mergeSort_perm as _).trans (h.trans (List.mergeSort_perm bs _).symm)
  exact (hperm.map entry).eq_of_pairwise (fun _ _ _ _ => le_antisymm)
    (pairwise_entry_mergeSort as) (pairwise_entry_mergeSort bs)

theorem map_includeLines_mergeSort (h : as.Perm bs) :
    (as.mergeSort precedes).map includeLines = (bs.mergeSort precedes).map includeLines := by
  have hlines : includeLines = (fun e : String ×ₗ QualifiedName =>
      includeLines ⟨(ofLex e).1, (ofLex e).2, ""⟩) ∘ entry := rfl
  rw [hlines, ← List.map_map, map_entry_mergeSort h, List.map_map]

end Artifact

namespace Manifest

variable {as bs : List Artifact}

theorem ofModule_perm (h : as.Perm bs) (crateName : String) :
    ofModule crateName as = ofModule crateName bs := by
  funext module
  have hfilter := h.filter fun a => a.module crateName == module
  unfold ofModule contentOf
  rw [Artifact.map_includeLines_mergeSort hfilter]

/-- The manifests tell nothing of the order in which the artifacts come. -/
theorem ofArtifacts_perm (h : as.Perm bs) (crateName : String) :
    ofArtifacts crateName as = ofArtifacts crateName bs := by
  have hmodules : NameSet.ofList ("" :: as.map fun a => a.module crateName) =
      .ofList ("" :: bs.map fun a => a.module crateName) := by
    apply NameSet.eq_of_mem_iff
    intro name
    rw [NameSet.mem_ofList, NameSet.mem_ofList]
    exact ((h.map _).cons "").mem_iff
  unfold ofArtifacts
  rw [hmodules, ofModule_perm h]

end Manifest

namespace Snapshot

variable {as bs : List Declaration}

theorem registry_perm (h : as.Perm bs) (references : NameSet) (names : WellKnown) :
    Registry.ofSnapshot ⟨as, references⟩ names = .ofSnapshot ⟨bs, references⟩ names := by
  have hdefines (name : QualifiedName) :
      defines ⟨as, references⟩ name = defines ⟨bs, references⟩ name := by
    unfold defines
    rw [h.any_eq]
  unfold Registry.ofSnapshot
  simp only [hdefines]

/-- Declarations that are found in another order give the same manifests, and the same artifacts
and errors in another order. A run that stops at a missing name stops at that name in any order. -/
theorem generate_perm (c : Config) (references : NameSet) (h : as.Perm bs) :
    (∃ missing, generate ⟨as, references⟩ c = .error missing ∧
      generate ⟨bs, references⟩ c = .error missing) ∨
    ∃ report other, generate ⟨as, references⟩ c = .ok report ∧
      generate ⟨bs, references⟩ c = .ok other ∧ report.manifests = other.manifests ∧
      report.artifacts.Perm other.artifacts ∧ report.errors.Perm other.errors := by
  have hsame := registry_perm h references c.wellKnown
  cases hrun : generate ⟨as, references⟩ c with
  | error missing =>
    have hregistry := generate_eq_error_iff.1 hrun
    rw [Config.registry_congr hsame] at hregistry
    exact .inl ⟨missing, rfl, generate_eq_error_iff.2 hregistry⟩
  | ok report =>
    obtain ⟨other, hother⟩ := exists_generate hrun hsame
    obtain ⟨hartifacts, herrors⟩ := report_of_generate hrun rfl
    obtain ⟨hartifacts', herrors'⟩ := report_of_generate hother hsame.symm
    have hperm : report.artifacts.Perm other.artifacts := by
      rw [hartifacts, hartifacts']
      exact h.filterMap _
    refine .inr ⟨report, other, rfl, hother, ?_, hperm, ?_⟩
    · rw [manifests_of_generate hrun, manifests_of_generate hother]
      exact Manifest.ofArtifacts_perm hperm c.crateName
    · rw [herrors, herrors']
      exact h.filterMap _

/-- Two views of one name in one module and a generic one, found in two orders. -/
theorem generate_perm_twins : ∃ report other,
    (ofViews [bareView "crate::ui" "Card", genericView "crate" "Any", bareView "crate::ui" "Card",
      bareView "crate" "Bell"]).generate .standard = .ok report ∧
    (ofViews [bareView "crate" "Bell", bareView "crate::ui" "Card", bareView "crate::ui" "Card",
      genericView "crate" "Any"]).generate .standard = .ok other ∧
    report.manifests = other.manifests ∧
    report.artifacts ≠ other.artifacts ∧ report.artifacts.Perm other.artifacts ∧
    report.manifests.map Manifest.fileName = ["porbeagle_views.rs", "porbeagle_views/ui.rs"] := by
  have hperm : [bareView "crate::ui" "Card", genericView "crate" "Any",
      bareView "crate::ui" "Card", bareView "crate" "Bell"].Perm
      [bareView "crate" "Bell", bareView "crate::ui" "Card", bareView "crate::ui" "Card",
        genericView "crate" "Any"] := by
    decide
  rcases generate_perm .standard (ofViews []).references hperm with
    ⟨missing, hmissing, -⟩ | ⟨report, other, hreport, hother, hmanifests, hartifacts, -⟩
  · cases hmissing
  · refine ⟨report, other, hreport, hother, hmanifests, ?_, hartifacts, ?_⟩
    · cases hreport
      cases hother
      decide
    · cases hreport
      decide

end Snapshot

end ViewCompanion
