import Mathlib.Data.List.Nodup
import ViewCompanion.Proofs.Generation.Artifacts
import ViewCompanion.Proofs.Name

namespace ViewCompanion

/-- The module and the name of a declaration as source code can have them. -/
def Declaration.IsNamed (d : Declaration) : Prop :=
  (∃ segments, QualifiedName.IsPath d.home segments) ∧ Text.IsName d.name

namespace Artifact

theorem flatten_eq {home : String} {segments : List String}
    (h : QualifiedName.IsPath home segments) :
    flatten home = Text.joinWith ['_'] (segments.map String.toList) := by
  rw [flatten, h.replaceAll_eq]
  refine (List.map_congr_left fun c hc => ?_).trans (List.map_id _)
  have hdot : c ≠ '.' := by
    rintro rfl
    rcases Text.mem_joinWith hc with hmark | ⟨piece, hpiece, hmem⟩
    · exact absurd hmark (by decide)
    · exact h.not_mem_pieces (by decide) (by decide) piece hpiece hmem
  exact if_neg hdot

/-- The split into module and name leaves no trace in the file name. -/
theorem fileNameOf_eq {home name : String} {segments : List String}
    (h : QualifiedName.IsPath home segments) (hname : Text.IsName name) (extension : String) :
    fileNameOf home name extension =
      (QualifiedName.join home name).underscored ++ ending extension := by
  have hwhole := (h.join hname).replaceAll_eq ['_']
  rw [QualifiedName.underscored, hwhole, List.map_append, List.map_singleton]
  unfold fileNameOf
  rw [flatten_eq h]
  by_cases hnil : segments = []
  · subst hnil
    simp [Text.joinWith]
  · have hpieces : segments.map String.toList ≠ [] := by simpa using hnil
    rw [Text.joinWith_concat ['_'] hpieces]
    split
    · rename_i hempty
      exact absurd ((Text.joinWith_eq_nil_iff h.pieces_ne_nil).1 hempty) hpieces
    · apply String.toList_injective
      simp

theorem fileName_eq {c : Config} {d : Declaration} (v : ClassifiedView) (h : d.IsNamed) :
    (ofView c d v).fileName = (ofView c d v).source.underscored ++ ending c.extension := by
  obtain ⟨⟨segments, hpath⟩, hname⟩ := h
  exact fileNameOf_eq hpath hname c.extension

theorem append_ending_injective (extension : String) :
    Function.Injective fun name : String => name ++ ending extension := by
  intro a b h
  have hlist := congrArg String.toList h
  rw [String.toList_append, String.toList_append] at hlist
  exact String.toList_injective (List.append_cancel_right hlist)

end Artifact

namespace Snapshot

variable {s : Snapshot} {c : Config} {report : Report}

theorem isPath_source (hnamed : ∀ d ∈ s.declarations, d.IsNamed) (h : s.generate c = .ok report)
    {a : Artifact} (ha : a ∈ report.artifacts) :
    ∃ segments, QualifiedName.IsPath a.source segments := by
  obtain ⟨d, hd, v, rfl⟩ := exists_declaration_of_artifact h ha
  obtain ⟨⟨segments, hpath⟩, hname⟩ := hnamed d hd
  exact ⟨segments ++ [d.name], hpath.join hname⟩

theorem fileName_of_mem (hnamed : ∀ d ∈ s.declarations, d.IsNamed)
    (h : s.generate c = .ok report) {a : Artifact} (ha : a ∈ report.artifacts) :
    a.fileName = a.source.underscored ++ Artifact.ending c.extension := by
  obtain ⟨d, hd, v, rfl⟩ := exists_declaration_of_artifact h ha
  exact Artifact.fileName_eq v (hnamed d hd)

/-- Two views of a run share a file exactly if their names agree with `_` for `::`. Names without
a `_` of their own never do. -/
theorem generate_fileName_eq_iff (hnamed : ∀ d ∈ s.declarations, d.IsNamed)
    (hdistinct : (s.declarations.map Declaration.qualifiedName).Nodup)
    (h : s.generate c = .ok report) :
    (∀ a ∈ report.artifacts, ∀ b ∈ report.artifacts,
      a.fileName = b.fileName ↔ a.source.underscored = b.source.underscored) ∧
    ((report.artifacts.map Artifact.fileName).Nodup ↔
      (report.artifacts.map fun a => a.source.underscored).Nodup) ∧
    ((∀ a ∈ report.artifacts, '_' ∉ a.source.toList) →
      (report.artifacts.map Artifact.fileName).Nodup) := by
  have hfile := fun a ha => fileName_of_mem hnamed h (a := a) ha
  have hnames : report.artifacts.map Artifact.fileName =
      (report.artifacts.map fun a => a.source.underscored).map
        (· ++ Artifact.ending c.extension) := by
    rw [List.map_map]
    exact List.map_congr_left hfile
  have hiff : (report.artifacts.map Artifact.fileName).Nodup ↔
      (report.artifacts.map fun a => a.source.underscored).Nodup := by
    rw [hnames]
    exact List.nodup_map_iff (Artifact.append_ending_injective c.extension)
  refine ⟨fun a ha b hb => ?_, hiff, fun hfree => hiff.2 ?_⟩
  · rw [hfile a ha, hfile b hb]
    exact (Artifact.append_ending_injective c.extension).eq_iff
  · -- distinct sources stay distinct, since each can be read back
    have hsources : (report.artifacts.map Artifact.source).Nodup :=
      hdistinct.sublist (sources_sublist h)
    have hmap : (report.artifacts.map fun a => a.source.underscored) =
        (report.artifacts.map Artifact.source).map QualifiedName.underscored := by
      rw [List.map_map]
      rfl
    rw [hmap]
    refine List.Nodup.map_on ?_ hsources
    intro x hx y hy hxy
    obtain ⟨a, ha, rfl⟩ := List.mem_map.1 hx
    obtain ⟨b, hb, rfl⟩ := List.mem_map.1 hy
    obtain ⟨as, has⟩ := isPath_source hnamed h ha
    obtain ⟨bs, hbs⟩ := isPath_source hnamed h hb
    exact QualifiedName.eq_of_underscored_eq has hbs (hfree a ha) (hfree b hb) hxy

def bareView (home name : String) : Declaration where
  home := home
  name := name
  generics := []
  annotations := [.marker WellKnown.standard.viewMarker]
  members := []
  interfaces := [.plain WellKnown.standard.capability]

/-- Views beside the crate that defines all well-known names. -/
def ofViews (views : List Declaration) : Snapshot where
  declarations := views
  references := NameSet.ofList (Role.all.map WellKnown.standard.name)

theorem isNamed_ofViews_pair {a b : Declaration} (ha : a.IsNamed) (hb : b.IsNamed) :
    ∀ d ∈ (ofViews [a, b]).declarations, d.IsNamed := by
  intro d hd
  rcases List.mem_cons.1 hd with rfl | hd
  · exact ha
  · obtain rfl := List.mem_singleton.1 hd
    exact hb

theorem isNamed_ab_card : (bareView "crate::a_b" "Card").IsNamed :=
  ⟨⟨["crate", "a_b"], by decide, by decide⟩, by decide⟩

/-- Beside `a_b::Card`, a view called `a::Card` keeps a file of its own. -/
theorem generate_fileName_eq_iff_cards : ∃ report,
    (ofViews [bareView "crate::a_b" "Card", bareView "crate::a" "Card"]).generate .standard =
      .ok report ∧
    report.artifacts.map Artifact.source = ["crate::a_b::Card", "crate::a::Card"] ∧
    (report.artifacts.map Artifact.fileName).Nodup := by
  have hother : (bareView "crate::a" "Card").IsNamed :=
    ⟨⟨["crate", "a"], by decide, by decide⟩, by decide⟩
  have hnamed := isNamed_ofViews_pair isNamed_ab_card hother
  have hdistinct : ((ofViews [bareView "crate::a_b" "Card",
      bareView "crate::a" "Card"]).declarations.map Declaration.qualifiedName).Nodup := by
    decide
  refine ⟨_, rfl, by decide, ?_⟩
  exact (generate_fileName_eq_iff (c := .standard) hnamed hdistinct rfl).2.1.2 (by decide)

/-- The views `a_b::Card` and `a::b_Card` have one file between them. -/
theorem two_views_one_file : ∃ (s : Snapshot) (report : Report),
    (∀ d ∈ s.declarations, d.IsNamed) ∧
    (s.declarations.map Declaration.qualifiedName).Nodup ∧
    s.generate .standard = .ok report ∧
    report.artifacts.map Artifact.source = ["crate::a_b::Card", "crate::a::b_Card"] ∧
    report.artifacts.map Artifact.fileName =
      ["crate_a_b_Card.generated.rs", "crate_a_b_Card.generated.rs"] := by
  have hother : (bareView "crate::a" "b_Card").IsNamed :=
    ⟨⟨["crate", "a"], by decide, by decide⟩, by decide⟩
  exact ⟨ofViews [bareView "crate::a_b" "Card", bareView "crate::a" "b_Card"], _,
    isNamed_ofViews_pair isNamed_ab_card hother, by decide, rfl, by decide, by decide⟩

end Snapshot

end ViewCompanion
