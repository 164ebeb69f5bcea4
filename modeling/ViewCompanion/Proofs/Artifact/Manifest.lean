import Mathlib.Data.List.Nodup
import ViewCompanion.Artifact.Manifest
import ViewCompanion.Proofs.Name

namespace ViewCompanion

namespace Manifest

/-- `module` is `home` without the name of the crate, if the path of `home` begins with it. -/
inductive IsInside (crateName : String) : (home module : String) → Prop
  | root : IsInside crateName crateName ""
  | inner (rest : String) : IsInside crateName (crateName ++ "::" ++ rest) rest
  | outer {home : String} (hroot : home ≠ crateName)
      (hinner : ∀ rest, home ≠ crateName ++ "::" ++ rest) : IsInside crateName home home

section Module

variable {crateName home module : String} {segments : List String}

theorem exists_isInside (crateName home : String) : ∃ module, IsInside crateName home module := by
  by_cases hroot : home = crateName
  · exact ⟨"", hroot ▸ .root⟩
  · by_cases hinner : ∃ rest, home = crateName ++ "::" ++ rest
    · obtain ⟨rest, rfl⟩ := hinner
      exact ⟨rest, .inner rest⟩
    · exact ⟨home, .outer hroot fun rest h => hinner ⟨rest, h⟩⟩

theorem IsInside.isPath (h : IsInside crateName home module)
    (hpath : QualifiedName.IsPath home segments) :
    ∃ inner, QualifiedName.IsPath module inner := by
  cases h with
  | root => exact ⟨[], by simp, rfl⟩
  | inner =>
    obtain ⟨last, -, -, hrest⟩ := hpath.of_append_mark rfl
    exact ⟨last, hrest⟩
  | outer => exact ⟨segments, hpath⟩

theorem dotsToMarks_of_isPath (h : QualifiedName.IsPath home segments) :
    String.ofList (dotsToMarks home.toList) = home := by
  rw [dotsToMarks, Text.replaceAll_of_not_mem (h.not_mem (by decide) (by decide) (by decide)),
    String.ofList_toList]

theorem relativeModule_eq_of_isInside (hpath : QualifiedName.IsPath home segments)
    (h : IsInside crateName home module) : relativeModule crateName home = module := by
  unfold relativeModule
  by_cases hempty : home.isEmpty = true
  · rw [if_pos hempty]
    have hhome : home = "" := by simpa using hempty
    cases h with
    | root => rfl
    | inner => simp at hhome
    | outer => exact hhome.symm
  · rw [if_neg hempty]
    cases h with
    | root =>
      have hbelow : QualifiedName.below? crateName crateName = some [] :=
        QualifiedName.below?_eq_some_iff.2 ⟨by simp, .inl rfl⟩
      rw [hbelow]
    | inner =>
      obtain ⟨last, -, -, hrest⟩ := hpath.of_append_mark rfl
      have hbelow : QualifiedName.below? crateName (crateName ++ "::" ++ module) =
          some (QualifiedName.mark ++ module.toList) :=
        QualifiedName.below?_eq_some_iff.2
          ⟨by simp [QualifiedName.mark], .inr (List.prefix_append _ _)⟩
      rw [hbelow]
      exact dotsToMarks_of_isPath hrest
    | outer hroot hinner =>
      have hbelow : QualifiedName.below? crateName home = none := by
        rw [Option.eq_none_iff_forall_ne_some]
        intro rest hrest
        obtain ⟨hhome, rfl | ⟨rest, rfl⟩⟩ := QualifiedName.below?_eq_some_iff.1 hrest
        · exact hroot (String.toList_injective (by simpa using hhome))
        · refine hinner (String.ofList rest) (String.toList_injective ?_)
          simpa [QualifiedName.mark] using hhome
      rw [hbelow]
      exact dotsToMarks_of_isPath hpath

theorem isInside_relativeModule (hpath : QualifiedName.IsPath home segments) :
    IsInside crateName home (relativeModule crateName home) := by
  obtain ⟨module, h⟩ := exists_isInside crateName home
  exact (relativeModule_eq_of_isInside hpath h).symm ▸ h

end Module

section FileName

theorem fileNameOf_ne_rootFile {module : String} (h : ¬ module.isEmpty = true) :
    fileNameOf module ≠ rootFile := by
  intro heq
  have hlist := congrArg String.toList heq
  rw [fileNameOf, if_neg h] at hlist
  simp [rootFile, directory] at hlist

theorem fileNameOf_inj {a b : String} {as bs : List String} (ha : QualifiedName.IsPath a as)
    (hb : QualifiedName.IsPath b bs) (h : fileNameOf a = fileNameOf b) : a = b := by
  by_cases hae : a.isEmpty = true
  · by_cases hbe : b.isEmpty = true
    · exact (String.isEmpty_iff.1 hae).trans (String.isEmpty_iff.1 hbe).symm
    · rw [fileNameOf, if_pos hae] at h
      exact absurd h.symm (fileNameOf_ne_rootFile hbe)
  · by_cases hbe : b.isEmpty = true
    · rw [fileNameOf.eq_def b, if_pos hbe] at h
      exact absurd h (fileNameOf_ne_rootFile hae)
    · have hslashes : Text.replaceAll QualifiedName.mark ['/'] a.toList =
          Text.replaceAll QualifiedName.mark ['/'] b.toList := by
        have hlist := congrArg String.toList h
        rw [fileNameOf, if_neg hae, fileNameOf, if_neg hbe] at hlist
        simpa using hlist
      have hfree : ∀ {path : String} {segments : List String},
          QualifiedName.IsPath path segments → ∀ piece ∈ segments.map String.toList, '/' ∉ piece :=
        fun h => h.not_mem_pieces (by decide) (by decide)
      apply String.toList_injective
      rw [← ha.replaceAll_replaceAll (hfree ha), hslashes, hb.replaceAll_replaceAll (hfree hb)]

end FileName

section Lines

def includeLine (fileName : String) : List Char :=
  ("include!(concat!(env!(\"OUT_DIR\"), \"/" ++ fileName ++ "\"));").toList

def isInclude (line : List Char) : Bool :=
  "include!(".toList.isPrefixOf line

def includes (m : Manifest) : List (List Char) :=
  (Text.splitAt '\n' m.content.toList).filter isInclude

theorem isInclude_includeLine (fileName : String) : isInclude (includeLine fileName) = true := by
  rw [isInclude, List.isPrefixOf_iff_prefix, includeLine, String.toList_append,
    String.toList_append, List.append_assoc]
  exact ⟨"concat!(env!(\"OUT_DIR\"), \"/".toList ++ (fileName.toList ++ "\"));".toList), rfl⟩

/-- Reading off the include lines takes the text line by line. -/
theorem filter_isInclude_line {line : List Char} (h : '\n' ∉ line) (s : List Char) :
    (Text.splitAt '\n' (line ++ '\n' :: s)).filter isInclude =
      [line].filter isInclude ++ (Text.splitAt '\n' s).filter isInclude := by
  rw [Text.splitAt_append_mark, Text.splitAt_of_not_mem h, List.filter_append]

theorem filter_isInclude_comment {comment : List Char} (h : '\n' ∉ comment) (s : List Char) :
    (Text.splitAt '\n' ("// ".toList ++ comment ++ '\n' :: s)).filter isInclude =
      (Text.splitAt '\n' s).filter isInclude := by
  have hline : '\n' ∉ "// ".toList ++ comment := by simpa using h
  have hcomment : isInclude ("// ".toList ++ comment) = false := rfl
  rw [filter_isInclude_line hline, List.filter_cons_of_neg (hcomment ▸ Bool.false_ne_true)]
  rfl

theorem includes_of_lines {artifacts : List Artifact}
    (hsources : ∀ a ∈ artifacts, '\n' ∉ a.source.toList)
    (hfiles : ∀ a ∈ artifacts, '\n' ∉ a.fileName.toList) :
    (Text.splitAt '\n' (String.join (artifacts.map Artifact.includeLines)).toList).filter
      isInclude = artifacts.map fun a => includeLine a.fileName := by
  induction artifacts with
  | nil => rfl
  | cons a rest ih =>
    have ih := ih (fun b hb => hsources b (List.mem_cons_of_mem a hb))
      (fun b hb => hfiles b (List.mem_cons_of_mem a hb))
    have hline : '\n' ∉ includeLine a.fileName := by
      simpa [includeLine] using hfiles a List.mem_cons_self
    -- an empty line, the source and the include
    have htext : (String.join ((a :: rest).map Artifact.includeLines)).toList =
        [] ++ '\n' :: ("// ".toList ++ a.source.toList ++ '\n' ::
          (includeLine a.fileName ++ '\n' ::
            (String.join (rest.map Artifact.includeLines)).toList)) := by
      simp [Artifact.includeLines, includeLine]
    rw [htext, filter_isInclude_line List.not_mem_nil,
      filter_isInclude_comment (hsources a List.mem_cons_self), filter_isInclude_line hline, ih,
      List.filter_cons_of_pos (isInclude_includeLine a.fileName)]
    rfl

theorem includes_contentOf {module : String} {artifacts : List Artifact}
    (hmodule : '\n' ∉ module.toList) (hsources : ∀ a ∈ artifacts, '\n' ∉ a.source.toList)
    (hfiles : ∀ a ∈ artifacts, '\n' ∉ a.fileName.toList) :
    (Text.splitAt '\n' (contentOf module artifacts).toList).filter isInclude =
      artifacts.map fun a => includeLine a.fileName := by
  have htext : (contentOf module artifacts).toList =
      "// ".toList ++ "@generated by porbeagle-codegen. Do not edit.".toList ++ '\n' ::
        ("// ".toList ++ ("Included by `porbeagle::include_views!(" ++ module ++ ")`.").toList ++
          '\n' :: (String.join (artifacts.map Artifact.includeLines)).toList) := by
    unfold contentOf
    simp
  rw [htext, filter_isInclude_comment (by simp), filter_isInclude_comment (by simpa using hmodule),
    includes_of_lines hsources hfiles]

end Lines

/-- What `manifests` have to say about `artifacts`. The texts of the sources have no line ends, and
if the names of the files have none either, the include lines can be read off. -/
structure Lists (crateName : String) (artifacts : List Artifact) (manifests : List Manifest) :
    Prop where
  modules_ascend : (manifests.map Manifest.module).Pairwise (· < ·)
  modules_nodup : (manifests.map Manifest.module).Nodup
  files_nodup : (manifests.map Manifest.fileName).Nodup
  root_first : ∃ root rest, manifests = root :: rest ∧ root.module = "" ∧
    root.fileName = "porbeagle_views.rs"
  /-- Each artifact has a manifest, that of its module without the name of the crate. -/
  has_manifest : ∀ a ∈ artifacts, ∃ m ∈ manifests, m.module = a.module crateName
  inside : ∀ a ∈ artifacts, ∀ segments, QualifiedName.IsPath a.source segments →
    IsInside crateName (QualifiedName.ofSegments segments.dropLast) (a.module crateName)
  /-- One entry for each artifact of the module, as often as it is in the list. -/
  entries : ∀ m ∈ manifests, ∃ listed : List Artifact,
    listed.Perm (artifacts.filter fun a => a.module crateName == m.module) ∧
      (m.module ≠ "" → listed ≠ []) ∧ m.content = contentOf m.module listed
  include_lines : (∀ a ∈ artifacts, '\n' ∉ a.fileName.toList) → ∀ m ∈ manifests,
    m.includes.Perm ((artifacts.filter fun a => a.module crateName == m.module).map
      fun a => includeLine a.fileName)

section Artifacts

variable {crateName : String} {artifacts : List Artifact}

theorem isInside_module {a : Artifact} {segments : List String}
    (h : QualifiedName.IsPath a.source segments) :
    IsInside crateName (QualifiedName.ofSegments segments.dropLast) (a.module crateName) := by
  rw [Artifact.module, h.parent?_getD]
  exact isInside_relativeModule
    (.ofSegments fun s hs => h.names s (List.dropLast_subset segments hs))

theorem isPath_module {a : Artifact} {segments : List String}
    (h : QualifiedName.IsPath a.source segments) :
    ∃ inner, QualifiedName.IsPath (a.module crateName) inner :=
  (isInside_module h).isPath
    (.ofSegments fun s hs => h.names s (List.dropLast_subset segments hs))

theorem mem_ofArtifacts {m : Manifest} : m ∈ ofArtifacts crateName artifacts ↔
    ∃ module, (module = "" ∨ ∃ a ∈ artifacts, a.module crateName = module) ∧
      ofModule crateName artifacts module = m := by
  unfold ofArtifacts
  simp only [List.mem_map, NameSet.mem_toList, NameSet.mem_ofList, List.mem_cons]

theorem map_module_ofArtifacts : (ofArtifacts crateName artifacts).map Manifest.module =
    (NameSet.ofList ("" :: artifacts.map fun a => a.module crateName)).toList := by
  unfold ofArtifacts
  rw [List.map_map]
  exact List.map_id _

theorem exists_cons_of_mem_empty {names : NameSet} (h : "" ∈ names) :
    ∃ rest, names.toList = "" :: rest := by
  have hmem : "" ∈ names.toList := h
  have hascending := names.ascending
  cases hnames : names.toList with
  | nil =>
    rw [hnames] at hmem
    cases hmem
  | cons first rest =>
    rw [hnames] at hmem hascending
    rcases List.mem_cons.1 hmem with rfl | hmem
    · exact ⟨rest, rfl⟩
    · have hlt : first < "" := (List.pairwise_cons.1 hascending).1 "" hmem
      exact absurd (String.lt_iff.1 hlt) (List.not_lt_nil _)

theorem isPath_module_of_mem (h : ∀ a ∈ artifacts, ∃ segments, QualifiedName.IsPath a.source segments)
    {m : Manifest} (hm : m ∈ ofArtifacts crateName artifacts) :
    ∃ inner, QualifiedName.IsPath m.module inner := by
  obtain ⟨module, rfl | ⟨a, ha, rfl⟩, rfl⟩ := mem_ofArtifacts.1 hm
  · exact ⟨[], by simp, rfl⟩
  · obtain ⟨segments, hpath⟩ := h a ha
    exact isPath_module hpath

theorem fileName_eq_of_mem {m : Manifest} (hm : m ∈ ofArtifacts crateName artifacts) :
    m.fileName = fileNameOf m.module := by
  obtain ⟨module, -, rfl⟩ := mem_ofArtifacts.1 hm
  rfl

theorem exists_listed {m : Manifest} (hm : m ∈ ofArtifacts crateName artifacts) :
    ∃ listed : List Artifact,
      listed.Perm (artifacts.filter fun a => a.module crateName == m.module) ∧
        (m.module ≠ "" → listed ≠ []) ∧ m.content = contentOf m.module listed := by
  obtain ⟨module, hmodule, rfl⟩ := mem_ofArtifacts.1 hm
  have hperm := List.mergeSort_perm (artifacts.filter fun a => a.module crateName == module)
    Artifact.precedes
  refine ⟨_, hperm, fun hne hnil => ?_, rfl⟩
  obtain ⟨a, ha, hmod⟩ := hmodule.resolve_left hne
  have hmem : a ∈ artifacts.filter fun a => a.module crateName == module :=
    List.mem_filter.2 ⟨ha, beq_iff_eq.2 hmod⟩
  rw [hnil] at hperm
  rw [← hperm.nil_eq] at hmem
  cases hmem

/-- Every artifact is listed for its own module, whatever their number and order. -/
theorem ofArtifacts_lists (crateName : String) (artifacts : List Artifact)
    (h : ∀ a ∈ artifacts, ∃ segments, QualifiedName.IsPath a.source segments) :
    Lists crateName artifacts (ofArtifacts crateName artifacts) := by
  have hascend : ((ofArtifacts crateName artifacts).map Manifest.module).Pairwise (· < ·) := by
    rw [map_module_ofArtifacts]
    exact NameSet.ascending _
  have hnodup : ((ofArtifacts crateName artifacts).map Manifest.module).Nodup :=
    hascend.imp fun hlt => String.ne_of_lt hlt
  constructor
  case modules_ascend => exact hascend
  case modules_nodup => exact hnodup
  case files_nodup =>
    -- a file name tells its module
    have hfiles : (ofArtifacts crateName artifacts).map Manifest.fileName =
        ((ofArtifacts crateName artifacts).map Manifest.module).map fileNameOf := by
      rw [List.map_map]
      exact List.map_congr_left fun m hm => fileName_eq_of_mem hm
    rw [hfiles]
    refine List.Nodup.map_on ?_ hnodup
    intro a ha b hb hab
    obtain ⟨m, hm, rfl⟩ := List.mem_map.1 ha
    obtain ⟨n, hn, rfl⟩ := List.mem_map.1 hb
    obtain ⟨as, has⟩ := isPath_module_of_mem h hm
    obtain ⟨bs, hbs⟩ := isPath_module_of_mem h hn
    exact fileNameOf_inj has hbs hab
  case root_first =>
    have hmem : "" ∈ NameSet.ofList ("" :: artifacts.map fun a => a.module crateName) :=
      NameSet.mem_ofList.2 List.mem_cons_self
    obtain ⟨rest, hrest⟩ := exists_cons_of_mem_empty hmem
    refine ⟨ofModule crateName artifacts "", rest.map (ofModule crateName artifacts), ?_, rfl, rfl⟩
    unfold ofArtifacts
    rw [hrest, List.map_cons]
  case has_manifest =>
    exact fun a ha => ⟨_, mem_ofArtifacts.2 ⟨_, .inr ⟨a, ha, rfl⟩, rfl⟩, rfl⟩
  case inside => exact fun a _ segments hpath => isInside_module hpath
  case entries => exact fun m hm => exists_listed hm
  case include_lines =>
    intro hfiles m hm
    obtain ⟨inner, hinner⟩ := isPath_module_of_mem h hm
    obtain ⟨listed, hperm, -, hcontent⟩ := exists_listed hm
    have hmem : ∀ a ∈ listed, a ∈ artifacts := fun a ha => List.mem_of_mem_filter (hperm.subset ha)
    have hsources : ∀ a ∈ listed, '\n' ∉ a.source.toList := by
      intro a ha
      obtain ⟨segments, hpath⟩ := h a (hmem a ha)
      exact hpath.not_mem (by decide) (by decide) (by decide)
    rw [includes, hcontent, includes_contentOf (hinner.not_mem (by decide) (by decide) (by decide))
      hsources fun a ha => hfiles a (hmem a ha)]
    exact hperm.map _

/-- Views at the root, in an inner module and outside, one of them twice. -/
def shelf : List Artifact := [
  ⟨"crate_views_welcome_Greeting.generated.rs", "crate::views::welcome::Greeting", ""⟩,
  ⟨"crates_Parcel.generated.rs", "crates::Parcel", ""⟩,
  ⟨"crate_Card.generated.rs", "crate::Card", ""⟩,
  ⟨"crate_views_welcome_Greeting.generated.rs", "crate::views::welcome::Greeting", ""⟩,
  ⟨"crate_views_welcome_Farewell.generated.rs", "crate::views::welcome::Farewell", ""⟩]

theorem ofArtifacts_lists_shelf : Lists "crate" shelf (ofArtifacts "crate" shelf) ∧
    (ofArtifacts "crate" shelf).map Manifest.module = ["", "crates", "views::welcome"] ∧
    ∃ m ∈ ofArtifacts "crate" shelf, m.fileName = "porbeagle_views/views/welcome.rs" ∧
      m.includes.Perm (["crate_views_welcome_Greeting.generated.rs",
        "crate_views_welcome_Greeting.generated.rs",
        "crate_views_welcome_Farewell.generated.rs"].map includeLine) := by
  have hpaths : ∀ a ∈ shelf, ∃ segments, QualifiedName.IsPath a.source segments := by
    unfold shelf
    simp only [List.forall_mem_cons, List.not_mem_nil, false_imp_iff, implies_true, and_true]
    exact ⟨⟨["crate", "views", "welcome", "Greeting"], by decide, by decide⟩,
      ⟨["crates", "Parcel"], by decide, by decide⟩, ⟨["crate", "Card"], by decide, by decide⟩,
      ⟨["crate", "views", "welcome", "Greeting"], by decide, by decide⟩,
      ⟨["crate", "views", "welcome", "Farewell"], by decide, by decide⟩⟩
  have hlists := ofArtifacts_lists "crate" shelf hpaths
  obtain ⟨m, hm, hmodule⟩ := hlists.has_manifest _ List.mem_cons_self
  have hwelcome : m.module = "views::welcome" := hmodule.trans (by decide +kernel)
  refine ⟨hlists, by decide +kernel, m, hm, ?_, ?_⟩
  · rw [fileName_eq_of_mem hm, hwelcome]
    decide
  · have hfiles : ((shelf.filter fun a => a.module "crate" == "views::welcome").map
        Artifact.fileName) = ["crate_views_welcome_Greeting.generated.rs",
          "crate_views_welcome_Greeting.generated.rs",
          "crate_views_welcome_Farewell.generated.rs"] := by
      decide +kernel
    have hlines := hlists.include_lines (by decide +kernel) m hm
    rw [hwelcome] at hlines
    rw [← hfiles, List.map_map]
    exact hlines

end Artifacts

end Manifest

end ViewCompanion
