import Mathlib.Tactic.ByContra
import ViewCompanion.Crate.Snapshot
import ViewCompanion.Proofs.Name

namespace ViewCompanion

open Source

def rowMarker : QualifiedName := WellKnown.standard.actionRowMarker

namespace Resolver

variable {r : Resolver} {home name : String}

/-- No import that counts in `home` gives the marker of action rows another name than its own. -/
def KeepsRowMarker (r : Resolver) (home : String) : Prop :=
  ∀ scope, r.scope? home = some scope → ∀ name target, scope.import? name = some target →
    name ≠ "action_row" → r.target home target ≠ rowMarker

theorem keepsRowMarker_of_imports {r : Resolver} {home : String}
    (h : ∀ scope ∈ r.scope? home, ∀ entry ∈ scope.imports, r.target home entry.2 ≠ rowMarker) :
    r.KeepsRowMarker home := by
  intro scope hscope name target htarget _
  obtain ⟨before, after, himports, -⟩ := List.lookup_eq_some_iff.1 htarget
  exact h scope hscope (name, target) (by simp [himports])

theorem prefix_around (home : String) : (around home).toList <+: home.toList := by
  unfold around QualifiedName.parent?
  cases hcut : Text.cutLast? QualifiedName.mark home.toList with
  | none => exact List.prefix_rfl
  | some parts =>
    obtain ⟨before, after⟩ := parts
    rw [Text.eq_of_cutLast? hcut]
    simp only [Option.map_some, Option.getD_some, String.toList_ofList]
    exact List.prefix_append _ _

/-- What lies in the crate, or has a part of the crate inside it, is not the marker. -/
theorem ne_rowMarker {place : String} (hhome : "crate".toList <+: home.toList)
    (h : place.toList <+: home.toList ∨ home.toList <+: place.toList) : place ≠ rowMarker := by
  obtain ⟨rest, hrest⟩ := hhome
  rintro rfl
  rcases h with ⟨back, hback⟩ | ⟨back, hback⟩
  · rw [← hrest] at hback
    exact absurd (congrArg List.head? hback) (by simp [rowMarker, WellKnown.standard])
  · rw [← hrest] at hback
    exact absurd (congrArg List.head? hback) (by simp [rowMarker, WellKnown.standard])

theorem anchored?_single {found : QualifiedName} (h : r.anchored? home [name] = some found) :
    found = r.crateName ∨ found = home ∨ found = around home ∨ found = home ++ "::" ++ name := by
  unfold anchored? at h
  split at h
  · cases h
  · rename_i hnames
    cases hnames
    exact .inl (Option.some.inj h).symm
  · rename_i hnames
    cases hnames
    exact .inr (.inl (Option.some.inj h).symm)
  · rename_i hnames
    cases hnames
    exact .inr (.inr (.inl (Option.some.inj h).symm))
  · rename_i hnames
    cases hnames
    dsimp only at h
    split at h
    · exact .inr (.inr (.inr (Option.some.inj h).symm))
    · cases h

/-- The last segment of the marker is its own. -/
theorem eq_of_inside_rowMarker {base : String} (hname : Text.IsName name)
    (h : base ++ "::" ++ name = rowMarker) : name = "action_row" := by
  have hmarker : rowMarker = "porbeagle::attributes" ++ "::" ++ "action_row" := rfl
  have hrow : Text.IsName "action_row" := by decide
  exact (QualifiedName.eq_of_append_mark_eq hname hrow (h.trans hmarker)).2

/-- Without an import that says so, no other name means the marker. -/
theorem resolveNames_ne_rowMarker (hcrate : r.crateName = "crate")
    (hhome : "crate".toList <+: home.toList) (hkeeps : r.KeepsRowMarker home)
    (hname : Text.IsName name) (hrow : name ≠ "action_row") :
    r.resolveNames home [name] ≠ rowMarker := by
  have hsegment : QualifiedName.ofSegments [name] ≠ rowMarker := by
    intro heq
    have hcolon : ':' ∉ name.toList := hname.not_mem (by decide) (by decide)
    have htext : name.toList = rowMarker.toList := by
      rw [← heq, QualifiedName.ofSegments, String.toList_ofList]
      rfl
    rw [htext] at hcolon
    exact hcolon (by decide)
  unfold resolveNames
  split
  · rename_i found hanchored
    -- an anchored path stays in the crate
    rcases anchored?_single hanchored with rfl | rfl | rfl | rfl
    · rw [hcrate]
      decide
    · exact ne_rowMarker hhome (.inl List.prefix_rfl)
    · exact ne_rowMarker hhome (.inl (prefix_around home))
    · refine ne_rowMarker hhome (.inr ?_)
      simp only [String.toList_append, List.append_assoc]
      exact List.prefix_append _ _
  · rename_i scope first rest _ hscope hnames
    cases hnames
    -- an import, an item of the module, or what a glob brings, which keeps its last name
    split
    · rename_i target htarget
      exact hkeeps scope hscope name target htarget hrow
    · split
      · refine ne_rowMarker hhome (.inr ?_)
        simp only [inside, List.foldl_nil, String.toList_append, List.append_assoc]
        exact List.prefix_append _ _
      · cases hglob : scope.globs.findSome? (r.fromGlob? home name []) with
        | none => exact hsegment
        | some found =>
          obtain ⟨glob, -, hfound⟩ := List.exists_of_findSome?_eq_some hglob
          unfold fromGlob? at hfound
          dsimp only at hfound
          split at hfound
          · cases hfound
            exact fun heq => hrow (eq_of_inside_rowMarker hname heq)
          · cases hfound
  · exact hsegment

end Resolver

/-- A field attribute with one name as its path, which is not that of a derive. -/
def Source.Attribute.IsPlain (a : Attribute) : Prop :=
  ∃ name, Text.IsName name ∧ name ≠ "derive" ∧ a.path = ⟨false, [name]⟩

def Source.Attribute.isRow (a : Attribute) : Bool :=
  a.path.isName "action_row"

theorem Source.NamePath.isName_single (name other : String) :
    (⟨false, [name]⟩ : NamePath).isName other = (name == other) := by
  simp [isName]

namespace Resolver

/-- Where attributes of one name on the members of a view are looked for. -/
abbrev helpers? : Option QualifiedName := some Config.standard.helperNamespace

section

variable {r : Resolver} {home : String} (hcrate : r.crateName = "crate")
  (hhome : "crate".toList <+: home.toList) (hkeeps : r.KeepsRowMarker home)
  (hknows : r.knows rowMarker = true)

include hcrate hhome hkeeps hknows

theorem annotationClass_eq_rowMarker_iff {name : String} (hname : Text.IsName name) :
    r.annotationClass home helpers? ⟨false, [name]⟩ = rowMarker ↔ name = "action_row" := by
  have hhelper (last : String) : QualifiedName.join Config.standard.helperNamespace last =
      "porbeagle::attributes" ++ "::" ++ last :=
    if_neg (by decide)
  have hclass : r.annotationClass home helpers? ⟨false, [name]⟩ =
      if r.knows ("porbeagle::attributes" ++ "::" ++ name) then
        "porbeagle::attributes" ++ "::" ++ name
      else r.resolveNames home [name] := by
    rw [← hhelper]
    rfl
  rw [hclass]
  constructor
  · intro heq
    split at heq
    · exact eq_of_inside_rowMarker hname heq
    · by_contra hrow
      exact resolveNames_ne_rowMarker hcrate hhome hkeeps hname hrow heq
  · rintro rfl
    exact if_pos hknows

/-- Of one attribute, the annotations with the marker are at most one. -/
theorem filter_annotationsOf {a : Attribute} (ha : a.IsPlain) :
    (r.annotationsOf home helpers? a).filter (fun b => b.is rowMarker) =
      if a.isRow then [⟨some rowMarker, r.arguments home a.content⟩] else [] := by
  obtain ⟨name, hname, hderive, hpath⟩ := ha
  have hderive' : (name == "derive") = false := by simpa using hderive
  have hclass := annotationClass_eq_rowMarker_iff hcrate hhome hkeeps hknows hname
  unfold annotationsOf Attribute.isRow
  rw [hpath, NamePath.isName_single, NamePath.isName_single, NamePath.isName_single, hderive']
  by_cases hrow : name = "action_row"
  · have hmarker := hclass.2 hrow
    subst hrow
    simp [hmarker, Annotation.is]
  · have hother : r.annotationClass home helpers? ⟨false, [name]⟩ ≠ rowMarker :=
      fun heq => hrow (hclass.1 heq)
    by_cases hdoc : name = "doc"
    · simp [hdoc]
    · simp [hrow, hdoc, hother, Annotation.is]

theorem filter_flatMap_annotationsOf {attributes : List Attribute}
    (h : ∀ a ∈ attributes, a.IsPlain) :
    (attributes.flatMap (r.annotationsOf home helpers?)).filter (fun b => b.is rowMarker) =
      (attributes.filter Attribute.isRow).map fun a =>
        ⟨some rowMarker, r.arguments home a.content⟩ := by
  induction attributes with
  | nil => rfl
  | cons a rest ih =>
    have hfirst := filter_annotationsOf hcrate hhome hkeeps hknows (h a List.mem_cons_self)
    have ih := ih fun b hb => h b (List.mem_cons_of_mem a hb)
    rw [List.flatMap_cons, List.filter_append, hfirst, ih, List.filter_cons]
    cases a.isRow <;> rfl

end

end Resolver

end ViewCompanion
