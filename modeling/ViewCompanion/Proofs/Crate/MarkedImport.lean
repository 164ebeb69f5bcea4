import ViewCompanion.Proofs.Crate.UseTree
import ViewCompanion.Proofs.Source.LeadingMark

namespace ViewCompanion.Resolver

open Source QualifiedName

variable {r : Resolver} {home first : String}

/-- What lies in a module inside `home` is not called as if that module were a crate. -/
theorem inside_child_ne (home first : String) (path : List String) :
    inside (home ++ "::" ++ first) path ≠ ofSegments (first :: path) := by
  intro h
  -- the same rest follows on both sides, behind names of different lengths
  have hlist := congrArg String.toList h
  rw [toList_inside (by simp), toList_ofSegments_cons, List.append_cancel_right_eq] at hlist
  have hlength := congrArg List.length hlist
  simp at hlength
  omega

theorem target_of_child (hroot : first ∉ relativeRoots)
    (h : r.isModule (home ++ "::" ++ first) = true) (tail : List String) :
    r.target home (first :: tail) = inside (home ++ "::" ++ first) tail := by
  refine target_of_anchored ?_
  rw [anchored?_of_not_root hroot, if_pos h]

/-- Where `path` is what an import leads to, more behind it is an absolute path exactly if no module
inside `home` has the name that the path begins with. -/
theorem inside_target_eq_iff (r : Resolver) (home : String) (hfirst : first ≠ "")
    (hroot : first ∉ relativeRoots) (tail rest : List String) :
    inside (r.target home (first :: tail)) rest = ofSegments (first :: tail ++ rest) ↔
      r.isModule (home ++ "::" ++ first) = false := by
  cases h : r.isModule (home ++ "::" ++ first) with
  | true =>
    rw [target_of_child hroot h, ← inside_append]
    exact iff_of_false (inside_child_ne home first (tail ++ rest)) (Bool.noConfusion ·)
  | false =>
    have hplain : r.isAnchor home first = false := (isAnchor_of_not_root hroot).trans h
    rw [target_of_not_anchor hplain, inside_ofSegments hfirst]
    exact iff_of_true rfl rfl

/-- An import is read the same with `::` in front and without. What one of its leaves leads to,
under a name or through a glob, is the path from the very top only if no module inside the importing
one has the name that the path begins with; otherwise it lies in that module. -/
theorem marked_import_is_relative {n : Nat} {ts out : List Token} {joint : Bool} {tree : UseTree}
    {c : Cursor} (hread : (grammar n).useItem true
      ⟨.ident "use" :: .punct ':' true :: .punct ':' joint :: ts, out⟩ = some (some tree, c)) :
    (∃ c', (grammar n).useItem true ⟨.ident "use" :: ts, out⟩ = some (some tree, c') ∧
      c'.rest = c.rest) ∧
    ∀ leaf ∈ tree.leaves, ∀ (r : Resolver) (home : String) (scope : Scope) (first : String)
      (tail : List String), r.scope? home = some scope → leaf.path = first :: tail → first ≠ "" →
      first ∉ relativeRoots →
      (∀ given rest, scope.import? given = some leaf.path → r.isAnchor home given = false →
        (r.resolvePath home ⟨false, given :: rest⟩ =
            r.resolvePath home ⟨true, leaf.path ++ rest⟩ ↔
          r.isModule (home ++ "::" ++ first) = false) ∧
        (r.isModule (home ++ "::" ++ first) = true →
          r.resolvePath home ⟨false, given :: rest⟩ =
            inside (home ++ "::" ++ first) (tail ++ rest))) ∧
      (r.target home leaf.path = r.resolvePath home ⟨true, leaf.path⟩ ↔
        r.isModule (home ++ "::" ++ first) = false) := by
  refine ⟨Grammar.useItem_of_mark hread, ?_⟩
  intro leaf _ r home scope first tail hscope hpath hfirst hroot
  rw [hpath]
  refine ⟨fun given rest himport hgiven => ?_, ?_⟩
  · rw [resolvePath_of_import hscope himport hgiven rest]
    refine ⟨inside_target_eq_iff r home hfirst hroot tail rest, fun hmodule => ?_⟩
    rw [target_of_child hroot hmodule, inside_append]
  · have hglob := inside_target_eq_iff r home hfirst hroot tail []
    rwa [List.append_nil] at hglob

/-- What stands behind `use ::` in the import of one name under another. -/
def embedAsRich : List Token :=
  [.ident "porbeagle", .punct ':' true, .punct ':' false, .ident "Embed", .ident "as",
    .ident "Rich", .punct ';' false]

/-- A crate with that import at the root and in a module. Only the root has a module of the name
that the path begins with. -/
def withNamesake : Resolver where
  crateName := "crate"
  scopes := [
    ("crate", { Scope.empty with imports := [("Rich", ["porbeagle", "Embed"])] }),
    ("crate::ui", {
      imports := [("Rich", ["porbeagle", "Embed"])]
      globs := [["super"]]
      locals := ["Rich", "porbeagle"] }),
    ("crate::porbeagle", .empty)]
  known := .ofList ["crate::ui::porbeagle"]

theorem marked_import_is_relative_embed :
    (∃ c c', (grammar 3).useItem true
        ⟨.ident "use" :: .punct ':' true :: .punct ':' false :: embedAsRich, []⟩ =
          some (some (.path "porbeagle" (.rename "Embed" "Rich")), c) ∧
      (grammar 3).useItem true ⟨.ident "use" :: embedAsRich, []⟩ =
        some (some (.path "porbeagle" (.rename "Embed" "Rich")), c') ∧ c'.rest = c.rest) ∧
    withNamesake.resolvePath "crate::ui" ⟨false, ["Rich", "Id"]⟩ =
      withNamesake.resolvePath "crate::ui" ⟨true, ["porbeagle", "Embed", "Id"]⟩ ∧
    withNamesake.target "crate::ui" ["porbeagle", "Embed"] =
      withNamesake.resolvePath "crate::ui" ⟨true, ["porbeagle", "Embed"]⟩ ∧
    withNamesake.resolvePath "crate" ⟨false, ["Rich", "Id"]⟩ =
      inside "crate::porbeagle" ["Embed", "Id"] := by
  obtain ⟨⟨c', hplain, hrest⟩, hleads⟩ :=
    @marked_import_is_relative 3 embedAsRich [] false _ _ rfl
  have hleaf := hleads ⟨["porbeagle"], .rename "Embed" "Rich"⟩ (by decide) withNamesake
  obtain ⟨hrich, hglob⟩ := hleaf "crate::ui" _ "porbeagle" ["Embed"] rfl rfl (by decide) (by decide)
  obtain ⟨hroot, -⟩ := hleaf "crate" _ "porbeagle" ["Embed"] rfl rfl (by decide) (by decide)
  exact ⟨⟨_, c', rfl, hplain, hrest⟩, (hrich "Rich" ["Id"] rfl rfl).1.2 rfl, hglob.2 rfl,
    (hroot "Rich" ["Id"] rfl rfl).2 rfl⟩

/-- A struct beside a module called like a crate, with a type of that crate named in two ways. -/
def namesake : String :=
  "mod m\x7b\x7duse ::m::T as A;struct C(A,::m::T);"

/-- The import of an absolute path leads into the module, while the path itself does not. -/
theorem marked_import_leads_inside :
    (Snapshot.ofText? .standard namesake).map (fun s => s.declarations.map fun d =>
      (d.qualifiedName, d.members.map fun m => m.type.name)) =
      some [("crate::C", ["crate::m::T", "m::T"])] := by
  decide +kernel

end ViewCompanion.Resolver
