import ViewCompanion.Proofs.Crate.Anchors

namespace ViewCompanion

namespace Source

/-- What an import ends in. -/
inductive UseEnd
  | name (name : String)
  | rename (name newName : String)
  | glob
  deriving DecidableEq, Repr

def UseEnd.isSelf : UseEnd → Bool
  | name n | rename n _ => n == "self"
  | glob => false

/-- An end of an import, and all the names on the way to it. -/
structure UseLeaf where
  before : List String
  last : UseEnd
  deriving DecidableEq, Repr

namespace UseLeaf

def under (front : List String) (leaf : UseLeaf) : UseLeaf :=
  { leaf with before := front ++ leaf.before }

/-- The full path. A `self` is no segment of it, it stands for what is in front. -/
def path (leaf : UseLeaf) : List String :=
  match leaf.last with
  | .name n | .rename n _ => if n = "self" then leaf.before else leaf.before ++ [n]
  | .glob => leaf.before

/-- The name that the path is given: a new one, or else its own last name. The name `_` is none. -/
def given? (leaf : UseLeaf) : Option String :=
  match leaf.last with
  | .name _ => leaf.path.getLast?
  | .rename _ newName => if newName = "_" then none else some newName
  | .glob => none

def isGlob (leaf : UseLeaf) : Bool :=
  leaf.last = .glob

end UseLeaf

namespace UseTree

mutual

def leaves : UseTree → List UseLeaf
  | .path n tree => (leaves tree).map (.under [n])
  | .name n => [⟨[], .name n⟩]
  | .rename n newName => [⟨[], .rename n newName⟩]
  | .glob => [⟨[], .glob⟩]
  | .group trees => leavesOfAll trees

def leavesOfAll : List UseTree → List UseLeaf
  | [] => []
  | tree :: rest => leaves tree ++ leavesOfAll rest

end

end UseTree

end Source

open Source

namespace Source.UseLeaf

variable {leaf : UseLeaf}

theorem under_under (front back : List String) :
    under front ∘ under back = under (front ++ back) := by
  funext leaf
  simp [under]

theorem path_ne_nil (hself : leaf.last.isSelf = true → leaf.before ≠ []) (h : leaf.last ≠ .glob) :
    leaf.path ≠ [] := by
  obtain ⟨before, last⟩ := leaf
  cases last with
  | name n | rename n newName =>
    by_cases hn : n = "self"
    · simpa [path, hn] using hself (by simpa [UseEnd.isSelf] using hn)
    · simp [path, hn]
  | glob => exact absurd rfl h

theorem given?_eq_none_iff (hself : leaf.last.isSelf = true → leaf.before ≠ []) :
    leaf.given? = none ↔ leaf.last = .glob ∨ ∃ n, leaf.last = .rename n "_" := by
  have hpath := path_ne_nil hself
  obtain ⟨before, last⟩ := leaf
  cases last with
  | name n => simpa [given?] using hpath (by simp)
  | rename n newName => simp [given?]
  | glob => simp [given?]

end Source.UseLeaf

namespace Scope

variable {s : Scope}

def addLeaf (s : Scope) (leaf : UseLeaf) : Scope :=
  { s with
    imports := (leaf.given?.map fun name => (name, leaf.path)).toList ++ s.imports
    globs := s.globs ++ if leaf.isGlob then [leaf.path] else [] }

theorem addTree_name (base : List String) (s : Scope) (name : String) :
    s.addTree base (.name name) = s.addLeaf ⟨base, .name name⟩ := by
  rw [addTree]
  by_cases hname : name = "self"
  · cases hlast : base.getLast? <;>
      simp [hname, hlast, addLeaf, UseLeaf.given?, UseLeaf.path, UseLeaf.isGlob, addImport]
  · simp [hname, addLeaf, UseLeaf.given?, UseLeaf.path, UseLeaf.isGlob, addImport]

theorem addTree_rename (base : List String) (s : Scope) (name newName : String) :
    s.addTree base (.rename name newName) = s.addLeaf ⟨base, .rename name newName⟩ := by
  rw [addTree]
  by_cases hnew : newName = "_" <;>
    simp [hnew, addLeaf, UseLeaf.given?, UseLeaf.path, UseLeaf.isGlob, addImport]

theorem addTree_glob (base : List String) (s : Scope) :
    s.addTree base .glob = s.addLeaf ⟨base, .glob⟩ := by
  rw [addTree]
  rfl

theorem foldl_addLeaf_single (base : List String) (s : Scope) (last : UseEnd) :
    ([⟨[], last⟩].map (UseLeaf.under base)).foldl addLeaf s = s.addLeaf ⟨base, last⟩ := by
  simp [UseLeaf.under]

mutual

/-- A tree is added leaf by leaf. -/
theorem addTree_eq_foldl (base : List String) (s : Scope) : ∀ tree : UseTree,
    s.addTree base tree = (tree.leaves.map (.under base)).foldl addLeaf s
  | .path name tree => by
    rw [addTree, UseTree.leaves, List.map_map, UseLeaf.under_under, addTree_eq_foldl]
  | .name name => by rw [addTree_name, UseTree.leaves, foldl_addLeaf_single]
  | .rename name newName => by rw [addTree_rename, UseTree.leaves, foldl_addLeaf_single]
  | .glob => by rw [addTree_glob, UseTree.leaves, foldl_addLeaf_single]
  | .group trees => by rw [addTree, UseTree.leaves, addTrees_eq_foldl]

theorem addTrees_eq_foldl (base : List String) (s : Scope) : ∀ trees : List UseTree,
    s.addTrees base trees = ((UseTree.leavesOfAll trees).map (.under base)).foldl addLeaf s
  | [] => by rw [addTrees, UseTree.leavesOfAll, List.map_nil, List.foldl_nil]
  | tree :: rest => by
    rw [addTrees, UseTree.leavesOfAll, List.map_append, List.foldl_append, addTree_eq_foldl,
      addTrees_eq_foldl]

end

theorem import?_addLeaf (s : Scope) (leaf : UseLeaf) (name : String) :
    (s.addLeaf leaf).import? name =
      if leaf.given? == some name then some leaf.path else s.import? name := by
  unfold import? addLeaf
  cases hgiven : leaf.given? with
  | none => rfl
  | some given =>
    by_cases hname : given = name
    · simp [hname]
    · have hother : (name == given) = false := by simpa using Ne.symm hname
      simp [hname, List.lookup_cons, hother]

/-- Of several leaves that give a name the last one counts, and before all leaves what was there. -/
theorem import?_foldl_addLeaf (leaves : List UseLeaf) (s : Scope) (name : String) :
    (leaves.foldl addLeaf s).import? name =
      ((leaves.reverse.find? fun leaf => leaf.given? == some name).map UseLeaf.path).or
        (s.import? name) := by
  -- all later leaves come on top of the first one, so they are asked before it
  induction leaves generalizing s with
  | nil => rfl
  | cons leaf rest ih =>
    rw [List.foldl_cons, ih, import?_addLeaf, List.reverse_cons, List.find?_append, Option.map_or,
      Option.or_assoc]
    cases hgiven : leaf.given? == some name <;> simp [hgiven]

theorem globs_foldl_addLeaf (leaves : List UseLeaf) (s : Scope) :
    (leaves.foldl addLeaf s).globs =
      s.globs ++ (leaves.filter UseLeaf.isGlob).map UseLeaf.path := by
  induction leaves generalizing s with
  | nil => simp
  | cons leaf rest ih =>
    rw [List.foldl_cons, ih, addLeaf, List.filter_cons]
    cases leaf.isGlob <;> simp

theorem locals_foldl_addLeaf (leaves : List UseLeaf) (s : Scope) :
    (leaves.foldl addLeaf s).locals = s.locals := by
  induction leaves generalizing s with
  | nil => rfl
  | cons leaf rest ih => exact ih (s.addLeaf leaf)

theorem addTree_nil (s : Scope) (tree : UseTree) :
    s.addTree [] tree = tree.leaves.foldl addLeaf s := by
  have hunder : UseLeaf.under [] = id := rfl
  rw [addTree_eq_foldl, hunder, List.map_id]

end Scope

namespace Resolver

open QualifiedName

/-- An import gives a name to the full path of each of its leaves, in order, and a place to import
everything from for each glob. A path through a name that stands for an imported path is that path
with more behind it: resolved as if it stood there if it begins with an anchor, and the plain text
otherwise. Items of the module and globs have no say in it. -/
theorem imports_stand_for_paths :
    (∀ (s : Scope) (tree : UseTree),
      (∀ leaf ∈ tree.leaves, leaf.last.isSelf = true → leaf.before ≠ []) →
      (∀ leaf ∈ tree.leaves,
        (leaf.given? = none ↔ leaf.last = .glob ∨ ∃ n, leaf.last = .rename n "_") ∧
        (leaf.last ≠ .glob → leaf.path ≠ [])) ∧
      (∀ name, (s.addTree [] tree).import? name =
        ((tree.leaves.reverse.find? fun leaf => leaf.given? == some name).map UseLeaf.path).or
          (s.import? name)) ∧
      (s.addTree [] tree).globs =
        s.globs ++ (tree.leaves.filter UseLeaf.isGlob).map UseLeaf.path ∧
      (s.addTree [] tree).locals = s.locals) ∧
    ∀ (r : Resolver) (home : String) (scope : Scope) (given first : String)
      (tail rest : List String), r.scope? home = some scope →
      scope.import? given = some (first :: tail) → r.isAnchor home given = false → first ≠ "" →
      rest.head? ≠ some "super" →
      (r.isAnchor home first = true → r.resolvePath home ⟨false, given :: rest⟩ =
        r.resolvePath home ⟨false, first :: tail ++ rest⟩) ∧
      (r.isAnchor home first = false → r.resolvePath home ⟨false, given :: rest⟩ =
        ofSegments (first :: tail ++ rest)) := by
  refine ⟨fun s tree hself => ⟨fun leaf hleaf => ?_, fun name => ?_, ?_, ?_⟩, ?_⟩
  · exact ⟨UseLeaf.given?_eq_none_iff (hself leaf hleaf), UseLeaf.path_ne_nil (hself leaf hleaf)⟩
  · rw [Scope.addTree_nil, Scope.import?_foldl_addLeaf]
  · rw [Scope.addTree_nil, Scope.globs_foldl_addLeaf]
  · rw [Scope.addTree_nil, Scope.locals_foldl_addLeaf]
  · intro r home scope given first tail rest hscope himport hgiven hfirst hrest
    rw [resolvePath_of_import hscope himport hgiven rest]
    refine ⟨fun hanchor => ?_, fun hplain => ?_⟩
    · have hsome : (r.anchored? home (first :: tail)).isSome = true := by
        rw [isSome_anchored?_cons, hanchor]
      obtain ⟨name, hname⟩ := Option.isSome_iff_exists.1 hsome
      rw [target_of_anchored hname]
      exact (resolveNames_of_anchored (anchored?_append hname hrest)).symm
    · rw [target_of_not_anchor hplain, inside_ofSegments hfirst]

/-- `use porbeagle::{Embed as Rich, attributes::{self}, Debug as _, prelude::*, Id as Rich}`, and
behind it `super::models as up`. -/
def renamingTree : UseTree :=
  .group [
    .path "porbeagle" (.group [.rename "Embed" "Rich", .path "attributes" (.group [.name "self"]),
      .rename "Debug" "_", .path "prelude" .glob, .rename "Id" "Rich"]),
    .path "super" (.rename "models" "up")]

/-- A scope with other meanings for the names in the tree. -/
def crowdedScope : Scope where
  imports := [("Rich", ["old", "Rich"]), ("Other", ["old", "Other"])]
  globs := [["decoy"]]
  locals := ["Rich", "up"]

/-- A crate with that tree in one of its modules. -/
def renamed : Resolver where
  crateName := "crate"
  scopes := [("crate::ui", crowdedScope.addTree [] renamingTree)]
  known := .ofList ["decoy::Rich", "decoy::up"]

theorem imports_stand_for_paths_renamed :
    (crowdedScope.addTree [] renamingTree).import? "Rich" = some ["porbeagle", "Id"] ∧
    (crowdedScope.addTree [] renamingTree).import? "attributes" =
      some ["porbeagle", "attributes"] ∧
    (crowdedScope.addTree [] renamingTree).import? "_" = none ∧
    (crowdedScope.addTree [] renamingTree).import? "Other" = some ["old", "Other"] ∧
    (crowdedScope.addTree [] renamingTree).globs = [["decoy"], ["porbeagle", "prelude"]] ∧
    renamed.resolvePath "crate::ui" ⟨false, ["up", "User"]⟩ =
      renamed.resolvePath "crate::ui" ⟨false, ["super", "models", "User"]⟩ ∧
    renamed.resolvePath "crate::ui" ⟨false, ["Rich", "User"]⟩ =
      ofSegments ["porbeagle", "Id", "User"] := by
  obtain ⟨htree, hpath⟩ := imports_stand_for_paths
  obtain ⟨-, himport, hglobs, -⟩ := htree crowdedScope renamingTree (by decide)
  have hup := hpath renamed "crate::ui" _ "up" "super" ["models"] ["User"] rfl rfl rfl (by decide)
    (by decide)
  have hrich := hpath renamed "crate::ui" _ "Rich" "porbeagle" ["Id"] ["User"] rfl rfl rfl
    (by decide) (by decide)
  exact ⟨himport "Rich", himport "attributes", himport "_", himport "Other", hglobs, hup.1 rfl,
    hrich.2 rfl⟩

end Resolver

end ViewCompanion
