import Mathlib.Data.List.Nodup
import ViewCompanion.Proofs.Crate.Finishing
import ViewCompanion.Proofs.Source.Keyword

namespace ViewCompanion

open Source Storage

namespace Source.Item

def moduleName? : Item → Option String
  | .module attributes name _ => if attributes.any Attribute.isTestOnly then none else some name
  | _ => none

def fileModuleName? : Item → Option String
  | .module attributes name none => if attributes.any Attribute.isTestOnly then none else some name
  | _ => none

theorem moduleName?_of_followed {attributes : List Attribute} {name : String}
    {items? : Option (List Item)} (h : (Item.module attributes name items?).isFollowed = true) :
    (Item.module attributes name items?).moduleName? = some name := by
  have htest : attributes.any Attribute.isTestOnly = false := by simpa [isFollowed] using h
  simp [moduleName?, htest]

theorem fileModuleName?_of_followed {attributes : List Attribute} {name : String}
    (h : (Item.module attributes name none).isFollowed = true) :
    (Item.module attributes name none).fileModuleName? = some name := by
  have htest : attributes.any Attribute.isTestOnly = false := by simpa [isFollowed] using h
  simp [fileModuleName?, htest]

theorem exists_of_moduleName? {item : Item} {name : String} (h : item.moduleName? = some name) :
    ∃ attributes items?, item = .module attributes name items? := by
  cases item with
  | module attributes n items? =>
    unfold moduleName? at h
    obtain rfl := Option.some.inj ((Option.ite_none_left_eq_some ..).1 h).2
    exact ⟨attributes, items?, rfl⟩
  | _ => cases h

theorem IsWellNamed.isName_of_moduleName? {item : Item} {name : String} (h : item.IsWellNamed)
    (hname : item.moduleName? = some name) : Text.IsName name := by
  obtain ⟨attributes, items?, rfl⟩ := exists_of_moduleName? hname
  exact h.of_module.1

end Source.Item

namespace SourceModule

/-- The names of the modules declared in a module itself that are followed. -/
def childNames (m : SourceModule) : List String :=
  m.items.filterMap Item.moduleName?

def fileChildNames (m : SourceModule) : List String :=
  m.items.filterMap Item.fileModuleName?

end SourceModule

namespace FileTree

variable {t : FileTree} {folder name path file other : String} {behind behind' : List String}

section Places

theorem StandsAt.unique {p q : List String} (h : t.StandsAt path p) (h' : t.StandsAt path q) :
    p = q := by
  cases h with
  | outermost =>
    cases h' with
    | outermost => rfl
    | located h' => cases h'
  | located h =>
    cases h' with
    | outermost => cases h
    | located h' => exact Except.ok.inj (h.symm.trans h')

/-- The file lies in the tree these names behind the folder. -/
def LiesBehind (t : FileTree) (folder : String) (behind : List String) (file : String) : Prop :=
  ∃ dir, t.StandsAt folder dir ∧ t.locate file = .ok (dir ++ behind)

namespace LiesBehind

theorem ne_of_ne (h : t.LiesBehind folder behind file) (h' : t.LiesBehind folder behind' other)
    (hne : behind ≠ behind') : t.locate file ≠ t.locate other := by
  obtain ⟨dir, hdir, hfile⟩ := h
  obtain ⟨dir', hdir', hother⟩ := h'
  obtain rfl := hdir.unique hdir'
  intro heq
  rw [hfile, hother] at heq
  exact hne (List.append_cancel_left (Except.ok.inj heq))

theorem of_join (hname : Path.IsPlain name)
    (h : t.LiesBehind (Path.join folder name) behind file) :
    t.LiesBehind folder (name :: behind) file := by
  obtain ⟨p, hp, hfile⟩ := h
  obtain ⟨dir, hdir, rfl⟩ := exists_of_standsAt_join hname hp
  exact ⟨dir, hdir, by rw [hfile, List.append_assoc, List.singleton_append]⟩

theorem of_has {inner : String} (hinner : Path.IsPlain inner)
    (h : t.has (Path.join folder inner) = true) :
    t.LiesBehind folder [inner] (Path.join folder inner) := by
  obtain ⟨p, hp, -⟩ := exists_node_of_has h
  have hfile := hp.locate_eq hinner.isInner.join_ne_empty
  obtain ⟨dir, hdir, rfl⟩ := exists_of_standsAt_join hinner hp
  exact ⟨dir, hdir, hfile⟩

end LiesBehind

theorem isPlain_mod : Path.IsPlain "mod.rs" :=
  Path.isPlain_of_length (by decide) (by decide)

/-- The file of a module lies beside the others of its folder, or in a folder of its own. -/
theorem liesBehind_of_moduleFile? (hname : Path.IsPlain name)
    (h : t.moduleFile? folder name = some file) :
    t.LiesBehind folder [name ++ ".rs"] file ∨ t.LiesBehind folder [name, "mod.rs"] file := by
  have hthere : t.has file = true := List.find?_some h
  rcases List.mem_cons.1 (List.mem_of_find?_eq_some h) with rfl | hmem
  · exact .inl (.of_has hname.append_rs hthere)
  · obtain rfl := List.mem_singleton.1 hmem
    exact .inr (.of_join hname (.of_has isPlain_mod hthere))

/-- The file is that of the module that the item declares, or of one inside it. -/
def HoldsFor (t : FileTree) (folder : String) (item : Item) (file : String) : Prop :=
  ∃ name behind, item.moduleName? = some name ∧ t.LiesBehind folder behind file ∧
    (behind = [name ++ ".rs"] ∧ item.fileModuleName? = some name ∨
      ∃ inner rest, behind = name :: inner :: rest)

theorem append_rs_inj {a b : String} (h : a ++ ".rs" = b ++ ".rs") : a = b := by
  have htext := congrArg String.toList h
  rw [String.toList_append, String.toList_append] at htext
  exact String.toList_inj.1 (List.append_cancel_right htext)

/-- Modules of different names share no file. -/
theorem HoldsFor.ne {item item' : Item} (h : t.HoldsFor folder item file)
    (h' : t.HoldsFor folder item' other) (hne : item.moduleName? ≠ item'.moduleName?) :
    t.locate file ≠ t.locate other := by
  obtain ⟨name, behind, hname, hlies, hbehind⟩ := h
  obtain ⟨name', behind', hname', hlies', hbehind'⟩ := h'
  have hnames : name ≠ name' := fun heq => hne (hname.trans (heq ▸ hname'.symm))
  refine hlies.ne_of_ne hlies' ?_
  rcases hbehind with ⟨rfl, -⟩ | ⟨inner, rest, rfl⟩ <;>
    rcases hbehind' with ⟨rfl, -⟩ | ⟨inner', rest', rfl⟩
  · exact fun heq => hnames (append_rs_inj (List.singleton_inj.1 heq))
  · exact nofun
  · exact nofun
  · exact fun heq => hnames (List.cons.inj heq).1

/-- What is inside a module is no part of a folder next to it. -/
theorem HoldsFor.of_join {item inner : Item} (hname : item.moduleName? = some name)
    (hplain : Path.IsPlain name) (h : t.HoldsFor (Path.join folder name) inner file) :
    t.HoldsFor folder item file := by
  obtain ⟨innerName, behind, -, hlies, hbehind⟩ := h
  refine ⟨name, name :: behind, hname, hlies.of_join hplain, .inr ?_⟩
  rcases hbehind with ⟨rfl, -⟩ | ⟨second, rest, rfl⟩
  · exact ⟨_, _, rfl⟩
  · exact ⟨_, _, rfl⟩

/-- The own file of a module is none of those inside it: no module is called `mod`. -/
theorem HoldsFor.ne_moduleFile {inner : Item} (hplain : Path.IsPlain name)
    (hfile : t.moduleFile? folder name = some file)
    (h : t.HoldsFor (Path.join folder name) inner other) (hmod : inner.AvoidsMod) :
    t.locate file ≠ t.locate other := by
  obtain ⟨innerName, behind, hinner, hlies, hbehind⟩ := h
  have hne : innerName ≠ "mod" := by
    obtain ⟨attributes, items?, rfl⟩ := Item.exists_of_moduleName? hinner
    exact hmod.of_module.1
  have hout := hlies.of_join hplain
  rcases liesBehind_of_moduleFile? hplain hfile with hown | hown
  · refine hown.ne_of_ne hout ?_
    rcases hbehind with ⟨rfl, -⟩ | ⟨second, rest, rfl⟩ <;>
      exact fun heq => nomatch (List.cons.inj heq).2
  · refine hown.ne_of_ne hout ?_
    rcases hbehind with ⟨rfl, -⟩ | ⟨second, rest, rfl⟩
    · intro heq
      have hrs : "mod" ++ ".rs" = innerName ++ ".rs" :=
        List.singleton_inj.1 (List.cons.inj heq).2
      exact hne (append_rs_inj hrs).symm
    · exact nofun

end Places

section Paths

variable {home : String}

def IsWithin (base path : String) : Prop :=
  ∃ rest : List Char, path.toList = base.toList ++ rest ∧ rest.head?.all (· == ':') = true

theorem IsWithin.refl (base : String) : IsWithin base base :=
  ⟨[], (List.append_nil _).symm, rfl⟩

/-- The path is that of the module that the item declares in `home`, or of one inside it. -/
def IsPathOf (home : String) (item : Item) (path : String) : Prop :=
  ∃ name, item.moduleName? = some name ∧ IsWithin (Part.child home name) path

theorem toList_child (home name : String) :
    (Part.child home name).toList = home.toList ++ ':' :: ':' :: name.toList := by
  rw [Part.child, String.toList_append, String.toList_append, List.append_assoc]
  rfl

theorem exists_inside_of_isPathOf {item : Item} (h : IsPathOf home item path) :
    ∃ rest : List Char, path.toList = home.toList ++ ':' :: rest := by
  obtain ⟨name, -, rest, hrest, -⟩ := h
  refine ⟨':' :: name.toList ++ rest, ?_⟩
  rw [hrest, toList_child, List.append_assoc]
  rfl

theorem IsPathOf.isWithin {item : Item} (h : IsPathOf home item path) : IsWithin home path := by
  obtain ⟨rest, hrest⟩ := exists_inside_of_isPathOf h
  exact ⟨_, hrest, rfl⟩

theorem IsPathOf.ne_home {item : Item} (h : IsPathOf home item path) : home ≠ path := by
  rintro rfl
  obtain ⟨rest, hrest⟩ := exists_inside_of_isPathOf h
  cases List.append_right_eq_self.1 hrest.symm

theorem takeWhile_name (hname : Text.IsName name) {rest : List Char}
    (hrest : rest.head?.all (· == ':') = true) :
    (name.toList ++ rest).takeWhile (· != ':') = name.toList := by
  have hcolon : ':' ∉ name.toList := hname.not_mem (by decide) (by decide)
  have hall : ∀ c ∈ name.toList, (c != ':') = true := fun c hc => by
    rw [bne_iff_ne]
    rintro rfl
    exact hcolon hc
  rw [List.takeWhile_append_of_pos hall]
  cases rest with
  | nil => exact List.append_nil _
  | cons c rest =>
    obtain rfl : c = ':' := by simpa using hrest
    exact List.append_nil _

theorem IsPathOf.name_eq {item item' : Item} (h : IsPathOf home item path)
    (h' : IsPathOf home item' path) (hitem : item.IsWellNamed) (hitem' : item'.IsWellNamed) :
    item.moduleName? = item'.moduleName? := by
  obtain ⟨name, hname, rest, hpath, hrest⟩ := h
  obtain ⟨name', hname', rest', hpath', hrest'⟩ := h'
  have hnames : name.toList ++ rest = name'.toList ++ rest' := by
    have hboth := hpath.symm.trans hpath'
    rw [toList_child, toList_child, List.append_assoc, List.append_assoc] at hboth
    exact (List.cons.inj (List.cons.inj (List.append_cancel_left hboth)).2).2
  have htake := congrArg (List.takeWhile (· != ':')) hnames
  rw [takeWhile_name (hitem.isName_of_moduleName? hname) hrest,
    takeWhile_name (hitem'.isName_of_moduleName? hname') hrest'] at htake
  rw [hname, hname', String.toList_inj.1 htake]

end Paths

/-- All modules and files are of the kinds given, no two modules have the same path, and no two
files are the same. -/
structure Spread (t : FileTree) (isPath : String → Prop) (isFile : String → Prop)
    (seen : CrateSource) : Prop where
  paths : ∀ m ∈ seen.modules, isPath m.path
  files : ∀ file ∈ seen.files, isFile file
  paths_nodup : (seen.modules.map SourceModule.path).Nodup
  places_nodup : (seen.files.map t.locate).Nodup

namespace Spread

variable {isPath isPath' isFile isFile' : String → Prop} {seen behind : CrateSource}

theorem empty : t.Spread isPath isFile .empty :=
  ⟨nofun, nofun, List.nodup_nil, List.nodup_nil⟩

theorem of_module {m : SourceModule} (h : isPath m.path) : t.Spread isPath isFile (.ofModule m) :=
  ⟨List.forall_mem_singleton.2 h, nofun, List.nodup_singleton _, List.nodup_nil⟩

theorem of_file (h : isFile path) : t.Spread isPath isFile ⟨[], [path]⟩ :=
  ⟨nofun, List.forall_mem_singleton.2 h, List.nodup_nil, List.nodup_singleton _⟩

theorem mono (h : t.Spread isPath isFile seen) (hpath : ∀ p, isPath p → isPath' p)
    (hfile : ∀ f, isFile f → isFile' f) : t.Spread isPath' isFile' seen where
  paths m hm := hpath _ (h.paths m hm)
  files f hf := hfile f (h.files f hf)
  paths_nodup := h.paths_nodup
  places_nodup := h.places_nodup

theorem append (h : t.Spread isPath isFile seen) (h' : t.Spread isPath' isFile' behind)
    (hpath : ∀ p, isPath p → ¬ isPath' p)
    (hfile : ∀ f g, isFile f → isFile' g → t.locate f ≠ t.locate g) :
    t.Spread (fun p => isPath p ∨ isPath' p) (fun f => isFile f ∨ isFile' f)
      (seen ++ behind) where
  paths m hm := (List.mem_append.1 hm).imp (h.paths m) (h'.paths m)
  files f hf := (List.mem_append.1 hf).imp (h.files f) (h'.files f)
  paths_nodup := by
    rw [CrateSource.modules_append, List.map_append, List.nodup_append]
    refine ⟨h.paths_nodup, h'.paths_nodup, fun p hp q hq => ?_⟩
    obtain ⟨m, hm, rfl⟩ := List.mem_map.1 hp
    obtain ⟨m', hm', rfl⟩ := List.mem_map.1 hq
    exact fun heq => hpath _ (h.paths m hm) (heq ▸ h'.paths m' hm')
  places_nodup := by
    rw [CrateSource.files_append, List.map_append, List.nodup_append]
    refine ⟨h.places_nodup, h'.places_nodup, fun p hp q hq => ?_⟩
    obtain ⟨f, hf, rfl⟩ := List.mem_map.1 hp
    obtain ⟨g, hg, rfl⟩ := List.mem_map.1 hq
    exact hfile f g (h.files f hf) (h'.files g hg)

end Spread

def IsNamed (item : Item) : Prop :=
  item.IsWellNamed ∧ item.AvoidsMod

/-- What is found below the items is spread over the modules that they declare. -/
def ItemsSpread (t : FileTree) (home folder : String) (items : List Item) (seen : CrateSource) :
    Prop :=
  t.Spread (fun p => ∃ item ∈ items, IsPathOf home item p)
    (fun f => ∃ item ∈ items, t.HoldsFor folder item f) seen

section Spreading

variable {home : String} {items rest : List Item} {item : Item} {seen behind : CrateSource}

/-- The modules of one item are apart from those of the others, by its name. -/
theorem ItemsSpread.cons (h : t.Spread (IsPathOf home item) (t.HoldsFor folder item) seen)
    (hrest : t.ItemsSpread home folder rest behind) (hnamed : ∀ i ∈ item :: rest, IsNamed i)
    (hnames : ((item :: rest).filterMap Item.moduleName?).Nodup) :
    t.ItemsSpread home folder (item :: rest) (seen ++ behind) := by
  obtain ⟨hfirst, hothers⟩ := List.forall_mem_cons.1 hnamed
  have hne : ∀ i ∈ rest, ∀ name, item.moduleName? = some name →
      item.moduleName? ≠ i.moduleName? := by
    intro i hi name hname heq
    rw [List.filterMap_cons_some hname, List.nodup_cons] at hnames
    exact hnames.1 (List.mem_filterMap.2 ⟨i, hi, heq.symm.trans hname⟩)
  refine (h.append hrest ?_ ?_).mono ?_ ?_
  · rintro p hp ⟨i, hi, hp'⟩
    obtain ⟨name, hname, -⟩ := id hp
    exact hne i hi name hname (hp.name_eq hp' hfirst.1 (hothers i hi).1)
  · rintro f g hf ⟨i, hi, hg⟩
    obtain ⟨name, _, hname, -⟩ := id hf
    exact hf.ne hg (hne i hi name hname)
  · rintro p (hp | ⟨i, hi, hp⟩)
    · exact ⟨item, List.mem_cons_self, hp⟩
    · exact ⟨i, List.mem_cons_of_mem _ hi, hp⟩
  · rintro f (hf | ⟨i, hi, hf⟩)
    · exact ⟨item, List.mem_cons_self, hf⟩
    · exact ⟨i, List.mem_cons_of_mem _ hi, hf⟩

theorem ItemsSpread.body (h : t.ItemsSpread home folder items seen) :
    t.Spread (IsWithin home) (fun f => ∃ item ∈ items, t.HoldsFor folder item f)
      (.ofModule ⟨home, items⟩ ++ seen) := by
  have hself : t.Spread (home = ·) (fun _ => False) (.ofModule ⟨home, items⟩) :=
    .of_module rfl
  refine (hself.append h ?_ nofun).mono ?_ ?_
  · rintro p rfl ⟨i, -, hp⟩
    exact hp.ne_home rfl
  · rintro p (rfl | ⟨i, -, hp⟩)
    · exact .refl home
    · exact hp.isWithin
  · rintro f (hf | hf)
    · exact hf.elim
    · exact hf

/-- A file is none of those inside it, if it lies elsewhere. -/
theorem ItemsSpread.opened (h : t.ItemsSpread home folder items seen)
    (hpath : ∀ item ∈ items, ∀ f, t.HoldsFor folder item f → t.locate path ≠ t.locate f) :
    t.Spread (IsWithin home) (fun f => path = f ∨ ∃ item ∈ items, t.HoldsFor folder item f)
      (⟨[⟨home, items⟩], [path]⟩ ++ seen) := by
  have hself : t.Spread (fun _ => False) (path = ·) ⟨[], [path]⟩ := .of_file rfl
  refine (hself.append h.body nofun ?_).mono ?_ fun _ => id
  · rintro f g rfl ⟨i, hi, hg⟩
    exact hpath i hi g hg
  · rintro p (hp | hp)
    · exact hp.elim
    · exact hp

end Spreading

/-- A task finds everything apart. For a file this says where the items in it are found; the file
itself can only be told from them by where it lies. -/
def FindsApart (t : FileTree) (seen : CrateSource) : Task → Prop
  | .file path home folder => seen = ⟨[], [path]⟩ ∨
    ∃ items inside, seen = ⟨[⟨home, items⟩], [path]⟩ ++ inside ∧ (∀ item ∈ items, IsNamed item) ∧
      t.ItemsSpread home folder items inside
  | .items home folder items => (∀ item ∈ items, IsNamed item) →
    (items.filterMap Item.moduleName?).Nodup → t.ItemsSpread home folder items seen
  | .item home folder item => IsNamed item →
    t.Spread (IsPathOf home item) (t.HoldsFor folder item) seen

/-- Everything is found apart if no module that is found declares two of one name. -/
theorem Finishes.findsApart {task : Task} {seen : CrateSource} {failure? : Option Failure}
    (h : t.Finishes task seen failure?) (hnames : ∀ m ∈ seen.modules, m.childNames.Nodup) :
    t.FindsApart seen task := by
  induction h with
  | unreadable => exact .inl rfl
  | malformed => exact .inl rfl
  | @opened path home folder text items seen failure? hread hitems hinside ih =>
    obtain ⟨hown, hbelow⟩ := List.forall_mem_cons.1 hnames
    have hnamed : ∀ item ∈ items, IsNamed item := fun item hitem =>
      ⟨isWellNamed_of_itemsOfFile? hitems item hitem, avoidsMod_of_itemsOfFile? hitems item hitem⟩
    exact .inr ⟨items, seen, rfl, hnamed, ih hbelow hnamed hown⟩
  | nil => exact fun _ _ => .empty
  | next hitem hrest ihitem ihrest =>
    intro hnamed hnodup
    obtain ⟨hseen, hbehind⟩ := List.forall_mem_append.1 hnames
    obtain ⟨hfirst, hothers⟩ := List.forall_mem_cons.1 hnamed
    have hnodupRest := hnodup.sublist ((List.sublist_cons_self _ _).filterMap _)
    exact .cons (ihitem hseen hfirst) (ihrest hbehind hothers hnodupRest) hnamed hnodup
  | stop hitem ih =>
    intro hnamed _
    exact (ih hnames (hnamed _ List.mem_cons_self)).mono
      (fun _ hp => ⟨_, List.mem_cons_self, hp⟩) fun _ hf => ⟨_, List.mem_cons_self, hf⟩
  | skip => exact fun _ => .empty
  | @body home folder name attributes items seen failure? hitem hinside ih =>
    intro hnamed
    obtain ⟨hown, hbelow⟩ := List.forall_mem_cons.1 hnames
    obtain ⟨hname, hwell⟩ := hnamed.1.of_module
    have hinner : ∀ item ∈ items, IsNamed item := fun item hmem =>
      ⟨hwell items rfl item hmem, hnamed.2.of_module.2 items rfl item hmem⟩
    have hmodule := Item.moduleName?_of_followed hitem
    refine (ih hbelow hinner hown).body.mono (fun p hp => ⟨name, hmodule, hp⟩) ?_
    rintro f ⟨item, -, hf⟩
    exact hf.of_join hmodule hname.isPlain
  | missing => exact fun _ => .empty
  | @found home folder name path attributes seen failure? hitem hfile hinside ih =>
    intro hnamed
    have hname := hnamed.1.of_module.1
    have hmodule := Item.moduleName?_of_followed hitem
    have hown : t.HoldsFor folder (.module attributes name none) path := by
      rcases liesBehind_of_moduleFile? hname.isPlain hfile with hlies | hlies
      · exact ⟨name, _, hmodule, hlies, .inl ⟨rfl, Item.fileModuleName?_of_followed hitem⟩⟩
      · exact ⟨name, _, hmodule, hlies, .inr ⟨_, _, rfl⟩⟩
    -- the files inside lie elsewhere than the file itself, by the names behind its folder
    rcases ih hnames with rfl | ⟨items, inside, rfl, hinner, hspread⟩
    · exact .of_file hown
    · have hapart := hspread.opened fun item hmem f hf =>
        hf.ne_moduleFile hname.isPlain hfile (hinner item hmem).2
      refine hapart.mono (fun p hp => ⟨name, hmodule, hp⟩) ?_
      rintro f (rfl | ⟨item, -, hf⟩)
      · exact hown
      · exact hf.of_join hmodule hname.isPlain

section Root

variable {root : String}

theorem exists_stem_of_rootFile? (h : t.rootFile? folder = some root) : ∃ stem,
    root = Path.join folder (stem ++ ".rs") ∧ t.LiesBehind folder [stem ++ ".rs"] root := by
  have hthere : t.has root = true := List.find?_some h
  rcases List.mem_cons.1 (List.mem_of_find?_eq_some h) with rfl | hmem
  · exact ⟨"lib", rfl, .of_has (Path.isPlain_of_length (by decide) (by decide)) hthere⟩
  · obtain rfl := List.mem_singleton.1 hmem
    exact ⟨"main", rfl, .of_has (Path.isPlain_of_length (by decide) (by decide)) hthere⟩

/-- The first file is none of those of the modules, unless one that has a file of its own has its
name. -/
theorem HoldsFor.ne_rootFile {item : Item} (hroot : t.rootFile? folder = some root)
    (h : t.HoldsFor folder item file)
    (hstem : ∀ name, item.fileModuleName? = some name → root ≠ Path.join folder (name ++ ".rs")) :
    t.locate root ≠ t.locate file := by
  obtain ⟨stem, rfl, hown⟩ := exists_stem_of_rootFile? hroot
  obtain ⟨name, behind, -, hlies, hbehind⟩ := h
  refine hown.ne_of_ne hlies ?_
  rcases hbehind with ⟨rfl, hfile⟩ | ⟨inner, rest, rfl⟩
  · intro heq
    exact hstem name hfile (congrArg (Path.join folder) (List.singleton_inj.1 heq))
  · exact fun heq => nomatch (List.cons.inj heq).2

end Root

/-- Loading a crate comes to an end, in one way only, whatever the tree and the folder, and with no
count of rounds; the rounds that are counted lead to the same end. On the way, even to a failure, no
file is opened a second time and no path belongs to two modules, as long as no module declares two
of one name and the first file has its name for itself. -/
theorem loadCrate_finishes (t : FileTree) (c : Config) (folder : String) :
    ∃ seen failure?,
      (∀ seen' failure?', t.FinishesCrate c folder seen' failure?' ↔
        seen' = seen ∧ failure?' = failure?) ∧
      t.result (storage.loadCrate c folder) = seen.outcome failure? ∧
      ((∀ m ∈ seen.modules, m.childNames.Nodup) →
        (∀ m ∈ seen.modules.head?, ∀ name ∈ m.fileChildNames,
          t.rootFile? folder ≠ some (Path.join folder (name ++ ".rs"))) →
        (seen.modules.map SourceModule.path).Nodup ∧ (seen.files.map t.locate).Nodup ∧
          seen.files.Nodup) := by
  obtain ⟨seen, failure?, hfinishes⟩ := t.exists_finishesCrate c folder
  refine ⟨seen, failure?, fun seen' failure?' => ⟨hfinishes.unique, ?_⟩, hfinishes.result_eq,
    fun hnames hroot => ?_⟩
  · rintro ⟨rfl, rfl⟩
    exact hfinishes
  · -- the first file is apart from the others by the condition on its name
    have hspread : ∃ isPath isFile, t.Spread isPath isFile seen := by
      unfold FinishesCrate at hfinishes
      cases hfirst : t.rootFile? folder with
      | none =>
        rw [hfirst] at hfinishes
        obtain ⟨rfl, -⟩ := hfinishes
        exact ⟨fun _ => True, fun _ => True, .empty⟩
      | some root =>
        rw [hfirst] at hfinishes
        rcases Finishes.findsApart hfinishes hnames with rfl | ⟨items, inside, rfl, -, hspread⟩
        · exact ⟨fun _ => True, fun _ => True, .of_file trivial⟩
        · refine ⟨_, _, hspread.opened fun item hitem f hf => hf.ne_rootFile hfirst ?_⟩
          rintro name hname rfl
          exact hroot _ rfl name (List.mem_filterMap.2 ⟨item, hitem, hname⟩) hfirst
    obtain ⟨isPath, isFile, hspread⟩ := hspread
    exact ⟨hspread.paths_nodup, hspread.places_nodup, hspread.places_nodup.of_map⟩

theorem loadCrate_finishes_shelf : ∃ seen,
    shelf.FinishesCrate .standard "src" seen none ∧
    shelf.result (storage.loadCrate .standard "src") = .ok seen ∧
    seen.modules.map SourceModule.childNames = [["a", "b", "gone"], [], ["c"], []] ∧
    seen.files = ["src/lib.rs", "src/a.rs", "src/b/c/mod.rs"] ∧
    (seen.modules.map SourceModule.path).Nodup ∧ (seen.files.map shelf.locate).Nodup := by
  obtain ⟨seen, failure?, hfinishes, hresult, hapart⟩ := loadCrate_finishes shelf .standard "src"
  have hshown : (shelf.result (storage.loadCrate .standard "src")).toOption.map (fun s =>
      (s.modules.map SourceModule.childNames, s.modules.head?.map SourceModule.fileChildNames,
        s.files)) =
      some ([["a", "b", "gone"], [], ["c"], []], some ["a", "gone"],
        ["src/lib.rs", "src/a.rs", "src/b/c/mod.rs"]) := by decide +kernel
  rw [hresult] at hshown
  cases failure? with
  | some failure => cases hshown
  | none =>
    obtain ⟨hchildren, hothers⟩ := Prod.mk.inj (Option.some.inj hshown)
    obtain ⟨hfiles, hopened⟩ := Prod.mk.inj hothers
    have hnames : ∀ m ∈ seen.modules, m.childNames.Nodup := by
      have hall : ∀ names ∈ seen.modules.map SourceModule.childNames, names.Nodup := by
        rw [hchildren]
        decide
      exact fun m hm => hall _ (List.mem_map_of_mem hm)
    have hfirst : ∀ m ∈ seen.modules.head?, ∀ name ∈ m.fileChildNames,
        shelf.rootFile? "src" ≠ some (Path.join "src" (name ++ ".rs")) := by
      have hroot : shelf.rootFile? "src" = some "src/lib.rs" := by decide +kernel
      have hall : ∀ names ∈ seen.modules.head?.map SourceModule.fileChildNames, ∀ name ∈ names,
          shelf.rootFile? "src" ≠ some (Path.join "src" (name ++ ".rs")) := by
        rw [hroot, hfiles]
        decide +kernel
      exact fun m hm => hall _ (Option.mem_map_of_mem _ hm)
    obtain ⟨hpaths, hplaces, -⟩ := hapart hnames hfirst
    exact ⟨seen, (hfinishes _ _).2 ⟨rfl, rfl⟩, hresult, hchildren, hopened, hpaths, hplaces⟩

end FileTree

end ViewCompanion
