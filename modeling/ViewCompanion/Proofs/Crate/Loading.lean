import ViewCompanion.Proofs.Crate.Inlining
import ViewCompanion.Proofs.Crate.Scopes
import ViewCompanion.Source.Equality

namespace ViewCompanion

open Source Storage

namespace Storage

/-- What is read for a part of a file; its module files are looked for in `folder`. -/
def loadPart {m : Type → Type} [Monad m] (s : Storage m) (depth : Nat) (folder : String) :
    Part → ExceptT Failure m CrateSource
  | .module inner => pure (.ofModule inner)
  | .file path folders name => do
    let place := folders.foldl Path.join folder
    match ← s.firstOf? (moduleFiles place name) with
    | some inner => s.loadFile depth inner path (Path.join place name)
    | none => pure .empty

end Storage

namespace SourceModule

def bare (m : SourceModule) : SourceModule :=
  m.keeping fun item => !item.isModule

/-- A snapshot takes nothing from the items that declare modules. -/
theorem ofModules_bare (c : Config) (modules : List SourceModule) :
    Snapshot.ofModules c (modules.map bare) = Snapshot.ofModules c modules := by
  apply Snapshot.ofModules_keeping
  · intro item hitem
    cases item <;> simp_all [Item.isModule, Item.isShown]
  · intro item hitem s
    cases item <;> simp_all [Item.isModule, Scope.addItem]

end SourceModule

namespace FileTree

variable {t : FileTree} {n : Nat} {folder : String}

theorem ends_mapM_nil {α β : Type} {f : α → Action β} : Ends ([].mapM f) t [] t :=
  ends_pure.2 ⟨rfl, rfl⟩

theorem ends_mapM_singleton {α β : Type} {f : α → Action β} {a : α} {b : β}
    (h : Ends (f a) t b t) : Ends ([a].mapM f) t [b] t := by
  rw [List.mapM_cons, ends_bind]
  refine ⟨b, t, h, ?_⟩
  rw [ends_bind]
  exact ⟨[], t, ends_mapM_nil, ends_pure.2 ⟨rfl, rfl⟩⟩

theorem ends_mapM_append {α β : Type} {f : α → Action β} {xs ys : List α} {as bs : List β}
    (hxs : Ends (xs.mapM f) t as t) (hys : Ends (ys.mapM f) t bs t) :
    Ends ((xs ++ ys).mapM f) t (as ++ bs) t := by
  rw [List.mapM_append, ends_bind]
  refine ⟨as, t, hxs, ?_⟩
  rw [ends_bind]
  exact ⟨bs, t, hys, ends_pure.2 ⟨rfl, rfl⟩⟩

/-- From the parts come these modules, but for the modules declared in them, and these files. -/
def Loads (t : FileTree) (n : Nat) (folder : String) (parts : List Part)
    (modules : List SourceModule) (files : List String) : Prop :=
  ∃ sources, Ends (parts.mapM (storage.loadPart n folder)) t sources t ∧
    (CrateSource.join sources).modules.map SourceModule.bare = modules.map SourceModule.bare ∧
    (CrateSource.join sources).files = files

namespace Loads

variable {parts others : List Part} {modules modules' : List SourceModule}
  {files files' : List String}

theorem nil : t.Loads n folder [] [] [] :=
  ⟨[], ends_mapM_nil, rfl, rfl⟩

theorem append (h : t.Loads n folder parts modules files)
    (h' : t.Loads n folder others modules' files') :
    t.Loads n folder (parts ++ others) (modules ++ modules') (files ++ files') := by
  obtain ⟨sources, hsources, hmodules, rfl⟩ := h
  obtain ⟨sources', hsources', hmodules', rfl⟩ := h'
  refine ⟨sources ++ sources', ends_mapM_append hsources hsources', ?_, ?_⟩
  · rw [List.map_append, ← hmodules, ← hmodules']
    unfold CrateSource.join
    simp only [List.flatMap_append, List.map_append]
  · unfold CrateSource.join
    simp only [List.flatMap_append]

theorem module {m m' : SourceModule} (h : m.bare = m'.bare) :
    t.Loads n folder [.module m] [m'] [] := by
  refine ⟨[.ofModule m], ends_mapM_singleton (ends_pure.2 ⟨rfl, rfl⟩), ?_, rfl⟩
  exact congrArg (fun m => [m]) h

theorem missing {path name : String} {folders : List String}
    (h : t.moduleFile? (folders.foldl Path.join folder) name = none) :
    t.Loads n folder [.file path folders name] [] [] := by
  refine ⟨[.empty], ends_mapM_singleton ?_, rfl, rfl⟩
  rw [loadPart, ends_bind]
  refine ⟨none, t, ?_, ends_pure.2 ⟨rfl, rfl⟩⟩
  rw [ends_lift, run_firstOf?]
  exact congrArg (·, t) h

theorem loadFile {file home : String} {items : List Item} (hread : t.itemsAt? file = some items)
    (h : t.Loads n folder (SourceModule.parts ⟨home, items⟩) modules files) :
    ∃ source, Ends (storage.loadFile (n + 1) file home folder) t source t ∧
      source.modules.map SourceModule.bare = modules.map SourceModule.bare ∧
      source.files = file :: files := by
  obtain ⟨text, htext, hitems⟩ := exists_text_of_itemsAt? hread
  obtain ⟨sources, hsources, hmodules, rfl⟩ := h
  refine ⟨.join (⟨[], [file]⟩ :: sources), ?_, ?_, rfl⟩
  · rw [Storage.loadFile, ends_bind]
    refine ⟨text, t, ends_sourceText htext, ?_⟩
    rw [hitems, ends_bind]
    exact ⟨sources, t, hsources, ends_pure.2 ⟨rfl, rfl⟩⟩
  · exact hmodules

theorem file {path name file : String} {folders : List String} {items : List Item}
    (hfile : t.moduleFile? (folders.foldl Path.join folder) name = some file)
    (hread : t.itemsAt? file = some items)
    (h : t.Loads n (Path.join (folders.foldl Path.join folder) name)
      (SourceModule.parts ⟨path, items⟩) modules files) :
    t.Loads (n + 1) folder [.file path folders name] modules (file :: files) := by
  obtain ⟨source, hsource, hmodules, hfiles⟩ := h.loadFile hread
  have hpart : Ends (storage.loadPart (n + 1) folder (.file path folders name)) t source t := by
    rw [loadPart, ends_bind]
    refine ⟨some file, t, ?_, hsource⟩
    rw [ends_lift, run_firstOf?]
    exact congrArg (·, t) hfile
  have hjoin : CrateSource.join [source] = source := by simp [CrateSource.join]
  refine ⟨[source], ends_mapM_singleton hpart, ?_, ?_⟩
  · rw [hjoin, hmodules]
  · rw [hjoin, hfiles]

end Loads

theorem Inlines.bare_eq {items merged : List Item} {files : List String}
    (h : t.Inlines folder items merged files) (home : String) :
    SourceModule.bare ⟨home, items⟩ = SourceModule.bare ⟨home, merged⟩ := by
  have hfilter : items.filter (fun item => !item.isModule) =
      merged.filter fun item => !item.isModule := by
    induction h with
    | nil => rfl
    | keep hitem hrest ih => rw [List.filter_cons, List.filter_cons, ih]
    | body hitem hinner hrest ihinner ihrest => exact ihrest
    | file hitem hfile hread hinner hrest ihinner ihrest => exact ihrest
    | missing hitem hfile hrest ih => exact ih
  exact congrArg (SourceModule.mk home) hfilter

theorem Inlines.loads {items merged : List Item} {files : List String} {place : String}
    (h : t.Inlines place items merged files) (hnamed : ∀ item ∈ items, item.IsWellNamed)
    (hn : t.Suffices n place) (home : String) {folders : List String}
    (hplace : folders.foldl Path.join folder = place) :
    t.Loads n folder (Part.ofItems home folders items) (Part.modulesOf home merged) files := by
  -- `place` moves with the items, and what is loaded from goes on with every file that is followed
  induction h generalizing n home folder folders with
  | nil => exact .nil
  | keep hitem hrest ih =>
    have hparts := ih (List.forall_mem_cons.1 hnamed).2 hn home hplace
    rw [Part.ofItems, Part.ofItem_of_not_followed hitem, Part.modulesOf_cons_of_not_followed hitem]
    exact hparts
  | @body place name attributes inner innerMerged items merged innerFiles files hitem hinner hrest
      ihinner ihrest =>
    obtain ⟨hfirst, hnamedRest⟩ := List.forall_mem_cons.1 hnamed
    obtain ⟨hname, hinside⟩ := hfirst.of_module
    have hinnerPlace : (folders ++ [name]).foldl Path.join folder = Path.join place name := by
      rw [List.foldl_append, hplace]
      rfl
    have hinnerParts := ihinner (hinside inner rfl) (hn.join hname.isPlain)
      (Part.child home name) hinnerPlace
    have hrestParts := ihrest hnamedRest hn home hplace
    have hmerged : (Item.module attributes name (some innerMerged)).isFollowed = true := hitem
    rw [Part.ofItems, Part.ofItem_body hitem, Part.modulesOf_cons_body hmerged]
    exact ((Loads.module (hinner.bare_eq _)).append hinnerParts).append hrestParts
  | @file place name file attributes inner innerMerged items merged innerFiles files hitem hfile
      hread hinner hrest ihinner ihrest =>
    obtain ⟨hfirst, hnamedRest⟩ := List.forall_mem_cons.1 hnamed
    obtain ⟨hname, -⟩ := hfirst.of_module
    obtain ⟨k, rfl, hk⟩ := hn.step hname.isPlain hfile
    have hinnerParts := ihinner (isWellNamed_of_itemsAt? hread) hk (Part.child home name)
      (List.foldl_nil (f := Path.join))
    have hrestParts := ihrest hnamedRest hn home hplace
    have hmerged : (Item.module attributes name (some innerMerged)).isFollowed = true := hitem
    have hwhole := (Loads.module (hinner.bare_eq (Part.child home name))).append hinnerParts
    subst hplace
    rw [Part.ofItems, Part.ofItem_file hitem, Part.modulesOf_cons_body hmerged]
    exact (Loads.file hfile hread hwhole).append hrestParts
  | missing hitem hfile hrest ih =>
    have hparts := ih (List.forall_mem_cons.1 hnamed).2 hn home hplace
    subst hplace
    rw [Part.ofItems, Part.ofItem_file hitem, Part.modulesOf_cons_file hitem]
    exact (Loads.missing hfile).append hparts

/-- A crate is loaded as its items are put in. -/
theorem exists_loadCrate {c : Config} {root : String} {items merged : List Item}
    {files : List String} (hroot : t.rootFile? folder = some root)
    (hitems : t.itemsAt? root = some items) (h : t.Inlines folder items merged files) :
    ∃ source, Ends (storage.loadCrate c folder) t source t ∧
      Snapshot.ofModules c source.modules =
        .ofModules c (SourceModule.inText ⟨c.crateName, merged⟩) ∧
      source.files = root :: files := by
  have hparts := h.loads (isWellNamed_of_itemsAt? hitems) (.depth t folder) c.crateName
    (List.foldl_nil (f := Path.join))
  have hwhole := (Loads.module (h.bare_eq c.crateName)).append hparts
  obtain ⟨source, hsource, hmodules, hfiles⟩ := hwhole.loadFile hitems
  refine ⟨source, ?_, ?_, hfiles⟩
  · rw [Storage.loadCrate, ends_bind]
    refine ⟨some root, t, ?_, ?_⟩
    · rw [ends_lift, run_firstOf?]
      exact congrArg (·, t) hroot
    · rw [ends_bind]
      exact ⟨t.depth, t, ends_lift.2 rfl, hsource⟩
  · calc Snapshot.ofModules c source.modules
      _ = .ofModules c (source.modules.map SourceModule.bare) :=
        (SourceModule.ofModules_bare c _).symm
      _ = .ofModules c ((SourceModule.inText ⟨c.crateName, merged⟩).map SourceModule.bare) := by
        rw [hmodules]
        rfl
      _ = .ofModules c (SourceModule.inText ⟨c.crateName, merged⟩) :=
        SourceModule.ofModules_bare c _

/-- A crate whose files can all be read is loaded, and gives the same snapshot as one text in which
the items of all files stand in their place. The declarations come in the order of that text, module
by module, and the files in the order of their modules behind the first one. -/
theorem loadCrate_of_readable (t : FileTree) (c : Config) (folder : String) {root : String}
    {items : List Item} (hroot : t.rootFile? folder = some root)
    (hitems : t.itemsAt? root = some items)
    (hfiles : ∀ file, t.LeadsTo folder items file → (t.itemsAt? file).isSome = true) :
    ∃ merged files source,
      (∀ merged' files', t.Inlines folder items merged' files' ↔
        merged' = merged ∧ files' = files) ∧
      Ends (storage.loadCrate c folder) t source t ∧
      Snapshot.ofModules c source.modules =
        .ofModules c (SourceModule.inText ⟨c.crateName, merged⟩) ∧
      (∀ text, itemsOfFile? text = some merged →
        Snapshot.ofText? c text = some (.ofModules c source.modules)) ∧
      (Snapshot.ofModules c source.modules).declarations.map Declaration.place =
        SourceModule.preorder ⟨c.crateName, merged⟩ ∧
      source.files = root :: files := by
  obtain ⟨merged, files, hinlines⟩ :=
    exists_inlines t.depth items (isWellNamed_of_itemsAt? hitems) (.depth t folder) hfiles
  obtain ⟨source, hsource, hsnapshot, hlisted⟩ := exists_loadCrate (c := c) hroot hitems hinlines
  refine ⟨merged, files, source, fun merged' files' => ?_, hsource, hsnapshot, ?_, ?_, hlisted⟩
  · constructor
    · intro h
      exact h.unique hinlines
    · rintro ⟨rfl, rfl⟩
      exact hinlines
  · intro text htext
    rw [Snapshot.ofText?, htext, hsnapshot]
    rfl
  · rw [hsnapshot]
    exact (Resolver.places_declarations ..).trans (SourceModule.structs_inText _)

/-- A crate of three files: one module has its file beside the first one, one has it in a folder
inside another module, and one has none. -/
def shelf : FileTree :=
  .folder [("src", .folder [("a.rs", .file "pub struct A;".toUTF8),
    ("b", .folder [("c", .folder [("mod.rs", .file "pub struct C;".toUTF8)])]),
    ("lib.rs", .file "mod a;\nmod b \x7b mod c; \x7d\nmod gone;\npub struct Root;".toUTF8)])]

def shelfItems : List Item :=
  [.module [] "a" none, .module [] "b" (some [.module [] "c" none]), .module [] "gone" none,
    .struct ⟨[], "Root", [], []⟩]

def shelfText : String :=
  "mod a \x7b pub struct A; \x7d\nmod b \x7b mod c \x7b pub struct C; \x7d \x7d\n" ++
  "mod gone;\npub struct Root;"

def shelfMerged : List Item :=
  [.module [] "a" (some [.struct ⟨[], "A", [], []⟩]),
    .module [] "b" (some [.module [] "c" (some [.struct ⟨[], "C", [], []⟩])]),
    .module [] "gone" none, .struct ⟨[], "Root", [], []⟩]

theorem itemsAt?_shelf_a : shelf.itemsAt? "src/a.rs" = some [.struct ⟨[], "A", [], []⟩] := by
  decide +kernel

theorem itemsAt?_shelf_c :
    shelf.itemsAt? "src/b/c/mod.rs" = some [.struct ⟨[], "C", [], []⟩] := by
  decide +kernel

theorem moduleFile?_shelf : shelf.moduleFile? "src" "a" = some "src/a.rs" ∧
    shelf.moduleFile? (Path.join "src" "b") "c" = some "src/b/c/mod.rs" ∧
    shelf.moduleFile? "src" "gone" = none := by
  decide +kernel

theorem inlines_shelf :
    shelf.Inlines "src" shelfItems shelfMerged ["src/a.rs", "src/b/c/mod.rs"] := by
  obtain ⟨ha, hc, hgone⟩ := moduleFile?_shelf
  refine .file rfl ha itemsAt?_shelf_a (.keep rfl (.nil _)) ?_
  refine .body rfl (.file rfl hc itemsAt?_shelf_c (.keep rfl (.nil _)) (.nil _)) ?_
  exact .missing rfl hgone (.keep rfl (.nil _))

theorem loadCrate_of_readable_shelf : ∃ source,
    Ends (storage.loadCrate .standard "src") shelf source shelf ∧
    Snapshot.ofText? .standard shelfText = some (.ofModules .standard source.modules) ∧
    (Snapshot.ofModules .standard source.modules).declarations.map Declaration.place =
      [("crate", "Root"), ("crate::a", "A"), ("crate::b::c", "C")] ∧
    source.files = ["src/lib.rs", "src/a.rs", "src/b/c/mod.rs"] := by
  have hroot : shelf.rootFile? "src" = some "src/lib.rs" := by decide +kernel
  have hitems : shelf.itemsAt? "src/lib.rs" = some shelfItems := by decide +kernel
  have htext : itemsOfFile? shelfText = some shelfMerged := by decide +kernel
  obtain ⟨merged, files, source, hunique, hsource, -, hsame, hplaces, hfiles⟩ :=
    loadCrate_of_readable shelf .standard "src" hroot hitems fun _ => inlines_shelf.readable
  obtain ⟨rfl, rfl⟩ := (hunique _ _).1 inlines_shelf
  refine ⟨source, hsource, hsame shelfText htext, ?_, hfiles⟩
  rw [hplaces]
  decide +kernel

end FileTree

end ViewCompanion
