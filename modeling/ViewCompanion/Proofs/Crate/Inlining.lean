import ViewCompanion.Proofs.Crate.Files
import ViewCompanion.Proofs.Crate.Modules

namespace ViewCompanion

open Source Storage

namespace FileTree

/-- With files of modules looked for in `folder`, the items become `merged` when those of all files
are put in their place. The files come in the order of their modules, outer ones first. -/
inductive Inlines (t : FileTree) : (folder : String) → (items merged : List Item) →
    (files : List String) → Prop
  | nil (folder : String) : Inlines t folder [] [] []
  | keep {folder : String} {item : Item} {items merged : List Item} {files : List String}
      (hitem : item.isFollowed = false) (hrest : Inlines t folder items merged files) :
      Inlines t folder (item :: items) (item :: merged) files
  | body {folder name : String} {attributes : List Attribute}
      {inner innerMerged items merged : List Item} {innerFiles files : List String}
      (hitem : (Item.module attributes name (some inner)).isFollowed = true)
      (hinner : Inlines t (Path.join folder name) inner innerMerged innerFiles)
      (hrest : Inlines t folder items merged files) :
      Inlines t folder (.module attributes name (some inner) :: items)
        (.module attributes name (some innerMerged) :: merged) (innerFiles ++ files)
  | file {folder name file : String} {attributes : List Attribute}
      {inner innerMerged items merged : List Item} {innerFiles files : List String}
      (hitem : (Item.module attributes name none).isFollowed = true)
      (hfile : t.moduleFile? folder name = some file) (hread : t.itemsAt? file = some inner)
      (hinner : Inlines t (Path.join folder name) inner innerMerged innerFiles)
      (hrest : Inlines t folder items merged files) :
      Inlines t folder (.module attributes name none :: items)
        (.module attributes name (some innerMerged) :: merged) (file :: innerFiles ++ files)
  | missing {folder name : String} {attributes : List Attribute} {items merged : List Item}
      {files : List String}
      (hitem : (Item.module attributes name none).isFollowed = true)
      (hfile : t.moduleFile? folder name = none) (hrest : Inlines t folder items merged files) :
      Inlines t folder (.module attributes name none :: items)
        (.module attributes name none :: merged) files

/-- The items lead to the file, by their own modules or those inside them. -/
inductive LeadsTo (t : FileTree) : (folder : String) → (items : List Item) → (file : String) → Prop
  | here {folder name file : String} {attributes : List Attribute} {items : List Item}
      (hmem : .module attributes name none ∈ items)
      (hitem : (Item.module attributes name none).isFollowed = true)
      (hfile : t.moduleFile? folder name = some file) : LeadsTo t folder items file
  | body {folder name file : String} {attributes : List Attribute} {inner items : List Item}
      (hmem : .module attributes name (some inner) ∈ items)
      (hitem : (Item.module attributes name (some inner)).isFollowed = true)
      (hinner : LeadsTo t (Path.join folder name) inner file) : LeadsTo t folder items file
  | file {folder name outer file : String} {attributes : List Attribute} {inner items : List Item}
      (hmem : .module attributes name none ∈ items)
      (hitem : (Item.module attributes name none).isFollowed = true)
      (hfile : t.moduleFile? folder name = some outer) (hread : t.itemsAt? outer = some inner)
      (hinner : LeadsTo t (Path.join folder name) inner file) : LeadsTo t folder items file

variable {t : FileTree} {place : String}

theorem LeadsTo.mono {file : String} {items more : List Item} (h : t.LeadsTo place items file)
    (hsub : ∀ item ∈ items, item ∈ more) : t.LeadsTo place more file := by
  cases h with
  | here hmem hitem hfile => exact .here (hsub _ hmem) hitem hfile
  | body hmem hitem hinner => exact .body (hsub _ hmem) hitem hinner
  | file hmem hitem hfile hread hinner => exact .file (hsub _ hmem) hitem hfile hread hinner

theorem LeadsTo.exists_followed {file : String} {items : List Item}
    (h : t.LeadsTo place items file) : ∃ item ∈ items, item.isFollowed = true := by
  cases h with
  | here hmem hitem hfile => exact ⟨_, hmem, hitem⟩
  | body hmem hitem hinner => exact ⟨_, hmem, hitem⟩
  | file hmem hitem hfile hread hinner => exact ⟨_, hmem, hitem⟩

theorem LeadsTo.of_cons {file : String} {item : Item} {rest : List Item}
    (h : t.LeadsTo place (item :: rest) file) :
    t.LeadsTo place [item] file ∨ t.LeadsTo place rest file := by
  cases h with
  | here hmem hitem hfile =>
    rcases List.mem_cons.1 hmem with rfl | hmem
    · exact .inl (.here List.mem_cons_self hitem hfile)
    · exact .inr (.here hmem hitem hfile)
  | body hmem hitem hinner =>
    rcases List.mem_cons.1 hmem with rfl | hmem
    · exact .inl (.body List.mem_cons_self hitem hinner)
    · exact .inr (.body hmem hitem hinner)
  | file hmem hitem hfile hread hinner =>
    rcases List.mem_cons.1 hmem with rfl | hmem
    · exact .inl (.file List.mem_cons_self hitem hfile hread hinner)
    · exact .inr (.file hmem hitem hfile hread hinner)

theorem Inlines.readable {file : String} {items merged : List Item} {files : List String}
    (h : t.Inlines place items merged files) (hfile : t.LeadsTo place items file) :
    (t.itemsAt? file).isSome = true := by
  -- the way to the file begins at the first item or at one behind it
  induction h with
  | nil =>
    obtain ⟨item, hmem, -⟩ := hfile.exists_followed
    cases hmem
  | keep hitem hrest ih =>
    rcases hfile.of_cons with hfirst | hlater
    · obtain ⟨item, hmem, hfollowed⟩ := hfirst.exists_followed
      rw [List.mem_singleton.1 hmem, hitem] at hfollowed
      cases hfollowed
    · exact ih hlater
  | body hitem hinner hrest ihinner ihrest =>
    rcases hfile.of_cons with hfirst | hlater
    · cases hfirst with
      | here hmem => simp at hmem
      | body hmem hitem' hinner' =>
        cases List.mem_singleton.1 hmem
        exact ihinner hinner'
      | file hmem => simp at hmem
    · exact ihrest hlater
  | file hitem hthere hread hinner hrest ihinner ihrest =>
    rcases hfile.of_cons with hfirst | hlater
    · cases hfirst with
      | here hmem hitem' hthere' =>
        cases List.mem_singleton.1 hmem
        obtain rfl := Option.some.inj (hthere.symm.trans hthere')
        rw [hread]
        rfl
      | body hmem => simp at hmem
      | file hmem hitem' hthere' hread' hinner' =>
        cases List.mem_singleton.1 hmem
        obtain rfl := Option.some.inj (hthere.symm.trans hthere')
        obtain rfl := Option.some.inj (hread.symm.trans hread')
        exact ihinner hinner'
    · exact ihrest hlater
  | missing hitem hthere hrest ih =>
    rcases hfile.of_cons with hfirst | hlater
    · cases hfirst with
      | here hmem hitem' hthere' =>
        cases List.mem_singleton.1 hmem
        simp [hthere] at hthere'
      | body hmem => simp at hmem
      | file hmem hitem' hthere' =>
        cases List.mem_singleton.1 hmem
        simp [hthere] at hthere'
    · exact ih hlater

theorem Inlines.unique {items merged merged' : List Item} {files files' : List String}
    (h : t.Inlines place items merged files) (h' : t.Inlines place items merged' files') :
    merged = merged' ∧ files = files' := by
  induction h generalizing merged' files' with
  | nil =>
    cases h'
    exact ⟨rfl, rfl⟩
  | keep hitem hrest ih =>
    cases h' with
    | keep hitem' hrest' =>
      obtain ⟨rfl, rfl⟩ := ih hrest'
      exact ⟨rfl, rfl⟩
    | body hitem' => simp [hitem] at hitem'
    | file hitem' => simp [hitem] at hitem'
    | missing hitem' => simp [hitem] at hitem'
  | body hitem hinner hrest ihinner ihrest =>
    cases h' with
    | keep hitem' => simp [hitem] at hitem'
    | body hitem' hinner' hrest' =>
      obtain ⟨rfl, rfl⟩ := ihinner hinner'
      obtain ⟨rfl, rfl⟩ := ihrest hrest'
      exact ⟨rfl, rfl⟩
  | file hitem hfile hread hinner hrest ihinner ihrest =>
    cases h' with
    | keep hitem' => simp [hitem] at hitem'
    | file hitem' hfile' hread' hinner' hrest' =>
      obtain rfl := Option.some.inj (hfile.symm.trans hfile')
      obtain rfl := Option.some.inj (hread.symm.trans hread')
      obtain ⟨rfl, rfl⟩ := ihinner hinner'
      obtain ⟨rfl, rfl⟩ := ihrest hrest'
      exact ⟨rfl, rfl⟩
    | missing hitem' hfile' => simp [hfile] at hfile'
  | missing hitem hfile hrest ih =>
    cases h' with
    | keep hitem' => simp [hitem] at hitem'
    | file hitem' hfile' => simp [hfile] at hfile'
    | missing hitem' hfile' hrest' =>
      obtain ⟨rfl, rfl⟩ := ih hrest'
      exact ⟨rfl, rfl⟩

theorem isWellNamed_of_itemsAt? {file : String} {items : List Item}
    (h : t.itemsAt? file = some items) : ∀ item ∈ items, item.IsWellNamed := by
  obtain ⟨text, -, hitems⟩ := exists_text_of_itemsAt? h
  exact isWellNamed_of_itemsOfFile? hitems

/-- Where all files can be read, and cannot follow each other for ever, the items can be put in. -/
theorem exists_inlines : ∀ (n : Nat) (items : List Item) {place : String},
    (∀ item ∈ items, item.IsWellNamed) → t.Suffices n place →
    (∀ file, t.LeadsTo place items file → (t.itemsAt? file).isSome = true) →
    ∃ merged files, t.Inlines place items merged files
  | _, [], place, _, _, _ => ⟨[], [], .nil place⟩
  | n, item :: rest, place, hnamed, hsuffices, hfiles => by
    obtain ⟨hfirst, hnamedRest⟩ := List.forall_mem_cons.1 hnamed
    obtain ⟨merged, files, hrest⟩ := exists_inlines n rest hnamedRest hsuffices fun file h =>
      hfiles file (h.mono fun _ => List.mem_cons_of_mem _)
    by_cases hitem : item.isFollowed = true
    · cases item with
      | module attributes name items? =>
        obtain ⟨hname, hinside⟩ := hfirst.of_module
        cases items? with
        | some inner =>
          obtain ⟨_, _, hinner⟩ := exists_inlines n inner (hinside inner rfl)
            (hsuffices.join hname.isPlain) fun file h =>
              hfiles file (.body List.mem_cons_self hitem h)
          exact ⟨_, _, .body hitem hinner hrest⟩
        | none =>
          cases hfile : t.moduleFile? place name with
          | none => exact ⟨_, _, .missing hitem hfile hrest⟩
          | some file =>
            have hreadable := hfiles file (.here List.mem_cons_self hitem hfile)
            obtain ⟨inner, hread⟩ := Option.isSome_iff_exists.1 hreadable
            -- the file lies deeper than `place`, so a round less is enough for what is inside
            obtain ⟨k, rfl, hk⟩ := hsuffices.step hname.isPlain hfile
            obtain ⟨_, _, hinner⟩ := exists_inlines k inner (isWellNamed_of_itemsAt? hread) hk
              fun other h => hfiles other (.file List.mem_cons_self hitem hfile hread h)
            exact ⟨_, _, .file hitem hfile hread hinner hrest⟩
      | _ => cases hitem
    · exact ⟨_, _, .keep (by simpa using hitem) hrest⟩
termination_by n items => (n, items)

end FileTree

end ViewCompanion
