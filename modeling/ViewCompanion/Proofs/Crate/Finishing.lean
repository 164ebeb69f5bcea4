import ViewCompanion.Proofs.Crate.TestModules

namespace ViewCompanion

open Source Storage

namespace CrateSource

instance : Append CrateSource where
  append a b := ⟨a.modules ++ b.modules, a.files ++ b.files⟩

theorem modules_append (a b : CrateSource) : (a ++ b).modules = a.modules ++ b.modules :=
  rfl

theorem files_append (a b : CrateSource) : (a ++ b).files = a.files ++ b.files :=
  rfl

theorem append_empty (a : CrateSource) : a ++ empty = a :=
  congrArg₂ CrateSource.mk (List.append_nil _) (List.append_nil _)

theorem join_append (as bs : List CrateSource) : join (as ++ bs) = join as ++ join bs :=
  congrArg₂ CrateSource.mk List.flatMap_append List.flatMap_append

def outcome (seen : CrateSource) : Option Failure → Except Failure CrateSource
  | none => .ok seen
  | some failure => .error failure

theorem map_outcome (before seen : CrateSource) (failure? : Option Failure) :
    (seen.outcome failure?).map (before ++ ·) = (before ++ seen).outcome failure? := by
  cases failure? <;> rfl

end CrateSource

namespace FileTree

/-- What loading has to do. The files of modules are looked for in a folder. -/
inductive Task
  | file (path home folder : String)
  | items (home folder : String) (items : List Item)
  | item (home folder : String) (item : Item)

/-- The task comes to an end: these modules were found and these files opened, in this order, up to
a failure that stops it, if there is one. There is no bound on the number of steps. -/
inductive Finishes (t : FileTree) : Task → (seen : CrateSource) → Option Failure → Prop
  | unreadable {path home folder : String} {trouble : Trouble}
      (hread : textOf (t.read path) = .error trouble) :
      Finishes t (.file path home folder) ⟨[], [path]⟩ (some (.storage path trouble))
  | malformed {path home folder text : String} (hread : textOf (t.read path) = .ok text)
      (hitems : itemsOfFile? text = none) :
      Finishes t (.file path home folder) ⟨[], [path]⟩ (some (.source path))
  | opened {path home folder text : String} {items : List Item} {seen : CrateSource}
      {failure? : Option Failure} (hread : textOf (t.read path) = .ok text)
      (hitems : itemsOfFile? text = some items)
      (hinside : Finishes t (.items home folder items) seen failure?) :
      Finishes t (.file path home folder) (⟨[⟨home, items⟩], [path]⟩ ++ seen) failure?
  | nil {home folder : String} : Finishes t (.items home folder []) .empty none
  | next {home folder : String} {item : Item} {rest : List Item} {seen behind : CrateSource}
      {failure? : Option Failure} (hitem : Finishes t (.item home folder item) seen none)
      (hrest : Finishes t (.items home folder rest) behind failure?) :
      Finishes t (.items home folder (item :: rest)) (seen ++ behind) failure?
  | stop {home folder : String} {item : Item} {rest : List Item} {seen : CrateSource}
      {failure : Failure} (hitem : Finishes t (.item home folder item) seen (some failure)) :
      Finishes t (.items home folder (item :: rest)) seen (some failure)
  | skip {home folder : String} {item : Item} (hitem : item.isFollowed = false) :
      Finishes t (.item home folder item) .empty none
  | body {home folder name : String} {attributes : List Attribute} {items : List Item}
      {seen : CrateSource} {failure? : Option Failure}
      (hitem : (Item.module attributes name (some items)).isFollowed = true)
      (hinside : Finishes t (.items (Part.child home name) (Path.join folder name) items)
        seen failure?) :
      Finishes t (.item home folder (.module attributes name (some items)))
        (.ofModule ⟨Part.child home name, items⟩ ++ seen) failure?
  | missing {home folder name : String} {attributes : List Attribute}
      (hitem : (Item.module attributes name none).isFollowed = true)
      (hfile : t.moduleFile? folder name = none) :
      Finishes t (.item home folder (.module attributes name none)) .empty none
  | found {home folder name path : String} {attributes : List Attribute} {seen : CrateSource}
      {failure? : Option Failure} (hitem : (Item.module attributes name none).isFollowed = true)
      (hfile : t.moduleFile? folder name = some path)
      (hinside : Finishes t (.file path (Part.child home name) (Path.join folder name))
        seen failure?) :
      Finishes t (.item home folder (.module attributes name none)) seen failure?

def FinishesCrate (t : FileTree) (c : Config) (folder : String) (seen : CrateSource)
    (failure? : Option Failure) : Prop :=
  match t.rootFile? folder with
  | some root => t.Finishes (.file root c.crateName folder) seen failure?
  | none => seen = .empty ∧ failure? = some (.storage folder .noCrate)

variable {t : FileTree} {n : Nat} {home folder place : String} {seen : CrateSource}
  {failure? : Option Failure}

theorem Finishes.unique {task : Task} {seen' : CrateSource} {failure?' : Option Failure}
    (h : t.Finishes task seen failure?) (h' : t.Finishes task seen' failure?') :
    seen' = seen ∧ failure?' = failure? := by
  -- what is read and what is found is the same both times, so only the same rule applies
  induction h generalizing seen' failure?' with
  | unreadable hread =>
    cases h' with
    | unreadable hread' =>
      cases hread.symm.trans hread'
      exact ⟨rfl, rfl⟩
    | malformed hread' => cases hread.symm.trans hread'
    | opened hread' => cases hread.symm.trans hread'
  | malformed hread hitems =>
    cases h' with
    | unreadable hread' => cases hread.symm.trans hread'
    | malformed => exact ⟨rfl, rfl⟩
    | opened hread' hitems' =>
      cases hread.symm.trans hread'
      cases hitems.symm.trans hitems'
  | opened hread hitems hinside ih =>
    cases h' with
    | unreadable hread' => cases hread.symm.trans hread'
    | malformed hread' hitems' =>
      cases hread.symm.trans hread'
      cases hitems.symm.trans hitems'
    | opened hread' hitems' hinside' =>
      cases hread.symm.trans hread'
      cases hitems.symm.trans hitems'
      obtain ⟨rfl, rfl⟩ := ih hinside'
      exact ⟨rfl, rfl⟩
  | nil =>
    cases h'
    exact ⟨rfl, rfl⟩
  | next hitem hrest ihitem ihrest =>
    cases h' with
    | next hitem' hrest' =>
      obtain ⟨rfl, -⟩ := ihitem hitem'
      obtain ⟨rfl, rfl⟩ := ihrest hrest'
      exact ⟨rfl, rfl⟩
    | stop hitem' => cases (ihitem hitem').2
  | stop hitem ih =>
    cases h' with
    | next hitem' => cases (ih hitem').2
    | stop hitem' => exact ih hitem'
  | skip hitem =>
    cases h' with
    | skip => exact ⟨rfl, rfl⟩
    | body hitem' => simp [hitem] at hitem'
    | missing hitem' => simp [hitem] at hitem'
    | found hitem' => simp [hitem] at hitem'
  | body hitem hinside ih =>
    cases h' with
    | skip hitem' => simp [hitem] at hitem'
    | body hitem' hinside' =>
      obtain ⟨rfl, rfl⟩ := ih hinside'
      exact ⟨rfl, rfl⟩
  | missing hitem hfile =>
    cases h' with
    | skip hitem' => simp [hitem] at hitem'
    | missing => exact ⟨rfl, rfl⟩
    | found hitem' hfile' => cases hfile.symm.trans hfile'
  | found hitem hfile hinside ih =>
    cases h' with
    | skip hitem' => simp [hitem] at hitem'
    | missing hitem' hfile' => cases hfile.symm.trans hfile'
    | found hitem' hfile' hinside' =>
      cases hfile.symm.trans hfile'
      exact ih hinside'

theorem exists_finishes_file (path : String)
    (h : ∀ items, (∀ item ∈ items, item.IsWellNamed) →
      ∃ seen failure?, t.Finishes (.items home folder items) seen failure?) :
    ∃ seen failure?, t.Finishes (.file path home folder) seen failure? := by
  cases hread : textOf (t.read path) with
  | error trouble => exact ⟨_, _, .unreadable hread⟩
  | ok text =>
    cases hitems : itemsOfFile? text with
    | none => exact ⟨_, _, .malformed hread hitems⟩
    | some items =>
      obtain ⟨seen, failure?, hinside⟩ := h items (isWellNamed_of_itemsOfFile? hitems)
      exact ⟨_, _, .opened hread hitems hinside⟩

/-- As long as files cannot follow each other for ever, a list of items comes to an end. -/
theorem exists_finishes_items : ∀ (n : Nat) (items : List Item) {home place : String},
    (∀ item ∈ items, item.IsWellNamed) → t.Suffices n place →
    ∃ seen failure?, t.Finishes (.items home place items) seen failure?
  | _, [], _, _, _, _ => ⟨_, _, .nil⟩
  | n, item :: rest, home, place, hnamed, hsuffices => by
    obtain ⟨hfirst, hnamedRest⟩ := List.forall_mem_cons.1 hnamed
    have hitem : ∃ seen failure?, t.Finishes (.item home place item) seen failure? := by
      by_cases hfollowed : item.isFollowed = true
      · cases item with
        | module attributes name items? =>
          obtain ⟨hname, hinside⟩ := hfirst.of_module
          cases items? with
          | some inner =>
            obtain ⟨_, _, hinner⟩ := exists_finishes_items n inner (hinside inner rfl)
              (hsuffices.join hname.isPlain)
            exact ⟨_, _, .body hfollowed hinner⟩
          | none =>
            cases hfile : t.moduleFile? place name with
            | none => exact ⟨_, _, .missing hfollowed hfile⟩
            | some path =>
              -- the file lies deeper than `place`, so a round less is enough for what is inside
              obtain ⟨k, rfl, hk⟩ := hsuffices.step hname.isPlain hfile
              obtain ⟨_, _, hinner⟩ := exists_finishes_file (t := t) path
                fun inner hinner => exists_finishes_items k inner hinner hk
              exact ⟨_, _, .found hfollowed hfile hinner⟩
        | _ => cases hfollowed
      · exact ⟨_, _, .skip (by simpa using hfollowed)⟩
    obtain ⟨_, failure?, hitem⟩ := hitem
    cases failure? with
    | none =>
      have hrest : ∃ behind failure?, t.Finishes (.items home place rest) behind failure? :=
        exists_finishes_items n rest hnamedRest hsuffices
      obtain ⟨_, _, hrest⟩ := hrest
      exact ⟨_, _, .next hitem hrest⟩
    | some failure => exact ⟨_, _, .stop hitem⟩
termination_by n items => (n, items)

section Parts

/-- What is loaded for parts of a file, `n` files below one another at most. -/
def loadParts (t : FileTree) (n : Nat) (folder : String) (parts : List Part) :
    Except Failure CrateSource :=
  (t.result (parts.mapM (storage.loadPart n folder))).map .join

theorem loadParts_append (t : FileTree) (n : Nat) (folder : String) (xs ys : List Part) :
    t.loadParts n folder (xs ++ ys) =
      (t.loadParts n folder xs).bind fun seen => (t.loadParts n folder ys).map (seen ++ ·) := by
  have hreads := reads_loadPart n folder
  unfold loadParts
  rw [List.mapM_append, (Reads.mapM hreads xs).result_bind]
  cases t.result (xs.mapM (storage.loadPart n folder)) with
  | error failure => rfl
  | ok as =>
    show (t.result (ys.mapM (storage.loadPart n folder) >>= _)).map _ = _
    rw [(Reads.mapM hreads ys).result_bind]
    cases t.result (ys.mapM (storage.loadPart n folder)) with
    | error failure => rfl
    | ok bs => exact congrArg Except.ok (CrateSource.join_append as bs)

theorem loadParts_singleton (t : FileTree) (n : Nat) (folder : String) (part : Part) :
    t.loadParts n folder [part] = t.result (storage.loadPart n folder part) := by
  unfold loadParts
  rw [List.mapM_cons, (reads_loadPart n folder part).result_bind]
  cases t.result (storage.loadPart n folder part) with
  | error failure => rfl
  | ok seen => exact congrArg Except.ok (CrateSource.append_empty seen)

theorem loadParts_module (t : FileTree) (n : Nat) (folder : String) (m : SourceModule)
    (parts : List Part) : t.loadParts n folder (.module m :: parts) =
      (t.loadParts n folder parts).map (.ofModule m ++ ·) := by
  rw [← List.singleton_append, loadParts_append, loadParts_singleton]
  rfl

theorem loadParts_file (t : FileTree) (n : Nat) (path name : String) {folders : List String}
    (hplace : folders.foldl Path.join folder = place) :
    t.loadParts n folder [.file path folders name] = match t.moduleFile? place name with
      | some inner => t.result (storage.loadFile n inner path (Path.join place name))
      | none => .ok .empty := by
  subst hplace
  rw [loadParts_singleton, loadPart, (reads_firstOf? _).result_bind, result_firstOf?]
  unfold moduleFile?
  generalize (moduleFiles (folders.foldl Path.join folder) name).find? t.has = found
  cases found <;> rfl

theorem result_loadFile (t : FileTree) (n : Nat) (path home folder : String) :
    t.result (storage.loadFile (n + 1) path home folder) = match textOf (t.read path) with
      | .error trouble => .error (.storage path trouble)
      | .ok text => match itemsOfFile? text with
        | none => .error (.source path)
        | some items =>
          (t.loadParts n folder (Part.ofItems home [] items)).map
            (⟨[⟨home, items⟩], [path]⟩ ++ ·) := by
  rw [Storage.loadFile, (reads_sourceText path).result_bind, result_sourceText]
  cases textOf (t.read path) with
  | error trouble => rfl
  | ok text =>
    dsimp only [Except.bind]
    cases itemsOfFile? text with
    | none => rfl
    | some items =>
      have hreads := Reads.mapM (reads_loadPart n folder) (SourceModule.parts ⟨home, items⟩)
      calc t.result ((SourceModule.parts ⟨home, items⟩).mapM (storage.loadPart n folder) >>= _)
        _ = (t.loadParts n folder (SourceModule.parts ⟨home, items⟩)).map
            (⟨[], [path]⟩ ++ ·) := by
          rw [hreads.result_bind]
          unfold loadParts
          cases t.result ((SourceModule.parts ⟨home, items⟩).mapM _) <;> rfl
        _ = (t.loadParts n folder (Part.ofItems home [] items)).map
            (⟨[⟨home, items⟩], [path]⟩ ++ ·) := by
          rw [SourceModule.parts, loadParts_module]
          cases t.loadParts n folder (Part.ofItems home [] items) <;> rfl

/-- Enough rounds of loading give how the task ends. -/
def Gives (t : FileTree) (result : Except Failure CrateSource) : Task → Prop
  | .file path home folder => ∀ n, t.Suffices n folder →
    t.result (storage.loadFile (n + 1) path home folder) = result
  | .items home place items => (∀ item ∈ items, item.IsWellNamed) →
    ∀ n folder folders, t.Suffices n place → folders.foldl Path.join folder = place →
      t.loadParts n folder (Part.ofItems home folders items) = result
  | .item home place item => item.IsWellNamed →
    ∀ n folder folders, t.Suffices n place → folders.foldl Path.join folder = place →
      t.loadParts n folder (Part.ofItem home folders item) = result

theorem Finishes.gives {task : Task} (h : t.Finishes task seen failure?) :
    t.Gives (seen.outcome failure?) task := by
  induction h with
  | unreadable hread =>
    intro n _
    rw [result_loadFile, hread]
    rfl
  | malformed hread hitems =>
    intro n _
    rw [result_loadFile, hread]
    dsimp only
    rw [hitems]
    rfl
  | @opened path home folder text items seen failure? hread hitems hinside ih =>
    intro n hn
    rw [result_loadFile, hread]
    dsimp only
    rw [hitems]
    dsimp only
    rw [ih (isWellNamed_of_itemsOfFile? hitems) n folder [] hn rfl, CrateSource.map_outcome]
  | nil =>
    intro _ n folder folders _ _
    rw [Part.ofItems]
    rfl
  | @next home place item rest seen behind failure? hitem hrest ihitem ihrest =>
    intro hnamed n folder folders hn hplace
    obtain ⟨hfirst, hnamedRest⟩ := List.forall_mem_cons.1 hnamed
    rw [Part.ofItems, loadParts_append, ihitem hfirst n folder folders hn hplace,
      ihrest hnamedRest n folder folders hn hplace]
    exact CrateSource.map_outcome seen behind failure?
  | @stop home place item rest seen failure hitem ih =>
    intro hnamed n folder folders hn hplace
    obtain ⟨hfirst, -⟩ := List.forall_mem_cons.1 hnamed
    rw [Part.ofItems, loadParts_append, ih hfirst n folder folders hn hplace]
    rfl
  | skip hitem =>
    intro _ n folder folders _ _
    rw [Part.ofItem_of_not_followed hitem]
    rfl
  | @body home place name attributes items seen failure? hitem hinside ih =>
    intro hnamed n folder folders hn hplace
    obtain ⟨hname, hinner⟩ := hnamed.of_module
    have hinnerPlace : (folders ++ [name]).foldl Path.join folder = Path.join place name := by
      rw [List.foldl_append, hplace]
      rfl
    rw [Part.ofItem_body hitem, loadParts_module,
      ih (hinner items rfl) n folder _ (hn.join hname.isPlain) hinnerPlace,
      CrateSource.map_outcome]
  | missing hitem hfile =>
    intro _ n folder folders _ hplace
    rw [Part.ofItem_file hitem, loadParts_file _ _ _ _ hplace, hfile]
    rfl
  | found hitem hfile hinside ih =>
    intro hnamed n folder folders hn hplace
    obtain ⟨hname, -⟩ := hnamed.of_module
    -- the file takes one of the rounds
    obtain ⟨k, rfl, hk⟩ := hn.step hname.isPlain hfile
    rw [Part.ofItem_file hitem, loadParts_file _ _ _ _ hplace, hfile]
    exact ih k hk

end Parts

theorem exists_finishesCrate (t : FileTree) (c : Config) (folder : String) :
    ∃ seen failure?, t.FinishesCrate c folder seen failure? := by
  unfold FinishesCrate
  cases t.rootFile? folder with
  | none => exact ⟨_, _, rfl, rfl⟩
  | some root =>
    exact exists_finishes_file root fun items hitems =>
      exists_finishes_items t.depth items hitems (.depth t folder)

namespace FinishesCrate

variable {c : Config}

theorem unique {seen' : CrateSource} {failure?' : Option Failure}
    (h : t.FinishesCrate c folder seen failure?) (h' : t.FinishesCrate c folder seen' failure?') :
    seen' = seen ∧ failure?' = failure? := by
  unfold FinishesCrate at h h'
  cases hroot : t.rootFile? folder with
  | none =>
    rw [hroot] at h h'
    exact ⟨h'.1.trans h.1.symm, h'.2.trans h.2.symm⟩
  | some root =>
    rw [hroot] at h h'
    exact Finishes.unique h h'

/-- One round for each folder on the way to the deepest file is enough. -/
theorem result_eq (h : t.FinishesCrate c folder seen failure?) :
    t.result (storage.loadCrate c folder) = seen.outcome failure? := by
  unfold FinishesCrate at h
  cases hroot : t.rootFile? folder with
  | none =>
    rw [hroot] at h
    obtain ⟨rfl, rfl⟩ := h
    exact result_loadCrate_of_not_root hroot c
  | some root =>
    rw [hroot] at h
    have hdepth : t.result (liftM storage.depth) = .ok t.depth := rfl
    have hfound : t.result (liftM (storage.firstOf?
        [Path.join folder "lib.rs", Path.join folder "main.rs"])) = .ok (some root) :=
      (result_firstOf? ..).trans (congrArg Except.ok hroot)
    rw [loadCrate, (reads_firstOf? _).result_bind, hfound]
    show t.result (liftM storage.depth >>= _) = _
    rw [(reads_lift fun _ => rfl).result_bind, hdepth]
    exact Finishes.gives h t.depth (.depth t folder)

end FinishesCrate

end FileTree

end ViewCompanion
