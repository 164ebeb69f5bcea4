import Mathlib.Data.List.Forall2
import ViewCompanion.Proofs.Crate.Loading
import ViewCompanion.Proofs.Crate.TestCondition
import ViewCompanion.Proofs.Source.ModuleAttributes
import ViewCompanion.Proofs.Storage.Reading

namespace ViewCompanion

open Source Storage

/-- The items without some of the modules that are for tests alone. -/
inductive Source.TestsLeftOut : List Item → List Item → Prop
  | nil : TestsLeftOut [] []
  | keep {items left : List Item} (item : Item) (h : TestsLeftOut items left) :
    TestsLeftOut (item :: items) (item :: left)
  | body {inner innerLeft items left : List Item} (attributes : List Attribute) (name : String)
    (hinner : TestsLeftOut inner innerLeft) (h : TestsLeftOut items left) :
    TestsLeftOut (.module attributes name (some inner) :: items)
      (.module attributes name (some innerLeft) :: left)
  | leave {items left : List Item} {attributes : List Attribute} (name : String)
    (items? : Option (List Item)) (htest : attributes.any Attribute.isTestOnly = true)
    (h : TestsLeftOut items left) : TestsLeftOut (.module attributes name items? :: items) left

theorem Source.TestsLeftOut.refl (items : List Item) : TestsLeftOut items items := by
  induction items with
  | nil => exact .nil
  | cons item items ih => exact .keep item ih

theorem Source.TestsLeftOut.bare_eq {items left : List Item} (h : TestsLeftOut items left)
    (home : String) : SourceModule.bare ⟨home, items⟩ = SourceModule.bare ⟨home, left⟩ := by
  have hfilter : items.filter (fun item => !item.isModule) =
      left.filter fun item => !item.isModule := by
    induction h with
    | nil => rfl
    | keep item hrest ih => rw [List.filter_cons, List.filter_cons, ih]
    | body attributes name hinner hrest ihinner ih => exact ih
    | leave name items? htest hrest ih => exact ih
  exact congrArg (SourceModule.mk home) hfilter

/-- Modules that differ in the modules declared in them, or one and the same file. -/
inductive Part.Alike : Part → Part → Prop
  | module {m m' : SourceModule} (h : m.bare = m'.bare) : Alike (.module m) (.module m')
  | file (path : String) (folders : List String) (name : String) :
    Alike (.file path folders name) (.file path folders name)

theorem Part.Alike.refl : ∀ part : Part, Part.Alike part part
  | .module _ => .module rfl
  | .file path folders name => .file path folders name

/-- A module that is left out has no part. -/
theorem Source.TestsLeftOut.ofItems {items left : List Item} (h : TestsLeftOut items left)
    (home : String) (folders : List String) :
    List.Forall₂ Part.Alike (Part.ofItems home folders items) (Part.ofItems home folders left) := by
  induction h generalizing home folders with
  | nil => exact .nil
  | keep item hrest ih =>
    rw [Part.ofItems, Part.ofItems]
    exact List.rel_append (List.forall₂_same.2 fun part _ => .refl part) (ih home folders)
  | @body inner innerLeft items left attributes name hinner hrest ihinner ih =>
    rw [Part.ofItems, Part.ofItems]
    refine List.rel_append ?_ (ih home folders)
    by_cases hfollowed : (Item.module attributes name (some inner)).isFollowed = true
    · have hleft : (Item.module attributes name (some innerLeft)).isFollowed = true := hfollowed
      rw [Part.ofItem_body hfollowed, Part.ofItem_body hleft]
      exact .cons (.module (hinner.bare_eq _)) (ihinner _ _)
    · have hskipped (items? : Option (List Item)) :
          (Item.module attributes name items?).isFollowed = false := by
        simpa [Item.isFollowed] using hfollowed
      rw [Part.ofItem_of_not_followed (hskipped _), Part.ofItem_of_not_followed (hskipped _)]
      exact .nil
  | @leave items left attributes name items? htest hrest ih =>
    -- neither the body nor the file of such a module is looked at
    have hskipped : (Item.module attributes name items?).isFollowed = false := by
      simp [Item.isFollowed, htest]
    rw [Part.ofItems, Part.ofItem_of_not_followed hskipped]
    exact ih home folders

namespace FileTree

/-- Both end with the same failure, or with results that are related. -/
inductive EndsAlike {ε α β : Type} (R : α → β → Prop) : Except ε α → Except ε β → Prop
  | ok {a : α} {b : β} (h : R a b) : EndsAlike R (.ok a) (.ok b)
  | error (e : ε) : EndsAlike R (.error e) (.error e)

/-- The same content, or two texts of which one has the items of the other without some modules for
tests alone. -/
inductive ContentAlike : ByteArray → ByteArray → Prop
  | same (content : ByteArray) : ContentAlike content content
  | text {text left : String} {items itemsLeft : List Item}
    (htext : itemsOfFile? text = some items) (hleft : itemsOfFile? left = some itemsLeft)
    (h : TestsLeftOut items itemsLeft) : ContentAlike text.toUTF8 left.toUTF8

mutual

/-- The same folders and files with content that is alike. -/
inductive LeavesOutTests : FileTree → FileTree → Prop
  | file {content left : ByteArray} (h : ContentAlike content left) :
    LeavesOutTests (.file content) (.file left)
  | folder {entries left : List (String × FileTree)} (h : AllLeaveOutTests entries left) :
    LeavesOutTests (.folder entries) (.folder left)

inductive AllLeaveOutTests : List (String × FileTree) → List (String × FileTree) → Prop
  | nil : AllLeaveOutTests [] []
  | cons {t u : FileTree} {entries left : List (String × FileTree)} (name : String)
    (h : LeavesOutTests t u) (hrest : AllLeaveOutTests entries left) :
    AllLeaveOutTests ((name, t) :: entries) ((name, u) :: left)

end

theorem AllLeaveOutTests.entryNamed? {entries left : List (String × FileTree)}
    (h : AllLeaveOutTests entries left) (name : String) :
    Option.Rel LeavesOutTests (entryNamed? name entries) (entryNamed? name left) := by
  induction entries generalizing left with
  | nil =>
    cases h
    exact .none
  | cons entry entries ih =>
    cases h with
    | cons other h hrest =>
      unfold FileTree.entryNamed?
      split
      · exact .some h
      · exact ih hrest

namespace LeavesOutTests

variable {t u : FileTree}

theorem get? (h : t.LeavesOutTests u) (path : List String) :
    Option.Rel LeavesOutTests (t.get? path) (u.get? path) := by
  induction path generalizing t u with
  | nil => exact .some h
  | cons name rest ih =>
    cases h with
    | file h => exact .none
    | @folder entries left h =>
      have hentry := h.entryNamed? name
      show Option.Rel LeavesOutTests ((FileTree.entryNamed? name entries).bind fun t => t.get? rest)
        ((FileTree.entryNamed? name left).bind fun u => u.get? rest)
      generalize FileTree.entryNamed? name entries = found at hentry ⊢
      generalize FileTree.entryNamed? name left = found' at hentry ⊢
      cases hentry with
      | none => exact .none
      | some h => exact ih h

theorem follow_eq (h : t.LeavesOutTests u) (seen names : List String) :
    t.follow seen names = u.follow seen names := by
  induction names generalizing seen with
  | nil => rfl
  | cons name rest ih =>
    have hseen := h.get? seen
    unfold follow
    generalize t.get? seen = found at hseen ⊢
    generalize u.get? seen = found' at hseen ⊢
    cases hseen with
    | none => rfl
    | some h =>
      cases h with
      | file h => rfl
      | folder h =>
        dsimp only
        rw [ih, ih, ih]

theorem locate_eq (h : t.LeavesOutTests u) (path : String) : t.locate path = u.locate path := by
  unfold locate
  rw [h.follow_eq]

theorem read_alike (h : t.LeavesOutTests u) (path : String) :
    EndsAlike ContentAlike (t.read path) (u.read path) := by
  unfold read find
  rw [h.locate_eq]
  cases u.locate path with
  | error trouble => exact .error trouble
  | ok names =>
    have hnames := h.get? names
    show EndsAlike ContentAlike (Except.bind _ _) (Except.bind _ _)
    dsimp only [bind, Except.bind]
    generalize t.get? names = found at hnames ⊢
    generalize u.get? names = found' at hnames ⊢
    cases hnames with
    | none => exact .error _
    | some h =>
      cases h with
      | file h => exact .ok h
      | folder h => exact .error _

theorem has_eq (h : t.LeavesOutTests u) : t.has = u.has := by
  funext path
  have hread := h.read_alike path
  unfold has
  generalize t.read path = found at hread ⊢
  generalize u.read path = found' at hread ⊢
  cases hread <;> rfl

mutual

theorem depth_eq : ∀ {t u : FileTree}, t.LeavesOutTests u → t.depth = u.depth
  | _, _, .file h => by rw [depth, depth]
  | _, _, .folder h => by rw [depth, depth, depths_eq h]

theorem depths_eq : ∀ {entries left : List (String × FileTree)}, AllLeaveOutTests entries left →
    depths entries = depths left
  | _, _, .nil => rfl
  | _, _, .cons name h hrest => by rw [depths, depths, depth_eq h, depths_eq hrest]

end

end LeavesOutTests

section Results

variable {α β γ δ : Type} {t u : FileTree}

theorem Reads.result_bind {action : Action α} (h : Reads action) (next : α → Action β)
    (t : FileTree) : t.result (action >>= next) =
      (t.result action).bind fun a => t.result (next a) := by
  unfold result
  rw [run_bind, h.run_eq]
  unfold result
  cases (action.run.run t).1 <;> rfl

/-- Actions that only read end alike if their first steps do and all that may come next. -/
theorem EndsAlike.bind {R : α → β → Prop} {S : γ → δ → Prop} {first : Action α}
    {other : Action β} {next : α → Action γ} {otherNext : β → Action δ} (hfirst : Reads first)
    (hother : Reads other) (h : EndsAlike R (t.result first) (u.result other))
    (hnext : ∀ a b, R a b → EndsAlike S (t.result (next a)) (u.result (otherNext b))) :
    EndsAlike S (t.result (first >>= next)) (u.result (other >>= otherNext)) := by
  rw [hfirst.result_bind, hother.result_bind]
  generalize t.result first = ended at h ⊢
  generalize u.result other = ended' at h ⊢
  cases h with
  | ok h => exact hnext _ _ h
  | error e => exact .error e

theorem EndsAlike.imp {ε : Type} {R S : α → β → Prop} {a : Except ε α} {b : Except ε β}
    (h : EndsAlike R a b) (hRS : ∀ a b, R a b → S a b) : EndsAlike S a b := by
  cases h with
  | ok h => exact .ok (hRS _ _ h)
  | error e => exact .error e

theorem EndsAlike.mapM {R : α → β → Prop} {S : γ → δ → Prop} {f : α → Action γ} {g : β → Action δ}
    (hf : ∀ a, Reads (f a)) (hg : ∀ b, Reads (g b))
    (h : ∀ a b, R a b → EndsAlike S (t.result (f a)) (u.result (g b))) {as : List α} {bs : List β}
    (hall : List.Forall₂ R as bs) :
    EndsAlike (List.Forall₂ S) (t.result (as.mapM f)) (u.result (bs.mapM g)) := by
  induction hall with
  | nil => exact .ok .nil
  | cons hab hrest ih =>
    rw [List.mapM_cons, List.mapM_cons]
    refine .bind (hf _) (hg _) (h _ _ hab) fun c d hcd => ?_
    exact .bind (.mapM hf _) (.mapM hg _) ih fun cs ds hcds => .ok (.cons hcd hcds)

end Results

end FileTree

/-- The same files, and modules that differ in the modules declared in them. -/
structure CrateSource.Alike (a b : CrateSource) : Prop where
  modules : a.modules.map SourceModule.bare = b.modules.map SourceModule.bare
  files : a.files = b.files

theorem CrateSource.Alike.join {as bs : List CrateSource}
    (h : List.Forall₂ CrateSource.Alike as bs) :
    CrateSource.Alike (.join as) (.join bs) := by
  induction h with
  | nil => exact ⟨rfl, rfl⟩
  | @cons a b as bs hab hrest ih =>
    have hmodules : (as.flatMap CrateSource.modules).map SourceModule.bare =
        (bs.flatMap CrateSource.modules).map SourceModule.bare := ih.modules
    have hfiles : as.flatMap CrateSource.files = bs.flatMap CrateSource.files := ih.files
    refine ⟨?_, ?_⟩
    · simp only [CrateSource.join, List.flatMap_cons, List.map_append, hab.modules, hmodules]
    · simp only [CrateSource.join, List.flatMap_cons, hab.files, hfiles]

namespace FileTree

variable {t u : FileTree}

theorem reads_loadPart (n : Nat) (folder : String) (part : Part) :
    Reads (storage.loadPart n folder part) := by
  cases part with
  | module inner => exact reads_pure _
  | file path folders name =>
    refine (reads_firstOf? _).bind fun found => ?_
    cases found with
    | some inner => exact reads_loadFile ..
    | none => exact reads_pure _

theorem result_sourceText (t : FileTree) (path : String) :
    t.result (storage.sourceText path) = match textOf (t.read path) with
      | .ok text => .ok text
      | .error trouble => .error (.storage path trouble) := by
  unfold result sourceText
  rw [run_bind, run_lift, run_readText]
  cases textOf (t.read path) <;> rfl

/-- The same text, or one with the items of the other without some modules for tests alone. -/
def TextAlike (text left : String) : Prop :=
  Option.Rel TestsLeftOut (itemsOfFile? text) (itemsOfFile? left)

theorem TextAlike.refl (text : String) : TextAlike text text := by
  unfold TextAlike
  cases itemsOfFile? text with
  | none => exact .none
  | some items => exact .some (.refl items)

theorem result_firstOf? (t : FileTree) (paths : List String) :
    t.result (liftM (storage.firstOf? paths)) = .ok (paths.find? t.has) := by
  unfold result
  rw [run_lift, run_firstOf?]

namespace LeavesOutTests

theorem firstOf? (h : t.LeavesOutTests u) (paths : List String) :
    EndsAlike Eq (t.result (liftM (storage.firstOf? paths)))
      (u.result (liftM (storage.firstOf? paths))) := by
  rw [result_firstOf?, result_firstOf?, h.has_eq]
  exact .ok rfl

theorem sourceText (h : t.LeavesOutTests u) (path : String) :
    EndsAlike TextAlike (t.result (storage.sourceText path))
      (u.result (storage.sourceText path)) := by
  have hread := h.read_alike path
  rw [result_sourceText, result_sourceText]
  generalize t.read path = found at hread ⊢
  generalize u.read path = found' at hread ⊢
  cases hread with
  | error trouble => exact .error _
  | ok hcontent =>
    cases hcontent with
    | same =>
      cases textOf (.ok _) with
      | error trouble => exact .error _
      | ok text => exact .ok (TextAlike.refl text)
    | text htext hleft h =>
      rw [textOf_eq_ok_iff.2 rfl, textOf_eq_ok_iff.2 rfl]
      refine .ok ?_
      unfold TextAlike
      rw [htext, hleft]
      exact .some h

theorem loadPart (h : t.LeavesOutTests u) {n : Nat}
    (hload : ∀ file home folder, EndsAlike CrateSource.Alike
      (t.result (storage.loadFile n file home folder))
      (u.result (storage.loadFile n file home folder)))
    (folder : String) (part other : Part) (hpart : part.Alike other) :
    EndsAlike CrateSource.Alike (t.result (storage.loadPart n folder part))
      (u.result (storage.loadPart n folder other)) := by
  cases hpart with
  | @module m m' h => exact .ok ⟨congrArg (fun m => [m]) h, rfl⟩
  | file path folders name =>
    refine .bind (reads_firstOf? _) (reads_firstOf? _) (h.firstOf? _) ?_
    rintro found _ rfl
    cases found with
    | some inner => exact hload inner path _
    | none => exact .ok ⟨rfl, rfl⟩

theorem loadFile (h : t.LeavesOutTests u) (n : Nat) (file home folder : String) :
    EndsAlike CrateSource.Alike (t.result (storage.loadFile n file home folder))
      (u.result (storage.loadFile n file home folder)) := by
  -- on how many files may still be opened below one another
  induction n generalizing file home folder with
  | zero => exact .ok ⟨rfl, rfl⟩
  | succ n ih =>
    rw [Storage.loadFile]
    refine .bind (reads_sourceText file) (reads_sourceText file) (h.sourceText file) ?_
    intro text left htext
    unfold TextAlike at htext
    generalize itemsOfFile? text = items? at htext ⊢
    generalize itemsOfFile? left = left? at htext ⊢
    cases htext with
    | none => exact .error _
    | @some items left hitems =>
      -- the modules that are kept are read one by one, in the same order on both sides
      have hreads := reads_loadPart n folder
      have hparts : List.Forall₂ Part.Alike (SourceModule.parts ⟨home, items⟩)
          (SourceModule.parts ⟨home, left⟩) :=
        .cons (.module (hitems.bare_eq home)) (hitems.ofItems home [])
      have hall : EndsAlike (List.Forall₂ CrateSource.Alike)
          (t.result ((SourceModule.parts ⟨home, items⟩).mapM (storage.loadPart n folder)))
          (u.result ((SourceModule.parts ⟨home, left⟩).mapM (storage.loadPart n folder))) :=
        .mapM hreads hreads (h.loadPart ih folder) hparts
      refine EndsAlike.bind (.mapM hreads _) (.mapM hreads _) hall ?_
      intro as bs hsources
      exact .ok (.join (.cons ⟨rfl, rfl⟩ hsources))

theorem loadCrate (h : t.LeavesOutTests u) (c : Config) (folder : String) :
    EndsAlike CrateSource.Alike (t.result (storage.loadCrate c folder))
      (u.result (storage.loadCrate c folder)) := by
  unfold Storage.loadCrate
  refine .bind (reads_firstOf? _) (reads_firstOf? _) (h.firstOf? _) ?_
  rintro found _ rfl
  cases found with
  | none => exact .error _
  | some file =>
    have hdepth : EndsAlike Eq (t.result (liftM storage.depth))
        (u.result (liftM storage.depth)) := .ok h.depth_eq
    refine EndsAlike.bind (reads_lift fun _ => rfl) (reads_lift fun _ => rfl) hdepth ?_
    rintro depth _ rfl
    exact h.loadFile (depth + 1) file c.crateName folder

end LeavesOutTests

end FileTree

theorem CrateSource.Alike.ofModules_eq {a b : CrateSource} (h : a.Alike b) (c : Config) :
    Snapshot.ofModules c a.modules = Snapshot.ofModules c b.modules := by
  rw [← SourceModule.ofModules_bare, h.modules, SourceModule.ofModules_bare]

namespace FileTree

/-- A crate loads the same without modules for tests alone and all that is below them, and does so
whether a module says that in front of it or at the front of its braces. What is said at the front
of a file has no part in its items. -/
theorem loadCrate_without_tests {t u : FileTree} (h : t.LeavesOutTests u) (c : Config)
    (folder : String) :
    EndsAlike (fun a b : CrateSource =>
        Snapshot.ofModules c a.modules = Snapshot.ofModules c b.modules ∧ a.files = b.files)
      (t.result (storage.loadCrate c folder)) (u.result (storage.loadCrate c folder)) ∧
    (∀ (g : Grammar) (start after : Cursor) (attributes : List Attribute) (name : String)
      (items? : Option (List Item)),
      g.itemOf start = some (.module attributes name items?, after) →
        g.ReadsModule start after attributes name items?) ∧
    (∀ (g : Grammar) (start behind : Cursor) (attributes : List Attribute),
      g.innerAttributes start = some (attributes, behind) →
        g.file start = Rule.whileSeen (fun ts => !isEnd ts) g.item behind) := by
  refine ⟨?_, ?_, ?_⟩
  · exact (h.loadCrate c folder).imp fun a b hab => ⟨hab.ofModules_eq c, hab.files⟩
  · exact fun g start after attributes name items? => Grammar.readsModule_of_itemOf
  · exact fun g start behind attributes hread => Rule.bind_of_eq hread _

/-- Where the structs of the crate in `src` stand, if it can be loaded. -/
def places? (t : FileTree) : Option (List (String × String)) :=
  (t.result (storage.loadCrate .standard "src")).toOption.map fun source =>
    (Snapshot.ofModules .standard source.modules).declarations.map Declaration.place

/-- A crate with a file for a module beside its first file. -/
def crateOf (text moduleText : String) : FileTree :=
  .folder [("src", .folder [("a.rs", .file moduleText.toUTF8), ("lib.rs", .file text.toUTF8)])]

def testText : String :=
  "#[cfg(test)]mod a;mod b\x7b#![cfg(test)]\x7dstruct C;"

def testItems : List Item :=
  [.module [.cfg [.ident "test"]] "a" none, .module [.cfg [.ident "test"]] "b" (some []),
    .struct ⟨[], "C", [], []⟩]

theorem leavesOutTests_crateOf :
    (crateOf testText "?").LeavesOutTests (crateOf "struct C;" "?") := by
  have htext : itemsOfFile? testText = some testItems := by decide +kernel
  have hleft : itemsOfFile? "struct C;" = some [.struct ⟨[], "C", [], []⟩] := by decide +kernel
  have hitems : TestsLeftOut testItems [.struct ⟨[], "C", [], []⟩] :=
    .leave "a" _ (by decide +kernel) (.leave "b" _ (by decide +kernel) (.keep _ .nil))
  exact .folder (.cons "src" (.folder (.cons "a.rs" (.file (.same _))
    (.cons "lib.rs" (.file (.text htext hleft hitems)) .nil))) .nil)

/-- `#![cfg(test)]` -/
def innerTest : List Token :=
  [.punct '#' false, .punct '!' false,
    .group .bracket [.ident "cfg", .group .parenthesis [.ident "test"]]]

theorem loadCrate_without_tests_crateOf :
    (∃ source, (crateOf testText "?").result (storage.loadCrate .standard "src") = .ok source ∧
      source.files = ["src/lib.rs"]) ∧
    (∃ after, (grammar 40).itemOf ⟨[.ident "mod", .ident "b", .group .brace innerTest], []⟩ =
        some (.module [.cfg [.ident "test"]] "b" (some []), after) ∧
      (grammar 40).ReadsModule ⟨[.ident "mod", .ident "b", .group .brace innerTest], []⟩ after
        [.cfg [.ident "test"]] "b" (some [])) ∧
    (∃ behind, (grammar 40).innerAttributes ⟨innerTest, []⟩ =
        some ([.cfg [.ident "test"]], behind) ∧
      (grammar 40).file ⟨innerTest, []⟩ =
        Rule.whileSeen (fun ts => !isEnd ts) (grammar 40).item behind) := by
  obtain ⟨hsame, hmodule, hfile⟩ :=
    loadCrate_without_tests leavesOutTests_crateOf .standard "src"
  refine ⟨?_, ⟨_, rfl, hmodule _ _ _ _ _ _ rfl⟩, ⟨_, rfl, hfile _ _ _ _ rfl⟩⟩
  have hleft : ((crateOf "struct C;" "?").result
      (storage.loadCrate .standard "src")).toOption.map CrateSource.files =
        some ["src/lib.rs"] := by decide +kernel
  generalize (crateOf "struct C;" "?").result _ = left at hsame hleft
  generalize (crateOf testText "?").result _ = whole at hsame ⊢
  cases hsame with
  | ok h => exact ⟨_, rfl, h.2.trans (Option.some.inj hleft)⟩
  | error e => cases hleft

/-- What a module says at the front of its own file does not leave it out. -/
theorem module_with_test_file_loaded :
    places? (crateOf "#[cfg(test)]mod a;" "struct A;") = some [] ∧
    places? (crateOf "mod a\x7b#![cfg(test)]struct A;\x7d" "") = some [] ∧
    places? (crateOf "mod a;" "#![cfg(test)]struct A;") = some [("crate::a", "A")] := by
  decide +kernel

end FileTree

end ViewCompanion
