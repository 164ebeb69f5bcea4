import ViewCompanion.Proofs.Crate.Modules
import ViewCompanion.Proofs.Source.DeriveInput
import ViewCompanion.Source.Equality

namespace ViewCompanion

open Source

def Source.Attribute.cfg (ts : List Token) : Attribute :=
  ⟨⟨false, ["cfg"]⟩, .list ts⟩

/-- What can be asked of a build. -/
inductive Condition
  | name (path : NamePath)
  | pair (path : NamePath) (value : List Token)
  | all (parts : List Condition)
  | any (parts : List Condition)
  | not (part : Condition)
  | list (path : NamePath) (content : List Token)

/-- What holds in a build. -/
structure Assignment where
  name : NamePath → Bool
  pair : NamePath → List Token → Bool
  list : NamePath → List Token → Bool

def Assignment.IsNormal (σ : Assignment) : Prop :=
  σ.name ⟨false, ["test"]⟩ = false

namespace Condition

@[elab_as_elim]
theorem induct {motive : Condition → Prop} (name : ∀ path, motive (.name path))
    (pair : ∀ path value, motive (.pair path value))
    (all : ∀ parts, (∀ p ∈ parts, motive p) → motive (.all parts))
    (any : ∀ parts, (∀ p ∈ parts, motive p) → motive (.any parts))
    (not : ∀ part, motive part → motive (.not part))
    (list : ∀ path content, motive (.list path content)) (p : Condition) : motive p :=
  @Condition.rec motive (fun parts => ∀ p ∈ parts, motive p) name pair all any not list
    (List.forall_mem_nil _) (fun _ _ hp hparts => List.forall_mem_cons.2 ⟨hp, hparts⟩) p

section Meaning

variable (σ : Assignment)

mutual

def holds : Condition → Bool
  | .name path => σ.name path
  | .pair path value => σ.pair path value
  | .all parts => allHold parts
  | .any parts => anyHolds parts
  | .not part => !holds part
  | .list path content => σ.list path content

def allHold : List Condition → Bool
  | [] => true
  | p :: parts => holds p && allHold parts

def anyHolds : List Condition → Bool
  | [] => false
  | p :: parts => holds p || anyHolds parts

end

theorem allHold_eq_all (parts : List Condition) : allHold σ parts = parts.all (holds σ) := by
  induction parts with
  | nil => rfl
  | cons p parts ih => rw [allHold, List.all_cons, ih]

theorem anyHolds_eq_any (parts : List Condition) : anyHolds σ parts = parts.any (holds σ) := by
  induction parts with
  | nil => rfl
  | cons p parts ih => rw [anyHolds, List.any_cons, ih]

end Meaning

mutual

def requiresTest : Condition → Bool
  | .name path => path.isName "test"
  | .all parts => someRequires parts
  | .any parts => !parts.isEmpty && allRequire parts
  | _ => false

def someRequires : List Condition → Bool
  | [] => false
  | p :: parts => requiresTest p || someRequires parts

def allRequire : List Condition → Bool
  | [] => true
  | p :: parts => requiresTest p && allRequire parts

end

theorem someRequires_eq_any (parts : List Condition) :
    someRequires parts = parts.any requiresTest := by
  induction parts with
  | nil => rfl
  | cons p parts ih => rw [someRequires, List.any_cons, ih]

theorem allRequire_eq_all (parts : List Condition) :
    allRequire parts = parts.all requiresTest := by
  induction parts with
  | nil => rfl
  | cons p parts ih => rw [allRequire, List.all_cons, ih]

mutual

/-- Whether there are only names, pairs, `all` and `any` of something. -/
def isPositive : Condition → Bool
  | .name _ => true
  | .pair _ _ => true
  | .all parts => arePositive parts
  | .any parts => !parts.isEmpty && arePositive parts
  | _ => false

def arePositive : List Condition → Bool
  | [] => true
  | p :: parts => isPositive p && arePositive parts

end

theorem arePositive_eq_all (parts : List Condition) :
    arePositive parts = parts.all isPositive := by
  induction parts with
  | nil => rfl
  | cons p parts ih => rw [arePositive, List.all_cons, ih]

theorem eq_of_isName {path : NamePath} {name : String} (h : path.isName name = true) :
    path = ⟨false, [name]⟩ := by
  obtain ⟨absolute, names⟩ := path
  simpa [NamePath.isName] using h

/-- A condition that is taken to require tests holds in no other build. -/
theorem holds_eq_false {σ : Assignment} (hσ : σ.IsNormal) (p : Condition) :
    p.requiresTest = true → p.holds σ = false := by
  induction p using induct with
  | name path =>
    intro h
    rw [eq_of_isName h]
    exact hσ
  | all parts ih =>
    intro h
    rw [requiresTest, someRequires_eq_any, List.any_eq_true] at h
    obtain ⟨p, hp, h⟩ := h
    rw [holds, allHold_eq_all, List.all_eq_false]
    exact ⟨p, hp, by simp [ih p hp h]⟩
  | any parts ih =>
    intro h
    rw [requiresTest, allRequire_eq_all, Bool.and_eq_true, List.all_eq_true] at h
    rw [holds, anyHolds_eq_any, List.any_eq_false]
    intro p hp
    simp [ih p hp (h.2 p hp)]
  | pair _ _ | not _ _ | list _ _ => exact nofun

/-- The build in which everything holds but tests. -/
def everythingButTest : Assignment :=
  ⟨fun path => !path.isName "test", fun _ _ => true, fun _ _ => true⟩

/-- A condition of these forms that holds nowhere but in tests is taken to require them: otherwise
it holds where everything else does. -/
theorem holds_everythingButTest (p : Condition) :
    p.isPositive = true → p.requiresTest = false → p.holds everythingButTest = true := by
  induction p using induct with
  | name path =>
    intro _ h
    rw [requiresTest] at h
    simp [holds, everythingButTest, h]
  | pair path value => exact fun _ _ => rfl
  | all parts ih =>
    intro hpositive h
    rw [isPositive, arePositive_eq_all, List.all_eq_true] at hpositive
    rw [requiresTest, someRequires_eq_any, List.any_eq_false] at h
    rw [holds, allHold_eq_all, List.all_eq_true]
    exact fun p hp => ih p hp (hpositive p hp) (Bool.eq_false_iff.2 (h p hp))
  | any parts ih =>
    intro hpositive h
    rw [isPositive, arePositive_eq_all, Bool.and_eq_true, List.all_eq_true] at hpositive
    rw [requiresTest, hpositive.1, Bool.true_and, allRequire_eq_all, List.all_eq_false] at h
    obtain ⟨p, hp, h⟩ := h
    rw [holds, anyHolds_eq_any, List.any_eq_true]
    exact ⟨p, hp, ih p hp (hpositive.2 p hp) (Bool.eq_false_iff.2 h)⟩
  | not _ _ | list _ _ => exact nofun

theorem requiresTest_of_forall_holds_eq_false {p : Condition} (hp : p.isPositive = true)
    (h : ∀ σ : Assignment, σ.IsNormal → p.holds σ = false) : p.requiresTest = true := by
  by_contra hnot
  have hholds := p.holds_everythingButTest hp (Bool.eq_false_iff.2 hnot)
  rw [h everythingButTest rfl] at hholds
  cases hholds

/-- Whether the tokens end here or with a comma. -/
def endsItem (ts : List Token) : Bool :=
  isEnd ts || isOp [','] ts

/-- Tokens that are read as a path, whatever follows it. -/
def IsPath (path : NamePath) (ts : List Token) : Prop :=
  ∀ rest out, Grammar.isPathSep rest = false →
    ∃ out', Grammar.metaPath ⟨ts ++ rest, out⟩ = some (path, ⟨rest, out'⟩)

/-- Tokens that are read as a value, whatever stands behind a comma. -/
def IsValue (value : List Token) : Prop :=
  ∀ n rest out, 8 * Token.sizeOfAll value + 32 ≤ n → endsItem rest = true →
    ∃ v out', (grammar n).metaValue ⟨value ++ rest, out⟩ = some (v, ⟨rest, out'⟩)

mutual

/-- How a condition is written between the parentheses of an attribute or a list. -/
inductive IsWritten : Condition → List Token → Prop
  | name {path ts} (h : IsPath path ts) : IsWritten (.name path) ts
  | pair {path ts value} (joint : Bool) (h : IsPath path ts) (hvalue : IsValue value) :
    IsWritten (.pair path value) (ts ++ .punct '=' joint :: value)
  | all {ts parts content} (d : Delimiter) (h : IsPath ⟨false, ["all"]⟩ ts)
    (hparts : AreWritten parts content) : IsWritten (.all parts) (ts ++ [.group d content])
  | any {ts parts content} (d : Delimiter) (h : IsPath ⟨false, ["any"]⟩ ts)
    (hparts : AreWritten parts content) : IsWritten (.any parts) (ts ++ [.group d content])
  | not {ts part content} (d : Delimiter) (h : IsPath ⟨false, ["not"]⟩ ts)
    (hpart : AreWritten [part] content) : IsWritten (.not part) (ts ++ [.group d content])
  | list {path ts content} (d : Delimiter) (h : IsPath path ts)
    (hall : path.isName "all" = false) (hany : path.isName "any" = false) :
    IsWritten (.list path content) (ts ++ [.group d content])

/-- With commas between; one more may come last. -/
inductive AreWritten : List Condition → List Token → Prop
  | nil : AreWritten [] []
  | last {p ts} (h : IsWritten p ts) : AreWritten [p] ts
  | cons {p ts parts more} (joint : Bool) (h : IsWritten p ts) (hmore : AreWritten parts more) :
    AreWritten (p :: parts) (ts ++ .punct ',' joint :: more)

end

section Reading

open Rule Grammar

variable {g : Grammar} {c c' : Cursor}

theorem word?_of_not_isWord {w : String} (h : isWord w c.rest = false) :
    word? w c = some (false, c) := by
  unfold word?
  rw [bind_of_eq (rfl : sees (isWord w) c = some (isWord w c.rest, c)), h]
  rfl

theorem eq_of_endsItem {ts : List Token} (h : endsItem ts = true) :
    ts = [] ∨ ∃ joint more, ts = .punct ',' joint :: more := by
  match ts, h with
  | [], _ => exact .inl rfl
  | .punct d joint :: more, h =>
    obtain rfl : ',' = d := by simpa [endsItem, isEnd, isOp] using h
    exact .inr ⟨joint, more, rfl⟩

theorem isPath_of_isName {name : String} (hname : Text.isName name = true)
    (hpath : isPathName [.ident name] = true) : IsPath ⟨false, [name]⟩ [.ident name] := by
  intro rest out hrest
  have hunsafe : isWord "unsafe" (.ident name :: rest) = false := by
    refine beq_eq_false_iff_ne.2 ?_
    rintro rfl
    revert hpath
    decide
  have hany : anyName ⟨.ident name :: rest, out⟩ = some (name, ⟨rest, .ident name :: out⟩) := by
    unfold anyName
    rw [bind_of_eq (rfl : Rule.rest ⟨.ident name :: rest, out⟩ = some (.ident name :: rest, _))]
    dsimp only
    rw [if_pos hname]
    rfl
  have hnames : modNames (rest.length + 2) ⟨.ident name :: rest, out⟩ =
      some ([name], ⟨rest, .ident name :: out⟩) := by
    have hsees : sees isPathName ⟨.ident name :: rest, out⟩ =
        some (true, ⟨.ident name :: rest, out⟩) := congrArg (fun seen => some (seen, _)) hpath
    unfold modNames
    rw [bind_of_eq hsees, if_pos rfl, bind_of_eq hany,
      bind_of_eq (op?_of_not_isOp (c := ⟨rest, _⟩) hrest)]
    rfl
  refine ⟨.ident name :: out, ?_⟩
  unfold metaPath
  rw [List.singleton_append, bind_of_eq (word?_of_not_isWord hunsafe), if_neg (by decide)]
  unfold modPath
  rw [bind_of_eq (op?_of_not_isOp rfl)]
  have hcounted : counted modNames ⟨.ident name :: rest, out⟩ =
      some ([name], ⟨rest, .ident name :: out⟩) := hnames
  rw [bind_of_eq hcounted]
  rfl

theorem isValue_literal (text : String) : IsValue [.literal text] := by
  intro n rest out hn hrest
  obtain ⟨n, rfl⟩ : ∃ m, n = m + 3 := ⟨n - 3, by omega⟩
  refine ⟨.literal (.ofText text), .literal text :: out, ?_⟩
  obtain rfl | ⟨joint, more, rfl⟩ := eq_of_endsItem hrest <;> rfl

theorem not_isPathSep_of_endsItem {ts : List Token} (h : endsItem ts = true) :
    isPathSep ts = false := by
  obtain rfl | ⟨joint, more, rfl⟩ := eq_of_endsItem h <;> rfl

theorem ne_nil_of_isPath {path : NamePath} {ts : List Token} (h : IsPath path ts) : ts ≠ [] := by
  rintro rfl
  obtain ⟨out', hread⟩ := h [] [] rfl
  cases hread

theorem metaItem_group {path : NamePath} {d : Delimiter} {content more : List Token}
    (h : metaPath c = some (path, c')) (hgroup : c'.rest = .group d content :: more) :
    g.metaItem c = some (⟨path, .list content⟩, ⟨more, .group d content :: c'.out⟩) := by
  unfold metaItem
  rw [bind_of_eq h]
  obtain ⟨_, out⟩ := c'
  cases hgroup
  rfl

theorem metaItem_word {path : NamePath} (h : metaPath c = some (path, c'))
    (hends : endsItem c'.rest = true) : g.metaItem c = some (⟨path, .word⟩, c') := by
  unfold metaItem
  rw [bind_of_eq h]
  obtain ⟨_, out⟩ := c'
  obtain rfl | ⟨joint, more, rfl⟩ := eq_of_endsItem hends <;> rfl

theorem metaItem_value {path : NamePath} {v : ValueExpr} {joint : Bool} {more : List Token}
    {c'' : Cursor} (h : metaPath c = some (path, c')) (hrest : c'.rest = .punct '=' joint :: more)
    (hvalue : g.metaValue ⟨more, .punct '=' false :: c'.out⟩ = some (v, c'')) :
    g.metaItem c = some (⟨path, .value v⟩, c'') := by
  unfold metaItem
  rw [bind_of_eq h]
  obtain ⟨_, out⟩ := c'
  cases hrest
  exact bind_of_eq hvalue fun v => (pure ⟨path, .value v⟩ : Rule Attribute)

theorem readAll_of_eq {α : Type} {p : Rule α} {a : α} {ts out : List Token}
    (h : p ⟨ts, []⟩ = some (a, ⟨[], out⟩)) : readAll p ts = some a := by
  unfold readAll
  rw [h]

theorem separatedFor_of_isEnd {α : Type} {p : Rule α} (n : Nat) (h : isEnd c.rest = true) :
    separatedFor isEnd p (n + 1) c = some ([], c) := by
  unfold separatedFor
  rw [bind_of_eq (rfl : sees isEnd c = some (isEnd c.rest, c)), h]
  rfl

theorem separatedFor_last {α : Type} {p : Rule α} {a : α} (n : Nat) (hstart : isEnd c.rest = false)
    (h : p c = some (a, c')) (hend : isEnd c'.rest = true) :
    separatedFor isEnd p (n + 1) c = some ([a], c') := by
  unfold separatedFor
  rw [bind_of_eq (rfl : sees isEnd c = some (isEnd c.rest, c)), hstart, if_neg (by decide),
    bind_of_eq h, bind_of_eq (rfl : sees isEnd c' = some (isEnd c'.rest, c')), hend]
  rfl

theorem separatedFor_cons {α : Type} {p : Rule α} {a : α} {more : List α} {n : Nat} {joint : Bool}
    {ts out : List Token} {c'' : Cursor} (hstart : isEnd c.rest = false)
    (h : p c = some (a, ⟨.punct ',' joint :: ts, out⟩))
    (hmore : separatedFor isEnd p n ⟨ts, .punct ',' false :: out⟩ = some (more, c'')) :
    separatedFor isEnd p (n + 1) c = some (a :: more, c'') := by
  unfold separatedFor
  rw [bind_of_eq (rfl : sees isEnd c = some (isEnd c.rest, c)), hstart, if_neg (by decide),
    bind_of_eq h]
  exact bind_of_eq hmore fun more => pure (a :: more)

end Reading

section Written

open Rule

variable {p : Condition} {parts : List Condition} {path : NamePath} {d : Delimiter} {joint : Bool}
  {ts value more content : List Token}

theorem sizeOfAll_append (ts more : List Token) :
    Token.sizeOfAll (ts ++ more) = Token.sizeOfAll ts + Token.sizeOfAll more := by
  induction ts with
  | nil => simp [Token.sizeOfAll]
  | cons t ts ih => rw [List.cons_append, Token.sizeOfAll, Token.sizeOfAll, ih, Nat.add_assoc]

/-- The tokens are read as an attribute that requires tests if the condition does, for all the depth
that they can have. -/
structure Reads (p : Condition) (ts : List Token) : Prop where
  ne_nil : ts ≠ []
  item : ∀ n rest out, 8 * Token.sizeOfAll ts + 32 ≤ n → endsItem rest = true →
    ∃ a out', (grammar n).metaItem ⟨ts ++ rest, out⟩ = some (a, ⟨rest, out'⟩) ∧
      ∀ depth, Token.sizeOfAll ts ≤ depth → a.requiresTest (depth + 1) = p.requiresTest

def AllRead (parts : List Condition) (ts : List Token) : Prop :=
  ∀ n k out, 8 * Token.sizeOfAll ts + 32 ≤ n → ts.length < k →
    ∃ as out', separatedFor isEnd (grammar n).metaItem k ⟨ts, out⟩ = some (as, ⟨[], out'⟩) ∧
      ∀ depth, Token.sizeOfAll ts ≤ depth →
        as.map (Attribute.requiresTest (depth + 1)) = parts.map requiresTest

theorem reads_name (h : IsPath path ts) : Reads (.name path) ts where
  ne_nil := ne_nil_of_isPath h
  item n rest out hn hrest := by
    obtain ⟨out', hpath⟩ := h rest out (not_isPathSep_of_endsItem hrest)
    exact ⟨⟨path, .word⟩, out', metaItem_word hpath hrest, fun _ _ => rfl⟩

theorem reads_pair (h : IsPath path ts) (hvalue : IsValue value) :
    Reads (.pair path value) (ts ++ .punct '=' joint :: value) where
  ne_nil := by simp
  item n rest out hn hrest := by
    rw [sizeOfAll_append, Token.sizeOfAll] at hn
    obtain ⟨out', hpath⟩ := h (.punct '=' joint :: (value ++ rest)) out rfl
    obtain ⟨v, last, hv⟩ := hvalue n rest (.punct '=' false :: out') (by omega) hrest
    rw [List.append_assoc]
    exact ⟨⟨path, .value v⟩, last, metaItem_value hpath rfl hv, fun _ _ => rfl⟩

theorem reads_group (h : IsPath path ts)
    (hrequires : ∀ depth, Token.sizeOfAll content < depth →
      Attribute.requiresTest (depth + 1) ⟨path, .list content⟩ = p.requiresTest) :
    Reads p (ts ++ [.group d content]) where
  ne_nil := by simp
  item n rest out hn hrest := by
    obtain ⟨out', hpath⟩ := h (.group d content :: rest) out rfl
    rw [List.append_assoc]
    refine ⟨_, _, metaItem_group hpath rfl, fun depth hdepth => ?_⟩
    rw [sizeOfAll_append, Token.sizeOfAll, Token.size] at hdepth
    exact hrequires depth (by omega)

theorem AllRead.requiresTest_list (h : AllRead parts content) (path : NamePath) {depth : Nat}
    (hdepth : Token.sizeOfAll content < depth) :
    Attribute.requiresTest (depth + 1) ⟨path, .list content⟩ =
      if path.isName "all" then someRequires parts
      else if path.isName "any" then !parts.isEmpty && allRequire parts else false := by
  obtain ⟨as, out', hlist, hrequires⟩ := h _ (content.length + 1) [] (Nat.le_refl _) (by omega)
  have hread : metasOf? content = some as :=
    readAll_of_eq (p := commaList (grammar (8 * Token.sizeOfAll content + 32)).metaItem) hlist
  -- the parts are one level below the list
  obtain ⟨below, rfl⟩ : ∃ m, depth = m + 1 := ⟨depth - 1, by omega⟩
  have hmap := hrequires below (by omega)
  generalize hrequiresTest : Attribute.requiresTest (below + 1) = requires at hmap
  have hempty : as.isEmpty = parts.isEmpty := by
    rw [← List.isEmpty_map (f := requires), hmap, List.isEmpty_map]
  have hany : as.any requires = someRequires parts := by
    rw [someRequires_eq_any, ← Function.id_comp requires, ← List.any_map, hmap, List.any_map,
      Function.id_comp]
  have hall : as.all requires = allRequire parts := by
    rw [allRequire_eq_all, ← Function.id_comp requires, ← List.all_map, hmap, List.all_map,
      Function.id_comp]
  rw [Attribute.requiresTest, hrequiresTest]
  dsimp only
  rw [hread]
  dsimp only
  rw [hany, hall, hempty]

theorem reads_list (h : IsPath path ts) (hall : path.isName "all" = false)
    (hany : path.isName "any" = false) : Reads (.list path content) (ts ++ [.group d content]) := by
  refine reads_group h fun depth hdepth => ?_
  rw [Attribute.requiresTest]
  dsimp only
  rw [hall, hany]
  cases metasOf? content <;> rfl

theorem allRead_nil : AllRead [] [] := by
  intro n k out hn hk
  obtain ⟨k, rfl⟩ : ∃ m, k = m + 1 := ⟨k - 1, by omega⟩
  exact ⟨[], out, separatedFor_of_isEnd k rfl, fun _ _ => rfl⟩

theorem allRead_last (h : Reads p ts) : AllRead [p] ts := by
  intro n k out hn hk
  obtain ⟨k, rfl⟩ : ∃ m, k = m + 1 := ⟨k - 1, by omega⟩
  obtain ⟨a, out', hread, hrequires⟩ := h.item n [] out hn rfl
  rw [List.append_nil] at hread
  have hstart : isEnd ts = false := List.isEmpty_eq_false_iff.2 h.ne_nil
  refine ⟨[a], out', separatedFor_last k hstart hread rfl, fun depth hdepth => ?_⟩
  rw [List.map_singleton, List.map_singleton, hrequires depth hdepth]

theorem allRead_cons (h : Reads p ts) (hmore : AllRead parts more) :
    AllRead (p :: parts) (ts ++ .punct ',' joint :: more) := by
  intro n k out hn hk
  obtain ⟨k, rfl⟩ : ∃ m, k = m + 1 := ⟨k - 1, by omega⟩
  rw [sizeOfAll_append, Token.sizeOfAll] at hn
  rw [List.length_append, List.length_cons] at hk
  obtain ⟨a, between, hread, hrequires⟩ :=
    h.item n (.punct ',' joint :: more) out (by omega) rfl
  obtain ⟨as, out', hlist, hall⟩ :=
    hmore n k (.punct ',' false :: between) (by omega) (by omega)
  have hstart : isEnd (ts ++ .punct ',' joint :: more) = false := by
    simp [isEnd]
  refine ⟨a :: as, out', separatedFor_cons hstart hread hlist, fun depth hdepth => ?_⟩
  rw [sizeOfAll_append, Token.sizeOfAll] at hdepth
  rw [List.map_cons, List.map_cons, hrequires depth (by omega), hall depth (by omega)]

theorem IsWritten.reads (h : IsWritten p ts) : Reads p ts :=
  @IsWritten.rec (fun p ts _ => Reads p ts) (fun parts ts _ => AllRead parts ts)
    (fun h => reads_name h) (fun _ h hvalue => reads_pair h hvalue)
    (fun _ h _ hparts => reads_group h fun _ => hparts.requiresTest_list _)
    (fun _ h _ hparts => reads_group h fun _ => hparts.requiresTest_list _)
    (fun _ h _ hpart => reads_group h fun _ => hpart.requiresTest_list _)
    (fun _ h hall hany => reads_list h hall hany)
    allRead_nil (fun _ h => allRead_last h) (fun _ _ _ h hmore => allRead_cons h hmore) p ts h

/-- An attribute with a condition keeps an item for tests if the condition requires them. -/
theorem IsWritten.isTestOnly_eq (h : IsWritten p ts) :
    (Attribute.cfg ts).isTestOnly = p.requiresTest := by
  obtain ⟨a, out', hread, hrequires⟩ := h.reads.item _ [] [] (Nat.le_refl _) rfl
  rw [List.append_nil] at hread
  have hmeta : metaOf? ts = some a :=
    readAll_of_eq (p := (grammar (8 * Token.sizeOfAll ts + 32)).metaItem) hread
  unfold Attribute.cfg Attribute.isTestOnly
  dsimp only
  rw [hmeta]
  exact hrequires _ (Nat.le_refl _)

end Written

end Condition

/-- The conditions among some attributes hold. -/
def Assignment.Allows (σ : Assignment) (attributes : List Attribute) : Prop :=
  ∀ a ∈ attributes, a.path.isName "cfg" = true →
    ∃ (p : Condition) (ts : List Token), a = .cfg ts ∧ p.IsWritten ts ∧ p.holds σ = true

namespace Part

variable {p : Condition} {ts : List Token} (home : String) (folders : List String) (name : String)
  (items? : Option (List Item)) (attributes : List Attribute)

theorem ofItem_module_eq_nil_iff :
    ofItem home folders (.module attributes name items?) = [] ↔
      ∃ a ∈ attributes, a.isTestOnly = true := by
  rw [← List.any_eq_true]
  constructor
  · intro hnone
    by_contra hany
    have hfollowed : (Item.module attributes name items?).isFollowed = true := by
      simpa [Item.isFollowed] using hany
    cases items? with
    | none =>
      rw [ofItem_file hfollowed] at hnone
      cases hnone
    | some items =>
      rw [ofItem_body hfollowed] at hnone
      cases hnone
  · intro hany
    exact ofItem_of_not_followed (by simp [Item.isFollowed, hany])

/-- A module that is left out for a condition is in tests only: no other build that allows it is
without its part. In return every module is left out whose condition holds in tests only, if the
condition has no `not` and no unknown list. -/
theorem left_out_in_tests_only (h : p.IsWritten ts) :
    ((Attribute.cfg ts).isTestOnly = true →
      ∀ σ : Assignment, σ.IsNormal → p.holds σ = false) ∧
    (∀ σ : Assignment, σ.IsNormal → σ.Allows attributes →
      ofItem home folders (.module attributes name items?) ≠ []) ∧
    (p.isPositive = true → (∀ σ : Assignment, σ.IsNormal → p.holds σ = false) →
      (Attribute.cfg ts).isTestOnly = true ∧ (Attribute.cfg ts ∈ attributes →
        ofItem home folders (.module attributes name items?) = [])) := by
  refine ⟨?_, ?_, ?_⟩
  · intro htest σ hσ
    rw [h.isTestOnly_eq] at htest
    exact p.holds_eq_false hσ htest
  · intro σ hσ hallows hnone
    obtain ⟨a, ha, htest⟩ := (ofItem_module_eq_nil_iff ..).1 hnone
    obtain ⟨q, tokens, rfl, hq, hholds⟩ := hallows a ha (Bool.and_eq_true_iff.1 htest).1
    rw [hq.isTestOnly_eq] at htest
    rw [q.holds_eq_false hσ htest] at hholds
    cases hholds
  · intro hp hfalse
    have htest : (Attribute.cfg ts).isTestOnly = true := by
      rw [h.isTestOnly_eq]
      exact Condition.requiresTest_of_forall_holds_eq_false hp hfalse
    exact ⟨htest, fun hmem => (ofItem_module_eq_nil_iff ..).2 ⟨_, hmem, htest⟩⟩

/-- `all(test,a="b")` -/
def testAndPair : Condition :=
  .all [.name ⟨false, ["test"]⟩, .pair ⟨false, ["a"]⟩ [.literal "\"b\""]]

def testAndPairTokens : List Token :=
  [.ident "all", .group .parenthesis
    [.ident "test", .punct ',' false, .ident "a", .punct '=' false, .literal "\"b\""]]

/-- `any(test,a,)` -/
def testOrName : Condition :=
  .any [.name ⟨false, ["test"]⟩, .name ⟨false, ["a"]⟩]

def testOrNameTokens : List Token :=
  [.ident "any", .group .parenthesis
    [.ident "test", .punct ',' false, .ident "a", .punct ',' false]]

theorem isWritten_testAndPair : testAndPair.IsWritten testAndPairTokens :=
  have hname {name : String} := @Condition.isPath_of_isName name
  .all .parenthesis (hname (by decide) (by decide))
    (.cons false (.name (hname (by decide) (by decide)))
      (.last (.pair false (hname (by decide) (by decide)) (Condition.isValue_literal _))))

theorem isWritten_testOrName : testOrName.IsWritten testOrNameTokens :=
  have hname {name : String} := @Condition.isPath_of_isName name
  .any .parenthesis (hname (by decide) (by decide))
    (.cons false (.name (hname (by decide) (by decide)))
      (.cons false (.name (hname (by decide) (by decide))) .nil))

theorem left_out_in_tests_only_text :
    attributesOfText? "#[cfg(all(test,a=\"b\"))]" = some [.cfg testAndPairTokens] ∧
    attributesOfText? "#[cfg(any(test,a,))]" = some [.cfg testOrNameTokens] ∧
    (∀ σ : Assignment, σ.IsNormal → testAndPair.holds σ = false) ∧
    ofItem "crate" [] (.module [.cfg testAndPairTokens] "m" none) = [] ∧
    ofItem "crate" [] (.module [.cfg testOrNameTokens] "m" none) ≠ [] := by
  obtain ⟨hsound, -, hcomplete⟩ :=
    left_out_in_tests_only "crate" [] "m" none [.cfg testAndPairTokens] isWritten_testAndPair
  obtain ⟨-, hallowed, -⟩ :=
    left_out_in_tests_only "crate" [] "m" none [.cfg testOrNameTokens] isWritten_testOrName
  obtain ⟨htest, hleft⟩ := hcomplete rfl fun σ hσ => testAndPair.holds_eq_false hσ rfl
  refine ⟨by decide +kernel, by decide +kernel, hsound htest, hleft (List.mem_singleton_self _), ?_⟩
  refine hallowed Condition.everythingButTest rfl fun a ha _ => ?_
  exact ⟨testOrName, testOrNameTokens, List.mem_singleton.1 ha, isWritten_testOrName, rfl⟩

end Part

end ViewCompanion
