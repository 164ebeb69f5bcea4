import ViewCompanion.Proofs.Artifact.Content
import ViewCompanion.Proofs.Artifact.Path

namespace ViewCompanion

open QualifiedName (below?)

/-- The names in a type: its own and those in its arguments, however deep. -/
inductive ResolvedType.Mentions (name : QualifiedName) : ResolvedType → Prop
  | self (args : List ResolvedType) : Mentions name ⟨name, args⟩
  | argument {outer : QualifiedName} {args : List ResolvedType} {arg : ResolvedType}
    (hmem : arg ∈ args) (h : Mentions name arg) : Mentions name ⟨outer, args⟩

namespace Artifact

/-- A piece of a companion: words, the path of an item of the runtime, or that of a name in a
model. -/
inductive Part
  | words (text : String)
  | runtime (item : String)
  | model (name : QualifiedName)

namespace Part

def text (c : Config) : Part → String
  | words text => text
  | runtime item => c.runtimePath item
  | model name => QualifiedName.fromCrate c.crateName name

def chars (c : Config) (parts : List Part) : List Char :=
  parts.flatMap fun part => (part.text c).toList

@[simp] theorem chars_nil (c : Config) : chars c [] = [] := rfl

@[simp] theorem chars_cons (c : Config) (part : Part) (parts : List Part) :
    chars c (part :: parts) = (part.text c).toList ++ chars c parts :=
  List.flatMap_cons

@[simp] theorem chars_append (c : Config) (front back : List Part) :
    chars c (front ++ back) = chars c front ++ chars c back :=
  List.flatMap_append

def joined (mark : String) : List (List Part) → List Part
  | [] => []
  | [parts] => parts
  | parts :: next :: rest => parts ++ words mark :: joined mark (next :: rest)

theorem chars_joined (c : Config) (mark : String) (pieces : List (List Part)) :
    chars c (joined mark pieces) = Text.joinWith mark.toList (pieces.map (chars c)) := by
  induction pieces with
  | nil => rfl
  | cons parts rest ih =>
    cases rest with
    | nil => rfl
    | cons next rest =>
      rw [joined, chars_append, chars_cons, ih]
      simp only [List.map_cons, Text.joinWith, text, List.append_assoc]

/-- Joining adds nothing but the words between. -/
theorem mem_joined {mark : String} {pieces : List (List Part)} {part : Part}
    (hpart : part ≠ words mark) : part ∈ joined mark pieces ↔ ∃ parts ∈ pieces, part ∈ parts := by
  induction pieces with
  | nil => simp [joined]
  | cons parts rest ih =>
    cases rest with
    | nil => simp [joined]
    | cons next rest =>
      have hrest : part ∈ words mark :: joined mark (next :: rest) ↔
          ∃ parts ∈ next :: rest, part ∈ parts := by
        rw [List.mem_cons, or_iff_right hpart, ih]
      rw [joined, List.mem_append, hrest]
      exact (List.exists_mem_cons_iff (part ∈ ·) ..).symm

mutual

def ofType : ResolvedType → List Part
  | ⟨name, []⟩ => [model name]
  | ⟨name, a :: as⟩ => model name :: words "<" :: (ofType a ++ ofTypes as)

def ofTypes : List ResolvedType → List Part
  | [] => [words ">"]
  | a :: as => words ", " :: (ofType a ++ ofTypes as)

end

def ofItem (member : String) : List Part :=
  [words "                ", runtime "Component", words ("::from(self." ++ member ++ ".clone()),")]

def ofRow (group : RowGroup) : List Part :=
  [words "            ", runtime "Component", words "::ActionRow(", runtime "ActionRow",
    words "::new(::std::vec![\n"] ++ joined "\n" (group.members.map ofItem) ++
    [words "\n            ])),"]

def ofRows (groups : List RowGroup) : List Part :=
  if groups.isEmpty then [words emptyList]
  else words "::std::vec![\n" :: (joined "\n" (groups.map ofRow) ++ [words "\n        ]"])

def ofAccessor (name item : String) (body : List Part) : List Part :=
  [words ("    fn " ++ name ++ "(&self) -> ::std::vec::Vec<"), runtime item,
    words "> \x7b\n        "] ++ body ++ [words "\n    \x7d\n"]

def ofAccessors (c : Config) (name : String) (v : ClassifiedView) : List Part :=
  [words "impl ", runtime "ViewParts", words (" for " ++ name ++ " \x7b\n")] ++
    ofAccessor "stickers" "Snowflake"
      [words (memberList (c.wellKnown.snowflake != c.runtimeName "Snowflake") v.stickers)] ++
    words "\n" :: ofAccessor "embeds" "Embed"
      [words (memberList (c.wellKnown.embed != c.runtimeName "Embed") v.embeds)] ++
    words "\n" :: ofAccessor "components" "Component" (ofRows v.actionRows) ++
    [words "\x7d\n"]

def ofFactory (name : String) (model : ResolvedType) : List Part :=
  words ("impl " ++ name ++
      " \x7b\n    /// Build the view from its model.\n    pub fn create(vm: ") ::
    (ofType model ++
      words ") -> Self \x7b\n        <Self as ::std::convert::From<" :: (ofType model ++
        [words ">>::from(vm)\n    \x7d\n\x7d\n"]))

end Part

def parts (c : Config) (d : Declaration) (v : ClassifiedView) : List Part :=
  .words ("// @generated by porbeagle-codegen from `" ++ d.qualifiedName ++
      "`. Do not edit.\n\n") ::
    (Part.ofAccessors c d.name v ++
      v.model?.elim [] fun model => .words "\n" :: Part.ofFactory d.name model)

section Content

namespace Part

variable (c : Config)

mutual

theorem chars_ofType : ∀ t : ResolvedType, chars c (ofType t) = (t.source c.crateName).toList
  | ⟨name, []⟩ => List.append_nil _
  | ⟨name, a :: as⟩ => by
    rw [ofType, ResolvedType.source, chars_cons, chars_cons, chars_append, chars_ofType a,
      chars_ofTypes as]
    simp only [text, String.toList_append, List.append_assoc]

theorem chars_ofTypes : ∀ ts : List ResolvedType,
    chars c (ofTypes ts) = (ResolvedType.sourceRest c.crateName ts).toList
  | [] => List.append_nil _
  | a :: as => by
    rw [ofTypes, ResolvedType.sourceRest, chars_cons, chars_append, chars_ofType a,
      chars_ofTypes as]
    simp only [text, String.toList_append, List.append_assoc]

end

/-- Texts that are joined line by line stand for their pieces, joined in the same way. -/
theorem chars_joined_map {α : Type} {toParts : α → List Part} {toText : α → String}
    (h : ∀ x, chars c (toParts x) = (toText x).toList) (mark : String) (xs : List α) :
    chars c (joined mark (xs.map toParts)) = (Text.join mark (xs.map toText)).toList := by
  rw [chars_joined, Text.join, String.toList_ofList, List.map_map, List.map_map]
  exact congrArg _ (List.map_congr_left fun x _ => h x)

theorem chars_ofRow (group : RowGroup) : chars c (ofRow group) = (rowText c group).toList := by
  have hitem : ∀ member, chars c (ofItem member) =
      ("                " ++ c.runtimePath "Component" ++ "::from(self." ++ member ++
        ".clone()),").toList := by
    intro member
    unfold ofItem
    simp only [chars_cons, chars_nil, text, String.toList_append, List.append_assoc,
      List.append_nil]
  unfold ofRow rowText
  simp only [chars_append, chars_cons, chars_nil, chars_joined_map c hitem, text,
    String.toList_append, List.append_assoc, List.append_nil]

theorem chars_ofRows (groups : List RowGroup) :
    chars c (ofRows groups) = (rowList c groups).toList := by
  unfold ofRows rowList
  split
  · exact List.append_nil _
  · simp only [chars_append, chars_cons, chars_nil, chars_joined_map c (chars_ofRow c), text,
      String.toList_append, List.append_assoc, List.append_nil]

theorem chars_ofAccessor (name item : String) {body : List Part} {bodyText : String}
    (h : chars c body = bodyText.toList) :
    chars c (ofAccessor name item body) = (accessor c name item bodyText).toList := by
  unfold ofAccessor accessor
  simp only [chars_append, chars_cons, chars_nil, h, text, String.toList_append, List.append_assoc,
    List.append_nil]

theorem chars_ofAccessors (name : String) (v : ClassifiedView) :
    chars c (ofAccessors c name v) = (accessors c name v).toList := by
  have hwords : ∀ s, chars c [words s] = s.toList := fun s => List.append_nil _
  unfold ofAccessors accessors
  simp only [chars_append, chars_cons, chars_nil, chars_ofAccessor c _ _ (hwords _),
    chars_ofAccessor c _ _ (chars_ofRows c v.actionRows), text, String.toList_append,
    List.append_assoc, List.append_nil, List.nil_append, List.cons_append]

theorem chars_ofFactory (name : String) (model : ResolvedType) :
    chars c (ofFactory name model) = (factory c name model).toList := by
  unfold ofFactory factory
  simp only [chars_append, chars_cons, chars_nil, chars_ofType, text, String.toList_append,
    List.append_assoc, List.append_nil]

end Part

theorem chars_parts (c : Config) (d : Declaration) (v : ClassifiedView) :
    Part.chars c (parts c d v) = (ofView c d v).content.toList := by
  rw [toList_content, parts, Part.chars_cons, Part.chars_append, Part.chars_ofAccessors,
    List.append_assoc]
  cases v.model? with
  | none => rfl
  | some model =>
    rw [Option.elim_some, Option.elim_some, Part.chars_cons, Part.chars_ofFactory,
      String.toList_append (t := factory c d.name model)]
    rfl

end Content

section Occurrences

namespace Part

variable {name : QualifiedName} {item : String}

theorem mentions_iff {outer : QualifiedName} {args : List ResolvedType} :
    ResolvedType.Mentions name ⟨outer, args⟩ ↔
      name = outer ∨ ∃ arg ∈ args, arg.Mentions name := by
  constructor
  · rintro (_ | ⟨hmem, h⟩)
    · exact .inl rfl
    · exact .inr ⟨_, hmem, h⟩
  · rintro (rfl | ⟨arg, hmem, h⟩)
    · exact .self args
    · exact .argument hmem h

mutual

theorem model_mem_ofType : ∀ t : ResolvedType, model name ∈ ofType t ↔ t.Mentions name
  | ⟨outer, []⟩ => by
    simp [ofType, mentions_iff]
  | ⟨outer, a :: as⟩ => by
    rw [mentions_iff, List.exists_mem_cons_iff, ← model_mem_ofType a, ← model_mem_ofTypes as]
    simp [ofType]

theorem model_mem_ofTypes : ∀ ts : List ResolvedType,
    model name ∈ ofTypes ts ↔ ∃ t ∈ ts, t.Mentions name
  | [] => by simp [ofTypes]
  | a :: as => by
    rw [List.exists_mem_cons_iff, ← model_mem_ofType a, ← model_mem_ofTypes as]
    simp [ofTypes]

end

mutual

theorem runtime_not_mem_ofType : ∀ t : ResolvedType, runtime item ∉ ofType t
  | ⟨outer, []⟩ => by simp [ofType]
  | ⟨outer, a :: as⟩ => by
    simp [ofType, runtime_not_mem_ofType a, runtime_not_mem_ofTypes as]

theorem runtime_not_mem_ofTypes : ∀ ts : List ResolvedType, runtime item ∉ ofTypes ts
  | [] => by simp [ofTypes]
  | a :: as => by
    simp [ofTypes, runtime_not_mem_ofType a, runtime_not_mem_ofTypes as]

end

theorem model_not_mem_ofRows (name : QualifiedName) (groups : List RowGroup) :
    model name ∉ ofRows groups := by
  unfold ofRows
  split
  · simp
  · simp [mem_joined, ofRow, ofItem]

theorem runtime_mem_ofRow {group : RowGroup} :
    runtime item ∈ ofRow group ↔ item = "Component" ∨ item = "ActionRow" := by
  have hitems : runtime item ∈ joined "\n" (group.members.map ofItem) → item = "Component" := by
    intro h
    obtain ⟨parts, hparts, hmem⟩ := (mem_joined (by simp)).1 h
    obtain ⟨member, -, rfl⟩ := List.mem_map.1 hparts
    simpa [ofItem] using hmem
  unfold ofRow
  simp only [List.mem_append, List.mem_cons, List.not_mem_nil, reduceCtorEq, runtime.injEq,
    false_or, or_false]
  exact ⟨fun h => h.elim id fun h => .inl (hitems h), .inl⟩

theorem runtime_mem_ofRows {groups : List RowGroup} : runtime item ∈ ofRows groups ↔
    groups ≠ [] ∧ (item = "Component" ∨ item = "ActionRow") := by
  unfold ofRows
  cases groups with
  | nil => simp
  | cons first rest =>
    have hrows : runtime item ∈ joined "\n" (ofRow first :: rest.map ofRow) ↔
        item = "Component" ∨ item = "ActionRow" := by
      refine (mem_joined (by simp)).trans ⟨?_, ?_⟩
      · rintro ⟨parts, hparts, hmem⟩
        obtain ⟨group, -, rfl⟩ := List.mem_map.1 (List.map_cons.symm ▸ hparts)
        exact runtime_mem_ofRow.1 hmem
      · exact fun h => ⟨ofRow first, List.mem_cons_self, runtime_mem_ofRow.2 h⟩
    simp [hrows]

theorem model_not_mem_ofAccessors (name : QualifiedName) (c : Config) (self : String)
    (v : ClassifiedView) : model name ∉ ofAccessors c self v := by
  have hrows := model_not_mem_ofRows name v.actionRows
  unfold ofAccessors ofAccessor
  simp [hrows]

theorem runtime_mem_ofAccessors (c : Config) (self : String) (v : ClassifiedView) :
    runtime item ∈ ofAccessors c self v ↔
      item ∈ ["ViewParts", "Snowflake", "Embed", "Component"] ∨
        (v.actionRows ≠ [] ∧ item = "ActionRow") := by
  unfold ofAccessors ofAccessor
  simp only [List.mem_append, List.mem_cons, List.not_mem_nil, reduceCtorEq, runtime.injEq,
    runtime_mem_ofRows, false_or, or_false]
  grind

end Part

variable {c : Config} {d : Declaration} {v : ClassifiedView}

theorem model_mem_parts {name : QualifiedName} : .model name ∈ parts c d v ↔
    ∃ model, v.model? = some model ∧ model.Mentions name := by
  have haccessors := Part.model_not_mem_ofAccessors name c d.name v
  unfold parts
  cases v.model? with
  | none => simp [haccessors]
  | some model => simp [haccessors, Part.ofFactory, Part.model_mem_ofType]

theorem runtime_mem_parts {item : String} : .runtime item ∈ parts c d v ↔
    item ∈ ["ViewParts", "Snowflake", "Embed", "Component"] ∨
      (v.actionRows ≠ [] ∧ item = "ActionRow") := by
  rw [← Part.runtime_mem_ofAccessors c d.name v]
  unfold parts
  cases v.model? with
  | none => simp
  | some model => simp [Part.ofFactory, Part.runtime_not_mem_ofType]

end Occurrences

section Paths

variable {c : Config} {item : String} {rest : List Char}

/-- Inside the crate, a path of the runtime is written from `crate` only if the crate is called so:
otherwise its own name stays in the path. -/
theorem runtimePath_eq_iff (h : below? c.crateName (c.runtimeName item) = some rest) :
    c.runtimePath item = "crate" ++ String.ofList rest ↔ c.crateName = "crate" := by
  have hname : c.runtimeName item = c.crateName ++ String.ofList rest := by
    apply String.toList_injective
    rw [(QualifiedName.below?_eq_some_iff.1 h).1, String.toList_append, String.toList_ofList]
  unfold Config.runtimePath
  constructor
  · intro heq
    rcases QualifiedName.absolute_cases (c.runtimeName item) with hsame | hmark
    · rw [hsame, hname] at heq
      simpa using heq
    · -- behind the mark at its front the path does not even begin as `crate` does
      rw [hmark] at heq
      have hlist := congrArg String.toList heq
      simp at hlist
  · intro hcrate
    rw [hcrate] at h
    rw [QualifiedName.absolute_of_below (by decide) h, hname, hcrate]

theorem isWritten_runtimePath_iff (c : Config) (item : String) :
    QualifiedName.IsWritten c.crateName (c.runtimeName item) (c.runtimePath item) ↔
      c.crateName = "crate" ∨ below? c.crateName (c.runtimeName item) = none := by
  have hfrom := QualifiedName.isWritten_fromCrate c.crateName (c.runtimeName item)
  cases h : below? c.crateName (c.runtimeName item) with
  | none =>
    rw [QualifiedName.fromCrate_of_not_below h] at hfrom
    exact iff_of_true hfrom (.inr rfl)
  | some rest =>
    constructor
    · exact fun hwritten => .inl ((runtimePath_eq_iff h).1 (hwritten.inside rest h))
    · rintro (hcrate | hnone)
      · rwa [hfrom.inside rest h, ← (runtimePath_eq_iff h).2 hcrate] at hfrom
      · cases hnone

/-- The paths in a companion are those of the names in its model and those of the runtime items that
its accessors use. A name in the model is always written from `crate` if it lies in the crate; an
item of the runtime only in a crate called `crate`, and else with its full name behind `::`. -/
theorem paths_of_content (c : Config) (d : Declaration) (v : ClassifiedView) :
    ((ofView c d v).content.toList = (parts c d v).flatMap fun part => (part.text c).toList) ∧
    (∀ name, .model name ∈ parts c d v ↔
      ∃ model, v.model? = some model ∧ model.Mentions name) ∧
    (∀ item, .runtime item ∈ parts c d v ↔
      item ∈ ["ViewParts", "Snowflake", "Embed", "Component"] ∨
        (v.actionRows ≠ [] ∧ item = "ActionRow")) ∧
    (∀ name, QualifiedName.IsWritten c.crateName name ((Part.model name).text c)) ∧
    (∀ item, QualifiedName.IsWritten c.crateName (c.runtimeName item)
        ((Part.runtime item).text c) ↔
      c.crateName = "crate" ∨ below? c.crateName (c.runtimeName item) = none) ∧
    (∀ item first second segments, (∀ s ∈ first :: second :: segments, Text.IsSegment s) →
      first ∉ QualifiedName.relativeRoots →
      c.runtimeName item = QualifiedName.ofSegments (first :: second :: segments) →
      (Part.runtime item).text c = "::" ++ c.runtimeName item) := by
  refine ⟨(chars_parts c d v).symm, fun _ => model_mem_parts, fun _ => runtime_mem_parts,
    fun name => QualifiedName.isWritten_fromCrate c.crateName name,
    isWritten_runtimePath_iff c, ?_⟩
  intro item first second segments hsegments hroot hname
  rw [Part.text, Config.runtimePath, hname]
  exact QualifiedName.absolute_ofSegments hsegments hroot

/-- A crate called `bot` with a capability of its own. -/
def inBot : Config :=
  { Config.standard with
    crateName := "bot"
    wellKnown := { WellKnown.standard with capability := "bot::MessageView" } }

def card : Declaration where
  home := "bot"
  name := "Card"
  generics := []
  annotations := []
  members := []
  interfaces := []

/-- A view without members, with the model `Vec<bot::models::User>`. -/
def sortedCard : ClassifiedView where
  stickers := []
  embeds := []
  actionRows := []
  ignored := []
  binding := some ⟨none, some ⟨"std::vec::Vec", [.plain "bot::models::User"]⟩⟩

theorem paths_of_content_card :
    .model "bot::models::User" ∈ parts inBot card sortedCard ∧
    (Part.model "bot::models::User").text inBot = "crate" ++ "::models::User" ∧
    (Part.runtime "ViewParts").text inBot = "::" ++ "bot::ViewParts" := by
  obtain ⟨-, hmodel, -, hwritten, -, hruntime⟩ := paths_of_content inBot card sortedCard
  refine ⟨?_, ?_, ?_⟩
  · exact (hmodel _).2 ⟨_, rfl, .argument List.mem_cons_self (.self [])⟩
  · exact (hwritten _).inside "::models::User".toList rfl
  · exact hruntime "ViewParts" "bot" "ViewParts" [] (by decide) (by decide) rfl

/-- What stands next to the capability lies in the crate, and still the companion writes it with the
name of the crate, which is no name inside of it. -/
theorem runtime_of_named_crate :
    inBot.fault? = none ∧ .runtime "ViewParts" ∈ parts inBot card sortedCard ∧
    below? inBot.crateName (inBot.runtimeName "ViewParts") = some "::ViewParts".toList ∧
    (Part.runtime "ViewParts").text inBot = "::bot::ViewParts" ∧
    ¬ QualifiedName.IsWritten inBot.crateName (inBot.runtimeName "ViewParts")
      ((Part.runtime "ViewParts").text inBot) := by
  have hinside : below? inBot.crateName (inBot.runtimeName "ViewParts") =
      some "::ViewParts".toList := rfl
  refine ⟨rfl, runtime_mem_parts.2 (.inl (by decide)), hinside, rfl, fun h => ?_⟩
  rcases (isWritten_runtimePath_iff inBot "ViewParts").1 h with hcrate | hnone
  · exact absurd hcrate (by decide)
  · rw [hinside] at hnone
    cases hnone

end Paths

end Artifact

end ViewCompanion
