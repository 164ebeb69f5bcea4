import ViewCompanion.Proofs.Source.ModuleName

namespace ViewCompanion.Source

def StructItem.deriveInput (item : StructItem) : DeriveInput :=
  ⟨true, !item.generics.isEmpty, item.fields⟩

def Item.IsNoStruct (item : Item) : Prop :=
  ∀ s, item ≠ .struct s

namespace Rule

variable {α β : Type} {p : Rule α} {a : α} {c c' : Cursor}

theorem bind_of_eq (h : p c = some (a, c')) (next : α → Rule β) :
    (p >>= next) c = next a c' := by
  show (p c).bind (fun found => next found.1 found.2) = next a c'
  rw [h]
  rfl

theorem exists_of_bind {next : α → Rule β} {b : β} (h : (p >>= next) c = some (b, c')) :
    ∃ a between, p c = some (a, between) ∧ next a between = some (b, c') := by
  obtain ⟨⟨a, between⟩, ha, hb⟩ := Option.bind_eq_some_iff.1 h
  exact ⟨a, between, ha, hb⟩

theorem word_of_isWord {w : String} {c : Cursor} (h : isWord w c.rest = true) :
    word w c = replace 1 [.ident w] c := by
  unfold word
  rw [bind_of_eq (rfl : sees (isWord w) c = some (isWord w c.rest, c)), if_pos h]

theorem anyName_of_isWord {w : String} {c : Cursor} (h : isWord w c.rest = true)
    (hw : Text.isName w = true) :
    ∃ c', replace 1 [.ident w] c = some ((), c') ∧ anyName c = some (w, c') := by
  match c, h with
  | ⟨.ident found :: more, out⟩, h =>
    obtain rfl : found = w := by simpa [isWord] using h
    refine ⟨_, rfl, ?_⟩
    unfold anyName
    rw [bind_of_eq (rfl : rest ⟨.ident found :: more, out⟩ = some (.ident found :: more, _))]
    dsimp only
    rw [if_pos hw]
    rfl

theorem op?_of_not_isOp {cs : List Char} (h : isOp cs c.rest = false) :
    op? cs c = some (false, c) := by
  unfold op?
  rw [bind_of_eq (rfl : sees (isOp cs) c = some (isOp cs c.rest, c)), h]
  rfl

theorem branch_of_ite {b : Prop} [Decidable b] {q : Rule α}
    (h : (if b then p else q) c = some (a, c')) :
    b ∧ p c = some (a, c') ∨ ¬ b ∧ q c = some (a, c') := by
  split at h
  · exact .inl ⟨‹b›, h⟩
  · exact .inr ⟨‹¬ b›, h⟩

/-- What a branch cannot read has come out of the other one. -/
theorem of_ite_of_not {Q : α → Prop} {b : Prop} [Decidable b] {q : Rule α} (hp : p.Yields Q)
    (ha : ¬ Q a) (h : (if b then p else q) c = some (a, c')) : q c = some (a, c') := by
  rcases branch_of_ite h with ⟨-, h⟩ | ⟨-, h⟩
  · exact absurd (hp _ _ _ h) ha
  · exact h

end Rule

namespace Grammar

open Rule

variable {g : Grammar} {c c' : Cursor} {item : StructItem}

theorem yields_moduleItem_isNoStruct (attributes : List Attribute) :
    (g.moduleItem attributes).Yields Item.IsNoStruct :=
  Yields.moduleItem (yields_true _) (fun _ _ _ _ _ => nofun) attributes

theorem yields_useItem : (g.useItem true >>= fun tree? => match tree? with
    | some tree => pure (.use tree)
    | none => pure .silent : Rule Item).Yields Item.IsLeaf := by
  apply yields_bind
  intro tree?
  cases tree? with
  | some tree => exact yields_pure ⟨nofun, nofun⟩
  | none => exact yields_pure ⟨nofun, nofun⟩

/-- Behind attributes and a visibility, two branches read what is a module or a struct. -/
theorem of_itemOf_of_not_isLeaf {item : Item} (hitem : ¬ item.IsLeaf)
    (h : g.itemOf c = some (item, c')) :
    ∃ attributes visible before start, g.outerAttributes c = some (attributes, before) ∧
      visibility before = some (visible, start) ∧
      (g.moduleItem attributes start = some (item, c') ∨
        isWord "struct" start.rest = true ∧ g.structItem attributes start = some (item, c')) := by
  obtain ⟨attributes, before, hattributes, h⟩ := exists_of_bind h
  obtain ⟨visible, start, hvisible, h⟩ := exists_of_bind h
  refine ⟨attributes, visible, before, start, hattributes, hvisible, ?_⟩
  obtain ⟨ts, start', hrest, h⟩ := exists_of_bind h
  cases hrest
  -- the branches in their order
  have h := of_ite_of_not (yields_silently _) hitem h
  have h := of_ite_of_not (yields_silently _) hitem h
  have h := of_ite_of_not (.ite yields_fail (yields_silently _)) hitem h
  have h := of_ite_of_not yields_useItem hitem h
  have h := of_ite_of_not (yields_silently _) hitem h
  have h := of_ite_of_not (yields_silently _) hitem h
  rcases branch_of_ite h with ⟨-, h⟩ | ⟨-, h⟩
  · exact .inl h
  have h := of_ite_of_not yields_aliasItem hitem h
  rcases branch_of_ite h with ⟨hword, h⟩ | ⟨-, h⟩
  · exact .inr ⟨hword, h⟩
  have h := of_ite_of_not yields_enumItem hitem h
  have h := of_ite_of_not yields_unionItem hitem h
  have h := of_ite_of_not yields_traitItem hitem h
  have h := of_ite_of_not (yields_implItem visible) hitem h
  have h := of_ite_of_not (yields_silently _) hitem h
  have h := of_ite_of_not (yields_silently _) hitem h
  cases h

theorem of_itemOf_struct (h : g.itemOf c = some (.struct item, c')) :
    ∃ attributes visible before start, g.outerAttributes c = some (attributes, before) ∧
      visibility before = some (visible, start) ∧ isWord "struct" start.rest = true ∧
      g.structItem attributes start = some (.struct item, c') := by
  obtain ⟨attributes, visible, before, start, hattributes, hvisible, h⟩ :=
    of_itemOf_of_not_isLeaf (fun hleaf => hleaf.2 _ rfl) h
  refine ⟨attributes, visible, before, start, hattributes, hvisible, ?_⟩
  rcases h with h | h
  · exact absurd rfl (yields_moduleItem_isNoStruct attributes _ _ _ h item)
  · exact h

/-- From the tokens of a struct item, a derive is given what the item says. -/
theorem deriveInput_of_itemOf (h : g.itemOf c = some (.struct item, c')) :
    g.deriveInput c = some (item.deriveInput, c') := by
  obtain ⟨attributes, visible, before, start, hattributes, hvisible, hword, h⟩ :=
    of_itemOf_struct h
  -- the derive takes any name where the item has its `struct`
  obtain ⟨named, hreplace, hany⟩ := anyName_of_isWord hword (by decide)
  obtain ⟨_, named', hstruct, h⟩ := exists_of_bind h
  rw [word_of_isWord hword, hreplace] at hstruct
  cases hstruct
  obtain ⟨n, afterName, hname, h⟩ := exists_of_bind h
  obtain ⟨parameters, afterGenerics, hgenerics, h⟩ := exists_of_bind h
  obtain ⟨fields, afterFields, hfields, h⟩ := exists_of_bind h
  cases h
  unfold deriveInput
  rw [bind_of_eq hattributes, bind_of_eq hvisible,
    bind_of_eq (rfl : rest start = some (start.rest, start)), bind_of_eq hany, bind_of_eq hname,
    bind_of_eq hgenerics, if_pos hword, bind_of_eq hfields]
  rfl

end Grammar

/-- The item has been read at some place, and a derive there is given `input`. -/
def StructItem.Derives (item : StructItem) (input : DeriveInput) : Prop :=
  ∃ (g : Grammar) (c c' : Cursor), g.itemOf c = some (.struct item, c') ∧
    g.deriveInput c = some (input, c')

theorem StructItem.Derives.eq {item : StructItem} {input : DeriveInput} (h : item.Derives input) :
    input = item.deriveInput := by
  obtain ⟨g, c, c', hitem, hinput⟩ := h
  rw [Grammar.deriveInput_of_itemOf hitem] at hinput
  cases hinput
  rfl

/-- A derive on any struct in the item, however deep, is given what the struct says. -/
inductive Item.IsDerivable : Item → Prop
  | struct {item : StructItem} (h : item.Derives item.deriveInput) : IsDerivable (.struct item)
  | module {attributes : List Attribute} {name : String} {items? : Option (List Item)}
      (inside : ∀ items ∈ items?, ∀ item ∈ items, IsDerivable item) :
      IsDerivable (.module attributes name items?)
  | leaf {item : Item} (h : item.IsLeaf) : IsDerivable item

theorem Item.IsDerivable.of_struct {item : StructItem} (h : (Item.struct item).IsDerivable) :
    item.Derives item.deriveInput := by
  cases h with
  | struct h => exact h
  | leaf h => exact absurd rfl (h.2 item)

theorem Item.IsDerivable.of_module {attributes : List Attribute} {name : String}
    {items : List Item} (h : (Item.module attributes name (some items)).IsDerivable) :
    ∀ item ∈ items, item.IsDerivable := by
  cases h with
  | module inside => exact inside items rfl
  | leaf h => exact absurd rfl (h.1 attributes name (some items))

namespace Grammar

open Rule

theorem yields_item_isDerivable (n : Nat) : (grammar n).item.Yields Item.IsDerivable := by
  induction n with
  | zero => exact yields_fail
  | succ n ih =>
    intro c item c' h
    -- a struct is given to the derive at the place where it is read
    by_cases hleaf : item.IsLeaf
    · exact .leaf hleaf
    obtain ⟨attributes, _, _, start, -, -, hread⟩ := of_itemOf_of_not_isLeaf hleaf h
    rcases hread with hread | ⟨-, hread⟩
    · exact Yields.moduleItem ih (fun _ _ _ _ => .module) attributes _ _ _ hread
    · obtain ⟨s, rfl⟩ := yields_structItem attributes _ _ _ hread
      exact .struct ⟨grammar n, c, c', h, deriveInput_of_itemOf h⟩

end Grammar

/-- All structs of a file are read by a derive as they are read by a run. -/
theorem isDerivable_of_itemsOfFile? {text : String} {items : List Item}
    (h : itemsOfFile? text = some items) : ∀ item ∈ items, item.IsDerivable := by
  obtain ⟨tokens, -, hread⟩ := Option.bind_eq_some_iff.1 h
  have hfile (n : Nat) : (grammar n).file.Yields fun items => ∀ item ∈ items, item.IsDerivable :=
    Rule.yields_bind fun _ => (Grammar.yields_item_isDerivable n).whileSeen
  exact (hfile _).readAll hread

end ViewCompanion.Source
