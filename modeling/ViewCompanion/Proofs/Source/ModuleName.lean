import ViewCompanion.Proofs.Name
import ViewCompanion.Proofs.Storage.Path
import ViewCompanion.Source.Grammar

namespace ViewCompanion

open Source Storage

/-- All modules that the item declares are named by identifiers, and all inside them. -/
inductive Source.Item.IsWellNamed : Item → Prop
  | module {attributes : List Attribute} {name : String} {items? : Option (List Item)}
      (hname : Text.IsName name) (inside : ∀ items ∈ items?, ∀ item ∈ items, IsWellNamed item) :
      IsWellNamed (.module attributes name items?)
  | other {item : Item} (h : ∀ attributes name items?, item ≠ .module attributes name items?) :
      IsWellNamed item

theorem Source.Item.IsWellNamed.of_module {attributes : List Attribute} {name : String}
    {items? : Option (List Item)} (h : (Item.module attributes name items?).IsWellNamed) :
    Text.IsName name ∧ ∀ items ∈ items?, ∀ item ∈ items, item.IsWellNamed := by
  cases h with
  | module hname hinside => exact ⟨hname, hinside⟩
  | other h => exact absurd rfl (h attributes name items?)

/-- The item is neither a module nor a struct. -/
def Source.Item.IsLeaf (item : Item) : Prop :=
  (∀ attributes name items?, item ≠ .module attributes name items?) ∧ ∀ s, item ≠ .struct s

theorem Source.Item.IsLeaf.isWellNamed {item : Item} (h : item.IsLeaf) : item.IsWellNamed :=
  .other h.1

namespace Source.Rule

variable {α β : Type} {p : Rule α} {P Q : α → Prop} {R : β → Prop}

/-- Whatever the rule reads, `Q` holds of it. -/
def Yields (p : Rule α) (Q : α → Prop) : Prop :=
  ∀ c a c', p c = some (a, c') → Q a

theorem yields_true (p : Rule α) : p.Yields fun _ => True :=
  fun _ _ _ _ => trivial

theorem yields_fail : (fail : Rule α).Yields Q :=
  fun _ _ _ h => nomatch h

theorem yields_pure {a : α} (h : Q a) : (pure a : Rule α).Yields Q := by
  rintro c b c' hb
  cases hb
  exact h

theorem Yields.imp (hp : p.Yields P) (h : ∀ a, P a → Q a) : p.Yields Q :=
  fun c a c' hread => h a (hp c a c' hread)

theorem Yields.bind {next : α → Rule β} (hp : p.Yields P)
    (hnext : ∀ a, P a → (next a).Yields R) : (p >>= next).Yields R := by
  intro c b c' h
  obtain ⟨⟨a, between⟩, ha, hb⟩ := Option.bind_eq_some_iff.1 h
  exact hnext a (hp c a between ha) between b c' hb

/-- What a rule reads depends on its last step, whatever the steps before it read. -/
theorem yields_bind {next : α → Rule β} (hnext : ∀ a, (next a).Yields R) : (p >>= next).Yields R :=
  (yields_true p).bind fun a _ => hnext a

theorem Yields.ite {q : Rule α} {b : Prop} [Decidable b] (hp : p.Yields Q) (hq : q.Yields Q) :
    (if b then p else q).Yields Q := by
  split
  · exact hp
  · exact hq

theorem Yields.group {d : Delimiter} (hp : p.Yields Q) : (group d p).Yields Q := by
  intro c a c' h
  unfold Rule.group at h
  split at h
  · split at h
    · split at h
      · rename_i hread
        cases h
        exact hp _ _ _ hread
      · cases h
    · cases h
  · cases h

theorem Yields.whileSeen {go : List Token → Bool} (hp : p.Yields Q) :
    (whileSeen go p).Yields fun found => ∀ a ∈ found, Q a := by
  have hfor (n : Nat) : (whileFor go p n).Yields fun found => ∀ a ∈ found, Q a := by
    induction n with
    | zero => exact yields_fail
    | succ n ih =>
      refine yields_bind fun more => .ite ?_ (yields_pure (by simp))
      refine hp.bind fun a ha => ih.bind fun found hfound => yields_pure ?_
      exact List.forall_mem_cons.2 ⟨ha, hfound⟩
  exact fun c => hfor _ c

theorem yields_anyName : anyName.Yields Text.IsName := by
  apply yields_bind
  intro ts
  split
  · rename_i n _
    by_cases hn : Text.isName n = true
    · rw [if_pos hn]
      exact yields_bind fun _ => yields_pure hn
    · rw [if_neg hn]
      exact yields_fail
  · exact yields_fail

theorem yields_name : name.Yields Text.IsName :=
  yields_bind fun _ => .ite yields_anyName yields_fail

end Source.Rule

namespace Source.Grammar

open Rule

variable {g : Grammar}

theorem yields_silently {α : Type} (p : Rule α) : (silently p).Yields Item.IsLeaf :=
  yields_bind fun _ => yields_pure ⟨nofun, nofun⟩

theorem Yields.members {α : Type} {p : Rule α} {Q : α → Prop} (hp : p.Yields Q) :
    (g.members p).Yields fun found => ∀ a ∈ found.2, Q a :=
  .group (yields_bind fun _ => hp.whileSeen.bind fun _ hfound => yields_pure hfound)

/-- A module is made from its name and the items that are read inside it. -/
theorem Yields.moduleItem {P Q : Item → Prop} (hitem : g.item.Yields P)
    (hmodule : ∀ attributes n items?, Text.IsName n → (∀ items ∈ items?, ∀ item ∈ items, P item) →
      Q (.module attributes n items?)) (attributes : List Attribute) :
    (g.moduleItem attributes).Yields Q := by
  -- either way of reading the name gives an identifier
  have hnamed {b : Bool} {next : String → Rule Item}
      (hnext : ∀ n, Text.IsName n → (next n).Yields Q) :
      (if b = true then anyName >>= next else name >>= next).Yields Q :=
    .ite (yields_anyName.bind hnext) (yields_name.bind hnext)
  refine yields_bind fun _ => yields_bind fun _ => yields_bind fun _ => hnamed fun n hn => ?_
  apply yields_bind
  intro ended
  apply Yields.ite
  · exact yields_pure (hmodule _ n none hn nofun)
  · refine (Yields.members hitem).bind fun found hfound => yields_pure (hmodule _ n _ hn ?_)
    intro items hitems
    cases hitems
    exact hfound

theorem yields_aliasItem : g.aliasItem.Yields Item.IsLeaf := by
  apply yields_bind
  intro d
  split <;> exact yields_pure ⟨nofun, nofun⟩

theorem yields_structItem (attributes : List Attribute) :
    (g.structItem attributes).Yields fun item => ∃ s, item = .struct s :=
  yields_bind fun _ => yields_bind fun _ => yields_bind fun _ => yields_bind fun _ =>
    yields_pure ⟨_, rfl⟩

theorem yields_enumItem : g.enumItem.Yields Item.IsLeaf :=
  yields_bind fun _ => yields_bind fun _ => yields_bind fun _ => yields_bind fun _ =>
    yields_pure ⟨nofun, nofun⟩

theorem yields_unionItem : g.unionItem.Yields Item.IsLeaf :=
  yields_bind fun _ => yields_bind fun _ => yields_bind fun _ => yields_bind fun _ =>
    yields_pure ⟨nofun, nofun⟩

theorem yields_traitItem : g.traitItem.Yields Item.IsLeaf := by
  refine yields_bind fun special => yields_bind fun _ => yields_bind fun _ => yields_bind fun _ =>
    yields_bind fun n => yields_bind fun _ => yields_bind fun ts => ?_
  apply Yields.ite
  · exact yields_bind fun _ => yields_bind fun _ => yields_bind fun _ => yields_bind fun _ =>
      yields_pure ⟨nofun, nofun⟩
  · exact yields_bind fun _ => yields_pure ⟨nofun, nofun⟩

theorem yields_implItem (visible : Bool) : (g.implItem visible).Yields Item.IsLeaf := by
  -- after something that may be left out, the rule goes on as without it
  have hoptional {b : Bool} {first next : Rule Item}
      (hfirst : next.Yields Item.IsLeaf → first.Yields Item.IsLeaf)
      (hnext : next.Yields Item.IsLeaf) :
      (if b = true then first else next).Yields Item.IsLeaf := .ite (hfirst hnext) hnext
  refine yields_bind fun _ => yields_bind fun _ => yields_bind fun _ => yields_bind fun _ => ?_
  refine hoptional (fun h => yields_bind fun _ => h) ?_
  apply yields_bind
  intro isConst
  refine hoptional (fun h => yields_bind fun _ => yields_bind fun _ => h) ?_
  apply yields_bind
  intro negative
  refine hoptional (fun h => yields_bind fun _ => h) ?_
  have hlast {b : Bool} {next : Option TypeExpr → Rule Item}
      (hnext : ∀ self?, (next self?).Yields Item.IsLeaf) :
      (if b = true then g.typeExpr true >>= fun t => pure (some t) >>= next
        else pure none >>= next).Yields Item.IsLeaf :=
    .ite (yields_bind fun _ => yields_bind hnext) (yields_bind hnext)
  refine yields_bind fun first => yields_bind fun seen => hlast fun self? => ?_
  refine yields_bind fun _ => yields_bind fun _ => ?_
  split <;> exact yields_pure ⟨nofun, nofun⟩

theorem yields_itemOf (hitem : g.item.Yields Item.IsWellNamed) :
    g.itemOf.Yields Item.IsWellNamed := by
  apply yields_bind
  intro attributes
  apply yields_bind
  intro visible
  apply yields_bind
  intro ts
  -- one branch for each way in which an item can begin
  have hleaf {p : Rule Item} (hp : p.Yields Item.IsLeaf) : p.Yields Item.IsWellNamed :=
    hp.imp fun _ => Item.IsLeaf.isWellNamed
  apply Yields.ite
  · exact hleaf (yields_silently _)
  apply Yields.ite
  · exact hleaf (yields_silently _)
  apply Yields.ite
  · exact hleaf (.ite yields_fail (yields_silently _))
  apply Yields.ite
  · apply yields_bind
    intro tree?
    cases tree? with
    | some tree => exact yields_pure (.other nofun)
    | none => exact yields_pure (.other nofun)
  apply Yields.ite
  · exact hleaf (yields_silently _)
  apply Yields.ite
  · exact hleaf (yields_silently _)
  apply Yields.ite
  · exact Yields.moduleItem hitem (fun _ _ _ => .module) attributes
  apply Yields.ite
  · exact hleaf yields_aliasItem
  apply Yields.ite
  · refine (yields_structItem attributes).imp ?_
    rintro _ ⟨s, rfl⟩
    exact .other nofun
  apply Yields.ite
  · exact hleaf yields_enumItem
  apply Yields.ite
  · exact hleaf yields_unionItem
  apply Yields.ite
  · exact hleaf yields_traitItem
  apply Yields.ite
  · exact hleaf (yields_implItem visible)
  apply Yields.ite
  · exact hleaf (yields_silently _)
  exact hleaf (.ite (yields_silently _) yields_fail)

theorem yields_item (n : Nat) : (grammar n).item.Yields Item.IsWellNamed := by
  induction n with
  | zero => exact yields_fail
  | succ n ih => exact yields_itemOf ih

theorem yields_file (n : Nat) :
    (grammar n).file.Yields fun items => ∀ item ∈ items, item.IsWellNamed :=
  yields_bind fun _ => (yields_item n).whileSeen

end Source.Grammar

theorem Source.Rule.Yields.readAll {α : Type} {p : Rule α} {Q : α → Prop} (hp : p.Yields Q)
    {ts : List Token} {a : α} (h : readAll p ts = some a) : Q a := by
  unfold Rule.readAll at h
  split at h
  · rename_i hread
    cases h
    exact hp _ _ _ hread
  · cases h

theorem isWellNamed_of_itemsOfFile? {text : String} {items : List Item}
    (h : itemsOfFile? text = some items) : ∀ item ∈ items, item.IsWellNamed := by
  obtain ⟨tokens, -, hread⟩ := Option.bind_eq_some_iff.1 h
  exact (Grammar.yields_file _).readAll hread

/-- The name of a module can be the name of a file or folder. -/
theorem Text.IsName.isPlain {name : String} (h : IsName name) : Path.IsPlain name where
  ne_empty := by
    rintro rfl
    exact h.ne_nil rfl
  ne_dot := by
    rintro rfl
    exact h.not_mem (c := '.') (by decide) (by decide) (by decide)
  ne_dots := by
    rintro rfl
    exact h.not_mem (c := '.') (by decide) (by decide) (by decide)
  slash_not_mem := h.not_mem (by decide) (by decide)

end ViewCompanion
