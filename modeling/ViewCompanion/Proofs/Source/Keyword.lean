import ViewCompanion.Proofs.Source.ModuleAttributes

namespace ViewCompanion.Source

/-- Neither the item nor anything inside it is a module called `mod`. -/
inductive Item.AvoidsMod : Item → Prop
  | module {attributes : List Attribute} {name : String} {items? : Option (List Item)}
      (hname : name ≠ "mod") (inside : ∀ items ∈ items?, ∀ item ∈ items, AvoidsMod item) :
      AvoidsMod (.module attributes name items?)
  | other {item : Item} (h : ∀ attributes name items?, item ≠ .module attributes name items?) :
      AvoidsMod item

theorem Item.AvoidsMod.of_module {attributes : List Attribute} {name : String}
    {items? : Option (List Item)} (h : (Item.module attributes name items?).AvoidsMod) :
    name ≠ "mod" ∧ ∀ items ∈ items?, ∀ item ∈ items, item.AvoidsMod := by
  cases h with
  | module hname hinside => exact ⟨hname, hinside⟩
  | other h => exact absurd rfl (h attributes name items?)

namespace Grammar

open Rule

variable {g : Grammar} {c c' : Cursor} {n : String}

theorem rest_of_anyName (h : anyName c = some (n, c')) : ∃ ts, c.rest = .ident n :: ts := by
  obtain ⟨_, _, hrest, h⟩ := exists_of_bind h
  cases hrest
  generalize c.rest = ts at h ⊢
  cases ts with
  | nil => cases h
  | cons token rest =>
    cases token with
    | ident name =>
      rcases branch_of_ite h with ⟨-, h⟩ | ⟨-, h⟩
      · obtain ⟨_, _, -, h⟩ := exists_of_bind h
        cases h
        exact ⟨rest, rfl⟩
      · cases h
    | _ => cases h

theorem yields_name_of_keywords : name.Yields fun n => keywords.contains n = false := by
  intro c n c' h
  obtain ⟨free, start, hsees, h⟩ := exists_of_bind h
  cases hsees
  rcases branch_of_ite h with ⟨hfree, h⟩ | ⟨-, h⟩
  · obtain ⟨ts, hrest⟩ := rest_of_anyName h
    rw [hrest] at hfree
    simpa [isName] using hfree
  · cases h

theorem yields_moduleItem_avoidsMod (hitem : g.item.Yields Item.AvoidsMod)
    (attributes : List Attribute) : (g.moduleItem attributes).Yields Item.AvoidsMod := by
  refine yields_bind fun _ => yields_bind fun _ => ?_
  intro c item c' h
  obtain ⟨isTry, start, hsees, h⟩ := exists_of_bind h
  cases hsees
  -- what comes behind the name, whichever way that is read
  have hnext (n : String) (hn : n ≠ "mod") : (op? [';'] >>= fun ended =>
      if ended = true then pure (.module attributes n none)
      else g.members g.item >>= fun found =>
        pure (.module (attributes ++ found.1) n (some found.2)) : Rule Item).Yields
      Item.AvoidsMod := by
    refine yields_bind fun ended => .ite (yields_pure (.module hn nofun)) ?_
    refine (Yields.members hitem).bind fun found hfound => yields_pure (.module hn ?_)
    rintro _ ⟨⟩
    exact hfound
  rcases branch_of_ite h with ⟨hword, h⟩ | ⟨-, h⟩
  · obtain ⟨n, between, hn, h⟩ := exists_of_bind h
    obtain ⟨ts, hrest⟩ := rest_of_anyName hn
    have htry : n = "try" := by
      rw [hrest] at hword
      simpa [isWord] using hword
    exact hnext n (by rw [htry]; decide) _ _ _ h
  · obtain ⟨n, between, hn, h⟩ := exists_of_bind h
    have hfree := yields_name_of_keywords _ _ _ hn
    refine hnext n ?_ _ _ _ h
    rintro rfl
    revert hfree
    decide

theorem yields_item_avoidsMod (n : Nat) : (grammar n).item.Yields Item.AvoidsMod := by
  induction n with
  | zero => exact yields_fail
  | succ n ih =>
    intro c item c' h
    by_cases hmodule : ∃ attributes name items?, item = .module attributes name items?
    · obtain ⟨attributes, name, items?, rfl⟩ := hmodule
      obtain ⟨_, _, _, _, -, -, h⟩ := of_itemOf_module h
      exact yields_moduleItem_avoidsMod ih _ _ _ _ h
    · exact .other fun attributes name items? heq => hmodule ⟨attributes, name, items?, heq⟩

end Grammar

theorem avoidsMod_of_itemsOfFile? {text : String} {items : List Item}
    (h : itemsOfFile? text = some items) : ∀ item ∈ items, item.AvoidsMod := by
  obtain ⟨tokens, -, hread⟩ := Option.bind_eq_some_iff.1 h
  have hfile (n : Nat) : (grammar n).file.Yields fun items => ∀ item ∈ items, item.AvoidsMod :=
    Rule.yields_bind fun _ => (Grammar.yields_item_avoidsMod n).whileSeen
  exact (hfile _).readAll hread

end ViewCompanion.Source
