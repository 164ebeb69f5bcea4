import ViewCompanion.Proofs.Source.DeriveInput

namespace ViewCompanion.Source.Grammar

open Rule

variable {g : Grammar} {c c' : Cursor} {attributes : List Attribute} {name : String}
  {items? : Option (List Item)}

theorem of_itemOf_module (h : g.itemOf c = some (.module attributes name items?, c')) :
    ∃ outer before visible start, g.outerAttributes c = some (outer, before) ∧
      visibility before = some (visible, start) ∧
      g.moduleItem outer start = some (.module attributes name items?, c') := by
  obtain ⟨outer, visible, before, start, houter, hvisible, h⟩ :=
    of_itemOf_of_not_isLeaf (fun hleaf => hleaf.1 _ _ _ rfl) h
  refine ⟨outer, before, visible, start, houter, hvisible, ?_⟩
  rcases h with h | ⟨-, h⟩
  · exact h
  · obtain ⟨s, hs⟩ := yields_structItem outer _ _ _ h
    cases hs

/-- What a module begins with behind its attributes, up to its name. -/
def moduleHead : Rule String := do
  let _ ← visibility
  let _ ← word? "unsafe"
  word "mod"
  anyName

theorem anyName_of_name (h : Rule.name c = some (name, c')) : anyName c = some (name, c') := by
  obtain ⟨seen, start, hsees, h⟩ := exists_of_bind h
  cases hsees
  split at h
  · exact h
  · cases h

theorem eq_of_op?_of_not {cs : List Char} {seen : Bool} (h : op? cs c = some (seen, c'))
    (hnot : ¬ seen = true) : c' = c := by
  obtain ⟨there, start, hsees, h⟩ := exists_of_bind h
  cases hsees
  split at h
  · cases h
    exact absurd rfl hnot
  · cases h
    rfl

theorem exists_of_group {α : Type} {d : Delimiter} {p : Rule α} {a : α}
    (h : Rule.group d p c = some (a, c')) :
    ∃ content out, c.rest = .group d content :: c'.rest ∧
      p ⟨content, []⟩ = some (a, ⟨[], out⟩) := by
  unfold Rule.group at h
  split at h
  · rename_i e content after hrest
    split at h
    · rename_i hd
      split at h
      · rename_i hread
        cases h
        exact ⟨content, _, hd ▸ hrest, hread⟩
      · cases h
    · cases h
  · cases h

/-- The attributes of a module are those in front of it, and behind them those at the front of its
braces. -/
def ReadsModule (g : Grammar) (c c' : Cursor) (attributes : List Attribute) (name : String)
    (items? : Option (List Item)) : Prop :=
  ∃ outer before start, g.outerAttributes c = some (outer, before) ∧
    moduleHead before = some (name, start) ∧
    (items? = none ∧ attributes = outer ∨
      ∃ content inner behind items out, start.rest = .group .brace content :: c'.rest ∧
        g.innerAttributes ⟨content, []⟩ = some (inner, behind) ∧
        whileSeen (fun ts => !isEnd ts) g.item behind = some (items, ⟨[], out⟩) ∧
        items? = some items ∧ attributes = outer ++ inner)

theorem readsModule_of_itemOf (h : g.itemOf c = some (.module attributes name items?, c')) :
    g.ReadsModule c c' attributes name items? := by
  obtain ⟨outer, before, visible, afterVisible, houter, hvisible, h⟩ := of_itemOf_module h
  obtain ⟨found, afterUnsafe, hunsafe, h⟩ := exists_of_bind h
  obtain ⟨_, afterMod, hmod, h⟩ := exists_of_bind h
  obtain ⟨isTry, atName, hsees, h⟩ := exists_of_bind h
  cases hsees
  -- either way of reading the name goes on from the same place
  have hname : ∃ n start, anyName afterMod = some (n, start) ∧
      (op? [';'] >>= fun ended => if ended = true then pure (.module outer n none)
        else g.members g.item >>= fun found =>
          pure (.module (outer ++ found.1) n (some found.2)) : Rule Item) start =
        some (.module attributes name items?, c') := by
    rcases branch_of_ite h with ⟨-, h⟩ | ⟨-, h⟩
    · obtain ⟨n, start, hn, h⟩ := exists_of_bind h
      exact ⟨n, start, hn, h⟩
    · obtain ⟨n, start, hn, h⟩ := exists_of_bind h
      exact ⟨n, start, anyName_of_name hn, h⟩
  obtain ⟨n, start, hn, h⟩ := hname
  have hhead : moduleHead before = some (n, start) := by
    unfold moduleHead
    rw [bind_of_eq hvisible, bind_of_eq hunsafe, bind_of_eq hmod, hn]
  obtain ⟨ended, between, hended, hbody⟩ := exists_of_bind h
  rcases branch_of_ite hbody with ⟨-, hread⟩ | ⟨hnot, hread⟩
  · cases hread
    exact ⟨_, before, start, houter, hhead, .inl ⟨rfl, rfl⟩⟩
  · obtain rfl := eq_of_op?_of_not hended hnot
    obtain ⟨⟨inner, items⟩, after, hmembers, hread⟩ := exists_of_bind hread
    cases hread
    obtain ⟨content, out, hcontent, hread⟩ := exists_of_group hmembers
    obtain ⟨inner', behind, hinner, hread⟩ := exists_of_bind hread
    obtain ⟨items', last, hitems, hread⟩ := exists_of_bind hread
    cases hread
    exact ⟨outer, before, between, houter, hhead,
      .inr ⟨content, inner, behind, items, out, hcontent, hinner, hitems, rfl, rfl⟩⟩

end ViewCompanion.Source.Grammar
