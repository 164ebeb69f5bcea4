import ViewCompanion.Proofs.Source.DeriveInput

namespace ViewCompanion.Source

namespace Rule

variable {α β : Type} {p q : Rule α}

/-- Whatever `p` reads, `q` reads from the same tokens and goes as far. What either has written
before or writes does not matter. -/
def ReadsAs (p q : Rule α) : Prop :=
  ∀ ts out out' a c, p ⟨ts, out⟩ = some (a, c) →
    ∃ c', q ⟨ts, out'⟩ = some (a, c') ∧ c'.rest = c.rest

theorem readsAs_fail : (fail : Rule α).ReadsAs q :=
  fun _ _ _ _ _ h => nomatch h

theorem readsAs_pure (a : α) : (pure a : Rule α).ReadsAs (pure a) := by
  rintro ts out out' b c h
  cases h
  exact ⟨_, rfl, rfl⟩

theorem readsAs_sees (looks : List Token → Bool) : (sees looks).ReadsAs (sees looks) := by
  rintro ts out out' b c h
  cases h
  exact ⟨_, rfl, rfl⟩

theorem readsAs_rest : rest.ReadsAs rest := by
  rintro ts out out' b c h
  cases h
  exact ⟨_, rfl, rfl⟩

theorem readsAs_replace (count : Nat) (written : List Token) :
    (replace count written).ReadsAs (replace count written) := by
  rintro ts out out' b c h
  cases h
  exact ⟨_, rfl, rfl⟩

theorem ReadsAs.bind {f g : α → Rule β} (hp : p.ReadsAs q) (hf : ∀ a, (f a).ReadsAs (g a)) :
    (p >>= f).ReadsAs (q >>= g) := by
  intro ts out out' b c h
  obtain ⟨a, ⟨more, between⟩, ha, hb⟩ := exists_of_bind h
  obtain ⟨⟨more', between'⟩, ha', hmore⟩ := hp ts out out' a _ ha
  obtain rfl : more' = more := hmore
  rw [bind_of_eq ha']
  exact hf a more' between between' b c hb

theorem ReadsAs.ite {p' q' : Rule α} {b : Prop} [Decidable b] (hp : p.ReadsAs q)
    (hp' : p'.ReadsAs q') : (if b then p else p').ReadsAs (if b then q else q') := by
  split
  · exact hp
  · exact hp'

theorem ReadsAs.group {d : Delimiter} (hp : p.ReadsAs q) : (group d p).ReadsAs (group d q) := by
  intro ts out out' a c h
  unfold Rule.group at h ⊢
  dsimp only at h ⊢
  split at h
  · rename_i e content after
    split at h
    · split at h
      · rename_i hread
        cases h
        obtain ⟨⟨left, written⟩, hread', hleft⟩ := hp content [] [] a _ hread
        obtain rfl : left = [] := hleft
        rw [if_pos ‹_›, hread']
        exact ⟨_, rfl, rfl⟩
      · cases h
    · cases h
  · cases h

theorem ReadsAs.counted {f g : Nat → Rule α} (h : ∀ n, (f n).ReadsAs (g n)) :
    (counted f).ReadsAs (counted g) :=
  fun ts => h (ts.length + 1) ts

theorem readsAs_op (cs : List Char) : (op cs).ReadsAs (op cs) :=
  (readsAs_sees _).bind fun _ => .ite (readsAs_replace _ _) readsAs_fail

theorem readsAs_op? (cs : List Char) : (op? cs).ReadsAs (op? cs) :=
  (readsAs_sees _).bind fun _ =>
    .ite ((readsAs_replace _ _).bind fun _ => readsAs_pure _) (readsAs_pure _)

theorem readsAs_word? (w : String) : (word? w).ReadsAs (word? w) :=
  (readsAs_sees _).bind fun _ =>
    .ite ((readsAs_replace _ _).bind fun _ => readsAs_pure _) (readsAs_pure _)

theorem readsAs_anyName : anyName.ReadsAs anyName := by
  refine readsAs_rest.bind fun ts => ?_
  split
  · exact .ite ((readsAs_replace _ _).bind fun _ => readsAs_pure _) readsAs_fail
  · exact readsAs_fail

theorem readsAs_name : name.ReadsAs name :=
  (readsAs_sees _).bind fun _ => .ite readsAs_anyName readsAs_fail

end Rule

namespace Grammar

open Rule

variable {g : Grammar}

/-- No tree that may not start at the very top does. -/
def KeepsOffTop (g : Grammar) : Prop :=
  ∀ c, isOp pathSep c.rest = true → g.useTree false c = none

/-- A tree that may not start at the very top is read as the same tree where it may. -/
def AllowsTop (g : Grammar) : Prop :=
  ∀ allowTop, (g.useTree false).ReadsAs (g.useTree allowTop)

/-- Where a tree is read, there is no `::` to be read before it. -/
theorem readsAs_useTree_behind (htop : g.KeepsOffTop) (hg : g.AllowsTop) {β : Type}
    (next next' : Bool → Option UseTree → Rule β)
    (hnext : ∀ tree?, (next false tree?).ReadsAs (next' false tree?)) :
    (g.useTree false >>= next false).ReadsAs
      (op? pathSep >>= fun top => g.useTree (true && !top) >>= next' top) := by
  intro ts out out' b c h
  obtain ⟨tree?, ⟨more, between⟩, htree, -⟩ := exists_of_bind h
  -- a mark at this place would have stopped the reading
  have hmark : isOp pathSep ts = false := by
    by_contra hmark
    rw [htop ⟨ts, out⟩ (by simpa using hmark)] at htree
    cases htree
  rw [bind_of_eq (op?_of_not_isOp hmark)]
  exact (hg true).bind hnext ts out out' b c h

/-- What comes behind a tree in a group, once it is known if the tree starts at the very top. -/
def useGroupRest (g : Grammar) (allowTop : Bool) (n : Nat) (top : Bool) (tree? : Option UseTree) :
    Rule (Option (List UseTree)) := do
  let more? ← if ← sees isEnd then pure (some [])
    else
      op [',']
      g.useGroupFor allowTop n
  match top, tree?, more? with
  | false, some tree, some more => pure (some (tree :: more))
  | _, _, _ => pure none

theorem useGroupFor_succ (g : Grammar) (allowTop : Bool) (n : Nat) :
    g.useGroupFor allowTop (n + 1) = sees isEnd >>= fun ended =>
      if ended then pure (some [])
      else if allowTop then
        op? pathSep >>= fun top => g.useTree (true && !top) >>= g.useGroupRest true n top
      else g.useTree false >>= g.useGroupRest false n false := by
  rw [useGroupFor]
  cases allowTop with
  | true =>
    simp only [if_true]
    rfl
  | false =>
    simp only [Bool.false_eq_true, if_false, pure_bind, Bool.false_and]
    rfl

theorem readsAs_useGroupRest {allowTop : Bool} {n : Nat}
    (h : (g.useGroupFor false n).ReadsAs (g.useGroupFor allowTop n)) (tree? : Option UseTree) :
    (g.useGroupRest false n false tree?).ReadsAs (g.useGroupRest allowTop n false tree?) := by
  refine (readsAs_sees _).bind fun _ => .ite ?_ ?_
  · refine (readsAs_pure _).bind fun more? => ?_
    cases tree? <;> cases more? <;> exact readsAs_pure _
  · refine (readsAs_op _).bind fun _ => h.bind fun more? => ?_
    cases tree? <;> cases more? <;> exact readsAs_pure _

theorem readsAs_useGroupFor (htop : g.KeepsOffTop) (hg : g.AllowsTop) (allowTop : Bool) (n : Nat) :
    (g.useGroupFor false n).ReadsAs (g.useGroupFor allowTop n) := by
  induction n with
  | zero => exact readsAs_fail
  | succ n ih =>
    rw [useGroupFor_succ, useGroupFor_succ]
    refine (readsAs_sees _).bind fun ended => .ite (readsAs_pure _) ?_
    cases allowTop with
    | false => exact (hg false).bind (readsAs_useGroupRest ih)
    | true => exact readsAs_useTree_behind htop hg _ _ (readsAs_useGroupRest ih)

theorem readsAs_useTreeOf (htop : g.KeepsOffTop) (hg : g.AllowsTop) (allowTop : Bool) :
    (g.useTreeOf false).ReadsAs (g.useTreeOf allowTop) := by
  refine readsAs_rest.bind fun ts => .ite ?_ ?_
  · refine readsAs_anyName.bind fun n => (readsAs_op? _).bind fun _ => .ite ?_ ?_
    · exact (hg false).bind fun _ => readsAs_pure _
    · refine (readsAs_word? _).bind fun _ => .ite ?_ (readsAs_pure _)
      refine (readsAs_sees _).bind fun _ => .ite ?_ ?_
      · exact readsAs_anyName.bind fun _ => readsAs_pure _
      · exact readsAs_name.bind fun _ => readsAs_pure _
  · refine (readsAs_op? _).bind fun _ => .ite (readsAs_pure _) ?_
    have hgroup := ReadsAs.counted (readsAs_useGroupFor htop hg allowTop)
    exact hgroup.group.bind fun _ => readsAs_pure _

theorem keepsOffTop_grammar (n : Nat) : (grammar n).KeepsOffTop := by
  cases n with
  | zero => exact fun _ _ => rfl
  | succ n =>
    rintro ⟨ts, out⟩ h
    match ts, h with
    | .punct c joint :: rest, h =>
      obtain rfl : ':' = c := by
        simp [isOp, pathSep] at h
        exact h.1.1
      rfl

theorem allowsTop_grammar (n : Nat) : (grammar n).AllowsTop := by
  induction n with
  | zero => exact fun _ => readsAs_fail
  | succ n ih => exact readsAs_useTreeOf (keepsOffTop_grammar n) ih

/-- With `::` in front, an import is read as without it. -/
theorem useItem_of_mark {n : Nat} {ts out : List Token} {joint : Bool} {tree? : Option UseTree}
    {c : Cursor} (h : (grammar n).useItem true
      ⟨.ident "use" :: .punct ':' true :: .punct ':' joint :: ts, out⟩ = some (tree?, c)) :
    ∃ c', (grammar n).useItem true ⟨.ident "use" :: ts, out⟩ = some (tree?, c') ∧
      c'.rest = c.rest := by
  have hnext (tree? : Option UseTree) : (op [';'] >>= fun _ => pure tree? : Rule _).ReadsAs
      (op [';'] >>= fun _ => pure tree?) := (readsAs_op _).bind fun _ => readsAs_pure _
  exact readsAs_useTree_behind (keepsOffTop_grammar n) (allowsTop_grammar n)
    (fun _ tree? => op [';'] >>= fun _ => pure tree?)
    (fun _ tree? => op [';'] >>= fun _ => pure tree?) hnext ts _ _ tree? c h

end Grammar

end ViewCompanion.Source
