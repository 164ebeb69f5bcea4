import ViewCompanion.Proofs.Source.DeriveInput

namespace ViewCompanion.Source

namespace Shape

def isNumber : Shape → Bool
  | literal (.int ..) => true
  | negated _ => true
  | _ => false

/-- What rules yield that read no number. -/
def IsNoNumber (shape : Shape) : Prop :=
  shape.isNumber = false

theorem not_isNoNumber {shape : Shape} (h : shape.isNumber = true) : ¬ shape.IsNoNumber :=
  fun hnone => Bool.false_ne_true (hnone.symm.trans h)

/-- A number only as one after a minus, and only if there is a minus. -/
def IsNegatedBy (minus : Bool) (shape : Shape) : Prop :=
  shape.isNumber = true → minus = true ∧ ∃ value, shape = .negated value

end Shape

namespace Grammar

open Rule

variable {g : Grammar} {braces : Bool} {shape found : Shape} {c c' : Cursor}

section After

/-- A range is a range wherever it ends. -/
theorem yields_rangeRest : (g.rangeRest braces).Yields (· = .range) := by
  apply yields_bind
  intro included
  apply yields_bind
  intro ts
  apply Yields.ite
  · exact yields_pure rfl
  · exact yields_bind fun _ => yields_pure rfl

theorem yields_castRest : g.castRest.Yields (· = .other) := by
  apply yields_bind
  intro done
  apply yields_bind
  intro read
  apply yields_bind
  intro extended
  exact .ite yields_fail (yields_pure rfl)

/-- A number is still one after the operators behind it only if there are none. -/
theorem eq_of_operatorsFor {base : Level} {n : Nat}
    (h : g.operatorsFor braces base n shape c = some (found, c')) (hfound : found.isNumber = true) :
    found = shape ∧ c' = c := by
  induction n generalizing shape c with
  | zero => cases h
  | succ n ih =>
    -- whatever an operator leaves to go on with is no number
    have hnone {next : Shape} {between : Cursor} (hnext : next.isNumber = false)
        (h : g.operatorsFor braces base n next between = some (found, c')) : False := by
      obtain ⟨rfl, -⟩ := ih h
      rw [hfound] at hnext
      cases hnext
    obtain ⟨ts, start, hrest, h⟩ := exists_of_bind h
    cases hrest
    split at h
    · cases h
      exact ⟨rfl, rfl⟩
    cases hoperator : binaryOperator? c.rest with
    | some operator =>
      rw [hoperator] at h
      dsimp only at h
      split at h
      · cases h
        exact ⟨rfl, rfl⟩
      split at h
      · cases h
      obtain ⟨done, afterOperator, -, h⟩ := exists_of_bind h
      obtain ⟨side, afterSide, -, h⟩ := exists_of_bind h
      split at h
      · exact (hnone rfl h).elim
      · exact (hnone rfl h).elim
    | none =>
      rw [hoperator] at h
      dsimp only at h
      split at h
      · obtain ⟨done, afterOperator, -, h⟩ := exists_of_bind h
        obtain ⟨side, afterSide, -, h⟩ := exists_of_bind h
        exact (hnone rfl h).elim
      split at h
      · obtain ⟨rest, afterRest, hrest, h⟩ := exists_of_bind h
        obtain rfl := yields_rangeRest _ _ _ hrest
        exact (hnone rfl h).elim
      split at h
      · obtain ⟨cast, afterCast, hcast, h⟩ := exists_of_bind h
        obtain rfl := yields_castRest _ _ _ hcast
        exact (hnone rfl h).elim
      · cases h
        exact ⟨rfl, rfl⟩

/-- A number is still one after what is called or looked up behind it only if there is nothing. -/
theorem eq_of_trailersFor {n : Nat} (h : g.trailersFor n shape c = some (found, c'))
    (hfound : found.isNumber = true) : found = shape ∧ c' = c := by
  induction n generalizing shape c with
  | zero => cases h
  | succ n ih =>
    have hnone {between : Cursor} (h : g.trailersFor n .other between = some (found, c')) :
        False := by
      obtain ⟨rfl, -⟩ := ih h
      cases hfound
    obtain ⟨ts, start, hrest, h⟩ := exists_of_bind h
    cases hrest
    split at h
    · obtain ⟨done, between, -, h⟩ := exists_of_bind h
      exact (hnone h).elim
    split at h
    · obtain ⟨done, between, -, h⟩ := exists_of_bind h
      obtain ⟨done, between, -, h⟩ := exists_of_bind h
      exact (hnone h).elim
    split at h
    · obtain ⟨done, between, -, h⟩ := exists_of_bind h
      exact (hnone h).elim
    split at h
    · obtain ⟨done, between, -, h⟩ := exists_of_bind h
      exact (hnone h).elim
    · cases h
      exact ⟨rfl, rfl⟩

end After

theorem yields_closure : (g.closure braces).Yields Shape.IsNoNumber := by
  apply yields_bind
  intro bound
  apply yields_bind
  intro isConst
  apply yields_bind
  intro isStatic
  apply yields_bind
  intro isAsync
  apply yields_bind
  intro isMove
  apply yields_bind
  intro opened
  apply yields_bind
  intro parameters
  apply yields_bind
  intro closed
  apply yields_bind
  intro result?
  cases result? with
  | some result => exact yields_bind fun _ => yields_pure rfl
  | none => exact yields_bind fun _ => yields_pure rfl

theorem yields_pathValue : (g.pathValue braces).Yields Shape.IsNoNumber := by
  apply yields_bind
  intro path
  apply yields_bind
  intro ts
  apply Yields.ite
  · exact yields_bind fun _ => yields_pure rfl
  apply Yields.ite
  · exact yields_bind fun _ => yields_pure rfl
  · split
    · exact yields_pure rfl
    · exact yields_pure rfl

/-- Without anything before or after it, a number is a literal. -/
theorem literal_of_atom (h : g.atom braces c = some (found, c')) (hfound : found.isNumber = true) :
    ∃ l, literal c = some (l, c') ∧ found = .literal l := by
  obtain ⟨ts, start, hrest, h⟩ := exists_of_bind h
  cases hrest
  rcases branch_of_ite h with ⟨-, h⟩ | ⟨-, h⟩
  · obtain ⟨l, between, hl, h⟩ := exists_of_bind h
    cases h
    exact ⟨l, hl, rfl⟩
  · have hother {α : Type} {p : Rule α} {shape : Shape} (hshape : shape.isNumber = false) :
        (p >>= fun _ => pure shape).Yields Shape.IsNoNumber :=
      yields_bind fun _ => yields_pure hshape
    have hnumber := Shape.not_isNoNumber hfound
    -- the branches behind literals, in their order; none of them reads a number
    have h := of_ite_of_not (yields_bind fun _ => yields_bind fun _ => hother rfl) hnumber h
    have h := of_ite_of_not (yields_bind fun _ => hother rfl) hnumber h
    have h := of_ite_of_not yields_closure hnumber h
    have h := of_ite_of_not (hother rfl) hnumber h
    have h := of_ite_of_not yields_pathValue hnumber h
    have h := of_ite_of_not (hother rfl) hnumber h
    have h := of_ite_of_not (hother rfl) hnumber h
    have h := of_ite_of_not (yields_bind fun _ => hother rfl) hnumber h
    have h := of_ite_of_not (yields_bind fun _ => hother rfl) hnumber h
    have h := of_ite_of_not (hother rfl) hnumber h
    have h := of_ite_of_not (hother rfl) hnumber h
    have h := of_ite_of_not (hother rfl) hnumber h
    have h := of_ite_of_not (hother rfl) hnumber h
    have h := of_ite_of_not (hother rfl) hnumber h
    have h := of_ite_of_not (hother rfl) hnumber h
    have h := of_ite_of_not (yields_bind fun _ => hother rfl) hnumber h
    have h := of_ite_of_not (yields_rangeRest.imp fun _ heq => heq ▸ rfl) hnumber h
    have h := of_ite_of_not (hother rfl) hnumber h
    have h := of_ite_of_not (hother rfl) hnumber h
    cases h

theorem eq_of_literal {l : Literal} (h : literal c = some (l, c'))
    (hnumber : (Shape.literal l).isNumber = true) (hminus : isOp ['-'] c.rest = false) :
    ∃ s, c.rest = .literal s :: c'.rest ∧ l = .ofText s := by
  obtain ⟨tokens, out⟩ := c
  unfold literal at h
  dsimp only at h hminus ⊢
  cases htokens : literal? tokens with
  | none =>
    rw [htokens] at h
    cases h
  | some read =>
    obtain ⟨read, written, after⟩ := read
    rw [htokens] at h
    cases h
    unfold literal? at htokens
    split at htokens
    · rename_i s rest
      cases htokens
      exact ⟨s, rfl, rfl⟩
    · cases htokens
      cases hnumber
    · cases htokens
      cases hnumber
    · cases hminus
    · cases htokens

theorem negated_of_prefixed (h : g.prefixed braces c = some (found, c'))
    (hfound : found.isNumber = true) :
    isOp ['-'] c.rest = true ∧ ∃ value, found = .negated value := by
  obtain ⟨minus, start, hsees, h⟩ := exists_of_bind h
  cases hsees
  refine (?_ : Rule.Yields _ (Shape.IsNegatedBy (isOp ['-'] c.rest))) _ _ _ h hfound
  apply yields_bind
  intro star
  refine .ite ?_ (yields_bind fun bang => .ite ?_ (yields_bind fun _ => ?_))
  -- after each of the operators the operand decides
  all_goals
    apply yields_bind
    intro shape
    split
    · rename_i hminus
      exact yields_pure fun _ => ⟨hminus, _, rfl⟩
    · exact yields_pure nofun

theorem outerAttributes_of_not_isOp (h : isOp ['#'] c.rest = false) :
    g.outerAttributes c = some ([], c) := by
  show (if isOp ['#'] c.rest = true then _ else pure [] : Rule (List Attribute)) c = _
  rw [if_neg (by simp [h])]
  rfl

/-- A number that stands where an operand is due, without attributes. -/
theorem number_of_operandOf (h : g.operandOf braces c = some (found, c'))
    (hfound : found.isNumber = true) (hplain : isOp ['#'] c.rest = false) :
    (isOp ['-'] c.rest = true ∧ ∃ value, found = .negated value) ∨
      ∃ s, c.rest = .literal s :: c'.rest ∧ found = .literal (.ofText s) := by
  obtain ⟨attributes, start, hattributes, h⟩ := exists_of_bind h
  rw [outerAttributes_of_not_isOp hplain] at hattributes
  cases hattributes
  obtain ⟨ts, start, hrest, h⟩ := exists_of_bind h
  cases hrest
  have hreference : (g.reference braces >>= fun _ => pure .other).Yields Shape.IsNoNumber :=
    yields_bind fun _ => yields_pure rfl
  have h := of_ite_of_not hreference (Shape.not_isNoNumber hfound) h
  -- an operator in front, which has to be a minus, or a value with nothing behind it
  rcases branch_of_ite h with ⟨-, h⟩ | ⟨hop, h⟩
  · exact .inl (negated_of_prefixed h hfound)
  · obtain ⟨shape, between, hatom, h⟩ := exists_of_bind h
    obtain ⟨trailed, last, htrailers, h⟩ := exists_of_bind h
    have hlast : trailed = found ∧ last = c' := by
      split at h
      · cases h
      · cases h
        exact ⟨rfl, rfl⟩
    obtain ⟨rfl, rfl⟩ := hlast
    obtain ⟨rfl, rfl⟩ := eq_of_trailersFor htrailers hfound
    obtain ⟨l, hliteral, rfl⟩ := literal_of_atom hatom hfound
    have hminus : isOp ['-'] c.rest = false := by
      simp only [Bool.or_eq_true, not_or, Bool.not_eq_true] at hop
      exact hop.2
    obtain ⟨s, hs, rfl⟩ := eq_of_literal hliteral hfound hminus
    exact .inr ⟨s, hs, rfl⟩

theorem number_of_value {n : Nat} (h : (grammar n).value braces c = some (found, c'))
    (hfound : found.isNumber = true) (hplain : isOp ['#'] c.rest = false) :
    (isOp ['-'] c.rest = true ∧ ∃ value, found = .negated value) ∨
      ∃ s, c.rest = .literal s :: c'.rest ∧ found = .literal (.ofText s) := by
  match n, h with
  | n + 2, h =>
    obtain ⟨shape, between, hoperand, hoperators⟩ := exists_of_bind h
    obtain ⟨rfl, rfl⟩ := eq_of_operatorsFor hoperators hfound
    exact number_of_operandOf hoperand hfound hplain
  | 1, h =>
    obtain ⟨shape, between, hoperand, -⟩ := exists_of_bind h
    cases hoperand

end Grammar

namespace Rule

variable {α : Type} {p : Rule α} {a : α} {c c' : Cursor}

def isLastComma : List Token → Bool
  | [] => true
  | [.punct ',' _] => true
  | _ => false

theorem eq_of_op {cs : List Char} {u : Unit} (h : op cs c = some (u, c')) :
    isOp cs c.rest = true ∧ c'.rest = c.rest.drop cs.length := by
  obtain ⟨seen, start, hsees, h⟩ := exists_of_bind h
  cases hsees
  split at h
  · cases h
    exact ⟨‹_›, rfl⟩
  · cases h

theorem isEnd_of_separatedFor_nil {n : Nat} (h : separatedFor isEnd p n c = some ([], c')) :
    isEnd c.rest = true := by
  cases n with
  | zero => cases h
  | succ n =>
    obtain ⟨done, start, hsees, h⟩ := exists_of_bind h
    cases hsees
    split at h
    · assumption
    · obtain ⟨a, afterFirst, -, h⟩ := exists_of_bind h
      obtain ⟨done, start, hsees, h⟩ := exists_of_bind h
      cases hsees
      split at h
      · cases h
      · obtain ⟨done, afterComma, -, h⟩ := exists_of_bind h
        obtain ⟨more, last, -, h⟩ := exists_of_bind h
        cases h

/-- A list of one is read by one round, with a comma at most behind it. -/
theorem exists_of_separatedFor_singleton {n : Nat}
    (h : separatedFor isEnd p n c = some ([a], c')) (hend : c'.rest = []) :
    ∃ between, p c = some (a, between) ∧ isLastComma between.rest = true := by
  cases n with
  | zero => cases h
  | succ n =>
    obtain ⟨done, start, hsees, h⟩ := exists_of_bind h
    cases hsees
    split at h
    · cases h
    obtain ⟨b, between, hb, h⟩ := exists_of_bind h
    obtain ⟨done, start, hsees, h⟩ := exists_of_bind h
    cases hsees
    split at h
    · cases h
      exact ⟨_, hb, by rw [hend]; rfl⟩
    · obtain ⟨done, afterComma, hcomma, h⟩ := exists_of_bind h
      obtain ⟨more, last, hmore, h⟩ := exists_of_bind h
      cases h
      obtain ⟨hcomma, hafter⟩ := eq_of_op hcomma
      have hlast : between.rest.drop 1 = [] :=
        hafter ▸ List.isEmpty_iff.1 (isEnd_of_separatedFor_nil hmore)
      refine ⟨between, hb, ?_⟩
      match between.rest, hcomma, hlast with
      | [.punct d joint], hcomma, _ =>
        obtain rfl : ',' = d := by simpa [isOp] using hcomma
        rfl

end Rule

theorem exists_of_valuesOf?_singleton {tokens : List Token} {v : ValueExpr}
    (h : valuesOf? tokens = some [v]) : ∃ n shape c',
      (grammar n).value true ⟨tokens, []⟩ = some (shape, c') ∧
        v = .ofShape c'.out.reverse shape ∧ Rule.isLastComma c'.rest = true := by
  unfold valuesOf? readTokens? Rule.readAll at h
  split at h
  · rename_i values out hlist
    cases h
    obtain ⟨between, hvalue, hlast⟩ := Rule.exists_of_separatedFor_singleton hlist rfl
    obtain ⟨⟨shape, written⟩, captured, hcapture, h⟩ := Rule.exists_of_bind hvalue
    obtain ⟨done, emitted, hemit, h⟩ := Rule.exists_of_bind h
    cases h
    cases hemit
    unfold Rule.capture at hcapture
    split at hcapture
    · rename_i found last hfound
      cases hcapture
      exact ⟨_, _, _, hfound, rfl, hlast⟩
    · cases hcapture
  · cases h

end ViewCompanion.Source
