import ViewCompanion.Source.Grammar.Basic

namespace ViewCompanion.Source

/-- A name of a path with the types among its arguments, if it has arguments. -/
structure Segment where
  name : String
  args : Option (List TypeExpr)

structure PathRead where
  /-- Whether it is a path into a type between angle brackets. -/
  qualified : Bool
  absolute : Bool
  segments : List Segment

namespace PathRead

def namePath (p : PathRead) : NamePath :=
  ⟨p.absolute, p.segments.map Segment.name⟩

def lastArgs (p : PathRead) : List TypeExpr :=
  (p.segments.getLast?.bind Segment.args).getD []

def isPlain (p : PathRead) : Bool :=
  p.segments.all fun s => s.args.isNone

def endsBare (p : PathRead) : Bool :=
  match p.segments.getLast? with
  | some s => s.args.isNone
  | none => false

def closeLast (p : PathRead) : PathRead :=
  { p with segments := p.segments.dropLast ++
      (p.segments.getLast?.map fun s => { s with args := some [] }).toList }

end PathRead

/-- An argument or parameter between angle brackets, as it is written again. -/
structure AngleItem (α : Type) where
  value : α
  isLifetime : Bool
  tokens : List Token
  comma : Bool

namespace AngleItem

def written (item : AngleItem α) : List Token :=
  item.tokens ++ if item.comma then Token.ofOperator [','] else []

/-- Lifetimes are written before everything else. -/
def writeAll (items : List (AngleItem α)) : List Token :=
  let front := items.filter AngleItem.isLifetime
  let back := items.filter fun item => !item.isLifetime
  let gap := match front.getLast?, back with
    | some last, _ :: _ => if last.comma then [] else Token.ofOperator [',']
    | _, _ => []
  front.flatMap written ++ gap ++ back.flatMap written

end AngleItem

namespace Grammar

open Rule

def angleItems (p : Rule (α × Bool)) : Nat → Rule (List (AngleItem α))
  | 0 => fail
  | n + 1 => do
    if ← sees (isOp ['>']) then pure []
    else
      let ((value, isLifetime), tokens) ← capture p
      if ← sees (isOp ['>']) then pure [⟨value, isLifetime, tokens, false⟩]
      else
        let _ ← capture (op [','])
        let more ← angleItems p n
        pure (⟨value, isLifetime, tokens, true⟩ :: more)

/-- Items up to a closing angle bracket; the rule says for each whether it is a lifetime. -/
def lifetimesFirst (p : Rule (α × Bool)) : Rule (List α) := do
  let items ← counted (angleItems p)
  emit (AngleItem.writeAll items)
  pure (items.map AngleItem.value)

/-- A value as an argument: a literal, a name or a block. -/
def constArgument (g : Grammar) : Rule Unit := do
  let ts ← rest
  if isLiteral ts then
    let _ ← literal
    pure ()
  else if isName ts then
    let _ ← name
    pure ()
  else g.body

def returnType (g : Grammar) (plus : Bool) : Rule (Option TypeExpr) := do
  if ← op? ['-', '>'] then
    let t ← g.typeExpr plus
    pure (some t)
  else pure none

/-- Arguments between parentheses and a result. Says whether more names may follow. -/
def callArguments (g : Grammar) : Rule Bool := do
  let _ ← group .parenthesis (commaList (g.type true))
  match ← g.returnType false with
  | none => pure true
  | some (.paren _) => pure true
  | some _ => pure false

def isCallStart (ts : List Token) : Bool :=
  isGroup .parenthesis ts || (isPathSep ts && third (isGroup .parenthesis) ts)

/-- Reads the separator before parentheses, which is not written again. -/
def dropPathSep : Rule Unit := do
  let _ ← capture (op? pathSep)
  pure ()

/-- Whether an argument is a single name that may be given a type or bounds. -/
def isBinding (t : TypeExpr) (tokens : List Token) : Bool :=
  match t, tokens with
  | .path ⟨false, [_]⟩ _ _, _ :: .group .parenthesis _ :: _ => false
  | .path ⟨false, [_]⟩ _ _, _ => true
  | _, _ => false

/-- An argument between angle brackets: its type, and whether it is a lifetime. -/
def genericArgument (g : Grammar) : Rule (Option TypeExpr × Bool) := do
  let ts ← rest
  if isLifetimeToken ts && !second (isOp ['+']) ts then
    let _ ← lifetime
    pure (none, true)
  else if isLiteral ts || isGroup .brace ts then
    g.constArgument
    pure (none, false)
  else
    let (t, tokens) ← capture (g.typeExpr true)
    emit tokens
    if isBinding t tokens then
      if ← op? ['='] then
        let ts ← rest
        if isLiteral ts || isGroup .brace ts then g.constArgument else g.anyType
        pure (none, false)
      else if ← op? [':'] then
        let _ ← linked ['+'] (fun ts => isOp [','] ts || isOp ['>'] ts) g.bound
        pure (none, false)
      else pure (some t, false)
    else pure (some t, false)

def angleArguments (g : Grammar) : Rule (List TypeExpr) := do
  op ['<']
  let args ← lifetimesFirst (g.genericArgument)
  op ['>']
  pure (args.filterMap id)

/-- A name of a path. Where values stand, `<` compares unless `::` is in front of it. -/
def segment (g : Grammar) (inValue : Bool) : Rule Segment := do
  let ts ← rest
  if isOneOf ["super", "self", "crate", "try"] ts then
    let n ← anyName
    pure ⟨n, none⟩
  else
    let n ← if isWord "Self" ts then anyName else name
    let ts ← rest
    if (!inValue && isOp ['<'] ts && !isOp ['<', '='] ts)
        || (isPathSep ts && third (isOp ['<']) ts) then
      let _ ← op? pathSep
      let args ← g.angleArguments
      pure ⟨n, some args⟩
    else pure ⟨n, none⟩

def moreSegments (g : Grammar) (inValue : Bool) : Nat → Rule (List Segment)
  | 0 => fail
  | n + 1 => do
    let ts ← rest
    if isPathSep ts && !third (isGroup .parenthesis) ts then
      op pathSep
      let s ← g.segment inValue
      let more ← moreSegments g inValue n
      pure (s :: more)
    else pure []

/-- A path that does not begin with a type between angle brackets. -/
def plainPath (g : Grammar) (inValue : Bool) : Rule PathRead := do
  let absolute ← op? pathSep
  let first ← g.segment inValue
  let more ← counted (g.moreSegments inValue)
  pure ⟨false, absolute, first :: more⟩

def qualifiedSegments (g : Grammar) (inValue : Bool) :
    Nat → Rule (List Segment)
  | 0 => fail
  | n + 1 => do
    let s ← g.segment inValue
    if ← op? pathSep then
      let more ← qualifiedSegments g inValue n
      pure (s :: more)
    else pure [s]

def pathWith (g : Grammar) (inValue : Bool) : Rule PathRead := do
  if ← op? ['<'] then
    g.anyType
    if ← word? "as" then
      let _ ← g.plainPath false
      pure ()
    op ['>']
    op pathSep
    let segments ← counted (g.qualifiedSegments inValue)
    pure ⟨true, false, segments⟩
  else g.plainPath inValue

/-- Arguments between parentheses after the last name of a path, and the names after them. -/
def withCallArguments (g : Grammar) : Nat → PathRead → Rule PathRead
  | 0, _ => fail
  | n + 1, p => do
    if p.endsBare && isCallStart (← rest) then
      dropPathSep
      let open? ← g.callArguments
      let p := p.closeLast
      if open? then
        let more ← counted (g.moreSegments false)
        withCallArguments g n { p with segments := p.segments ++ more }
      else withCallArguments g n p
    else pure p

end Grammar

end ViewCompanion.Source
