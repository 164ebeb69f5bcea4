import ViewCompanion.Source.Grammar.Generics

namespace ViewCompanion.Source.Grammar

open Rule

/-- A `|` between alternatives. -/
def isBar (ts : List Token) : Bool :=
  isOp ['|'] ts && !isOp ['|', '|'] ts && !isOp ['|', '='] ts

/-- Patterns with `|` between; one more may come first. -/
def alternatives (g : Grammar) : Rule PatternShape := do
  let leading ← op? ['|']
  let first ← g.pattern
  let more ← whileSeen isBar do
    op ['|']
    g.pattern
  pure (if leading || !more.isEmpty then .other else first)

/-- A field by its name or position; says whether by its name. A position is written as a decimal
number. -/
def member : Rule Bool := do
  match ← rest with
  | .literal text :: _ =>
    match Literal.numeral? text.toList with
    | some (value, []) =>
      if value < UInt32.size then
        replace 1 [.literal (toString value)]
        pure false
      else fail
    | _ => fail
  | _ =>
    let _ ← name
    pure true

/-- The mark of a range; says whether it includes its end. Three dots are an old form of `..=`. -/
def rangeMark (old : Bool) : Rule Bool := do
  let ts ← rest
  if isOp ['.', '.', '='] ts then
    op ['.', '.', '=']
    pure true
  else if isOp ['.', '.', '.'] ts then
    if old then
      replace 3 (Token.ofOperator ['.', '.', '='])
      pure true
    else fail
  else
    op ['.', '.']
    pure false

def endsRangePattern (ts : List Token) : Bool :=
  isEnd ts || isOp ['|'] ts || isOp ['='] ts || isColon ts || isOp [','] ts || isOp [';'] ts
    || isWord "if" ts

def rangeBound (g : Grammar) : Rule Bool := do
  let ts ← rest
  if endsRangePattern ts then pure false
  else
    if isLiteral ts then
      let _ ← literal
    else if isPathName ts || isPathSep ts || isOp ['<'] ts then
      let _ ← g.pathWith true
    else
      word "const"
      g.body
    pure true

def rangePattern (g : Grammar) : Rule PatternShape := do
  let included ← rangeMark true
  let bounded ← g.rangeBound
  if bounded then pure .other else if included then fail else pure .openRange

/-- A range without a lower end, or the mark for all that is left out. -/
def leadingRange (g : Grammar) : Rule PatternShape := do
  let included ← rangeMark false
  let bounded ← g.rangeBound
  if bounded then pure .openRange else if included then fail else pure .rest

def fieldPattern (g : Grammar) : Rule Unit := do
  let start ← get
  let boxed ← word? "box"
  let byRef ← word? "ref"
  let mutable ← word? "mut"
  let marked := boxed || byRef || mutable
  let named ← if marked then name *> pure true else member
  if !named || (!marked && isOp [':'] (← rest)) then
    op [':']
    let _ ← g.alternatives
  else if boxed then asWritten start

def fieldPatterns (g : Grammar) : Nat → Rule Unit
  | 0 => fail
  | n + 1 => do
    if ← sees isEnd then pure ()
    else
      let _ ← g.outerAttributes
      if ← op? ['.', '.'] then
        if ← sees isEnd then pure () else fail
      else
        g.fieldPattern
        if ← sees isEnd then pure ()
        else
          op [',']
          fieldPatterns g n

def pathPattern (g : Grammar) : Rule PatternShape := do
  let p ← g.pathWith true
  let ts ← rest
  if !p.qualified && p.isPlain && isMacroMark ts then
    let _ ← macroRest
    pure .other
  else if isGroup .brace ts then
    group .brace (counted g.fieldPatterns)
    pure .other
  else if isGroup .parenthesis ts then
    let _ ← group .parenthesis (commaList g.alternatives)
    pure .other
  else if isOp ['.', '.'] ts then g.rangePattern
  else pure .other

def boundPattern (g : Grammar) : Rule PatternShape := do
  if ← g.rangeBound then
    if ← sees (isOp ['.', '.']) then g.rangePattern else pure .other
  else fail

def namePattern (g : Grammar) : Rule PatternShape := do
  let _ ← word? "ref"
  let _ ← word? "mut"
  if ← word? "self" then pure ()
  else
    let _ ← name
  if ← op? ['@'] then
    let _ ← g.pattern
  pure .other

/-- A list; a range in it needs both ends. -/
def slicePattern (g : Grammar) : Rule PatternShape := do
  let shapes ← group .bracket (commaList g.alternatives)
  if shapes.contains .openRange then fail else pure .other

def isPathPattern (ts : List Token) : Bool :=
  (isName ts && second (fun ts => isPathSep ts || isOp ['!'] ts || isGroup .brace ts
      || isGroup .parenthesis ts || isOp ['.', '.'] ts) ts)
    || (isWord "self" ts && second isPathSep ts) || isPathSep ts || isOp ['<'] ts
    || isOneOf ["Self", "super", "crate"] ts

def patternOf (g : Grammar) : Rule PatternShape := do
  let ts ← rest
  if isPathPattern ts then g.pathPattern
  else if isWord "_" ts then word "_" *> pure .other
  else if isWord "box" ts then
    let _ ← verbatim (word "box" *> g.pattern)
    pure .other
  else if isOp ['-'] ts || isLiteral ts || isWord "const" ts then g.boundPattern
  else if isOneOf ["ref", "mut", "self"] ts || isName ts then g.namePattern
  else if isOp ['&'] ts then
    op ['&']
    let _ ← word? "mut"
    let _ ← g.pattern
    pure .other
  else if isGroup .parenthesis ts then
    let _ ← group .parenthesis (commaList g.alternatives)
    pure .other
  else if isGroup .bracket ts then g.slicePattern
  else if isOp ['.', '.'] ts && !isOp ['.', '.', '.'] ts then g.leadingRange
  else fail

end ViewCompanion.Source.Grammar
