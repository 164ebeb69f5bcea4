import ViewCompanion.Source.Grammar.Operators

namespace ViewCompanion.Source.Grammar

open Rule

/-- The positions in a number that stands after a point, with the points between them and one
behind if there is one. -/
def positions (text : String) : Option (List Token × Bool) :=
  let parts := text.splitOn "."
  let closed := parts.getLast? == some ""
  let parts := if closed then parts.dropLast else parts
  let read (part : String) : Option Token :=
    match Literal.numeral? part.toList with
    | some (value, []) => if value < UInt32.size then some (.literal (toString value)) else none
    | _ => none
  match parts.mapM read with
  | some tokens =>
    some (List.intersperse (Token.punct '.' false) tokens
      ++ (if closed then [Token.punct '.' false] else []), closed)
  | none => none

def arguments (g : Grammar) : Rule Unit := do
  let _ ← group .parenthesis (commaList (g.value true))

def fieldOrCall (g : Grammar) : Rule Unit := do
  if ← word? "await" then pure ()
  else
    let named ← member
    if named && isPathSep (← rest) then
      op pathSep
      let _ ← g.angleArguments
      g.arguments
    else if named && isGroup .parenthesis (← rest) then g.arguments

def afterPoint (g : Grammar) : Rule Unit := do
  match ← rest with
  | .literal text :: _ =>
    if Literal.isReal text.toList then
      match positions text with
      | some (tokens, closed) =>
        replace 1 tokens
        if closed then g.fieldOrCall
      | none => fail
    else g.fieldOrCall
  | _ => g.fieldOrCall

def isPoint (ts : List Token) : Bool :=
  isOp ['.'] ts && !isOp ['.', '.'] ts

def trailersFor (g : Grammar) : Nat → Shape → Rule Shape
  | 0, _ => fail
  | n + 1, shape => do
    let ts ← rest
    if isGroup .parenthesis ts then
      g.arguments
      trailersFor g n .other
    else if isPoint ts && !shape.isRange then
      op ['.']
      g.afterPoint
      trailersFor g n .other
    else if isGroup .bracket ts then
      group .bracket g.anyValue
      trailersFor g n .other
    else if isOp ['?'] ts && !shape.isRange then
      op ['?']
      trailersFor g n .other
    else pure shape

def trailers (g : Grammar) (shape : Shape) : Rule Shape :=
  counted fun n => g.trailersFor n shape

def isValueStart (ts : List Token) : Bool :=
  isAnyName ts || isAnyGroup ts || isLiteral ts || (isOp ['!'] ts && !isOp ['!', '='] ts)
    || (isOp ['-'] ts && !isOp ['-', '='] ts && !isOp ['-', '>'] ts)
    || (isOp ['*'] ts && !isOp ['*', '='] ts) || (isOp ['|'] ts && !isOp ['|', '='] ts)
    || (isOp ['&'] ts && !isOp ['&', '='] ts) || isOp ['.', '.'] ts
    || (isOp ['<'] ts && !isOp ['<', '='] ts && !isOp ['<', '<', '='] ts) || isPathSep ts
    || isLifetimeToken ts || isOp ['#'] ts

def optionalValue (g : Grammar) : Rule Unit := do
  if ← sees isValueStart then g.anyValue

def isLifetimesClosure (ts : List Token) : Bool :=
  isWord "for" ts && second (isOp ['<']) ts
    && third (fun ts => isLifetimeToken ts || isOp ['>'] ts) ts

def isClosureStart (ts : List Token) : Bool :=
  isOp ['|'] ts || isWord "move" ts || isLifetimesClosure ts
    || (isWord "const" ts && !second (isGroup .brace) ts) || isWord "static" ts
    || (isWord "async" ts && second (fun ts => isOp ['|'] ts || isWord "move" ts) ts)

def closureArgument (g : Grammar) : Rule Unit := do
  let _ ← g.outerAttributes
  let _ ← g.pattern
  if ← op? [':'] then g.anyType

def closure (g : Grammar) (braces : Bool) : Rule Shape := do
  let _ ← g.boundLifetimes?
  let _ ← word? "const"
  let _ ← word? "static"
  let _ ← word? "async"
  let _ ← word? "move"
  op ['|']
  let _ ← separated (isOp ['|']) g.closureArgument
  op ['|']
  match ← g.returnType true with
  | some _ => g.block
  | none =>
    let _ ← g.value braces
  pure .other

def structField (g : Grammar) : Rule Unit := do
  let _ ← g.outerAttributes
  let named ← member
  if !named || isOp [':'] (← rest) then
    op [':']
    g.anyValue

def structFields (g : Grammar) : Nat → Rule Unit
  | 0 => fail
  | n + 1 => do
    if ← sees isEnd then pure ()
    else if ← op? ['.', '.'] then
      if ← sees isEnd then pure () else g.anyValue
    else
      g.structField
      if ← sees isEnd then pure ()
      else
        op [',']
        structFields g n

def pathValue (g : Grammar) (braces : Bool) : Rule Shape := do
  let p ← g.pathWith true
  let ts ← rest
  if !p.qualified && p.isPlain && isMacroMark ts then
    let inBraces ← macroRest
    pure (.macroCall inBraces)
  else if braces && isGroup .brace ts then
    group .brace (counted g.structFields)
    pure .other
  else pure (if p.qualified then .other else .path p.namePath)

/-- A list, or a value and how often it is repeated. -/
def listValue (g : Grammar) : Rule Unit :=
  group .bracket do
    if ← sees isEnd then pure ()
    else
      g.anyValue
      if ← op? [';'] then g.anyValue
      else if ← sees isEnd then pure ()
      else
        op [',']
        let _ ← commaList (g.value true)

def breakValue (g : Grammar) (braces : Bool) : Rule Unit := do
  word "break"
  if ← sees fun ts => isLifetimeToken ts && second (isOp [':']) ts then fail
  let _ ← lifetime?
  if ← sees fun ts => braces || !isGroup .brace ts then g.optionalValue

def letValue (g : Grammar) (braces : Bool) : Rule Unit := do
  word "let"
  let _ ← g.alternatives
  op ['=']
  let shape ← g.operand braces
  let _ ← g.operators braces .compare shape

/-- A value before braces that do not belong to it. -/
def condition (g : Grammar) : Rule Unit := do
  let _ ← g.value false

def choices (g : Grammar) : Nat → Rule Unit
  | 0 => fail
  | n + 1 => do
    word "if"
    g.condition
    g.block
    if ← word? "else" then
      if ← sees (isWord "if") then choices g n else g.block

/-- Where a statement or an arm begins with one of these, it ends with it. -/
def isBlockStart (ts : List Token) : Bool :=
  isOneOf ["if", "while", "loop", "match", "unsafe"] ts
    || (isWord "for" ts && !isLifetimesClosure ts)
    || (isOneOf ["try", "const"] ts && second (isGroup .brace) ts)
    || isGroup .brace ts || isLifetimeToken ts

def loopValue (g : Grammar) : Rule Unit := do
  let ts ← rest
  if isWord "while" ts then
    word "while"
    g.condition
    g.body
  else if isWord "for" ts then
    word "for"
    let _ ← g.alternatives
    word "in"
    g.condition
    g.body
  else if isWord "loop" ts then
    word "loop"
    g.body
  else g.body

def labelled (g : Grammar) : Rule Unit := do
  let _ ← lifetime
  op [':']
  g.loopValue

def prefixed (g : Grammar) (braces : Bool) : Rule Shape := do
  let minus ← sees (isOp ['-'])
  if ← op? ['*'] then pure () else if ← op? ['!'] then pure () else op ['-']
  let shape ← g.operand braces
  match minus, shape with
  | true, .literal (.int false value _ _) => pure (.negated value)
  | _, _ => pure .other

def reference (g : Grammar) (braces : Bool) : Rule Unit := do
  op ['&']
  let raw ← sees fun ts => isWord "raw" ts && second (isOneOf ["mut", "const"]) ts
  if raw then word "raw"
  if !(← word? "mut") && raw then word "const"
  let _ ← g.operand braces

def builtIn : Rule Unit := do
  word "builtin"
  op ['#']
  let _ ← name
  anyGroup .parenthesis

def arm (g : Grammar) : Rule Unit := do
  let _ ← g.outerAttributes
  let _ ← g.alternatives
  if ← word? "if" then g.anyValue
  op ['=', '>']
  let shape ← g.early
  if shape.isBlock || (← rest).isEmpty then
    let _ ← op? [',']
  else op [',']

def matchValue (g : Grammar) : Rule Unit := do
  word "match"
  g.condition
  group .brace do
    let _ ← g.innerAttributes
    let _ ← whileSeen (fun ts => !isEnd ts) g.arm

/-- A value without anything before or after it. -/
def atom (g : Grammar) (braces : Bool) : Rule Shape := do
  let ts ← rest
  if isLiteral ts then
    let l ← literal
    pure (.literal l)
  else if isWord "async" ts && (second (isGroup .brace) ts
      || (second (isWord "move") ts && third (isGroup .brace) ts)) then
    word "async"
    let _ ← word? "move"
    g.block
    pure .other
  else if isWord "try" ts && second (isGroup .brace) ts then
    word "try"
    g.block
    pure .block
  else if isClosureStart ts then g.closure braces
  else if isWord "builtin" ts && second (isOp ['#']) ts then
    verbatim builtIn
    pure .other
  else if isPathName ts || isPathSep ts || isOp ['<'] ts
      || (isWord "try" ts && second (fun ts => isOp ['!'] ts || isPathSep ts) ts) then
    g.pathValue braces
  else if isGroup .parenthesis ts then
    g.arguments
    pure .other
  else if isWord "break" ts then
    g.breakValue braces
    pure .other
  else if isWord "continue" ts then
    word "continue"
    let _ ← lifetime?
    pure .other
  else if isOneOf ["return", "yield"] ts then
    let _ ← anyName
    g.optionalValue
    pure .other
  else if isWord "become" ts then
    verbatim (word "become" *> g.anyValue)
    pure .other
  else if isGroup .bracket ts then
    g.listValue
    pure .other
  else if isWord "let" ts then
    g.letValue braces
    pure .other
  else if isWord "if" ts then
    counted g.choices
    pure .block
  else if isWord "match" ts then
    g.matchValue
    pure .block
  else if isOneOf ["while", "for", "loop"] ts || isGroup .brace ts then
    g.loopValue
    pure .block
  else if isOneOf ["unsafe", "const"] ts then
    let _ ← anyName
    g.body
    pure .block
  else if isOp ['.', '.'] ts then g.rangeRest braces
  else if isWord "_" ts then word "_" *> pure .other
  else if isLifetimeToken ts then
    g.labelled
    pure .block
  else fail

/-- The value of an arm or statement. What ends in braces goes on only after a point or a question
mark. -/
def earlyOf (g : Grammar) : Rule Shape := do
  let _ ← g.outerAttributes
  if ← sees isBlockStart then
    let shape ← g.atom true
    if ← sees fun ts => isPoint ts || isOp ['?'] ts then
      let shape ← g.trailers shape
      g.operators true .lowest shape
    else pure shape
  else
    let shape ← g.operand true
    g.operators true .lowest shape

/-- A value without operators between operands. -/
def operandOf (g : Grammar) (braces : Bool) : Rule Shape := do
  let attributes ← g.outerAttributes
  let ts ← rest
  if isOp ['&'] ts then
    g.reference braces
    pure .other
  else if isOp ['*'] ts || isOp ['!'] ts || isOp ['-'] ts then g.prefixed braces
  else
    let shape ← g.atom braces
    let shape ← g.trailers shape
    if shape.isRange && !attributes.isEmpty then fail else pure shape

end ViewCompanion.Source.Grammar
