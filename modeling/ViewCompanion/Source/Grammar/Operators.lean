import ViewCompanion.Source.Grammar.Pattern

namespace ViewCompanion.Source

namespace Level

def lowest : Level := 0
def assign : Level := 1
def range : Level := 2
def compare : Level := 6
def cast : Level := 13

end Level

/-- The operators between two values; where several fit, the first counts. -/
def binaryOperators : List (List Char × Level) :=
  [("+=", 1), ("-=", 1), ("*=", 1), ("/=", 1), ("%=", 1), ("^=", 1), ("&=", 1), ("|=", 1),
    ("<<=", 1), (">>=", 1), ("&&", 4), ("||", 3), ("<<", 10), (">>", 10), ("==", 6), ("<=", 6),
    ("!=", 6), (">=", 6), ("+", 11), ("-", 11), ("*", 12), ("/", 12), ("%", 12), ("^", 8),
    ("&", 9), ("|", 7), ("<", 6), (">", 6)].map fun (text, level) => (text.toList, level)

def binaryOperator? (ts : List Token) : Option (List Char × Level) :=
  binaryOperators.find? fun (cs, _) => isOp cs ts

def isAssignment (ts : List Token) : Bool :=
  isOp ['='] ts && !isOp ['=', '>'] ts

def nextLevel (ts : List Token) : Level :=
  match binaryOperator? ts with
  | some (_, level) => level
  | none =>
    if isAssignment ts then .assign
    else if isOp ['.', '.'] ts then .range
    else if isWord "as" ts then .cast
    else .lowest

namespace Grammar

open Rule

def tighterOperators (g : Grammar) (braces : Bool) (level : Level) : Nat → Shape → Rule Unit
  | 0, _ => fail
  | n + 1, shape => do
    let ts ← rest
    let next := nextLevel ts
    if level < next || (level == next && level == .assign) then
      let shape ← g.operators braces next shape
      if (← rest).length = ts.length then pure ()
      else tighterOperators g braces level n shape
    else pure ()

def rightSide (g : Grammar) (braces : Bool) (level : Level) : Rule Unit := do
  let shape ← g.operand braces
  counted fun n => g.tighterOperators braces level n shape

/-- Operators that cannot follow the start of a range directly. -/
def rangeEnders : List (List Char) :=
  [",", ";", "?", "=>", "=", "+", "/", "%", "^", ">", "<=", "!=", "-=", "*=", "&=", "|=", "<<="].map
    String.toList

def endsOpenRange (braces : Bool) (ts : List Token) : Bool :=
  isEnd ts || (isOp ['.'] ts && !isOp ['.', '.'] ts) || (!braces && isGroup .brace ts)
    || isWord "as" ts || rangeEnders.any fun cs => isOp cs ts

def rangeRest (g : Grammar) (braces : Bool) : Rule Shape := do
  let included ← rangeMark false
  let ts ← rest
  if !included && endsOpenRange braces ts then pure .range
  else
    g.rightSide braces .range
    pure .range

/-- Whether what follows a cast would apply to its result. -/
def extendsCast (ts : List Token) : Bool :=
  (isOp ['.'] ts && !isOp ['.', '.'] ts) || isOp ['?'] ts || isGroup .bracket ts
    || isGroup .parenthesis ts

def castRest (g : Grammar) : Rule Shape := do
  word "as"
  let _ ← g.type false
  if ← sees extendsCast then fail else pure .other

def operatorsFor (g : Grammar) (braces : Bool) (base : Level) : Nat → Shape → Rule Shape
  | 0, _ => fail
  | n + 1, shape => do
    let ts ← rest
    if shape.isRange then pure shape
    else match binaryOperator? ts with
    | some (cs, level) =>
      if level < base then pure shape
      else if level == .compare && shape.isComparison then fail
      else
        op cs
        g.rightSide braces level
        operatorsFor g braces base n (if level == .compare then .comparison else .other)
    | none =>
      if base ≤ .assign && isAssignment ts then
        op ['=']
        g.rightSide braces .assign
        operatorsFor g braces base n .other
      else if base ≤ .range && isOp ['.', '.'] ts then
        let shape ← g.rangeRest braces
        operatorsFor g braces base n shape
      else if base ≤ .cast && isWord "as" ts then
        let shape ← g.castRest
        operatorsFor g braces base n shape
      else pure shape

/-- The operators of at least a level after an operand, with what stands to their right. -/
def operatorsOf (g : Grammar) (braces : Bool) (base : Level) (shape : Shape) : Rule Shape :=
  counted fun n => g.operatorsFor braces base n shape

def valueOf (g : Grammar) (braces : Bool) : Rule Shape := do
  let shape ← g.operand braces
  g.operators braces .lowest shape

end Grammar

end ViewCompanion.Source
