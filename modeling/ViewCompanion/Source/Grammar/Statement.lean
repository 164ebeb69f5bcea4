import ViewCompanion.Source.Grammar.Value

namespace ViewCompanion.Source.Grammar

open Rule

/-- What follows a path without arguments and the `!` behind it. -/
def afterMacroMark? (ts : List Token) : Option (List Token) :=
  match modPath ⟨ts, []⟩ with
  | some (_, ⟨.punct '!' _ :: after, _⟩) => some after
  | _ => none

/-- Whether a macro call with braces is a statement by itself; `after` follows its `!`. -/
def isMacroStatement (after : List Token) : Bool :=
  isGroup .brace after && !second (fun ts => isPoint ts || isOp ['?'] ts) after

def isMacroDefinition (after : List Token) : Bool :=
  isName after || isWord "try" after

/-- Whether a statement begins as an item does. -/
def isItemStart (ts : List Token) : Bool :=
  isOneOf ["pub", "extern", "use", "fn", "mod", "type", "struct", "enum", "trait", "impl",
      "macro"] ts
    || (isWord "crate" ts && !second isPathSep ts)
    || (isWord "static" ts && (second (isWord "mut") ts || second isName ts))
    || (isWord "const" ts && !(second (fun ts =>
        isGroup .brace ts || isOneOf ["static", "move"] ts || isOp ['|'] ts
          || (isWord "async" ts && !second (isOneOf ["unsafe", "extern", "fn"]) ts)) ts))
    || (isWord "unsafe" ts && !second (isGroup .brace) ts)
    || (isWord "async" ts && second (isOneOf ["unsafe", "extern", "fn"]) ts)
    || (isWord "union" ts && second isName ts)
    || (isWord "auto" ts && second (isWord "trait") ts)
    || (isWord "default" ts && second (isOneOf ["unsafe", "impl"]) ts)

def endsInBraces : List Token → Bool
  | .group .brace _ :: _ => true
  | _ => false

def localBinding (g : Grammar) : Rule Unit := do
  word "let"
  let _ ← g.pattern
  if ← op? [':'] then g.anyType
  if ← op? ['='] then
    g.anyValue
    let c ← get
    if !endsInBraces c.out && isWord "else" c.rest then
      word "else"
      g.block
  op [';']

/-- A statement; says whether another one may only follow a semicolon. -/
def statement (g : Grammar) : Rule Bool := do
  let start ← get
  let _ ← g.outerAttributes
  let ts ← rest
  let after := (afterMacroMark? ts).getD []
  if isMacroStatement after then
    let _ ← modPath
    let _ ← macroRest
    let _ ← op? [';']
    pure false
  else if isWord "let" ts then
    g.localBinding
    pure false
  else if isItemStart ts || isMacroDefinition after then
    set start
    let _ ← g.item
    pure false
  else
    let shape ← g.early
    if ← op? [';'] then pure false else pure shape.needsSemicolon

def statementsFor (g : Grammar) : Nat → Rule Unit
  | 0 => fail
  | n + 1 => do
    if ← op? [';'] then statementsFor g n
    else if ← sees isEnd then pure ()
    else
      let due ← g.statement
      if due && !isEnd (← rest) then fail else statementsFor g n

def statementsOf (g : Grammar) : Rule Unit :=
  counted g.statementsFor

end ViewCompanion.Source.Grammar
