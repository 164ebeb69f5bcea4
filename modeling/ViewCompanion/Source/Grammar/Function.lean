import ViewCompanion.Source.Grammar.Statement

namespace ViewCompanion.Source.Grammar

open Rule

def dropWord (w : String) (ts : List Token) : List Token :=
  if isWord w ts then ts.drop 1 else ts

def dropSafety (allowSafe : Bool) (ts : List Token) : List Token :=
  if allowSafe && isWord "safe" ts then ts.drop 1 else dropWord "unsafe" ts

def dropAbi (ts : List Token) : List Token :=
  if isWord "extern" ts then
    let after := ts.drop 1
    if isStringLiteral after then after.drop 1 else after
  else ts

def isSignature (allowSafe : Bool) (ts : List Token) : Bool :=
  isWord "fn" (dropAbi (dropSafety allowSafe (dropWord "async" (dropWord "const" ts))))

/-- The argument that a method is called on. -/
def receiver (g : Grammar) : Rule Unit := do
  let byRef ← op? ['&']
  if byRef then
    let _ ← lifetime?
  let _ ← word? "mut"
  word "self"
  if !byRef && isOp [':'] (← rest) then
    op [':']
    g.anyType

/-- A pattern and its type; says whether the type is `...`. An argument that is only a type is
written with `_` before it. -/
def typedArgument (g : Grammar) : Rule Bool := do
  if ← sees fun ts => isName ts && second (isOp ['<']) ts then
    emit [.ident "_", .punct ':' false]
    g.anyType
    pure false
  else
    let _ ← g.pattern
    op [':']
    if ← op? ['.', '.', '.'] then pure true
    else
      g.anyType
      pure false

def argumentsEnd : Rule Unit := do
  let _ ← op? [',']
  if ← sees isEnd then pure () else fail

def functionArguments (g : Grammar) : Bool → Nat → Rule Unit
  | _, 0 => fail
  | first, n + 1 => do
    if ← sees isEnd then pure ()
    else
      let _ ← g.outerAttributes
      if ← op? ['.', '.', '.'] then argumentsEnd
      else
        let last ← match ← attempt g.receiver with
          | some () => if first then pure false else fail
          | none => g.typedArgument
        if last then argumentsEnd
        else if ← sees isEnd then pure ()
        else
          op [',']
          functionArguments g false n

def signature (g : Grammar) (allowSafe : Bool) : Rule Unit := do
  let _ ← word? "const"
  let _ ← word? "async"
  if allowSafe && isWord "safe" (← rest) then word "safe"
  else
    let _ ← word? "unsafe"
  let _ ← abi?
  word "fn"
  let _ ← name
  let _ ← g.generics
  group .parenthesis (counted (g.functionArguments true))
  let _ ← g.returnType true
  let _ ← g.whereClause

def function (g : Grammar) (allowSafe : Bool) : Rule Unit := do
  g.signature allowSafe
  if ← op? [';'] then pure () else g.body

end ViewCompanion.Source.Grammar
