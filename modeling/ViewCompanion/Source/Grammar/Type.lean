import ViewCompanion.Source.Grammar.Bound

namespace ViewCompanion.Source.Grammar

open Rule

/-- A type that is no path is known by its text. -/
def textual (p : Rule Bool) : Rule TypeRead := do
  let (loneBound, tokens) ← capture p
  emit tokens
  pure ⟨.other (Token.display tokens), loneBound⟩

def textOnly (p : Rule Unit) : Rule TypeRead :=
  textual do
    p
    pure false

/-- Bounds each behind `+`; the last `+` may be followed by none. Counts the `+`. -/
def addedBounds (g : Grammar) : Nat → Rule Nat
  | 0 => fail
  | n + 1 => do
    if ← op? ['+'] then
      if isBoundStart false (← rest) then
        let _ ← g.boundWith false false
        let more ← addedBounds g n
        pure (more + 1)
      else pure 1
    else pure 0

/-- Bounds each behind `+`. Says whether there are any. -/
def requiredBounds (g : Grammar) : Rule Bool := do
  let found ← whileSeen (isOp ['+']) do
    op ['+']
    g.boundWith false false
  pure (!found.isEmpty)

/-- The types between parentheses: the first, and whether a comma follows it. -/
def tupleTypes (g : Grammar) : Rule (TypeRead × Bool) := do
  let first ← g.type true
  if ← op? [','] then
    let _ ← commaList (g.type true)
    pure (first, true)
  else pure (first, false)

def isBoundLike (t : TypeRead) : Bool :=
  t.loneBound || match t.expr with
    | .path _ _ _ => true
    | _ => false

/-- A bound without `dyn` that a lifetime comes first in. -/
def lifetimeObject (g : Grammar) (plus : Bool) : Rule TypeRead :=
  textOnly (g.typeBounds plus false false)

def parenType (g : Grammar) (plus : Bool) : Rule TypeRead := do
  match ← rest with
  | .group .parenthesis content :: _ =>
    if content.isEmpty then textOnly (anyGroup .parenthesis)
    else if isLifetimeToken content then
      let inner ← group .parenthesis (g.lifetimeObject true)
      pure ⟨.paren inner.expr, false⟩
    else if isOp ['?'] content then
      textual do
        let _ ← group .parenthesis (g.traitBound false)
        let more ← g.requiredBounds
        pure !more
    else
      let ((first, isTuple), tokens) ← capture (group .parenthesis g.tupleTypes)
      if isTuple then textOnly (emit tokens)
      else if plus && isOp ['+'] (← rest) && isBoundLike first then
        textOnly do
          emit tokens
          let _ ← g.requiredBounds
      else
        emit tokens
        pure ⟨.paren first.expr, false⟩
  | _ => fail

/-- A type that begins as a path; `lifetimes` is what it is for. -/
def pathType (g : Grammar) (plus : Bool) (lifetimes : List Token) : Rule TypeRead := do
  let (p, tokens) ← capture do
    let p ← g.pathWith false
    counted fun n => g.withCallArguments n p
  if p.qualified then textOnly (emit tokens)
  else if p.isPlain && isMacroMark (← rest) then
    textOnly do
      emit tokens
      let _ ← macroRest
  else if !lifetimes.isEmpty || (plus && isOp ['+'] (← rest)) then
    textual do
      emit (lifetimes ++ tokens)
      let added ← if plus then counted g.addedBounds else pure 0
      pure (added == 0)
  else
    emit tokens
    pure ⟨.path p.namePath p.endsBare p.lastArgs, false⟩

/-- Whether the arguments of a function type end in `...`. -/
def isVariadic (ts : List Token) : Bool :=
  isOp ['.', '.', '.'] ts
    || ((isName ts || isWord "_" ts) && second (isOp [':']) ts && third (isOp ['.', '.', '.']) ts)

def variadicType : Rule Unit := do
  if ← sees isAnyName then
    let _ ← anyName
    op [':']
  op ['.', '.', '.']
  let _ ← op? [',']
  if ← sees isEnd then pure () else fail

/-- An argument of a function type. Only the first may be `self`. -/
def functionTypeArgument (g : Grammar) (first : Bool) : Rule Unit := do
  let start ← get
  let mutable ← sees fun ts => first && isWord "mut" ts && second (isWord "self") ts
  if mutable then word "mut"
  let ts ← rest
  let named := (isName ts || isWord "_" ts || (first && isWord "self" ts)) && second isColon ts
  if named then
    let _ ← anyName
    op [':']
  if mutable && !named then word "self" else g.anyType
  if mutable then asWritten start

def functionTypeArguments (g : Grammar) : Bool → Nat → Rule Unit
  | _, 0 => fail
  | first, n + 1 => do
    if ← sees isEnd then pure ()
    else
      let _ ← g.outerAttributes
      if ← sees isVariadic then variadicType
      else
        g.functionTypeArgument first
        if ← sees isEnd then pure ()
        else
          op [',']
          functionTypeArguments g false n

/-- The convention that a function is called by. -/
def abi? : Rule Bool := do
  if ← word? "extern" then
    if ← sees isStringLiteral then
      let _ ← literal
    pure true
  else pure false

def functionType (g : Grammar) : Rule Unit := do
  let _ ← word? "unsafe"
  let _ ← abi?
  word "fn"
  group .parenthesis (counted (g.functionTypeArguments true))
  let _ ← g.returnType false

def objectType (g : Grammar) (plus : Bool) : Rule Unit := do
  let start ← get
  word "dyn"
  let starred ← op? ['*']
  g.typeBounds plus false false
  if starred then asWritten start

def bracketType (g : Grammar) : Rule Unit :=
  group .bracket do
    g.anyType
    if ← op? [';'] then g.anyValue

def pointerType (g : Grammar) : Rule Unit := do
  op ['*']
  if ← word? "const" then pure () else word "mut"
  let _ ← g.type false

def referenceType (g : Grammar) : Rule Unit := do
  op ['&']
  let _ ← lifetime?
  let _ ← word? "mut"
  let _ ← g.type false

def impliedType (g : Grammar) (plus : Bool) : Rule Unit := do
  word "impl"
  g.typeBounds plus true true

def isLifetimesTarget (ts : List Token) : Bool :=
  isName ts || isOneOf ["fn", "unsafe", "extern", "super", "self", "Self", "crate"] ts

/-- A type; `plus` allows more bounds. -/
def typeOf (g : Grammar) (plus : Bool) : Rule TypeRead := do
  let ((), lifetimes) ← capture do
    if ← g.boundLifetimes? then
      if ← sees isLifetimesTarget then pure () else fail
  let ts ← rest
  if isGroup .parenthesis ts then g.parenType plus
  else if isOneOf ["fn", "unsafe", "extern"] ts then
    textOnly do
      emit lifetimes
      g.functionType
  else if isPathName ts || isPathSep ts || isOp ['<'] ts then g.pathType plus lifetimes
  else if isWord "dyn" ts then textOnly (g.objectType plus)
  else if isGroup .bracket ts then textOnly g.bracketType
  else if isOp ['*'] ts then textOnly g.pointerType
  else if isOp ['&'] ts then textOnly g.referenceType
  else if isOp ['!'] ts then textOnly (if isOp ['!', '='] ts then fail else op ['!'])
  else if isWord "impl" ts then textOnly (g.impliedType plus)
  else if isWord "_" ts then textOnly (word "_")
  else if isLifetimeToken ts then g.lifetimeObject plus
  else fail

end ViewCompanion.Source.Grammar
