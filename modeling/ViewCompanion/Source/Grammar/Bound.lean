import ViewCompanion.Source.Grammar.Path

namespace ViewCompanion.Source.Grammar

open Rule

/-- Bounds after a colon. Without any the colon is not written again. -/
def colonBounds (stop : List Token → Bool) (p : Rule α) : Rule Unit := do
  if ← sees (isOp [':']) then
    let (found, tokens) ← capture do
      op [':']
      linked ['+'] stop p
    if found.isEmpty then pure () else emit tokens

def lifetimeParameter : Rule String := do
  let name ← lifetime
  colonBounds (fun ts => isEnd ts || isOp [','] ts || isOp ['>'] ts) lifetime
  pure name

def typeParameter (g : Grammar) : Rule String := do
  let n ← name
  colonBounds (fun ts => isOp [','] ts || isOp ['>'] ts || isOp ['='] ts) g.bound
  if ← op? ['='] then g.anyType
  pure n

def constParameter (g : Grammar) : Rule String := do
  word "const"
  let n ← name
  op [':']
  g.anyType
  if ← op? ['='] then g.constArgument
  pure n

/-- A parameter: its name, and whether it is a lifetime. -/
def parameter (g : Grammar) : Rule (String × Bool) := do
  let _ ← g.outerAttributes
  let ts ← rest
  if isLifetimeToken ts then
    let n ← lifetimeParameter
    pure (n, true)
  else if isWord "const" ts then
    let n ← g.constParameter
    pure (n, false)
  else
    let n ← g.typeParameter
    pure (n, false)

/-- The lifetimes that a type or bound is for. -/
def boundLifetimes (g : Grammar) : Rule Unit := do
  word "for"
  op ['<']
  let _ ← separated (isOp ['>']) g.parameter
  op ['>']

def boundLifetimes? (g : Grammar) : Rule Bool := do
  if ← sees (isWord "for") then
    g.boundLifetimes
    pure true
  else pure false

/-- What a result takes from its surroundings. -/
def captures : Rule Unit := do
  word "use"
  op ['<']
  let _ ← lifetimesFirst do
    let ts ← rest
    if isLifetimeToken ts then
      let n ← lifetime
      pure (n, true)
    else if isName ts || isWord "Self" ts then
      let n ← anyName
      pure (n, false)
    else fail
  op ['>']

/-- A trait as a bound; says whether it is a `const` one. -/
def traitBound (g : Grammar) (allowConst : Bool) : Rule Bool := do
  let lifetimes ← g.boundLifetimes?
  let conditional ← sees (isGroup .bracket)
  if conditional then group .bracket (word "const")
  let isConst ← if conditional then pure true else word? "const"
  let relaxed ← op? ['?']
  if (isConst && !allowConst) || (relaxed && lifetimes) then fail
  else
    let p ← g.plainPath false
    if p.endsBare && isCallStart (← rest) then
      dropPathSep
      let _ ← g.callArguments
    pure isConst

/-- A bound; says whether it is a trait. A bound with `const` is written as it stood. -/
def boundWith (g : Grammar) (allowCaptures allowConst : Bool) : Rule Bool := do
  let ts ← rest
  if isLifetimeToken ts then
    let _ ← lifetime
    pure false
  else if isWord "use" ts then
    if allowCaptures then
      captures
      pure false
    else fail
  else
    let start ← get
    let isConst ←
      if isGroup .parenthesis ts then group .parenthesis (g.traitBound allowConst)
      else g.traitBound allowConst
    if isConst then asWritten start
    pure true

def isBoundStart (allowConst : Bool) (ts : List Token) : Bool :=
  isAnyName ts || isPathSep ts || isOp ['?'] ts || isLifetimeToken ts || isGroup .parenthesis ts
    || (allowConst && isGroup .bracket ts)

def boundsFor (g : Grammar) (plus allowCaptures allowConst : Bool) : Nat → Rule Bool
  | 0 => fail
  | n + 1 => do
    let isTrait ← g.boundWith allowCaptures allowConst
    if plus && isOp ['+'] (← rest) then
      op ['+']
      if isBoundStart allowConst (← rest) then
        let more ← boundsFor g plus allowCaptures allowConst n
        pure (isTrait || more)
      else pure isTrait
    else pure isTrait

/-- Bounds that stand for a type: one of them is a trait. -/
def typeBounds (g : Grammar) (plus allowCaptures allowConst : Bool) : Rule Unit := do
  if ← counted (g.boundsFor plus allowCaptures allowConst) then pure () else fail

end ViewCompanion.Source.Grammar
