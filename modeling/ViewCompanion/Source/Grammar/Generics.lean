import ViewCompanion.Source.Grammar.Type

namespace ViewCompanion.Source.Grammar

open Rule

def genericParameter (g : Grammar) : Rule (String × Bool) := do
  let _ ← g.outerAttributes
  if ← sees (isWord "_") then
    let n ← anyName
    pure (n, false)
  else g.parameter

/-- The names of all parameters. An empty list is not written again. -/
def generics (g : Grammar) : Rule (List String) := do
  if ← sees (isOp ['<']) then
    let (names, tokens) ← capture do
      op ['<']
      let names ← lifetimesFirst do
        let (n, isLifetime) ← g.genericParameter
        pure (n, isLifetime)
      op ['>']
      pure names
    if names.isEmpty then pure () else emit tokens
    pure names
  else pure []

def endsWhere (ts : List Token) : Bool :=
  isEnd ts || isGroup .brace ts || isOp [','] ts || isOp [';'] ts || isColon ts || isOp ['='] ts

def endsLifetimeBounds (ts : List Token) : Bool :=
  endsWhere ts || isOp [':'] ts

def wherePredicate (g : Grammar) : Rule Unit := do
  let ts ← rest
  if isLifetimeToken ts && second (isOp [':']) ts then
    let _ ← lifetime
    op [':']
    let _ ← linked ['+'] endsLifetimeBounds lifetime
  else
    let _ ← g.boundLifetimes?
    g.anyType
    op [':']
    let _ ← linked ['+'] endsWhere g.bound

def wherePredicates (g : Grammar) : Nat → Rule Nat
  | 0 => fail
  | n + 1 => do
    if ← sees endsWhere then pure 0
    else
      g.wherePredicate
      if ← op? [','] then
        let more ← wherePredicates g n
        pure (more + 1)
      else pure 1

/-- Says whether anything is asked; otherwise nothing is written again. -/
def whereClause (g : Grammar) : Rule Bool := do
  if ← sees (isWord "where") then
    let (count, tokens) ← capture do
      word "where"
      counted g.wherePredicates
    if count = 0 then pure false
    else
      emit tokens
      pure true
  else pure false

end ViewCompanion.Source.Grammar
