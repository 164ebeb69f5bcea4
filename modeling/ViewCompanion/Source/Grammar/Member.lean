import ViewCompanion.Source.Grammar.Function

namespace ViewCompanion.Source.Grammar

open Rule

/-- The type of a field without a name may be given in place. -/
def isInPlace (ts : List Token) : Bool :=
  isWord "struct" ts || (isWord "union" ts && second (isGroup .brace) ts)

def namedField (g : Grammar) : Nat → Rule Field
  | 0 => fail
  | n + 1 => do
    let attributes ← g.outerAttributes
    let _ ← visibility
    let blank ← sees (isWord "_")
    let fieldName ← if blank then anyName else name
    op [':']
    if blank && isInPlace (← rest) then
      let ((), tokens) ← capture <| verbatim do
        let _ ← anyName
        let _ ← group .brace (commaList (namedField g n))
      emit tokens
      pure ⟨attributes, some fieldName, .other (Token.display tokens)⟩
    else
      let t ← g.typeExpr true
      pure ⟨attributes, some fieldName, t⟩

def namedFields (g : Grammar) : Rule (List Field) := do
  let depth := Token.sizeOfAll (← rest)
  group .brace (commaList (g.namedField (depth + 1)))

def unnamedField (g : Grammar) : Rule Field := do
  let attributes ← g.outerAttributes
  let _ ← visibility
  let t ← g.typeExpr true
  pure ⟨attributes, none, t⟩

def unnamedFields (g : Grammar) : Rule (List Field) :=
  group .parenthesis (commaList g.unnamedField)

def structBody (g : Grammar) : Rule (List Field) := do
  let constrained ← sees (isWord "where")
  let _ ← g.whereClause
  let ts ← rest
  if !constrained && isGroup .parenthesis ts then
    let fields ← g.unnamedFields
    let _ ← g.whereClause
    op [';']
    pure fields
  else if isGroup .brace ts then g.namedFields
  else
    op [';']
    pure []

def variant (g : Grammar) : Rule Unit := do
  let _ ← g.outerAttributes
  let _ ← capture visibility
  let _ ← name
  let ts ← rest
  if isGroup .brace ts then
    let _ ← g.namedFields
  else if isGroup .parenthesis ts then
    let _ ← g.unnamedFields
  if ← op? ['='] then g.anyValue

def enumBody (g : Grammar) : Rule Unit := do
  let _ ← g.whereClause
  let _ ← group .brace (commaList g.variant)

def unionBody (g : Grammar) : Rule (List Field) := do
  let _ ← g.whereClause
  g.namedFields

def constant (g : Grammar) : Rule Unit := do
  word "const"
  if ← sees (isWord "_") then word "_"
  else
    let _ ← name
  let _ ← g.generics
  op [':']
  g.anyType
  if ← op? ['='] then g.anyValue
  let _ ← g.whereClause
  op [';']

structure TypeDefinition where
  name : String
  generic : Bool
  bounded : Bool
  target? : Option TypeExpr

/-- A type that is given a name. The flags say where its parameters may be constrained: before the
type it stands for, and after it. -/
def typeDefinition (g : Grammar) (before after : Bool) : Rule TypeDefinition := do
  word "type"
  let n ← name
  let parameters ← g.generics
  let bounded ← sees (isOp [':'])
  if bounded then
    op [':']
    let _ ← linked ['+'] (fun ts => isWord "where" ts || isOp ['='] ts || isOp [';'] ts) g.bound
  let constrained ← sees (isWord "where")
  if before then
    let _ ← g.whereClause
  let target? ← if ← op? ['='] then
      let t ← g.typeExpr true
      pure (some t)
    else pure none
  if after && !(before && constrained) then
    let _ ← g.whereClause
  op [';']
  pure ⟨n, !parameters.isEmpty, bounded, target?⟩

def traitMember (g : Grammar) : Rule Unit := do
  let _ ← g.outerAttributes
  let visible ← visibility
  let default ← word? "default"
  let ts ← rest
  if isSignature false ts then g.function false
  else if isWord "const" ts then g.constant
  else if isWord "type" ts then
    let _ ← g.typeDefinition false true
  else if !visible && !default && isPlainPathStart ts then macroItem
  else fail

def implMember (g : Grammar) : Rule Unit := do
  let _ ← g.outerAttributes
  let visible ← visibility
  let default ← sees fun ts => isWord "default" ts && !second (isOp ['!']) ts
  if default then word "default"
  let ts ← rest
  if isSignature false ts then g.function false
  else if isWord "const" ts then g.constant
  else if isWord "type" ts then
    let _ ← g.typeDefinition false true
  else if !visible && !default && isPlainPathStart ts then macroItem
  else fail

def static (g : Grammar) : Rule Unit := do
  word "static"
  let _ ← word? "mut"
  let _ ← name
  if ← op? [':'] then
    g.anyType
    if ← op? ['='] then g.anyValue
  else
    op ['=']
    g.anyValue
  op [';']

def foreignStatic (g : Grammar) : Rule Unit := do
  word "static"
  let _ ← word? "mut"
  let _ ← name
  op [':']
  g.anyType
  if ← op? ['='] then g.anyValue
  op [';']

def foreignMember (g : Grammar) : Rule Unit := do
  let _ ← g.outerAttributes
  let visible ← visibility
  let ts ← rest
  if isSignature true ts then g.function true
  else if isWord "static" ts then g.foreignStatic
  else if isOneOf ["unsafe", "safe"] ts && second (isWord "static") ts then
    let _ ← anyName
    g.foreignStatic
  else if isWord "type" ts then
    let _ ← g.typeDefinition true true
  else if !visible && isPlainPathStart ts then macroItem
  else fail

/-- Members between braces. Says which attributes the braces open with. -/
def members (g : Grammar) (p : Rule α) : Rule (List Attribute × List α) :=
  group .brace do
    let attributes ← g.innerAttributes
    let found ← whileSeen (fun ts => !isEnd ts) p
    pure (attributes, found)

end ViewCompanion.Source.Grammar
