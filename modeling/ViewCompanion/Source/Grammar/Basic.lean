import ViewCompanion.Source.Rule

namespace ViewCompanion.Source

/-- What a value is, as far as the rules around it need to know. -/
inductive Shape
  | literal (l : Literal)
  /-- A whole number after a minus. -/
  | negated (value : Nat)
  | path (path : NamePath)
  | range
  | comparison
  /-- What ends by itself where a statement is due. -/
  | block
  | macroCall (braces : Bool)
  | other
  deriving Repr

namespace Shape

def isRange : Shape → Bool
  | range => true
  | _ => false

def isComparison : Shape → Bool
  | comparison => true
  | _ => false

def isBlock : Shape → Bool
  | block => true
  | _ => false

/-- Whether a statement of this shape needs a semicolon before the next one. -/
def needsSemicolon : Shape → Bool
  | block => false
  | macroCall braces => !braces
  | _ => true

end Shape

def ValueExpr.ofShape (tokens : List Token) : Shape → ValueExpr
  | .literal l => .literal l
  | .negated value => .negated value (Token.display tokens)
  | .path p => .path p
  | _ => .other (Token.display tokens)

/-- A type, and whether it is a single bound without `dyn`. -/
structure TypeRead where
  expr : TypeExpr
  loneBound : Bool

/-- What a pattern is, as far as the rules around it need to know. -/
inductive PatternShape
  | rest
  | openRange
  | other
  deriving DecidableEq, Repr

abbrev Level := Nat

/-- The rules through which the others reach each other. -/
structure Grammar where
  /-- A type; the flag allows more bounds after `+`. -/
  type : Bool → Rule TypeRead
  bound : Rule Unit
  pattern : Rule PatternShape
  /-- A value; the flag allows fields in braces after a path. -/
  value : Bool → Rule Shape
  operand : Bool → Rule Shape
  /-- The operators of at least a level after an operand. -/
  operators : Bool → Level → Shape → Rule Shape
  early : Rule Shape
  statements : Rule Unit
  item : Rule Item
  /-- An imported tree; the flag allows trees that start at the very top. -/
  useTree : Bool → Rule (Option UseTree)

def Grammar.failing : Grammar where
  type _ := Rule.fail
  bound := Rule.fail
  pattern := Rule.fail
  value _ := Rule.fail
  operand _ := Rule.fail
  operators _ _ _ := Rule.fail
  early := Rule.fail
  statements := Rule.fail
  item := Rule.fail
  useTree _ := Rule.fail

namespace Grammar

open Rule

def typeExpr (g : Grammar) (plus : Bool) : Rule TypeExpr := do
  let t ← g.type plus
  pure t.expr

def anyValue (g : Grammar) : Rule Unit := do
  let _ ← g.value true
  pure ()

def anyType (g : Grammar) : Rule Unit := do
  let _ ← g.type true
  pure ()

def pathSep : List Char := [':', ':']

def isPathSep (ts : List Token) : Bool := isOp pathSep ts

/-- A colon that is not the first of two. -/
def isColon (ts : List Token) : Bool :=
  isOp [':'] ts && !isOp pathSep ts

def pathWords : List String := ["super", "self", "Self", "crate"]

def isPathName (ts : List Token) : Bool :=
  isName ts || isOneOf pathWords ts

/-- How the path of a macro or module starts. -/
def isPlainPathStart (ts : List Token) : Bool :=
  isName ts || isOneOf ["self", "super", "crate"] ts || isPathSep ts

def modNames : Nat → Rule (List String)
  | 0 => fail
  | n + 1 => do
    if ← sees isPathName then
      let name ← anyName
      if ← op? pathSep then
        let more ← modNames n
        pure (name :: more)
      else pure [name]
    else fail

def modPath : Rule NamePath := do
  let absolute ← op? pathSep
  let names ← counted modNames
  pure ⟨absolute, names⟩

def metaPath : Rule NamePath := do
  if ← word? "unsafe" then pure ⟨false, ["unsafe"]⟩ else modPath

/-- The value of an attribute. A literal may carry a minus; attributes have no place here. -/
def metaValue (g : Grammar) : Rule ValueExpr := do
  let ts ← rest
  match literal? ts with
  | some (l, _, []) =>
    let _ ← literal
    pure (.literal l)
  | _ =>
    if isOp ['#'] ts && second (isGroup .bracket) ts then fail
    else
      let (shape, tokens) ← capture (g.value true)
      emit tokens
      pure (.ofShape tokens shape)

/-- The inside of an attribute. -/
def metaItem (g : Grammar) : Rule Attribute := do
  let path ← metaPath
  let ts ← rest
  if isAnyGroup ts then
    let (_, tokens) ← rawGroup
    pure ⟨path, .list tokens⟩
  else if ← op? ['='] then
    let v ← g.metaValue
    pure ⟨path, .value v⟩
  else pure ⟨path, .word⟩

def outerAttribute (g : Grammar) : Rule Attribute := do
  op ['#']
  group .bracket g.metaItem

def outerAttributes (g : Grammar) : Rule (List Attribute) :=
  whileSeen (isOp ['#']) g.outerAttribute

def innerAttribute (g : Grammar) : Rule Attribute := do
  op ['#']
  op ['!']
  group .bracket g.metaItem

def innerAttributes (g : Grammar) : Rule (List Attribute) :=
  whileSeen (fun ts => isOp ['#'] ts && second (isOp ['!']) ts) g.innerAttribute

def block (g : Grammar) : Rule Unit :=
  group .brace g.statements

/-- Attributes of what the braces belong to, then statements. -/
def body (g : Grammar) : Rule Unit :=
  group .brace do
    let _ ← g.innerAttributes
    g.statements

/-- Whether the tokens after `pub` say for whom it is. -/
def isRestriction : List Token → Bool
  | .ident name :: more =>
    (["crate", "self", "super"].contains name && more.isEmpty) || name == "in"
  | _ => false

def restriction : Rule Unit :=
  group .parenthesis do
    if ← word? "in" then
      let _ ← modPath
      pure ()
    else
      let _ ← anyName
      pure ()

/-- Whether a visibility is written. -/
def visibility : Rule Bool := do
  if ← word? "pub" then
    match ← rest with
    | .group .parenthesis content :: _ =>
      if isRestriction content then restriction
      pure true
    | _ => pure true
  else pure false

/-- The mark of a macro call after its path. -/
def isMacroMark (ts : List Token) : Bool :=
  isOp ['!'] ts && !isOp ['!', '='] ts

/-- A macro call after its path; says whether it has braces. -/
def macroRest : Rule Bool := do
  op ['!']
  let (d, _) ← rawGroup
  pure (d == .brace)

/-- A macro call as an item of its own; without braces it ends in a semicolon. -/
def macroItem : Rule Unit := do
  let _ ← modPath
  if ← macroRest then pure () else op [';']

end Grammar

end ViewCompanion.Source
