import ViewCompanion.Source.Grammar.Item
import ViewCompanion.Source.Lexer

namespace ViewCompanion.Source

/-- The rules, each calling the others at most `n` deep. -/
def grammar : Nat → Grammar
  | 0 => .failing
  | n + 1 => {
    type := fun plus c => (grammar n).typeOf plus c
    bound := fun c => ((grammar n).boundWith false true >>= fun _ => pure ()) c
    pattern := fun c => (grammar n).patternOf c
    value := fun braces c => (grammar n).valueOf braces c
    operand := fun braces c => (grammar n).operandOf braces c
    operators := fun braces base shape c => (grammar n).operatorsOf braces base shape c
    early := fun c => (grammar n).earlyOf c
    statements := fun c => (grammar n).statementsOf c
    item := fun c => (grammar n).itemOf c
    useTree := fun allowTop c => (grammar n).useTreeOf allowTop c }

/-- Reads all of the tokens. The rules call each other at most as deep as tokens are nested or
repeated, so this many rounds are always enough. -/
def readTokens? (rule : Grammar → Rule α) (tokens : List Token) : Option α :=
  Rule.readAll (rule (grammar (8 * Token.sizeOfAll tokens + 32))) tokens

def readText? (rule : Grammar → Rule α) (text : String) : Option α :=
  (tokens? text.toList).bind (readTokens? rule)

def itemsOfFile? (text : String) : Option (List Item) :=
  (fileTokens? text).bind (readTokens? Grammar.file)

/-- An import with everything it needs, and nothing that starts at the very top. -/
def useTreeOfText? (text : String) : Option UseTree :=
  (readText? (fun g => do
    let _ ← g.outerAttributes
    let _ ← Grammar.visibility
    g.useItem false) text).join

def typeOfText? : String → Option TypeExpr :=
  readText? fun g => g.typeExpr true

def attributesOfText? : String → Option (List Attribute) :=
  readText? Grammar.outerAttributes

def deriveInputOfText? : String → Option DeriveInput :=
  readText? Grammar.deriveInput

def pathsOf? : List Token → Option (List NamePath) :=
  readTokens? fun g => Rule.commaList do
    let p ← g.plainPath false
    pure p.namePath

def valuesOf? : List Token → Option (List ValueExpr) :=
  readTokens? fun g => Rule.commaList do
    let (shape, tokens) ← Rule.capture (g.value true)
    Rule.emit tokens
    pure (.ofShape tokens shape)

def metasOf? : List Token → Option (List Attribute) :=
  readTokens? fun g => Rule.commaList g.metaItem

def metaOf? : List Token → Option Attribute :=
  readTokens? Grammar.metaItem

end ViewCompanion.Source
