import ViewCompanion.Source.Grammar.Member

namespace ViewCompanion.Source.Grammar

open Rule

/-- A tree in braces; nothing comes of one that starts at the very top in part. -/
def useGroupFor (g : Grammar) (allowTop : Bool) : Nat → Rule (Option (List UseTree))
  | 0 => fail
  | n + 1 => do
    if ← sees isEnd then pure (some [])
    else
      let top ← if allowTop then op? pathSep else pure false
      let tree? ← g.useTree (allowTop && !top)
      let more? ← if ← sees isEnd then pure (some [])
        else
          op [',']
          useGroupFor g allowTop n
      match top, tree?, more? with
      | false, some tree, some more => pure (some (tree :: more))
      | _, _, _ => pure none

def useTreeOf (g : Grammar) (allowTop : Bool) : Rule (Option UseTree) := do
  let ts ← rest
  if isName ts || isOneOf ["self", "super", "crate", "try"] ts then
    let n ← anyName
    if ← op? pathSep then
      let tree? ← g.useTree false
      pure (tree?.map (.path n))
    else if ← word? "as" then
      let newName ← if ← sees (isWord "_") then anyName else name
      pure (some (.rename n newName))
    else pure (some (.name n))
  else if ← op? ['*'] then pure (some .glob)
  else
    let trees? ← group .brace (counted (g.useGroupFor allowTop))
    pure (trees?.map .group)

def useItem (g : Grammar) (allowTop : Bool) : Rule (Option UseTree) := do
  word "use"
  let top ← op? pathSep
  let tree? ← g.useTree (allowTop && !top)
  op [';']
  pure tree?

def externCrate : Rule Unit := do
  word "extern"
  word "crate"
  if ← word? "self" then pure ()
  else
    let _ ← name
  if ← word? "as" then
    if ← word? "_" then pure ()
    else
      let _ ← name
  op [';']

def foreignBlock (g : Grammar) : Rule Unit := do
  let _ ← word? "unsafe"
  let _ ← abi?
  let _ ← g.members g.foreignMember

def moduleItem (g : Grammar) (attributes : List Attribute) : Rule Item := do
  let _ ← word? "unsafe"
  word "mod"
  let n ← if ← sees (isWord "try") then anyName else name
  if ← op? [';'] then pure (.module attributes n none)
  else
    let (inner, items) ← g.members g.item
    pure (.module (attributes ++ inner) n (some items))

def structItem (g : Grammar) (attributes : List Attribute) : Rule Item := do
  word "struct"
  let n ← name
  let parameters ← g.generics
  let fields ← g.structBody
  pure (.struct ⟨attributes, n, parameters, fields⟩)

def enumItem (g : Grammar) : Rule Item := do
  word "enum"
  let n ← name
  let _ ← g.generics
  g.enumBody
  pure (.other n)

def unionItem (g : Grammar) : Rule Item := do
  word "union"
  let n ← name
  let _ ← g.generics
  let _ ← g.unionBody
  pure (.other n)

def aliasItem (g : Grammar) : Rule Item := do
  let d ← g.typeDefinition true false
  match d.bounded, d.target? with
  | false, some target => pure (.synonym d.name d.generic target)
  | _, _ => pure .silent

/-- Bounds with `+` between, up to `stop`; one more `+` may come last. -/
def boundsUpTo (g : Grammar) (stop : List Token → Bool) : Nat → Rule Unit
  | 0 => fail
  | n + 1 => do
    if ← sees stop then pure ()
    else
      g.bound
      if ← sees stop then pure ()
      else
        op ['+']
        boundsUpTo g stop n

def traitBody (g : Grammar) : Rule Unit := do
  if ← op? [':'] then
    counted (g.boundsUpTo fun ts => isWord "where" ts || isGroup .brace ts)
  let _ ← g.whereClause
  let _ ← g.members g.traitMember

/-- A trait, or another name for bounds, which is no item of its own here. -/
def traitItem (g : Grammar) : Rule Item := do
  let special ← sees fun ts => !isWord "trait" ts
  let _ ← word? "unsafe"
  let _ ← word? "auto"
  word "trait"
  let n ← name
  let _ ← g.generics
  if !special && isOp ['='] (← rest) then
    op ['=']
    counted (g.boundsUpTo fun ts => isWord "where" ts || isOp [';'] ts)
    let _ ← g.whereClause
    op [';']
    pure .silent
  else
    g.traitBody
    pure (.other n)

/-- Whether `<` after `impl` opens parameters and not a type. -/
def isParameterList (ts : List Token) : Bool :=
  isOp ['<'] ts && second (fun ts =>
    isOp ['>'] ts || isOp ['#'] ts || isWord "const" ts
      || ((isLifetimeToken ts || isName ts) && second (fun ts =>
        isOp ['>'] ts || isOp [','] ts || isColon ts || isOp ['='] ts) ts)) ts

/-- An implementation; only one of a trait that is a path is an item of its own here. -/
def implItem (g : Grammar) (visible : Bool) : Rule Item := do
  let _ ← word? "default"
  let _ ← word? "unsafe"
  word "impl"
  if ← sees isParameterList then
    let _ ← g.generics
  let isConst ← sees fun ts => isWord "const" ts || (isOp ['?'] ts && second (isWord "const") ts)
  if isConst then
    let _ ← op? ['?']
    word "const"
  let negative ← sees fun ts => isOp ['!'] ts && !second (isGroup .brace) ts
  if negative then op ['!']
  let first ← g.typeExpr true
  let self? ← if ← word? "for" then
      let t ← g.typeExpr true
      pure (some t)
    else pure none
  let _ ← g.whereClause
  let _ ← g.members g.implMember
  match visible || isConst, first, self? with
  | false, .path interface _ args, some self =>
    pure (.implementation ⟨negative, interface, args, self⟩)
  | _, _, _ => pure .silent

def macroDefinition : Rule Unit := do
  word "macro"
  let _ ← name
  if ← sees (isGroup .parenthesis) then anyGroup .parenthesis
  anyGroup .brace

/-- A macro call as an item, with a name after the `!` or without. -/
def macroCallItem : Rule Unit := do
  let _ ← modPath
  op ['!']
  if ← sees fun ts => isName ts || isWord "try" ts then
    let _ ← anyName
  let (d, _) ← rawGroup
  if d = .brace then pure () else op [';']

def silently (p : Rule α) : Rule Item := do
  let _ ← p
  pure .silent

def isUnsafe (w : String) (ts : List Token) : Bool :=
  isWord "unsafe" ts && second (isWord w) ts

def isAutoTrait (ts : List Token) : Bool :=
  isWord "auto" ts && second (isWord "trait") ts

def isForeign (ts : List Token) : Bool :=
  isUnsafe "extern" ts || (isWord "extern" ts && second (fun ts =>
    isGroup .brace ts || (isStringLiteral ts && second (isGroup .brace) ts)) ts)

def itemOf (g : Grammar) : Rule Item := do
  let attributes ← g.outerAttributes
  let visible ← visibility
  let ts ← rest
  if isSignature false ts then silently (g.function false)
  else if isWord "extern" ts && second (isWord "crate") ts then silently externCrate
  else if isForeign ts then if visible then fail else silently g.foreignBlock
  else if isWord "use" ts then
    match ← g.useItem true with
    | some tree => pure (.use tree)
    | none => pure .silent
  else if isWord "static" ts then silently g.static
  else if isWord "const" ts then silently g.constant
  else if isWord "mod" ts || isUnsafe "mod" ts then g.moduleItem attributes
  else if isWord "type" ts then g.aliasItem
  else if isWord "struct" ts then g.structItem attributes
  else if isWord "enum" ts then g.enumItem
  else if isWord "union" ts && second isName ts then g.unionItem
  else if isWord "trait" ts || isUnsafe "trait" ts || isAutoTrait ts
      || (isWord "unsafe" ts && second isAutoTrait ts) then g.traitItem
  else if isWord "impl" ts || isUnsafe "impl" ts
      || (isWord "default" ts && !second (isOp ['!']) ts) then g.implItem visible
  else if isWord "macro" ts then silently macroDefinition
  else if !visible && isPlainPathStart ts then silently macroCallItem
  else fail

/-- The items of a file, after what is said about the file itself. -/
def file (g : Grammar) : Rule (List Item) := do
  let _ ← g.innerAttributes
  whileSeen (fun ts => !isEnd ts) g.item

/-- A struct, an enumeration or a union by itself. -/
def deriveInput (g : Grammar) : Rule DeriveInput := do
  let _ ← g.outerAttributes
  let _ ← visibility
  let ts ← rest
  let _ ← anyName
  let _ ← name
  let parameters ← g.generics
  let generic := !parameters.isEmpty
  if isWord "struct" ts then
    let fields ← g.structBody
    pure ⟨true, generic, fields⟩
  else if isWord "enum" ts then
    g.enumBody
    pure ⟨false, generic, []⟩
  else if isWord "union" ts then
    let fields ← g.unionBody
    pure ⟨false, generic, fields⟩
  else fail

end ViewCompanion.Source.Grammar
