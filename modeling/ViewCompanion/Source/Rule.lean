import ViewCompanion.Source.Tree

namespace ViewCompanion.Source

structure Cursor where
  rest : List Token
  /-- What has been read, as it is written again; the last token first. -/
  out : List Token

/-- A rule reads tokens from the front and also says how it would write them: what it reads as an
operator it writes as one, with no joint to what follows. A rule that does not apply fails; nothing
is read back after that. -/
abbrev Rule (α : Type) := StateT Cursor Option α

def keywords : List String := [
  "_", "abstract", "as", "async", "await", "become", "box", "break", "const", "continue", "crate",
  "do", "dyn", "else", "enum", "extern", "false", "final", "fn", "for", "if", "impl", "in", "let",
  "loop", "macro", "match", "mod", "move", "mut", "override", "priv", "pub", "ref", "return",
  "Self", "self", "static", "struct", "super", "trait", "true", "try", "type", "typeof", "unsafe",
  "unsized", "use", "virtual", "where", "while", "yield"]

/-- Whether the tokens begin with an operator. Its last character may be joint to more. -/
def isOp : List Char → List Token → Bool
  | [], _ => true
  | [c], .punct d _ :: _ => c == d
  | c :: cs, .punct d joint :: rest => c == d && joint && isOp cs rest
  | _, _ => false

def isWord (word : String) : List Token → Bool
  | .ident name :: _ => name == word
  | _ => false

def isOneOf (words : List String) : List Token → Bool
  | .ident name :: _ => words.contains name
  | _ => false

def isName : List Token → Bool
  | .ident name :: _ => !keywords.contains name
  | _ => false

def isAnyName : List Token → Bool
  | .ident _ :: _ => true
  | _ => false

def isLifetimeToken : List Token → Bool
  | .punct '\'' true :: .ident _ :: _ => true
  | _ => false

def isGroup (d : Delimiter) : List Token → Bool
  | .group e _ :: _ => d == e
  | _ => false

def isAnyGroup : List Token → Bool
  | .group _ _ :: _ => true
  | _ => false

def isEnd : List Token → Bool := List.isEmpty

/-- A literal in front, what stands for it when it is written again, and the tokens after it. -/
def literal? : List Token → Option (Literal × List Token × List Token)
  | .literal text :: rest => some (.ofText text, [.literal text], rest)
  | .ident "true" :: rest => some (.bool true, [.ident "true"], rest)
  | .ident "false" :: rest => some (.bool false, [.ident "false"], rest)
  | .punct '-' _ :: .literal text :: rest =>
    if Literal.isNumber text.toList then
      some (.ofNegated text, [.punct '-' false, .literal text], rest)
    else none
  | _ => none

def isLiteral (ts : List Token) : Bool :=
  (literal? ts).isSome

def isStringLiteral : List Token → Bool
  | .literal text :: _ => Literal.isString text.toList
  | _ => false

/-- What follows the first token; a lifetime counts as one. -/
def skipOne : List Token → List Token
  | .punct '\'' true :: .ident _ :: rest => rest
  | _ :: rest => rest
  | [] => []

def second (p : List Token → Bool) (ts : List Token) : Bool :=
  p (skipOne ts)

def third (p : List Token → Bool) (ts : List Token) : Bool :=
  p (skipOne (skipOne ts))

namespace Rule

def fail : Rule α := fun _ => none

def rest : Rule (List Token) := fun c => some (c.rest, c)

def sees (p : List Token → Bool) : Rule Bool := fun c => some (p c.rest, c)

def emit (ts : List Token) : Rule Unit := fun c => some ((), { c with out := ts.reverse ++ c.out })

/-- Reads `count` tokens and writes `ts` for them. -/
def replace (count : Nat) (ts : List Token) : Rule Unit := fun c =>
  some ((), ⟨c.rest.drop count, ts.reverse ++ c.out⟩)

def op (cs : List Char) : Rule Unit := do
  if ← sees (isOp cs) then replace cs.length (Token.ofOperator cs) else fail

def op? (cs : List Char) : Rule Bool := do
  if ← sees (isOp cs) then
    replace cs.length (Token.ofOperator cs)
    pure true
  else pure false

def word (w : String) : Rule Unit := do
  if ← sees (isWord w) then replace 1 [.ident w] else fail

def word? (w : String) : Rule Bool := do
  if ← sees (isWord w) then
    replace 1 [.ident w]
    pure true
  else pure false

/-- Any name, a keyword too. -/
def anyName : Rule String := do
  match ← rest with
  | .ident name :: _ =>
    if Text.isName name then
      replace 1 [.ident name]
      pure name
    else fail
  | _ => fail

def name : Rule String := do
  if ← sees isName then anyName else fail

def lifetime : Rule String := do
  match ← rest with
  | .punct '\'' true :: .ident name :: _ =>
    replace 2 [.punct '\'' true, .ident name]
    pure ("'" ++ name)
  | _ => fail

def lifetime? : Rule Bool := do
  if ← sees isLifetimeToken then
    let _ ← lifetime
    pure true
  else pure false

def literal : Rule Literal := fun c =>
  match literal? c.rest with
  | some (l, ts, after) => some (l, ⟨after, ts.reverse ++ c.out⟩)
  | none => none

/-- Reads all that stands between two delimiters by one rule. -/
def group (d : Delimiter) (p : Rule α) : Rule α := fun c =>
  match c.rest with
  | .group e content :: after =>
    if d = e then
      match p ⟨content, []⟩ with
      | some (a, ⟨[], out⟩) => some (a, ⟨after, .group d out.reverse :: c.out⟩)
      | _ => none
    else none
  | _ => none

/-- Reads a group of any kind as it stands. -/
def rawGroup : Rule (Delimiter × List Token) := fun c =>
  match c.rest with
  | .group d content :: after => some ((d, content), ⟨after, .group d content :: c.out⟩)
  | _ => none

def anyGroup (d : Delimiter) : Rule Unit := do
  if ← sees (isGroup d) then
    let _ ← rawGroup
    pure ()
  else fail

/-- Keeps apart what a rule writes. -/
def capture (p : Rule α) : Rule (α × List Token) := fun c =>
  match p ⟨c.rest, []⟩ with
  | some (a, c') => some ((a, c'.out.reverse), ⟨c'.rest, c.out⟩)
  | none => none

/-- Writes everything since `start` as it stood. -/
def asWritten (start : Cursor) : Rule Unit := fun c =>
  some ((), ⟨c.rest,
    (start.rest.take (start.rest.length - c.rest.length)).reverse ++ start.out⟩)

def verbatim (p : Rule α) : Rule α := do
  let start ← get
  let a ← p
  asWritten start
  pure a

/-- The result of a rule that is allowed to fail; then nothing has been read. -/
def attempt (p : Rule α) : Rule (Option α) := fun c =>
  match p c with
  | some (a, c') => some (some a, c')
  | none => some (none, c)

/-- Gives a rule the number of tokens left, to count its rounds down from. -/
def counted (p : Nat → Rule α) : Rule α := fun c =>
  p (c.rest.length + 1) c

def whileFor (go : List Token → Bool) (p : Rule α) : Nat → Rule (List α)
  | 0 => fail
  | n + 1 => do
    if ← sees go then
      let a ← p
      let more ← whileFor go p n
      pure (a :: more)
    else pure []

def whileSeen (go : List Token → Bool) (p : Rule α) : Rule (List α) :=
  counted (whileFor go p)

def separatedFor (stop : List Token → Bool) (p : Rule α) : Nat → Rule (List α)
  | 0 => fail
  | n + 1 => do
    if ← sees stop then pure []
    else
      let a ← p
      if ← sees stop then pure [a]
      else
        op [',']
        let more ← separatedFor stop p n
        pure (a :: more)

/-- Applies a rule up to `stop`, with commas between; one more may come last. -/
def separated (stop : List Token → Bool) (p : Rule α) : Rule (List α) :=
  counted (separatedFor stop p)

def commaList (p : Rule α) : Rule (List α) :=
  separated isEnd p

def linkedFor (link : List Char) (stop : List Token → Bool) (p : Rule α) : Nat → Rule (List α)
  | 0 => fail
  | n + 1 => do
    if ← sees stop then pure []
    else
      let a ← p
      if ← op? link then
        let more ← linkedFor link stop p n
        pure (a :: more)
      else pure [a]

/-- Applies a rule as long as `link` follows it, and no further than `stop`. -/
def linked (link : List Char) (stop : List Token → Bool) (p : Rule α) : Rule (List α) :=
  counted (linkedFor link stop p)

def readAll (p : Rule α) (ts : List Token) : Option α :=
  match p ⟨ts, []⟩ with
  | some (a, ⟨[], _⟩) => some a
  | _ => none

end Rule

end ViewCompanion.Source
