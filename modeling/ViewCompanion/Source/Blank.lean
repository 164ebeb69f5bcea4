import ViewCompanion.Text.Identifier

namespace ViewCompanion.Source

def isDocStart : List Char → Bool
  | '/' :: '/' :: '!' :: _ => true
  | '/' :: '/' :: '/' :: '/' :: _ => false
  | '/' :: '/' :: '/' :: _ => true
  | '/' :: '*' :: '!' :: _ => true
  | '/' :: '*' :: '*' :: '/' :: _ => false
  | '/' :: '*' :: '*' :: '*' :: _ => false
  | '/' :: '*' :: '*' :: _ => true
  | _ => false

def skipLine : List Char → List Char
  | '\n' :: rest => '\n' :: rest
  | '\r' :: '\n' :: rest => '\n' :: rest
  | _ :: rest => skipLine rest
  | [] => []

/-- How many characters a comment takes, counted after `depth` openings. Comments nest. -/
def blockSize? : Nat → List Char → Option Nat
  | depth, '/' :: '*' :: rest => (blockSize? (depth + 1) rest).map (· + 2)
  | 0, _ => none
  | 1, '*' :: '/' :: _ => some 2
  | depth + 2, '*' :: '/' :: rest => (blockSize? (depth + 1) rest).map (· + 2)
  | depth, _ :: rest => (blockSize? depth rest).map (· + 1)
  | _, [] => none

/-- One comment that can be skipped, if `s` is at one: what follows it. -/
def comment? (s : List Char) : Option (List Char) :=
  if isDocStart s then none
  else match s with
    | '/' :: '/' :: rest => some (skipLine rest)
    | '/' :: '*' :: _ => (blockSize? 0 s).map s.drop
    | _ => none

def isBlank (c : Char) : Bool :=
  c == ' ' || (9 ≤ c.toNat && c.toNat ≤ 12) || Text.isWideBlank c

/-- Skips blanks and comments. A carriage return counts in front of a line feed, and alone only if
`loneReturns`. -/
def skipBlanks (loneReturns : Bool) : Nat → List Char → List Char
  | 0, s => s
  | fuel + 1, s =>
    match comment? s with
    | some rest => skipBlanks loneReturns fuel rest
    | none =>
      match s with
      | '\r' :: '\n' :: rest => skipBlanks loneReturns fuel rest
      | c :: rest =>
        if isBlank c || (loneReturns && c == '\r') then skipBlanks loneReturns fuel rest else s
      | [] => []

end ViewCompanion.Source
