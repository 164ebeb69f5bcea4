import ViewCompanion.Source.LiteralSize
import ViewCompanion.Source.Token
import ViewCompanion.Text.Quoted

namespace ViewCompanion.Source

/-- A token in which delimiters stand on their own. -/
inductive Lexeme
  | opening (d : Delimiter)
  | closing (d : Delimiter)
  | leaf (t : Token)

/-- How literals of texts and characters begin; no name may begin so. -/
def literalStarts : List (List Char) := [
  ['r', '"'], ['r', '#', '"'], ['r', '#', '#'], ['b', '"'], ['b', '\''], ['b', 'r', '"'],
  ['b', 'r', '#'], ['c', '"'], ['c', 'r', '"'], ['c', 'r', '#']]

/-- A name, with the mark of a raw name. -/
def identSize? : List Char → Option Nat
  | 'r' :: '#' :: rest =>
    match nameSize? rest with
    | some n =>
      if ["_", "super", "self", "Self", "crate"].contains (String.ofList (rest.take n)) then none
      else some (n + 2)
    | none => none
  | s => nameSize? s

def operatorChars : List Char :=
  ['~', '!', '@', '#', '$', '%', '^', '&', '*', '-', '=', '+', '|', ';', ':', ',', '<', '.', '>',
    '/', '?', '\'']

/-- Whether `s` begins with a character of an operator that opens no comment. -/
def isAtOperator : List Char → Bool
  | '/' :: '/' :: _ => false
  | '/' :: '*' :: _ => false
  | c :: _ => operatorChars.contains c
  | [] => false

/-- Whether the name after a quote makes a lifetime, not a character. -/
def isLifetime (s : List Char) : Bool :=
  match identSize? s with
  | some n =>
    match s.drop n with
    | '\'' :: _ => false
    | '#' :: _ => starts ['r', '#'] s
    | _ => true
  | none => false

def operator? (s : List Char) : Option Token :=
  if isAtOperator s then
    match s with
    | '\'' :: rest => if isLifetime rest then some (.punct '\'' true) else none
    | c :: rest => some (.punct c (isAtOperator rest))
    | [] => none
  else none

/-- What a parser writes in the place of what it could not read. -/
def errorMark : List Char :=
  ['(', '/', '*', 'E', 'R', 'R', 'O', 'R', '*', '/', ')']

/-- A token without delimiters, and how many characters it takes. -/
def leaf? (fuel : Nat) (s : List Char) : Option (Token × Nat) :=
  match literalSize? fuel s with
  | some n => some (.literal (String.ofList (s.take n)), n)
  | none =>
    match operator? s with
    | some t => some (t, 1)
    | none =>
      if literalStarts.any fun front => starts front s then none
      else match identSize? s with
        | some n => some (.ident (String.ofList (s.take n)), n)
        | none =>
          if starts errorMark s then some (.literal (String.ofList errorMark), errorMark.length)
          else none

/-- The text of a documentation comment, whether it is about what it stands in, and the rest. -/
def docComment? : List Char → Option (List Char × Bool × List Char)
  | '/' :: '/' :: '!' :: rest => some (line rest, true, skipLine rest)
  | '/' :: '*' :: '!' :: rest => block true ('/' :: '*' :: '!' :: rest)
  | '/' :: '/' :: '/' :: '/' :: _ => none
  | '/' :: '/' :: '/' :: rest => some (line rest, false, skipLine rest)
  | '/' :: '*' :: '*' :: '*' :: _ => none
  | '/' :: '*' :: '*' :: rest => block false ('/' :: '*' :: '*' :: rest)
  | _ => none
where
  line : List Char → List Char
    | '\n' :: _ => []
    | '\r' :: '\n' :: _ => []
    | c :: rest => c :: line rest
    | [] => []
  block (inner : Bool) (s : List Char) : Option (List Char × Bool × List Char) :=
    (blockSize? 0 s).map fun n => ((s.take (n - 2)).drop 3, inner, s.drop n)

/-- Whether every carriage return stands in front of a line feed. -/
def returnsPaired : List Char → Bool
  | '\r' :: '\n' :: rest => returnsPaired rest
  | '\r' :: _ => false
  | _ :: rest => returnsPaired rest
  | [] => true

def docChars : List Char → List Char
  | [] => []
  | '\x00' :: c :: rest =>
    (if '0' ≤ c && c ≤ '7' then ['\\', 'x', '0', '0'] else ['\\', '0']) ++ docChars (c :: rest)
  | c :: rest => Text.escapeChar c ++ docChars rest

def docAttribute (text : List Char) (inner : Bool) : List Token :=
  let content := [
    .ident "doc", .punct '=' false, .literal (String.ofList ('"' :: docChars text ++ ['"']))]
  .punct '#' false :: (if inner then [.punct '!' false] else []) ++ [.group .bracket content]

def lexemes : Nat → List Char → Option (List Lexeme)
  | 0, _ => none
  | fuel + 1, s =>
    let s := skipBlanks false fuel s
    match docComment? s with
    | some (text, inner, rest) =>
      if returnsPaired text then
        (lexemes fuel rest).map fun more => (docAttribute text inner).map .leaf ++ more
      else none
    | none =>
      match s with
      | [] => some []
      | c :: rest =>
        if c = '(' ∧ !starts errorMark s then (lexemes fuel rest).map (.opening .parenthesis :: ·)
        else if c = '[' then (lexemes fuel rest).map (.opening .bracket :: ·)
        else if c = '\x7b' then (lexemes fuel rest).map (.opening .brace :: ·)
        else if c = ')' then (lexemes fuel rest).map (.closing .parenthesis :: ·)
        else if c = ']' then (lexemes fuel rest).map (.closing .bracket :: ·)
        else if c = '\x7d' then (lexemes fuel rest).map (.closing .brace :: ·)
        else match leaf? (fuel + 1) s with
          | some (t, n) => (lexemes fuel (s.drop n)).map (.leaf t :: ·)
          | none => none

/-- Puts together what stands between delimiters. `done` holds the tokens of the innermost open
group, last first, and `outer` those of the groups around it. -/
def nest : List Lexeme → List Token → List (Delimiter × List Token) → Option (List Token)
  | [], done, [] => some done.reverse
  | [], _, _ :: _ => none
  | .leaf t :: rest, done, outer => nest rest (t :: done) outer
  | .opening d :: rest, done, outer => nest rest [] ((d, done) :: outer)
  | .closing _ :: _, _, [] => none
  | .closing d :: rest, done, (e, before) :: outer =>
    if d = e then nest rest (.group d done.reverse :: before) outer else none

/-- What follows the mark of byte order that a text may begin with. -/
def dropOrderMark : List Char → List Char
  | '\ufeff' :: rest => rest
  | s => s

def tokens? (s : List Char) : Option (List Token) :=
  let s := dropOrderMark s
  (lexemes (s.length + 1) s).bind fun ls => nest ls [] []

/-- A file without the line that names its interpreter. -/
def dropInterpreter (s : List Char) : List Char :=
  match s with
  | '#' :: '!' :: rest =>
    match skipBlanks true rest.length rest with
    | '[' :: _ => s
    | _ => s.dropWhile (· != '\n')
  | _ => s

def fileTokens? (text : String) : Option (List Token) :=
  tokens? (dropInterpreter (dropOrderMark text.toList))

end ViewCompanion.Source
