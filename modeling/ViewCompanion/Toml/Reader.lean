import ViewCompanion.Text.Numeral
import ViewCompanion.Toml.Basic

namespace ViewCompanion

namespace Toml

/-- Takes the text that is left and gives a value and the text after it, or nothing when the text is
at fault. -/
abbrev Reader (α : Type) := List Char → Option (α × List Char)

def isBlank (c : Char) : Bool :=
  c == ' ' || c == '\t'

def skipBlanks (s : List Char) : List Char :=
  s.dropWhile isBlank

/-- A character that may stand on a line. -/
def isPlain (c : Char) : Bool :=
  c == '\t' || (32 ≤ c.toNat && c.toNat != 127)

def isKeyChar (c : Char) : Bool :=
  Text.isAsciiLetter c || Text.isAsciiDigit c || c == '-' || c == '_'

/-- What follows the end of a line, if `s` is at one. -/
def newline? : List Char → Option (List Char)
  | '\n' :: rest => some rest
  | '\r' :: '\n' :: rest => some rest
  | _ => none

def skipComment : List Char → List Char
  | '#' :: rest => rest.dropWhile isPlain
  | s => s

/-- Blanks and a comment up to the end of a line or of the text. -/
def endLine (s : List Char) : Option (List Char) :=
  match skipComment (skipBlanks s) with
  | [] => some []
  | rest => newline? rest

def skipSpace : Nat → List Char → Option (List Char)
  | 0, s => some s
  | fuel + 1, s =>
    match skipBlanks s with
    | '#' :: rest => newline? (rest.dropWhile isPlain) >>= skipSpace fuel
    | rest =>
      match newline? rest with
      | some after => skipSpace fuel after
      | none => some rest

def space (s : List Char) : Option (List Char) :=
  skipSpace s.length s

/-- As many hexadecimal digits as `count`, read as the number of a character. -/
def readScalar (count : Nat) (s : List Char) : Option (Char × List Char) :=
  let digits := s.take count
  let n := Text.foldDigits 16 0 digits
  if digits.length = count ∧ digits.all Text.isHexDigit ∧ n.isValidChar then
    some (Char.ofNat n, s.drop count)
  else none

def readEscape : Reader Char
  | 'b' :: rest => some ('\x08', rest)
  | 'f' :: rest => some ('\x0c', rest)
  | 'n' :: rest => some ('\n', rest)
  | 'r' :: rest => some ('\r', rest)
  | 't' :: rest => some ('\t', rest)
  | '"' :: rest => some ('"', rest)
  | '\\' :: rest => some ('\\', rest)
  | 'u' :: rest => readScalar 4 rest
  | 'U' :: rest => readScalar 8 rest
  | _ => none

/-- The rest of a string on one line, with escapes. -/
def readBasic : Nat → Reader (List Char)
  | 0, _ => none
  | _ + 1, [] => none
  | _ + 1, '"' :: rest => some ([], rest)
  | fuel + 1, '\\' :: rest => do
    let (c, rest) ← readEscape rest
    let (cs, rest) ← readBasic fuel rest
    pure (c :: cs, rest)
  | fuel + 1, c :: rest =>
    if isPlain c then do
      let (cs, rest) ← readBasic fuel rest
      pure (c :: cs, rest)
    else none

/-- The rest of a string on one line, without escapes. -/
def readLiteral : Reader (List Char)
  | [] => none
  | '\'' :: rest => some ([], rest)
  | c :: rest =>
    if isPlain c then (readLiteral rest).map fun (cs, rest) => (c :: cs, rest) else none

/-- The end of a string over several lines: of up to five marks the last three close it. -/
def closing? (mark : Char) (s : List Char) : Option (List Char × List Char) :=
  let marks := (s.takeWhile (· == mark)).length
  if 3 ≤ marks ∧ marks ≤ 5 then some (List.replicate (marks - 3) mark, s.drop marks)
  else none

def skipLines : List Char → List Char
  | '\r' :: '\n' :: rest => skipLines rest
  | c :: rest => if isBlank c || c == '\n' then skipLines rest else c :: rest
  | [] => []

/-- What follows the line end after a backslash: the next character that is no space. -/
def joinLines? (s : List Char) : Option (List Char) :=
  (newline? (skipBlanks s)).map skipLines

def readLong (mark : Char) (escapes : Bool) : Nat → Reader (List Char)
  | 0, _ => none
  | _ + 1, [] => none
  | fuel + 1, c :: rest =>
    let next (cs : List Char) (s : List Char) : Option (List Char × List Char) :=
      (readLong mark escapes fuel s).map fun (more, rest) => (cs ++ more, rest)
    if c = mark then
      if 5 < ((c :: rest).takeWhile (· == mark)).length then none
      else match closing? mark (c :: rest) with
        | some found => some found
        | none => next [c] rest
    else if c = '\\' ∧ escapes then
      match joinLines? rest with
      | some after => next [] after
      | none =>
        match readEscape rest with
        | some (escaped, after) => next [escaped] after
        | none => none
    else match newline? (c :: rest) with
      | some after => next ['\n'] after
      | none => if isPlain c then next [c] rest else none

/-- A line end right after the opening marks does not count. -/
def dropNewline (s : List Char) : List Char :=
  (newline? s).getD s

def readShortString : Reader (List Char)
  | '"' :: rest => readBasic (rest.length + 1) rest
  | '\'' :: rest => readLiteral rest
  | _ => none

def readString : Reader (List Char)
  | '"' :: '"' :: '"' :: rest => readLong '"' true (rest.length + 1) (dropNewline rest)
  | '\'' :: '\'' :: '\'' :: rest => readLong '\'' false (rest.length + 1) (dropNewline rest)
  | s => readShortString s

def readKeyPart (s : List Char) : Option (String × List Char) :=
  match s with
  | '"' :: _ => (readShortString s).map fun (cs, rest) => (String.ofList cs, rest)
  | '\'' :: _ => (readShortString s).map fun (cs, rest) => (String.ofList cs, rest)
  | _ =>
    match s.takeWhile isKeyChar with
    | [] => none
    | cs => some (String.ofList cs, s.dropWhile isKeyChar)

/-- How many parts a key may have, and how many arrays and braces may stand one inside the other. -/
def maxNesting : Nat := 79

def readKeyParts : Nat → Reader (List String)
  | 0, _ => none
  | fuel + 1, s => do
    let (part, rest) ← readKeyPart (skipBlanks s)
    match skipBlanks rest with
    | '.' :: rest =>
      let (parts, rest) ← readKeyParts fuel rest
      pure (part :: parts, rest)
    | rest => pure ([part], rest)

/-- A key: the way to its table, and its last part. -/
def readKey (s : List Char) : Option ((List String × String) × List Char) := do
  let (parts, rest) ← readKeyParts maxNesting s
  let last ← parts.getLast?
  pure ((parts.dropLast, last), rest)

/-- Digits with single underscores between them. -/
def readDigits (isDigit : Char → Bool) : Reader (List Char)
  | [] => none
  | c :: rest =>
    if isDigit c then more (c :: rest) else none
where
  more : List Char → Option (List Char × List Char)
    | [] => some ([], [])
    | '_' :: c :: rest =>
      if isDigit c then (more rest).map fun (cs, rest) => (c :: cs, rest) else none
    | c :: rest =>
      if isDigit c then (more rest).map fun (cs, rest) => (c :: cs, rest)
      else if c = '_' then none
      else some ([], c :: rest)

/-- The digits of a whole number: `0`, or digits that do not begin with one. -/
def readWhole : Reader (List Char)
  | '0' :: rest => some (['0'], rest)
  | s => readDigits Text.isAsciiDigit s

def readSign : List Char → Bool × List Char
  | '-' :: rest => (true, rest)
  | '+' :: rest => (false, rest)
  | rest => (false, rest)

def readFraction : Reader (List Char)
  | '.' :: rest => readDigits Text.isAsciiDigit rest
  | _ => none

def readExponent : Reader Int
  | c :: rest =>
    if c = 'e' ∨ c = 'E' then do
      let (negative, rest) := readSign rest
      let (digits, rest) ← readDigits Text.isAsciiDigit rest
      let n : Int := Text.decimalValue digits
      pure (if negative then -n else n, rest)
    else none
  | [] => none

/-- The number before `rest`. One that is greater than every double is refused. -/
def readDouble (negative : Bool) (significand : Nat) (exponent : Int) (rest : List Char) :
    Option (Toml × List Char) :=
  if negative || Text.isNearDouble significand exponent then some (real, rest) else none

/-- A number with fraction or exponent, or one of the two that are no numbers. -/
def readReal (s : List Char) : Option (Toml × List Char) := do
  let (negative, unsigned) := readSign s
  match unsigned with
  | 'i' :: 'n' :: 'f' :: rest => pure (real, rest)
  | 'n' :: 'a' :: 'n' :: rest => pure (real, rest)
  | _ =>
    let (whole, rest) ← readWhole unsigned
    match readFraction rest with
    | some (fraction, after) =>
      let (exponent, rest) := (readExponent after).getD (0, after)
      let significand := Text.decimalValue (whole ++ fraction)
      readDouble negative significand (exponent - fraction.length) rest
    | none =>
      let (exponent, rest) ← readExponent rest
      readDouble negative (Text.decimalValue whole) exponent rest

/-- A whole number of 64 bits with sign. -/
def toInteger (negative : Bool) (n : Nat) : Option Toml :=
  if negative then if n ≤ Text.int64Bound then some (integer (-(n : Int))) else none
  else if n < Text.int64Bound then some (integer n) else none

def isOctalDigit (c : Char) : Bool := '0' ≤ c && c ≤ '7'

def isBinaryDigit (c : Char) : Bool := c == '0' || c == '1'

def readInBase (base : Nat) (isDigit : Char → Bool) (s : List Char) :
    Option (Toml × List Char) := do
  let (digits, rest) ← readDigits isDigit s
  let value ← toInteger false (Text.foldDigits base 0 digits)
  pure (value, rest)

def readInteger : Reader Toml
  | '0' :: 'x' :: rest => readInBase 16 Text.isHexDigit rest
  | '0' :: 'o' :: rest => readInBase 8 isOctalDigit rest
  | '0' :: 'b' :: rest => readInBase 2 isBinaryDigit rest
  | s => do
    let (negative, unsigned) := readSign s
    let (digits, rest) ← readWhole unsigned
    let value ← toInteger negative (Text.decimalValue digits)
    pure (value, rest)

/-- As many digits as `count`, with a value from `low` to `high`. -/
def readFixed (count low high : Nat) (s : List Char) : Option (Nat × List Char) :=
  let digits := s.take count
  let n := Text.decimalValue digits
  if digits.length = count ∧ digits.all Text.isAsciiDigit ∧ low ≤ n ∧ n ≤ high then
    some (n, s.drop count)
  else none

def expect (c : Char) : List Char → Option (List Char)
  | d :: rest => if c = d then some rest else none
  | [] => none

def isLeapYear (year : Nat) : Bool :=
  year % 4 == 0 && (year % 100 != 0 || year % 400 == 0)

def daysOfMonth (year month : Nat) : Nat :=
  if month = 2 then if isLeapYear year then 29 else 28
  else if month = 4 ∨ month = 6 ∨ month = 9 ∨ month = 11 then 30
  else 31

def readTime (s : List Char) : Option (List Char) := do
  let (_, s) ← readFixed 2 0 23 s
  let s ← expect ':' s
  let (_, s) ← readFixed 2 0 59 s
  let s ← expect ':' s
  let (_, s) ← readFixed 2 0 60 s
  match s with
  | '.' :: rest =>
    match rest.takeWhile Text.isAsciiDigit with
    | [] => pure s
    | _ => pure (rest.dropWhile Text.isAsciiDigit)
  | _ => pure s

/-- The distance from universal time, where one is given. -/
def readOffset : List Char → Option (List Char)
  | c :: rest =>
    if c = 'Z' ∨ c = 'z' then some rest
    else if c = '+' ∨ c = '-' then do
      let (_, s) ← readFixed 2 0 23 rest
      let s ← expect ':' s
      let (_, s) ← readFixed 2 0 59 s
      pure s
    else some (c :: rest)
  | [] => some []

def readDate (s : List Char) : Option (List Char) := do
  let (year, s) ← readFixed 4 0 9999 s
  let s ← expect '-' s
  let (month, s) ← readFixed 2 1 12 s
  let s ← expect '-' s
  let (_, s) ← readFixed 2 1 (daysOfMonth year month) s
  match s with
  | c :: rest =>
    if c = 'T' ∨ c = 't' ∨ c = ' ' then
      match readTime rest with
      | some after => readOffset after
      | none => pure s
    else pure s
  | [] => pure s

/-- A moment, a date or a time of day. -/
def readDatetime (s : List Char) : Option (Toml × List Char) :=
  (readDate s <|> readTime s).map fun rest => (datetime, rest)

def readWord (word : List Char) (value : Toml) (s : List Char) : Option (Toml × List Char) :=
  if word.isPrefixOf s then some (value, s.drop word.length) else none

def readScalarValue (s : List Char) : Option (Toml × List Char) :=
  match s with
  | [] => none
  | c :: _ =>
    if c = '"' ∨ c = '\'' then
      (readString s).map fun (cs, rest) => (string (String.ofList cs), rest)
    else if c = 't' then readWord ['t', 'r', 'u', 'e'] (bool true) s
    else if c = 'f' then readWord ['f', 'a', 'l', 's', 'e'] (bool false) s
    else if c = 'i' ∨ c = 'n' then readReal s
    else if c = '+' ∨ c = '-' ∨ Text.isAsciiDigit c then
      readDatetime s <|> readReal s <|> readInteger s
    else none

/-- Items up to the closing bracket; a comma may follow the last one. -/
def readItems (item : Reader Toml) : Nat → Reader (List Toml)
  | 0, _ => none
  | fuel + 1, s => do
    match ← space s with
    | ']' :: rest => pure ([], rest)
    | s =>
      let (value, rest) ← item s
      match ← space rest with
      | ',' :: rest =>
        let (values, rest) ← readItems item fuel rest
        pure (value :: values, rest)
      | ']' :: rest => pure ([value], rest)
      | _ => none

def readAssignment (value : Reader Toml) (s : List Char) :
    Option ((List String × String × Toml) × List Char) := do
  let ((path, key), rest) ← readKey s
  let rest ← expect '=' rest
  let (v, rest) ← value (skipBlanks rest)
  pure ((path, key, v), rest)

/-- Assignments up to the closing brace; the first one is due. -/
def readAssignments (value : Reader Toml) : Nat → Reader (List (List String × String × Toml))
  | 0, _ => none
  | fuel + 1, s => do
    let (line, rest) ← readAssignment value s
    match skipBlanks rest with
    | ',' :: rest =>
      let (lines, rest) ← readAssignments value fuel rest
      pure (line :: lines, rest)
    | '\x7d' :: rest => pure ([line], rest)
    | _ => none

/-- A value in which at most `levels` arrays and braces stand one inside the other. -/
def readValue : Nat → Reader Toml
  | 0, s => readScalarValue s
  | levels + 1, s =>
    match s with
    | '[' :: rest =>
      (readItems (readValue levels) (rest.length + 1) rest).map
        fun (items, rest) => (array items, rest)
    | '\x7b' :: rest =>
      match skipBlanks rest with
      | '\x7d' :: rest => some (table .inline [], rest)
      | rest => do
        let (lines, rest) ← readAssignments (readValue levels) (rest.length + 1) rest
        let value ← inlineTable lines
        pure (value, rest)
    | _ => readScalarValue s

/-- Reads a line that opens a table or gives a value, and the end of the line. -/
def readLine (s : List Char) : Option (Line × List Char) :=
  match s with
  | '[' :: '[' :: rest => do
    let ((path, key), rest) ← readKey rest
    let rest ← expect ']' rest
    let rest ← expect ']' rest
    let rest ← endLine rest
    pure (.repeated path key, rest)
  | '[' :: rest => do
    let ((path, key), rest) ← readKey rest
    let rest ← expect ']' rest
    let rest ← endLine rest
    pure (.header path key, rest)
  | _ => do
    let ((path, key, value), rest) ← readAssignment (readValue maxNesting) s
    let rest ← endLine rest
    pure (.assign path key value, rest)

def readLines : Nat → List Char → Document → Option Document
  | 0, _, _ => none
  | fuel + 1, s, d =>
    match skipBlanks s with
    | [] => some d
    | '#' :: rest =>
      match endLine ('#' :: rest) with
      | some rest => readLines fuel rest d
      | none => none
    | s =>
      match newline? s with
      | some rest => readLines fuel rest d
      | none => do
        let (line, rest) ← readLine s
        let d ← d.add line
        readLines fuel rest d

/-- Reads a document, without the mark of byte order that it may begin with. -/
def ofText? (text : String) : Option Toml :=
  let s := match text.toList with
    | '\ufeff' :: rest => rest
    | s => s
  (readLines (s.length + 1) s .empty).map fun d => table .header d.fields

end Toml

end ViewCompanion
