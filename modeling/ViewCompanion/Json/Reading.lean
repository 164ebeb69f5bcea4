import ViewCompanion.Json.Basic
import ViewCompanion.Text.Numeral

namespace ViewCompanion

/-- What a reader meets in a text, in order. A text that stops being well formed gives the values up
to that point and then `broken`, so that whoever looks at the values in order meets a fault of the
text exactly where it stands. -/
inductive Reading
  | null
  | bool (b : Bool)
  /-- A number without fraction and exponent that fits 64 bits, signed or not. -/
  | integer (n : Int)
  /-- Any other number; `finite` unless it is beyond every double. -/
  | real (finite : Bool)
  | string (s : String)
  /-- A string with half of a surrogate pair. It has no value, but can be passed over. -/
  | unpaired
  | array (items : List Reading)
  /-- A key without a value is `none`. -/
  | object (fields : List (Option String × Reading))
  | broken
  deriving Repr, Inhabited

namespace Reading

def isBlank (c : Char) : Bool :=
  c == ' ' || c == '\n' || c == '\t' || c == '\r'

def skipBlanks (s : List Char) : List Char :=
  s.dropWhile isBlank

def readUnit : List Char → Option (Nat × List Char)
  | a :: b :: c :: d :: rest =>
    if [a, b, c, d].all Text.isHexDigit then some (Text.foldDigits 16 0 [a, b, c, d], rest)
    else none
  | _ => none

/-- A character of a string: itself, or half of a surrogate pair that stands alone. -/
abbrev Piece := Option Char

def isHighSurrogate (n : Nat) : Bool := 0xD800 ≤ n && n ≤ 0xDBFF

def isLowSurrogate (n : Nat) : Bool := 0xDC00 ≤ n && n ≤ 0xDFFF

/-- An escape of four digits, or of twice four for a surrogate pair. -/
def readUnicodeEscape (s : List Char) : Option (Piece × List Char) := do
  let (first, rest) ← readUnit s
  if isHighSurrogate first then
    match rest with
    | '\\' :: 'u' :: more =>
      let (second, after) ← readUnit more
      if isLowSurrogate second then
        pure (some (Char.ofNat (0x10000 + (first - 0xD800) * 0x400 + (second - 0xDC00))), after)
      else pure (none, rest)
    | _ => pure (none, rest)
  else if isLowSurrogate first then pure (none, rest)
  else pure (some (Char.ofNat first), rest)

def readEscape : List Char → Option (Piece × List Char)
  | '"' :: rest => some (some '"', rest)
  | '\\' :: rest => some (some '\\', rest)
  | '/' :: rest => some (some '/', rest)
  | 'b' :: rest => some (some '\x08', rest)
  | 'f' :: rest => some (some '\x0c', rest)
  | 'n' :: rest => some (some '\n', rest)
  | 'r' :: rest => some (some '\r', rest)
  | 't' :: rest => some (some '\t', rest)
  | 'u' :: rest => readUnicodeEscape rest
  | _ => none

/-- The characters up to the closing quote, after the opening one. -/
def readPieces : Nat → List Char → Option (List Piece × List Char)
  | 0, _ => none
  | _ + 1, [] => none
  | _ + 1, '"' :: rest => some ([], rest)
  | fuel + 1, '\\' :: rest => do
    let (piece, after) ← readEscape rest
    let (pieces, last) ← readPieces fuel after
    pure (piece :: pieces, last)
  | fuel + 1, c :: rest =>
    if c.toNat < 32 then none
    else do
      let (pieces, last) ← readPieces fuel rest
      pure (some c :: pieces, last)

/-- The text of the pieces, unless one of them stands for no character. -/
def textOf (pieces : List Piece) : Option String :=
  (pieces.mapM id).map String.ofList

def readString (s : List Char) : Option (Option String × List Char) :=
  (readPieces (s.length + 1) s).map fun (pieces, rest) => (textOf pieces, rest)

structure Numeral where
  negative : Bool
  whole : List Char
  fraction : Option (List Char)
  exponent : Option (Bool × List Char)

def takeDigits (s : List Char) : List Char × List Char :=
  (s.takeWhile Text.isAsciiDigit, s.dropWhile Text.isAsciiDigit)

/-- A whole part is `0`, or digits that do not begin with one. -/
def readWhole (s : List Char) : Option (List Char × List Char) :=
  match takeDigits s with
  | ([], _) => none
  | ('0' :: _ :: _, _) => none
  | parts => some parts

def readFraction : List Char → Option (Option (List Char) × List Char)
  | '.' :: s =>
    match takeDigits s with
    | ([], _) => none
    | (digits, rest) => some (some digits, rest)
  | s => some (none, s)

def readExponentDigits (negative : Bool) (s : List Char) :
    Option (Option (Bool × List Char) × List Char) :=
  match takeDigits s with
  | ([], _) => none
  | (digits, rest) => some (some (negative, digits), rest)

def readExponent : List Char → Option (Option (Bool × List Char) × List Char)
  | c :: s =>
    if c == 'e' || c == 'E' then
      match s with
      | '+' :: rest => readExponentDigits false rest
      | '-' :: rest => readExponentDigits true rest
      | rest => readExponentDigits false rest
    else some (none, c :: s)
  | [] => some (none, [])

def readNumeral (s : List Char) : Option (Numeral × List Char) := do
  let (negative, s) := match s with
    | '-' :: rest => (true, rest)
    | rest => (false, rest)
  let (whole, s) ← readWhole s
  let (fraction, s) ← readFraction s
  let (exponent, s) ← readExponent s
  pure (⟨negative, whole, fraction, exponent⟩, s)

def Numeral.reading (n : Numeral) : Reading :=
  match n.fraction, n.exponent with
  | none, none =>
    let value := Text.decimalValue n.whole
    if n.negative then
      if value = 0 then .real true
      else if value ≤ Text.int64Bound then .integer (-value)
      else .real (Text.isNearDouble value 0)
    else if value < UInt64.size then .integer value
    else .real (Text.isNearDouble value 0)
  | fraction, exponent =>
    let digits := fraction.getD []
    let shift : Int := match exponent with
      | none => 0
      | some (false, e) => Text.decimalValue e
      | some (true, e) => -(Text.decimalValue e : Int)
    .real (Text.isNearDouble (Text.decimalValue (n.whole ++ digits)) (shift - digits.length))

def readWord (word : List Char) (s : List Char) (value : Reading) : Reading × List Char :=
  if word.isPrefixOf s then (value, s.drop word.length) else (broken, [])

mutual

/-- Reads a value. After a fault nothing is left to read. -/
def readValue : Nat → List Char → Reading × List Char
  | 0, _ => (broken, [])
  | fuel + 1, s =>
    match skipBlanks s with
    | [] => (broken, [])
    | '"' :: rest =>
      match readString rest with
      | some (some text, rest) => (string text, rest)
      | some (none, rest) => (unpaired, rest)
      | none => (broken, [])
    | '[' :: rest =>
      match skipBlanks rest with
      | ']' :: rest => (array [], rest)
      | rest =>
        let (items, rest) := readItems fuel rest
        (array items, rest)
    | '\x7b' :: rest =>
      match skipBlanks rest with
      | '\x7d' :: rest => (object [], rest)
      | rest =>
        let (fields, rest) := readFields fuel rest
        (object fields, rest)
    | 'n' :: rest => readWord ['u', 'l', 'l'] rest null
    | 't' :: rest => readWord ['r', 'u', 'e'] rest (bool true)
    | 'f' :: rest => readWord ['a', 'l', 's', 'e'] rest (bool false)
    | s =>
      match readNumeral s with
      | some (n, rest) => (n.reading, rest)
      | none => (broken, [])

/-- Reads items up to the closing bracket; the first one is due. -/
def readItems : Nat → List Char → List Reading × List Char
  | 0, _ => ([broken], [])
  | fuel + 1, s =>
    let (item, rest) := readValue fuel s
    match skipBlanks rest with
    | ',' :: rest =>
      let (items, rest) := readItems fuel rest
      (item :: items, rest)
    | ']' :: rest => ([item], rest)
    | _ => ([item, broken], [])

/-- Reads fields up to the closing brace; the first one is due. -/
def readFields : Nat → List Char → List (Option String × Reading) × List Char
  | 0, _ => ([(none, broken)], [])
  | fuel + 1, s =>
    match skipBlanks s with
    | '"' :: rest =>
      match readString rest with
      | none => ([(none, broken)], [])
      | some (key, rest) =>
        match skipBlanks rest with
        | ':' :: rest =>
          let (value, rest) := readValue fuel rest
          match skipBlanks rest with
          | ',' :: rest =>
            let (fields, rest) := readFields fuel rest
            ((key, value) :: fields, rest)
          | '\x7d' :: rest => ([(key, value)], rest)
          | _ => ([(key, value), (none, broken)], [])
        | _ => ([(key, broken)], [])
    | _ => ([(none, broken)], [])

end

/-- The value that a text begins with, and whether only blanks follow it. -/
def ofText (text : String) : Reading × Bool :=
  let s := text.toList
  let (value, rest) := readValue (2 * s.length + 2) s
  (value, (skipBlanks rest).isEmpty)

mutual

/-- Whether the value can be passed over: it holds no fault of the text. -/
def isIntact : Reading → Bool
  | broken => false
  | array items => itemsIntact items
  | object fields => fieldsIntact fields
  | _ => true

def itemsIntact : List Reading → Bool
  | [] => true
  | v :: vs => isIntact v && itemsIntact vs

def fieldsIntact : List (Option String × Reading) → Bool
  | [] => true
  | f :: fs => fieldIntact f && fieldsIntact fs

def fieldIntact : Option String × Reading → Bool
  | (_, v) => isIntact v

end

mutual

/-- Whether the value can be kept for later: each part has a value of its own, and at most `depth`
arrays and objects stand one inside the other. -/
def isStorable : Nat → Reading → Bool
  | _, broken => false
  | _, unpaired => false
  | _, real finite => finite
  | 0, array _ => false
  | depth + 1, array items => itemsStorable depth items
  | 0, object _ => false
  | depth + 1, object fields => fieldsStorable depth fields
  | _, _ => true

def itemsStorable : Nat → List Reading → Bool
  | _, [] => true
  | depth, v :: vs => isStorable depth v && itemsStorable depth vs

def fieldsStorable : Nat → List (Option String × Reading) → Bool
  | _, [] => true
  | depth, f :: fs => fieldStorable depth f && fieldsStorable depth fs

def fieldStorable : Nat → Option String × Reading → Bool
  | _, (none, _) => false
  | depth, (some _, v) => isStorable depth v

end

end Reading

end ViewCompanion
