import ViewCompanion.Source.LiteralSize

namespace ViewCompanion.Source

inductive Literal
  /-- A whole number; the suffix and the text are as written. -/
  | int (negative : Bool) (value : Nat) (suffix : List Char) (text : String)
  | str (value : String)
  | bool (value : Bool)
  | other (text : String)
  deriving DecidableEq, Repr

namespace Literal

/-- Whether an `e` after digits opens an exponent; `s` is what follows it. -/
def opensExponent (digits : Bool) (s : List Char) : Bool :=
  match s with
  | [] => digits
  | c :: rest =>
    if c = '_' then opensExponent digits rest
    else if c = '-' ∨ c = '+' then true
    else if Text.isAsciiDigit c then opensExponent true rest
    else digits && Text.isIdentifier s

/-- The value of the digits in `base`, and what follows them; nothing for a number with a point or
an exponent. -/
def wholeValue? (base acc : Nat) (digits : Bool) : List Char → Option (Nat × List Char)
  | [] => if digits then some (acc, []) else none
  | c :: rest =>
    if c = '_' then wholeValue? base acc digits rest
    else if base = 10 ∧ c = '.' then none
    else if base = 10 ∧ (c = 'e' ∨ c = 'E') then
      if opensExponent false rest || !digits then none else some (acc, c :: rest)
    else match Text.digitValue? c with
      | some v =>
        if 10 ≤ v ∧ base ≤ 10 then if digits then some (acc, c :: rest) else none
        else if v < base then wholeValue? base (acc * base + v) true rest
        else none
      | none => if digits then some (acc, c :: rest) else none

/-- A whole number as written: its value and its suffix. -/
def numeral? (s : List Char) : Option (Nat × List Char) :=
  let parts := match s with
    | '0' :: 'x' :: rest => wholeValue? 16 0 false rest
    | '0' :: 'o' :: rest => wholeValue? 8 0 false rest
    | '0' :: 'b' :: rest => wholeValue? 2 0 false rest
    | c :: rest => if Text.isAsciiDigit c then wholeValue? 10 0 false (c :: rest) else none
    | [] => none
  match parts with
  | some (value, suffix) =>
    if suffix.isEmpty || Text.isIdentifier suffix then some (value, suffix) else none
  | none => none

def isNumber : List Char → Bool
  | c :: _ => Text.isAsciiDigit c
  | [] => false

/-- Whether the text is a number with a point or an exponent. -/
def isReal (s : List Char) : Bool :=
  isNumber s && (numeral? s).isNone

def isString : List Char → Bool
  | '"' :: _ => true
  | 'r' :: _ => true
  | _ => false

def hexValue (digits : List Char) : Nat :=
  Text.foldDigits 16 0 (digits.filter (· != '_'))

def unescape : List Char → Option (Char × List Char)
  | 'x' :: a :: b :: rest => some (Char.ofNat (hexValue [a, b]), rest)
  | 'u' :: '\x7b' :: rest =>
    some (Char.ofNat (hexValue (rest.takeWhile (· != '\x7d'))),
      (rest.dropWhile (· != '\x7d')).drop 1)
  | 'n' :: rest => some ('\n', rest)
  | 'r' :: rest => some ('\r', rest)
  | 't' :: rest => some ('\t', rest)
  | '0' :: rest => some ('\x00', rest)
  | c :: rest => some (c, rest)
  | [] => none

def isContinuation (c : Char) : Bool :=
  c == ' ' || c == '\t' || c == '\n' || c == '\r'

/-- The characters of a text with escapes up to its closing quote. Line ends are line feeds. -/
def cooked : Nat → List Char → List Char
  | 0, _ => []
  | fuel + 1, s =>
    match s with
    | [] => []
    | '"' :: _ => []
    | '\r' :: '\n' :: rest => '\n' :: cooked fuel rest
    | '\\' :: '\n' :: rest => cooked fuel (rest.dropWhile isContinuation)
    | '\\' :: '\r' :: rest => cooked fuel (rest.dropWhile isContinuation)
    | '\\' :: rest =>
      match unescape rest with
      | some (c, after) => c :: cooked fuel after
      | none => []
    | c :: rest => c :: cooked fuel rest

def betweenQuotes (s : List Char) : List Char :=
  let body := (s.dropWhile (· != '"')).drop 1
  ((body.reverse.dropWhile (· != '"')).drop 1).reverse

def stringValue (s : List Char) : List Char :=
  match s with
  | '"' :: rest => cooked (rest.length + 1) rest
  | _ => betweenQuotes s

def ofText (text : String) : Literal :=
  let s := text.toList
  match numeral? s with
  | some (value, suffix) => int false value suffix text
  | none => if isString s then str (String.ofList (stringValue s)) else other text

def ofNegated (text : String) : Literal :=
  match numeral? text.toList with
  | some (value, suffix) => int true value suffix ("-" ++ text)
  | none => other ("- " ++ text)

end Literal

end ViewCompanion.Source
