import ViewCompanion.Source.Blank
import ViewCompanion.Text.Numeral

/-!
How far a literal reaches. Every function here answers how many characters of the text belong to
what it looks for, or nothing when the text does not begin with that.
-/

namespace ViewCompanion.Source

def nameSize? : List Char → Option Nat
  | [] => none
  | c :: rest =>
    if Text.isIdentifierStart c then some ((rest.takeWhile Text.isIdentifierContinue).length + 1)
    else none

/-- A name that may follow a literal at once. -/
def suffixSize (s : List Char) : Nat :=
  (nameSize? s).getD 0

def starts (front : List Char) (s : List Char) : Bool :=
  front.isPrefixOf s

inductive TextKind
  | string
  | bytes
  | zeroEnded
  deriving DecidableEq, Repr

namespace TextKind

/-- Which characters may stand for themselves. -/
def admits : TextKind → Char → Bool
  | string, _ => true
  | bytes, c => c.toNat < 128
  | zeroEnded, c => c != '\x00'

end TextKind

/-- A number of one to six digits between braces, with the character it stands for. -/
def codePointSize? : List Char → Option (Nat × Char)
  | '\x7b' :: s => digits 0 0 s
  | _ => none
where
  digits (count value : Nat) : List Char → Option (Nat × Char)
    | [] => none
    | '\x7d' :: _ =>
      if 0 < count ∧ value.isValidChar then some (2, Char.ofNat value) else none
    | '_' :: rest =>
      if 0 < count then (digits count value rest).map fun (n, c) => (n + 1, c) else none
    | d :: rest =>
      match Text.digitValue? d with
      | some v =>
        if count = 6 then none
        else (digits (count + 1) (value * 16 + v) rest).map fun (n, c) => (n + 1, c)
      | none => none

/-- Two digits after `\x`. -/
def byteEscapeIsOk (kind : TextKind) (a b : Char) : Bool :=
  Text.isHexDigit a && Text.isHexDigit b &&
    match kind with
    | .string => '0' ≤ a && a ≤ '7'
    | .bytes => true
    | .zeroEnded => a != '0' || b != '0'

/-- An escape, counted after the backslash; none that goes on in the next line. -/
def escapeSize? (kind : TextKind) : List Char → Option Nat
  | 'x' :: a :: b :: _ => if byteEscapeIsOk kind a b then some 3 else none
  | 'u' :: rest =>
    if kind = .bytes then none
    else match codePointSize? rest with
      | some (n, c) => if kind = .zeroEnded ∧ c = '\x00' then none else some (n + 1)
      | none => none
  | '0' :: _ => if kind = .zeroEnded then none else some 1
  | c :: _ => if ['n', 'r', 't', '\\', '\'', '"'].contains c then some 1 else none
  | [] => none

/-- The blanks between a backslash at the end of a line and the next character of the text. -/
def continuationSize? : List Char → Option Nat
  | '\r' :: '\n' :: rest => (continuationSize? rest).map (· + 2)
  | '\r' :: _ => none
  | c :: rest =>
    if c = ' ' ∨ c = '\t' ∨ c = '\n' then (continuationSize? rest).map (· + 1) else some 0
  | [] => none

/-- The rest of a text with escapes, with its closing quote. -/
def cookedSize? (kind : TextKind) : Nat → List Char → Option Nat
  | 0, _ => none
  | fuel + 1, s =>
    match s with
    | [] => none
    | '"' :: _ => some 1
    | '\r' :: '\n' :: rest => (cookedSize? kind fuel rest).map (· + 2)
    | '\r' :: _ => none
    | '\\' :: rest =>
      let escape := match rest with
        | '\n' :: _ => continuationSize? rest
        | '\r' :: _ => continuationSize? rest
        | _ => escapeSize? kind rest
      match escape with
      | some n => (cookedSize? kind fuel (rest.drop n)).map (· + n + 1)
      | none => none
    | c :: rest => if kind.admits c then (cookedSize? kind fuel rest).map (· + 1) else none

/-- The rest of a text without escapes, closed by a quote and as many marks as opened it. -/
def rawSize? (kind : TextKind) (marks : Nat) : List Char → Option Nat
  | [] => none
  | '"' :: rest =>
    if starts (List.replicate marks '#') rest then some (marks + 1)
    else (rawSize? kind marks rest).map (· + 1)
  | '\r' :: '\n' :: rest => (rawSize? kind marks rest).map (· + 2)
  | '\r' :: _ => none
  | c :: rest => if kind.admits c then (rawSize? kind marks rest).map (· + 1) else none

def rawTextSize? (kind : TextKind) (s : List Char) : Option Nat :=
  let marks := (s.takeWhile (· == '#')).length
  match s.drop marks with
  | '"' :: rest =>
    if 255 < marks then none else (rawSize? kind marks rest).map (· + marks + 1)
  | _ => none

def textSize? (fuel : Nat) : List Char → Option Nat
  | '"' :: rest => (cookedSize? .string fuel rest).map (· + 1)
  | 'r' :: rest => (rawTextSize? .string rest).map (· + 1)
  | 'b' :: '"' :: rest => (cookedSize? .bytes fuel rest).map (· + 2)
  | 'b' :: 'r' :: rest => (rawTextSize? .bytes rest).map (· + 2)
  | 'c' :: '"' :: rest => (cookedSize? .zeroEnded fuel rest).map (· + 2)
  | 'c' :: 'r' :: rest => (rawTextSize? .zeroEnded rest).map (· + 2)
  | _ => none

def characterBodySize? (kind : TextKind) : List Char → Option Nat
  | '\\' :: rest =>
    match escapeSize? kind rest with
    | some n => if starts ['\''] (rest.drop n) then some (n + 2) else none
    | none => none
  | c :: '\'' :: _ => if kind.admits c then some 2 else none
  | _ => none

def characterSize? : List Char → Option Nat
  | '\'' :: rest => (characterBodySize? .string rest).map (· + 1)
  | 'b' :: '\'' :: rest => (characterBodySize? .bytes rest).map (· + 2)
  | _ => none

/-- What a number with a point or an exponent has after its first digit. -/
structure RealHead where
  size : Nat
  point : Bool
  exponent : Bool

def realHead? (point : Bool) : List Char → Option RealHead
  | [] => some ⟨0, point, false⟩
  | '.' :: rest =>
    if point then some ⟨0, point, false⟩
    else match rest with
      | [] => some ⟨1, true, false⟩
      | c :: _ =>
        if c = '.' ∨ Text.isIdentifierStart c then none
        else (realHead? true rest).map fun h => { h with size := h.size + 1 }
  | c :: rest =>
    if Text.isAsciiDigit c || c == '_' then
      (realHead? point rest).map fun h => { h with size := h.size + 1 }
    else if c = 'e' ∨ c = 'E' then some ⟨1, point, true⟩
    else some ⟨0, point, false⟩

/-- The digits of an exponent with at most one sign in front of them. -/
def exponentSize? (signed : Bool) (valued : Bool) : List Char → Option Nat
  | [] => if valued then some 0 else none
  | c :: rest =>
    if c = '+' ∨ c = '-' then
      if valued then some 0
      else if signed then none
      else (exponentSize? true valued rest).map (· + 1)
    else if Text.isAsciiDigit c then (exponentSize? signed true rest).map (· + 1)
    else if c = '_' then (exponentSize? signed valued rest).map (· + 1)
    else if valued then some 0 else none

/-- The digits of a number with a point or an exponent. An exponent without digits does not count
when there is a point. -/
def realDigits? : List Char → Option Nat
  | [] => none
  | c :: rest =>
    if Text.isAsciiDigit c then
      match realHead? false rest with
      | none => none
      | some ⟨n, point, true⟩ =>
        match exponentSize? false false (rest.drop n) with
        | some m => some (n + m + 1)
        | none => if point then some n else none
      | some ⟨n, point, false⟩ => if point then some (n + 1) else none
    else none

def wholeDigits? (base : Nat) (empty : Bool) : List Char → Option Nat
  | [] => if empty then none else some 0
  | c :: rest =>
    if c = '_' then
      if empty ∧ base = 10 then none else (wholeDigits? base empty rest).map (· + 1)
    else match Text.digitValue? c with
      | some v =>
        if v < base then (wholeDigits? base false rest).map (· + 1)
        else if v < 10 ∨ empty then none
        else some 0
      | none => if empty then none else some 0

def wholeSize? : List Char → Option Nat
  | '0' :: 'x' :: rest => (wholeDigits? 16 true rest).map (· + 2)
  | '0' :: 'o' :: rest => (wholeDigits? 8 true rest).map (· + 2)
  | '0' :: 'b' :: rest => (wholeDigits? 2 true rest).map (· + 2)
  | s => wholeDigits? 10 true s

/-- A number with the name that may follow it; nothing else of a name may come after. -/
def withSuffix? (digits : Option Nat) (s : List Char) : Option Nat :=
  match digits with
  | some n =>
    let size := n + suffixSize (s.drop n)
    match s.drop size with
    | c :: _ => if Text.isIdentifierContinue c then none else some size
    | [] => some size
  | none => none

def numberSize? (s : List Char) : Option Nat :=
  withSuffix? (realDigits? s) s <|> withSuffix? (wholeSize? s) s

def literalSize? (fuel : Nat) (s : List Char) : Option Nat :=
  match textSize? fuel s <|> characterSize? s with
  | some n => some (n + suffixSize (s.drop n))
  | none => numberSize? s

end ViewCompanion.Source
