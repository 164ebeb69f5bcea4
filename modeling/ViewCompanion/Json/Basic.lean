namespace ViewCompanion

inductive Json
  | null
  | bool (b : Bool)
  | number (n : Int)
  | string (s : String)
  | array (items : List Json)
  | object (fields : List (String × Json))
  deriving Repr, Inhabited

namespace Json

def hexDigit (n : Nat) : Char :=
  if n < 10 then Char.ofNat ('0'.toNat + n) else Char.ofNat ('a'.toNat + (n - 10))

/-- Quotes, backslashes and control characters are escaped; everything else stands for itself. -/
def escapeChar : Char → List Char
  | '"' => ['\\', '"']
  | '\\' => ['\\', '\\']
  | '\n' => ['\\', 'n']
  | '\r' => ['\\', 'r']
  | '\t' => ['\\', 't']
  | '\x08' => ['\\', 'b']
  | '\x0c' => ['\\', 'f']
  | c =>
    if c.toNat < 32 then ['\\', 'u', '0', '0', hexDigit (c.toNat / 16), hexDigit (c.toNat % 16)]
    else [c]

def stringText (s : String) : List Char :=
  '"' :: s.toList.flatMap escapeChar ++ ['"']

def numberText (n : Int) : List Char :=
  if n < 0 then '-' :: Nat.toDigits 10 n.natAbs else Nat.toDigits 10 n.natAbs

mutual

def compactText : Json → List Char
  | null => ['n', 'u', 'l', 'l']
  | bool true => ['t', 'r', 'u', 'e']
  | bool false => ['f', 'a', 'l', 's', 'e']
  | number n => numberText n
  | string s => stringText s
  | array [] => ['[', ']']
  | array (v :: vs) => '[' :: compactText v ++ compactItems vs
  | object [] => ['\x7b', '\x7d']
  | object (f :: fs) => '\x7b' :: compactField f ++ compactFields fs

def compactItems : List Json → List Char
  | [] => [']']
  | v :: vs => ',' :: compactText v ++ compactItems vs

def compactField : String × Json → List Char
  | (k, v) => stringText k ++ ':' :: compactText v

def compactFields : List (String × Json) → List Char
  | [] => ['\x7d']
  | f :: fs => ',' :: compactField f ++ compactFields fs

end

def newline (level : Nat) : List Char :=
  '\n' :: List.replicate (2 * level) ' '

mutual

/-- The text spread over lines, for a value that stands at `level`. -/
def prettyText (level : Nat) : Json → List Char
  | null => ['n', 'u', 'l', 'l']
  | bool true => ['t', 'r', 'u', 'e']
  | bool false => ['f', 'a', 'l', 's', 'e']
  | number n => numberText n
  | string s => stringText s
  | array [] => ['[', ']']
  | array (v :: vs) =>
    '[' :: newline (level + 1) ++ prettyText (level + 1) v ++ prettyItems level vs
  | object [] => ['\x7b', '\x7d']
  | object (f :: fs) =>
    '\x7b' :: newline (level + 1) ++ prettyField level f ++ prettyFields level fs

def prettyItems (level : Nat) : List Json → List Char
  | [] => newline level ++ [']']
  | v :: vs => ',' :: newline (level + 1) ++ prettyText (level + 1) v ++ prettyItems level vs

def prettyField (level : Nat) : String × Json → List Char
  | (k, v) => stringText k ++ ':' :: ' ' :: prettyText (level + 1) v

def prettyFields (level : Nat) : List (String × Json) → List Char
  | [] => newline level ++ ['\x7d']
  | f :: fs => ',' :: newline (level + 1) ++ prettyField level f ++ prettyFields level fs

end

def compact (v : Json) : String :=
  String.ofList (compactText v)

def pretty (v : Json) : String :=
  String.ofList (prettyText 0 v)

mutual

/-- How many arrays and objects stand around the innermost value. -/
def depth : Json → Nat
  | array items => depthItems items + 1
  | object fields => depthFields fields + 1
  | _ => 0

def depthItems : List Json → Nat
  | [] => 0
  | v :: vs => max (depth v) (depthItems vs)

def depthFields : List (String × Json) → Nat
  | [] => 0
  | f :: fs => max (depthField f) (depthFields fs)

def depthField : String × Json → Nat
  | (_, v) => depth v

end

/-- The fields of an object, without those that are left out. -/
def record (fields : List (Option (String × Json))) : Json :=
  object (fields.filterMap id)

/-- A field that is left out when its list is empty. -/
def listField (name : String) (encode : α → Json) (items : List α) : Option (String × Json) :=
  if items.isEmpty then none else some (name, array (items.map encode))

/-- A field that is left out when it has no value. -/
def optionField (name : String) (encode : α → Json) (value : Option α) : Option (String × Json) :=
  value.map fun v => (name, encode v)

def field (name : String) (value : Json) : Option (String × Json) :=
  some (name, value)

end Json

end ViewCompanion
