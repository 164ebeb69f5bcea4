namespace ViewCompanion.Source

inductive Delimiter
  | parenthesis
  | bracket
  | brace
  deriving DecidableEq, Repr

inductive Token
  /-- A name or a keyword; raw names keep their mark. -/
  | ident (name : String)
  /-- One character of an operator; `joint` when the next character belongs to an operator too. -/
  | punct (c : Char) (joint : Bool)
  | literal (text : String)
  | group (delimiter : Delimiter) (content : List Token)
  deriving Repr, Inhabited

namespace Token

def isJoint : Token → Bool
  | punct _ joint => joint
  | _ => false

mutual

/-- A token with everything inside it. -/
def size : Token → Nat
  | group _ content => sizeOfAll content + 1
  | _ => 1

def sizeOfAll : List Token → Nat
  | [] => 0
  | t :: ts => size t + sizeOfAll ts

end

mutual

def text : Token → List Char
  | ident name => name.toList
  | punct c _ => [c]
  | literal text => text.toList
  | group .parenthesis content => '(' :: textOfAll content ++ [')']
  | group .bracket content => '[' :: textOfAll content ++ [']']
  | group .brace [] => ['\x7b', ' ', '\x7d']
  | group .brace (t :: ts) => '\x7b' :: ' ' :: textOfAll (t :: ts) ++ [' ', '\x7d']

/-- Tokens have a blank between them, joint characters of an operator have none. -/
def textOfAll : List Token → List Char
  | [] => []
  | t :: ts => text t ++ (if ts.isEmpty || t.isJoint then [] else [' ']) ++ textOfAll ts

end

def display (tokens : List Token) : String :=
  String.ofList (textOfAll tokens)

def ofOperator : List Char → List Token
  | [] => []
  | [c] => [punct c false]
  | c :: cs => punct c true :: ofOperator cs

end Token

end ViewCompanion.Source
