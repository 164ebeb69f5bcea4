import ViewCompanion.Text.CodePoints
import ViewCompanion.Text.EscapedTable

namespace ViewCompanion.Text

def hexDigits (n : Nat) : List Char :=
  Nat.toDigits 16 n

/-- Characters without a shape of their own are shown by number. -/
def isEscaped (c : Char) : Bool :=
  c.toNat < 32 || c.toNat == 127 || (127 < c.toNat && within escaped c.toNat)

def escapeChar : Char → List Char
  | '"' => ['\\', '"']
  | '\\' => ['\\', '\\']
  | '\n' => ['\\', 'n']
  | '\r' => ['\\', 'r']
  | '\t' => ['\\', 't']
  | '\x00' => ['\\', '0']
  | c => if isEscaped c then ['\\', 'u', '\x7b'] ++ hexDigits c.toNat ++ ['\x7d'] else [c]

def quoted (s : String) : String :=
  String.ofList ('"' :: s.toList.flatMap escapeChar ++ ['"'])

end ViewCompanion.Text
