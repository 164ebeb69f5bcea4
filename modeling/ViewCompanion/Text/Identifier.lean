import ViewCompanion.Text.CodePoints
import ViewCompanion.Text.IdentifierTable

namespace ViewCompanion.Text

def isIdentifierStart (c : Char) : Bool :=
  isAsciiLetter c || c == '_' || (127 < c.toNat && within identifierStarts c.toNat)

def isIdentifierContinue (c : Char) : Bool :=
  isIdentifierStart c || isAsciiDigit c || (127 < c.toNat && within identifierExtras c.toNat)

/-- A letter or `_`, then any number of letters, digits and `_`. -/
def isIdentifier : List Char → Bool
  | [] => false
  | c :: rest => isIdentifierStart c && rest.all isIdentifierContinue

/-- An identifier; one that would be a keyword has `r#` in front. -/
def isName (s : String) : Bool :=
  match s.toList with
  | 'r' :: '#' :: rest => isIdentifier rest
  | chars => isIdentifier chars

/-- White space of every script, and the two invisible marks of writing direction. -/
def isWideBlank (c : Char) : Bool :=
  within [(0x85, 0x85), (0xA0, 0xA0), (0x1680, 0x1680), (0x2000, 0x200A), (0x200E, 0x200F),
    (0x2028, 0x2029), (0x202F, 0x202F), (0x205F, 0x205F), (0x3000, 0x3000)] c.toNat

theorem isIdentifierContinue_of_start {c : Char} (h : isIdentifierStart c = true) :
    isIdentifierContinue c = true := by
  simp [isIdentifierContinue, h]

end ViewCompanion.Text
