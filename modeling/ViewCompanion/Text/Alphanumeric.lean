import ViewCompanion.Text.AlphanumericTable
import ViewCompanion.Text.CodePoints

namespace ViewCompanion.Text

def isAlphanumeric (c : Char) : Bool :=
  isAsciiLetter c || isAsciiDigit c || (127 < c.toNat && within alphanumerics c.toNat)

end ViewCompanion.Text
