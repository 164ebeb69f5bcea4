import ViewCompanion.Text.CodePoints

namespace ViewCompanion.Text

/-- The value of `c` as a digit of a base up to sixteen. -/
def digitValue? (c : Char) : Option Nat :=
  if '0' ≤ c && c ≤ '9' then some (c.toNat - '0'.toNat)
  else if 'a' ≤ c && c ≤ 'f' then some (c.toNat - 'a'.toNat + 10)
  else if 'A' ≤ c && c ≤ 'F' then some (c.toNat - 'A'.toNat + 10)
  else none

def isHexDigit (c : Char) : Bool :=
  (digitValue? c).isSome

/-- The value of `digits` in `base`, added to `acc` shifted left by as many places. -/
def foldDigits (base : Nat) (acc : Nat) (digits : List Char) : Nat :=
  digits.foldl (fun n c => n * base + (digitValue? c).getD 0) acc

def decimalValue (digits : List Char) : Nat :=
  foldDigits 10 0 digits

/-- One more than the greatest signed number of 64 bits. -/
def int64Bound : Nat := 9223372036854775808

inductive NumeralError
  | empty
  | invalidDigit
  | tooLarge
  deriving DecidableEq, Repr

def NumeralError.message : NumeralError → String
  | .empty => "cannot parse integer from empty string"
  | .invalidDigit => "invalid digit found in string"
  | .tooLarge => "number too large to fit in target type"

/-- Goes on reading digits after `acc`. The first character at fault decides: one that is no digit,
or the digit with which the number reaches `limit`. -/
def readDigits (limit : Nat) : Nat → List Char → Except NumeralError Nat
  | acc, [] => .ok acc
  | acc, c :: rest =>
    if isAsciiDigit c then
      let next := acc * 10 + (c.toNat - '0'.toNat)
      if next < limit then readDigits limit next rest else .error .tooLarge
    else .error .invalidDigit

/-- Reads a number below `limit`: an optional `+`, then one or more decimal digits. -/
def readBelow (limit : Nat) : List Char → Except NumeralError Nat
  | [] => .error .empty
  | '+' :: [] => .error .invalidDigit
  | '+' :: rest => readDigits limit 0 rest
  | text => readDigits limit 0 text

/-- Whether `significand · 10 ^ exponent` has a double next to it: it is nearer to the greatest one
than to what would come after. -/
def isNearDouble (significand : Nat) (exponent : Int) : Bool :=
  if significand = 0 then true
  else
    let places : Int := (Nat.toDigits 10 significand).length + exponent
    if places ≤ 308 then true
    else if 309 < places then false
    else
      let limit := Nat.pow 2 1024 - Nat.pow 2 970
      if 0 ≤ exponent then significand * Nat.pow 10 exponent.toNat < limit
      else significand < limit * Nat.pow 10 (-exponent).toNat

end ViewCompanion.Text
