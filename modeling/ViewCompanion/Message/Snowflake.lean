import ViewCompanion.Json.Decode

namespace ViewCompanion

structure Snowflake where
  id : UInt64
  deriving DecidableEq, Repr

namespace Snowflake

def ofText (text : String) : Except Text.NumeralError Snowflake :=
  (Text.readBelow UInt64.size text.toList).map fun n => ⟨UInt64.ofNat n⟩

def text (s : Snowflake) : String :=
  String.ofList (Nat.toDigits 10 s.id.toNat)

/-- An id is written as a string, since not every reader keeps 64 bits of a number. -/
def encode (s : Snowflake) : Json :=
  .string s.text

def decode : Decoder Snowflake
  | _, .string digits => (ofText digits).mapError .numeral
  | _, .integer n =>
    if 0 ≤ n then .ok ⟨UInt64.ofNat n.toNat⟩ else .error .malformed
  | _, _ => .error .malformed

end Snowflake

end ViewCompanion
