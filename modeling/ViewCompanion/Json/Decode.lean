import ViewCompanion.Json.Reading
import ViewCompanion.Text.Split

namespace ViewCompanion

inductive DecodeError
  /-- The text is not well formed, too deep, or a value has the wrong type. -/
  | malformed
  | missingField (name : String)
  | duplicateField (name : String)
  | unknownVariant (name : String) (expected : List String)
  | numeral (reason : Text.NumeralError)
  deriving DecidableEq, Repr

namespace DecodeError

def quotedName (name : String) : String :=
  "`" ++ name ++ "`"

def message : DecodeError → String
  | malformed => "malformed document"
  | missingField name => "missing field " ++ quotedName name
  | duplicateField name => "duplicate field " ++ quotedName name
  | unknownVariant name expected =>
    "unknown variant " ++ quotedName name ++ ", expected one of "
      ++ Text.commaList (expected.map quotedName)
  | numeral reason => reason.message

end DecodeError

abbrev Decoded (α : Type) := Except DecodeError α

/-- Looks at a reading in the order of the text, up to the first fault. The number is how many more
arrays and objects may be opened, one inside the other. -/
abbrev Decoder (α : Type) := Nat → Reading → Decoded α

namespace Decoder

/-- How many arrays and objects a document may nest. -/
def maxDepth : Nat := 127

def string : Decoder String := fun _ r =>
  match r with
  | .string s => .ok s
  | _ => .error .malformed

def bool : Decoder Bool := fun _ r =>
  match r with
  | .bool b => .ok b
  | _ => .error .malformed

def integer (low high : Int) : Decoder Int := fun _ r =>
  match r with
  | .integer n => if low ≤ n ∧ n ≤ high then .ok n else .error .malformed
  | _ => .error .malformed

def int64 : Decoder Int64 := fun depth r =>
  (integer (-Text.int64Bound) (Text.int64Bound - 1 : Nat) depth r).map Int64.ofInt

def uint64 : Decoder UInt64 := fun depth r =>
  (integer 0 (UInt64.size - 1 : Nat) depth r).map fun n => UInt64.ofNat n.toNat

def uint32 : Decoder UInt32 := fun depth r =>
  (integer 0 (UInt32.size - 1 : Nat) depth r).map fun n => UInt32.ofNat n.toNat

def uint8 : Decoder UInt8 := fun depth r =>
  (integer 0 (UInt8.size - 1 : Nat) depth r).map fun n => UInt8.ofNat n.toNat

def option (decode : Decoder α) : Decoder (Option α) := fun depth r =>
  match r with
  | .null => .ok none
  | _ => (decode depth r).map some

def list (decode : Decoder α) : Decoder (List α) := fun depth r =>
  match depth, r with
  | depth + 1, .array items => items.mapM (decode depth)
  | _, _ => .error .malformed

def document (decode : Decoder α) (text : String) : Decoded α := do
  let (reading, ended) := Reading.ofText text
  let value ← decode maxDepth reading
  if ended then .ok value else .error .malformed

end Decoder

/-- A field of a record that is being read into `σ`. -/
structure Slot (σ : Type) where
  name : String
  /-- Whether a record written as an object must have it. -/
  required : Bool
  /-- Whether a record written as an array may end before it. -/
  trailing : Bool
  filled : σ → Bool
  read : Reading → σ → Decoded σ

namespace Slot

def one (name : String) (get : σ → Option α) (set : α → σ → σ) (decode : Reading → Decoded α) :
    Slot σ where
  name := name
  required := true
  trailing := false
  filled s := (get s).isSome
  read r s := (decode r).map fun v => set v s

/-- A field that may be absent; then a value stands in for it. -/
def defaulted (name : String) (get : σ → Option α) (set : α → σ → σ)
    (decode : Reading → Decoded α) : Slot σ where
  name := name
  required := false
  trailing := true
  filled s := (get s).isSome
  read r s := (decode r).map fun v => set v s

/-- A field that may be absent from an object, though not from an array. -/
def absent (name : String) (get : σ → Option α) (set : α → σ → σ)
    (decode : Reading → Decoded α) : Slot σ where
  name := name
  required := false
  trailing := false
  filled s := (get s).isSome
  read r s := (decode r).map fun v => set v s

end Slot

namespace Record

/-- Takes in one field of an object. Fields without a slot are passed over. -/
def readField (slots : List (Slot σ)) (s : σ) (key : String) (value : Reading) : Decoded σ :=
  match slots.find? fun slot => slot.name == key with
  | some slot => if slot.filled s then .error (.duplicateField key) else slot.read value s
  | none => if value.isIntact then .ok s else .error .malformed

def readFields (slots : List (Slot σ)) : List (Option String × Reading) → σ → Decoded σ
  | [], s => .ok s
  | (none, _) :: _, _ => .error .malformed
  | (some key, value) :: rest, s => readField slots s key value >>= readFields slots rest

def firstMissing (slots : List (Slot σ)) (s : σ) : Option String :=
  (slots.find? fun slot => slot.required && !slot.filled s).map Slot.name

def readItems : List (Slot σ) → List Reading → σ → Decoded σ
  | [], [], s => .ok s
  | [], _ :: _, _ => .error .malformed
  | slot :: slots, [], s => if slot.trailing then readItems slots [] s else .error .malformed
  | slot :: slots, item :: items, s => slot.read item s >>= readItems slots items

/-- Reads a record written as an object, or as an array of its fields. -/
def decode (slots : List (Slot σ)) (start : σ) : Reading → Decoded σ
  | .object fields => do
    let s ← readFields slots fields start
    match firstMissing slots s with
    | some name => .error (.missingField name)
    | none => .ok s
  | .array items => readItems slots items start
  | _ => .error .malformed

end Record

def variantOf (variants : List (String × α)) (name : String) : Decoded α :=
  match variants.lookup name with
  | some v => .ok v
  | none => .error (.unknownVariant name (variants.map Prod.fst))

end ViewCompanion
