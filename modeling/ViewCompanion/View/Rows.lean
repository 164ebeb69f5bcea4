import ViewCompanion.Json.Decode
import ViewCompanion.View.Error

namespace ViewCompanion

/-- A member and the row that it asks for. -/
structure RowSlot where
  index : UInt32
  member : String
  deriving DecidableEq, Repr

structure RowGroup where
  index : UInt32
  members : List String
  deriving DecidableEq, Repr

namespace RowGroup

/-- Adds a member in front of the others of its row, in an ascending list of rows. -/
def insert (slot : RowSlot) : List RowGroup → List RowGroup
  | [] => [⟨slot.index, [slot.member]⟩]
  | group :: rest =>
    if slot.index < group.index then ⟨slot.index, [slot.member]⟩ :: group :: rest
    else if slot.index = group.index then ⟨group.index, slot.member :: group.members⟩ :: rest
    else group :: insert slot rest

/-- The rows of `slots`; within a row the members keep their order. -/
def ofSlots (slots : List RowSlot) : List RowGroup :=
  slots.foldr insert []

def checkLimit (groups : List RowGroup) : Option Nat → Except ViewError Unit
  | some max =>
    if max < groups.length then .error (.tooManyActionRows groups.length max) else .ok ()
  | none => .ok ()

def encode (g : RowGroup) : Json :=
  .object [("index", .number g.index.toNat), ("members", .array (g.members.map Json.string))]

structure Partial where
  index : Option UInt32
  members : Option (List String)

def slots (depth : Nat) : List (ViewCompanion.Slot Partial) := [
  .one "index" Partial.index (fun v s => { s with index := some v }) (Decoder.uint32 depth),
  .one "members" Partial.members (fun v s => { s with members := some v })
    (Decoder.list Decoder.string depth)]

def decode : Decoder RowGroup
  | 0, _ => .error .malformed
  | depth + 1, r =>
    (Record.decode (slots depth) ⟨none, none⟩ r).map fun s => ⟨s.index.getD 0, s.members.getD []⟩

end RowGroup

end ViewCompanion
