import ViewCompanion.Config.Codec
import ViewCompanion.Toml.Reader

namespace ViewCompanion

namespace Toml

def string? : Toml → Option String
  | string s => some s
  | _ => none

def bool? : Toml → Option Bool
  | bool b => some b
  | _ => none

def uint64? : Toml → Option UInt64
  | integer n => if 0 ≤ n then some (UInt64.ofNat n.toNat) else none
  | _ => none

def strings? : Toml → Option (List String)
  | array items => items.mapM string?
  | _ => none

/-- A field of a record that is being read into `σ`. -/
structure Slot (σ : Type) where
  name : String
  read : Toml → σ → Option σ

def slot (name : String) (decode : Toml → Option α) (set : α → σ → σ) : Slot σ where
  name := name
  read v s := (decode v).map fun a => set a s

def readFields (slots : List (Slot σ)) : Fields → σ → Option σ
  | [], s => some s
  | (key, value) :: rest, s =>
    match slots.find? fun slot => slot.name == key with
    | some slot => slot.read value s >>= readFields slots rest
    | none => readFields slots rest s

/-- The fields in order; there may be fewer or more values. -/
def readArray : List (Slot σ) → List Toml → σ → Option σ
  | slot :: slots, value :: values, s => slot.read value s >>= readArray slots values
  | _, _, s => some s

/-- Reads a record, of which no field needs to be there. A date counts as a table without any of
the fields. -/
def readRecord (slots : List (Slot σ)) (start : σ) : Toml → Option σ
  | table _ fields => readFields slots fields start
  | array items => readArray slots items start
  | tables items => readArray slots (items.map (table .header)) start
  | datetime => some start
  | _ => none

end Toml

namespace WellKnown

def tomlSlots : List (Toml.Slot Partial) := [
  Toml.slot "view_marker" Toml.string? fun v s => { s with viewMarker := some v },
  Toml.slot "sticker_marker" Toml.string? fun v s => { s with stickerMarker := some v },
  Toml.slot "action_row_marker" Toml.string? fun v s => { s with actionRowMarker := some v },
  Toml.slot "capability" Toml.string? fun v s => { s with capability := some v },
  Toml.slot "snowflake" Toml.string? fun v s => { s with snowflake := some v },
  Toml.slot "embed" Toml.string? fun v s => { s with embed := some v }]

def ofToml? (v : Toml) : Option WellKnown :=
  (Toml.readRecord tomlSlots Partial.empty v).map Partial.complete

end WellKnown

namespace Config

def tomlSlots : List (Toml.Slot Partial) := [
  Toml.slot "crate_name" Toml.string? fun v s => { s with crateName := some v },
  Toml.slot "extension" Toml.string? fun v s => { s with extension := some v },
  Toml.slot "strict_registry" Toml.bool? fun v s => { s with strictRegistry := some v },
  Toml.slot "max_action_rows" Toml.uint64? fun v s =>
    { s with maxActionRows := some (limitOfNumber v) },
  Toml.slot "well_known" WellKnown.ofToml? fun v s => { s with wellKnown := some v },
  Toml.slot "helper_namespace" Toml.string? fun v s => { s with helperNamespace := some v },
  Toml.slot "extra_references" Toml.strings? fun v s => { s with extraReferences := some v }]

def ofToml? (v : Toml) : Option Config :=
  (Toml.readRecord tomlSlots Partial.empty v).map Partial.complete

/-- Reads settings from the text of a settings file; they may still make no sense. -/
def ofTomlText? (text : String) : Option Config :=
  Toml.ofText? text >>= ofToml?

end Config

end ViewCompanion
