import ViewCompanion.Json.Decode
import ViewCompanion.Message.Component.Basic

namespace ViewCompanion

namespace ButtonStyle

def variants : List (String × ButtonStyle) :=
  [("primary", .primary), ("secondary", .secondary), ("success", .success), ("danger", .danger),
    ("link", .link)]

def name : ButtonStyle → String
  | primary => "primary"
  | secondary => "secondary"
  | success => "success"
  | danger => "danger"
  | link => "link"

def encode (s : ButtonStyle) : Json :=
  .string s.name

/-- Reads a style: its name, or an object of the name with `null`. -/
def decode : Decoder ButtonStyle
  | _, .string name => variantOf variants name
  | _ + 1, .object ((some name, value) :: rest) => do
    let style ← variantOf variants name
    match value, rest with
    | .null, [] => .ok style
    | _, _ => .error .malformed
  | _, _ => .error .malformed

/-- Reads a stored style: its name, or an object of the name with `null` or an empty object. -/
def decodeStored : Decoder ButtonStyle
  | _, .string name => variantOf variants name
  | _ + 1, .object [(some name, value)] => do
    let style ← variantOf variants name
    match value with
    | .null => .ok style
    | .object [] => .ok style
    | _ => .error .malformed
  | _, _ => .error .malformed

end ButtonStyle

namespace Button

def fields (b : Button) : List (Option (String × Json)) := [
  Json.field "style" b.style.encode,
  Json.optionField "label" Json.string b.label,
  Json.optionField "custom_id" Json.string b.customId,
  Json.optionField "url" Json.string b.url,
  Json.field "disabled" (.bool b.disabled)]

def encode (b : Button) : Json :=
  .record b.fields

structure Partial where
  style : Option ButtonStyle
  label : Option (Option String)
  customId : Option (Option String)
  url : Option (Option String)
  disabled : Option Bool

def slots (style : Decoder ButtonStyle) (depth : Nat) : List (Slot Partial) := [
  .one "style" Partial.style (fun v s => { s with style := some v }) (style depth),
  .defaulted "label" Partial.label (fun v s => { s with label := some v })
    (Decoder.option Decoder.string depth),
  .defaulted "custom_id" Partial.customId (fun v s => { s with customId := some v })
    (Decoder.option Decoder.string depth),
  .defaulted "url" Partial.url (fun v s => { s with url := some v })
    (Decoder.option Decoder.string depth),
  .defaulted "disabled" Partial.disabled (fun v s => { s with disabled := some v })
    (Decoder.bool depth)]

def decodeWith (style : Decoder ButtonStyle) (depth : Nat) (r : Reading) : Decoded Button :=
  (Record.decode (slots style depth) ⟨none, none, none, none, none⟩ r).map fun s =>
    { style := s.style.getD .primary
      label := s.label.getD none
      customId := s.customId.getD none
      url := s.url.getD none
      disabled := s.disabled.getD false }

def decode : Decoder Button
  | 0, _ => .error .malformed
  | depth + 1, r => decodeWith ButtonStyle.decode depth r

end Button

namespace SelectOption

def encode (o : SelectOption) : Json :=
  .record [
    Json.field "label" (.string o.label),
    Json.field "value" (.string o.value),
    Json.optionField "description" Json.string o.description]

structure Partial where
  label : Option String
  value : Option String
  description : Option (Option String)

def slots (depth : Nat) : List (Slot Partial) := [
  .one "label" Partial.label (fun v s => { s with label := some v }) (Decoder.string depth),
  .one "value" Partial.value (fun v s => { s with value := some v }) (Decoder.string depth),
  .defaulted "description" Partial.description (fun v s => { s with description := some v })
    (Decoder.option Decoder.string depth)]

def decode : Decoder SelectOption
  | 0, _ => .error .malformed
  | depth + 1, r =>
    (Record.decode (slots depth) ⟨none, none, none⟩ r).map fun s =>
      ⟨s.label.getD "", s.value.getD "", s.description.getD none⟩

end SelectOption

namespace SelectMenu

def fields (m : SelectMenu) : List (Option (String × Json)) := [
  Json.field "custom_id" (.string m.customId),
  Json.field "options" (.array (m.options.map SelectOption.encode)),
  Json.optionField "placeholder" Json.string m.placeholder,
  Json.field "min_values" (.number m.minValues.toNat),
  Json.field "max_values" (.number m.maxValues.toNat)]

def encode (m : SelectMenu) : Json :=
  .record m.fields

structure Partial where
  customId : Option String
  options : Option (List SelectOption)
  placeholder : Option (Option String)
  minValues : Option UInt8
  maxValues : Option UInt8

def slots (depth : Nat) : List (Slot Partial) := [
  .one "custom_id" Partial.customId (fun v s => { s with customId := some v })
    (Decoder.string depth),
  .one "options" Partial.options (fun v s => { s with options := some v })
    (Decoder.list SelectOption.decode depth),
  .defaulted "placeholder" Partial.placeholder (fun v s => { s with placeholder := some v })
    (Decoder.option Decoder.string depth),
  .defaulted "min_values" Partial.minValues (fun v s => { s with minValues := some v })
    (Decoder.uint8 depth),
  .defaulted "max_values" Partial.maxValues (fun v s => { s with maxValues := some v })
    (Decoder.uint8 depth)]

def decodeFields (depth : Nat) (r : Reading) : Decoded SelectMenu :=
  (Record.decode (slots depth) ⟨none, none, none, none, none⟩ r).map fun s =>
    { customId := s.customId.getD ""
      options := s.options.getD []
      placeholder := s.placeholder.getD none
      minValues := s.minValues.getD 1
      maxValues := s.maxValues.getD 1 }

def decode : Decoder SelectMenu
  | 0, _ => .error .malformed
  | depth + 1, r => decodeFields depth r

end SelectMenu

namespace ActionRow

structure Partial where
  components : Option (List Component)

def slots (components : Reading → Decoded (List Component)) : List (Slot Partial) := [
  .one "components" Partial.components (fun v _ => ⟨some v⟩) components]

def decodeWith (components : Reading → Decoded (List Component)) (r : Reading) :
    Decoded (List Component) :=
  (Record.decode (slots components) ⟨none⟩ r).map fun s => s.components.getD []

end ActionRow

namespace Component

inductive Kind
  | row
  | button
  | selectMenu
  deriving DecidableEq

namespace Kind

def variants : List (String × Kind) :=
  [("action_row", .row), ("button", .button), ("select_menu", .selectMenu)]

def decode (r : Reading) : Decoded Kind :=
  Decoder.string 0 r >>= variantOf variants

/-- Reads a stored kind: its name, or its number. -/
def decodeStored : Reading → Decoded Kind
  | .integer 0 => .ok .row
  | .integer 1 => .ok .button
  | .integer 2 => .ok .selectMenu
  | r => decode r

end Kind

def tagged (kind : String) (fields : List (Option (String × Json))) : Json :=
  .record (Json.field "type" (.string kind) :: fields)

mutual

def encode : Component → Json
  | row components =>
    tagged "action_row" [Json.field "components" (.array (encodeList components))]
  | button b => tagged "button" b.fields
  | selectMenu m => tagged "select_menu" m.fields

def encodeList : List Component → List Json
  | [] => []
  | c :: cs => encode c :: encodeList cs

end

/-- Stores the fields of a component, apart from its kind. -/
def store (kind : Reading → Decoded Kind) (depth : Nat) :
    List (Option String × Reading) → Option Kind →
      Decoded (Kind × List (Option String × Reading))
  | [], some found => .ok (found, [])
  | [], none => .error (.missingField "type")
  | (none, _) :: _, _ => .error .malformed
  | (some key, value) :: rest, found? =>
    if key = "type" then
      match found? with
      | some _ => .error (.duplicateField "type")
      | none => kind value >>= fun found => store kind depth rest (some found)
    else if value.isStorable depth then
      (store kind depth rest found?).map fun (found, fields) => (found, (some key, value) :: fields)
    else .error .malformed

/-- The kind of a component and its other fields, in the form in which they stand. -/
def parts (kind : Reading → Decoded Kind) (depth : Nat) : Reading → Decoded (Kind × Reading)
  | .object fields => (store kind depth fields none).map fun (found, rest) => (found, .object rest)
  | .array [] => .error (.missingField "type")
  | .array (tag :: items) => do
    let found ← kind tag
    if items.all (Reading.isStorable depth) then .ok (found, .array items) else .error .malformed
  | _ => .error .malformed

def decodeKind (components : Reading → Decoded (List Component)) (depth : Nat) :
    Kind → Reading → Decoded Component
  | .row, r => (ActionRow.decodeWith components r).map row
  | .button, r => (Button.decodeWith ButtonStyle.decodeStored depth r).map button
  | .selectMenu, r => (SelectMenu.decodeFields depth r).map selectMenu

def decodeWith (kind : Reading → Decoded Kind) : Decoder Component
  | 0, _ => .error .malformed
  | 1, r => do
    let (found, rest) ← parts kind 0 r
    decodeKind (fun _ => .error .malformed) 0 found rest
  | depth + 2, r => do
    let (found, rest) ← parts kind (depth + 1) r
    let components : Reading → Decoded (List Component) := fun
      | .array items => items.mapM (decodeWith Kind.decodeStored depth)
      | _ => .error .malformed
    decodeKind components (depth + 1) found rest

def decode : Decoder Component :=
  decodeWith Kind.decode

end Component

namespace ActionRow

def encode (r : ActionRow) : Json :=
  .object [("components", .array (Component.encodeList r.components))]

def decode : Decoder ActionRow
  | 0, _ => .error .malformed
  | depth + 1, r => (decodeWith (Decoder.list Component.decode depth) r).map ActionRow.mk

end ActionRow

end ViewCompanion
