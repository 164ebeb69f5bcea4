import ViewCompanion.Json.Decode

namespace ViewCompanion

structure EmbedField where
  name : String
  value : String
  inline : Bool
  deriving DecidableEq, Repr

namespace EmbedField

def encode (f : EmbedField) : Json :=
  .object [("name", .string f.name), ("value", .string f.value), ("inline", .bool f.inline)]

structure Partial where
  name : Option String
  value : Option String
  inline : Option Bool

def slots (depth : Nat) : List (Slot Partial) := [
  .one "name" Partial.name (fun v s => { s with name := some v }) (Decoder.string depth),
  .one "value" Partial.value (fun v s => { s with value := some v }) (Decoder.string depth),
  .defaulted "inline" Partial.inline (fun v s => { s with inline := some v })
    (Decoder.bool depth)]

def decode : Decoder EmbedField
  | 0, _ => .error .malformed
  | depth + 1, r =>
    (Record.decode (slots depth) ⟨none, none, none⟩ r).map fun s =>
      ⟨s.name.getD "", s.value.getD "", s.inline.getD false⟩

end EmbedField

structure Embed where
  title : Option String
  description : Option String
  url : Option String
  color : Option UInt32
  fields : List EmbedField
  footer : Option String
  deriving DecidableEq, Repr

namespace Embed

def empty : Embed := ⟨none, none, none, none, [], none⟩

def withTitle (e : Embed) (title : String) : Embed := { e with title := some title }

def withDescription (e : Embed) (description : String) : Embed :=
  { e with description := some description }

def withUrl (e : Embed) (url : String) : Embed := { e with url := some url }

def withColor (e : Embed) (color : UInt32) : Embed := { e with color := some color }

def addField (e : Embed) (field : EmbedField) : Embed :=
  { e with fields := e.fields ++ [field] }

def withFooter (e : Embed) (footer : String) : Embed := { e with footer := some footer }

def encode (e : Embed) : Json :=
  .record [
    Json.optionField "title" Json.string e.title,
    Json.optionField "description" Json.string e.description,
    Json.optionField "url" Json.string e.url,
    Json.optionField "color" (fun c => Json.number c.toNat) e.color,
    Json.listField "fields" EmbedField.encode e.fields,
    Json.optionField "footer" Json.string e.footer]

structure Partial where
  title : Option (Option String)
  description : Option (Option String)
  url : Option (Option String)
  color : Option (Option UInt32)
  fields : Option (List EmbedField)
  footer : Option (Option String)

def slots (depth : Nat) : List (Slot Partial) := [
  .defaulted "title" Partial.title (fun v s => { s with title := some v })
    (Decoder.option Decoder.string depth),
  .defaulted "description" Partial.description (fun v s => { s with description := some v })
    (Decoder.option Decoder.string depth),
  .defaulted "url" Partial.url (fun v s => { s with url := some v })
    (Decoder.option Decoder.string depth),
  .defaulted "color" Partial.color (fun v s => { s with color := some v })
    (Decoder.option Decoder.uint32 depth),
  .defaulted "fields" Partial.fields (fun v s => { s with fields := some v })
    (Decoder.list EmbedField.decode depth),
  .defaulted "footer" Partial.footer (fun v s => { s with footer := some v })
    (Decoder.option Decoder.string depth)]

def decode : Decoder Embed
  | 0, _ => .error .malformed
  | depth + 1, r =>
    (Record.decode (slots depth) ⟨none, none, none, none, none, none⟩ r).map fun s =>
      { title := s.title.getD none
        description := s.description.getD none
        url := s.url.getD none
        color := s.color.getD none
        fields := s.fields.getD []
        footer := s.footer.getD none }

end Embed

end ViewCompanion
