import ViewCompanion.Config.Basic
import ViewCompanion.Json.Decode

namespace ViewCompanion

namespace WellKnown

def encode (w : WellKnown) : Json :=
  .object [
    ("view_marker", .string w.viewMarker),
    ("sticker_marker", .string w.stickerMarker),
    ("action_row_marker", .string w.actionRowMarker),
    ("capability", .string w.capability),
    ("snowflake", .string w.snowflake),
    ("embed", .string w.embed)]

structure Partial where
  viewMarker : Option QualifiedName
  stickerMarker : Option QualifiedName
  actionRowMarker : Option QualifiedName
  capability : Option QualifiedName
  snowflake : Option QualifiedName
  embed : Option QualifiedName

namespace Partial

def empty : Partial := ⟨none, none, none, none, none, none⟩

def complete (p : Partial) : WellKnown where
  viewMarker := p.viewMarker.getD standard.viewMarker
  stickerMarker := p.stickerMarker.getD standard.stickerMarker
  actionRowMarker := p.actionRowMarker.getD standard.actionRowMarker
  capability := p.capability.getD standard.capability
  snowflake := p.snowflake.getD standard.snowflake
  embed := p.embed.getD standard.embed

end Partial

def slots (depth : Nat) : List (Slot Partial) := [
  .defaulted "view_marker" Partial.viewMarker (fun v s => { s with viewMarker := some v })
    (Decoder.string depth),
  .defaulted "sticker_marker" Partial.stickerMarker (fun v s => { s with stickerMarker := some v })
    (Decoder.string depth),
  .defaulted "action_row_marker" Partial.actionRowMarker
    (fun v s => { s with actionRowMarker := some v }) (Decoder.string depth),
  .defaulted "capability" Partial.capability (fun v s => { s with capability := some v })
    (Decoder.string depth),
  .defaulted "snowflake" Partial.snowflake (fun v s => { s with snowflake := some v })
    (Decoder.string depth),
  .defaulted "embed" Partial.embed (fun v s => { s with embed := some v })
    (Decoder.string depth)]

def decode : Decoder WellKnown
  | 0, _ => .error .malformed
  | depth + 1, r => (Record.decode (slots depth) Partial.empty r).map Partial.complete

end WellKnown

namespace Config

/-- No limit is written as zero. -/
def limitNumber : Option UInt64 → UInt64
  | some limit => limit
  | none => 0

def limitOfNumber (n : UInt64) : Option UInt64 :=
  if n = 0 then none else some n

def encode (c : Config) : Json :=
  .object [
    ("crate_name", .string c.crateName),
    ("extension", .string c.extension),
    ("strict_registry", .bool c.strictRegistry),
    ("max_action_rows", .number (limitNumber c.maxActionRows).toNat),
    ("well_known", c.wellKnown.encode),
    ("helper_namespace", .string c.helperNamespace),
    ("extra_references", .array (c.extraReferences.map Json.string))]

structure Partial where
  crateName : Option String
  extension : Option String
  strictRegistry : Option Bool
  maxActionRows : Option (Option UInt64)
  wellKnown : Option WellKnown
  helperNamespace : Option QualifiedName
  extraReferences : Option (List QualifiedName)

namespace Partial

def empty : Partial := ⟨none, none, none, none, none, none, none⟩

def complete (p : Partial) : Config where
  crateName := p.crateName.getD standard.crateName
  extension := p.extension.getD standard.extension
  strictRegistry := p.strictRegistry.getD standard.strictRegistry
  maxActionRows := p.maxActionRows.getD standard.maxActionRows
  wellKnown := p.wellKnown.getD standard.wellKnown
  helperNamespace := p.helperNamespace.getD standard.helperNamespace
  extraReferences := p.extraReferences.getD standard.extraReferences

end Partial

def slots (depth : Nat) : List (Slot Partial) := [
  .defaulted "crate_name" Partial.crateName (fun v s => { s with crateName := some v })
    (Decoder.string depth),
  .defaulted "extension" Partial.extension (fun v s => { s with extension := some v })
    (Decoder.string depth),
  .defaulted "strict_registry" Partial.strictRegistry
    (fun v s => { s with strictRegistry := some v }) (Decoder.bool depth),
  .defaulted "max_action_rows" Partial.maxActionRows
    (fun v s => { s with maxActionRows := some v })
    (fun r => (Decoder.uint64 depth r).map limitOfNumber),
  .defaulted "well_known" Partial.wellKnown (fun v s => { s with wellKnown := some v })
    (WellKnown.decode depth),
  .defaulted "helper_namespace" Partial.helperNamespace
    (fun v s => { s with helperNamespace := some v }) (Decoder.string depth),
  .defaulted "extra_references" Partial.extraReferences
    (fun v s => { s with extraReferences := some v }) (Decoder.list Decoder.string depth)]

def decode : Decoder Config
  | 0, _ => .error .malformed
  | depth + 1, r => (Record.decode (slots depth) Partial.empty r).map Partial.complete

def toJson (c : Config) : String :=
  c.encode.compact

def ofJson (text : String) : Decoded Config :=
  Decoder.document decode text

end Config

end ViewCompanion
