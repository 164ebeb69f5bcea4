import ViewCompanion.Message.Component.Codec
import ViewCompanion.Message.Embed
import ViewCompanion.Message.Snowflake

namespace ViewCompanion

structure Payload where
  content : Option String
  embeds : List Embed
  components : List Component
  stickers : List Snowflake
  deriving DecidableEq, Repr

/-- What a view answers when it is asked for its parts. The content is absent unless it says so. -/
structure MessageView where
  text : Option String
  embeds : List Embed
  components : List Component
  stickers : List Snowflake

namespace Payload

def ofView (v : MessageView) : Payload :=
  ⟨v.text, v.embeds, v.components, v.stickers⟩

def encode (p : Payload) : Json :=
  .record [
    Json.optionField "content" Json.string p.content,
    Json.listField "embeds" Embed.encode p.embeds,
    Json.listField "components" Component.encode p.components,
    Json.listField "sticker_ids" Snowflake.encode p.stickers]

structure Partial where
  content : Option (Option String)
  embeds : Option (List Embed)
  components : Option (List Component)
  stickers : Option (List Snowflake)

def slots (depth : Nat) : List (Slot Partial) := [
  .defaulted "content" Partial.content (fun v s => { s with content := some v })
    (Decoder.option Decoder.string depth),
  .defaulted "embeds" Partial.embeds (fun v s => { s with embeds := some v })
    (Decoder.list Embed.decode depth),
  .defaulted "components" Partial.components (fun v s => { s with components := some v })
    (Decoder.list Component.decode depth),
  .defaulted "sticker_ids" Partial.stickers (fun v s => { s with stickers := some v })
    (Decoder.list Snowflake.decode depth)]

def decode : Decoder Payload
  | 0, _ => .error .malformed
  | depth + 1, r =>
    (Record.decode (slots depth) ⟨none, none, none, none⟩ r).map fun s =>
      { content := s.content.getD none
        embeds := s.embeds.getD []
        components := s.components.getD []
        stickers := s.stickers.getD [] }

def toJson (p : Payload) : String :=
  p.encode.compact

def ofJson (text : String) : Decoded Payload :=
  Decoder.document decode text

def maxContentLength : Nat := 2000

def maxEmbeds : Nat := 10

def maxActionRows : Nat := 5

def maxRowComponents : Nat := 5

def maxStickers : Nat := 3

/-- Why the platform rejects a message. -/
inductive Fault
  | empty
  | contentTooLong (length max : Nat)
  | tooManyEmbeds (count max : Nat)
  | tooManyStickers (count max : Nat)
  | tooManyActionRows (count max : Nat)
  | componentOutsideRow (index : Nat)
  | emptyActionRow (row : Nat)
  | tooManyRowComponents (row count max : Nat)
  | nestedActionRow (row : Nat)
  deriving DecidableEq, Repr

def Fault.message : Fault → String
  | .empty => "Message has no content, embeds, components or stickers"
  | .contentTooLong length max =>
    "Content is " ++ toString length ++ " characters long, at most " ++ toString max
      ++ " are allowed"
  | .tooManyEmbeds count max =>
    "Too many embeds (" ++ toString count ++ ", at most " ++ toString max ++ ")"
  | .tooManyStickers count max =>
    "Too many stickers (" ++ toString count ++ ", at most " ++ toString max ++ ")"
  | .tooManyActionRows count max =>
    "Too many action rows (" ++ toString count ++ ", at most " ++ toString max ++ ")"
  | .componentOutsideRow index =>
    "Top-level component " ++ toString index ++ " is not an action row"
  | .emptyActionRow row => "Action row " ++ toString row ++ " is empty"
  | .tooManyRowComponents row count max =>
    "Action row " ++ toString row ++ " has " ++ toString count ++ " components, at most "
      ++ toString max ++ " are allowed"
  | .nestedActionRow row => "Action row " ++ toString row ++ " contains another action row"

def contentLength (p : Payload) : Nat :=
  (p.content.map String.length).getD 0

def isEmpty (p : Payload) : Bool :=
  p.contentLength == 0 && p.embeds.isEmpty && p.components.isEmpty && p.stickers.isEmpty

def componentFault? (index : Nat) : Component → Option Fault
  | .row components =>
    if components.isEmpty then some (.emptyActionRow index)
    else if maxRowComponents < components.length then
      some (.tooManyRowComponents index components.length maxRowComponents)
    else if components.any Component.isRow then some (.nestedActionRow index)
    else none
  | _ => some (.componentOutsideRow index)

/-- The first fault among `components`, of which the first stands at `index`. -/
def firstComponentFault? (index : Nat) : List Component → Option Fault
  | [] => none
  | c :: cs => componentFault? index c <|> firstComponentFault? (index + 1) cs

/-- The first fault of a message: of the whole, of the counts, then of the components in order. -/
def fault? (p : Payload) : Option Fault :=
  if p.isEmpty then some .empty
  else if maxContentLength < p.contentLength then
    some (.contentTooLong p.contentLength maxContentLength)
  else if maxEmbeds < p.embeds.length then some (.tooManyEmbeds p.embeds.length maxEmbeds)
  else if maxStickers < p.stickers.length then
    some (.tooManyStickers p.stickers.length maxStickers)
  else if maxActionRows < p.components.length then
    some (.tooManyActionRows p.components.length maxActionRows)
  else firstComponentFault? 0 p.components

def validate (p : Payload) : Except Fault Unit :=
  match p.fault? with
  | some fault => .error fault
  | none => .ok ()

end Payload

end ViewCompanion
