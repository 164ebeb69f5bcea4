import ViewCompanion.Declaration.Basic
import ViewCompanion.Json.Decode

namespace ViewCompanion

namespace ResolvedType

mutual

def encode : ResolvedType → Json
  | ⟨name, []⟩ => .object [("name", .string name)]
  | ⟨name, a :: as⟩ =>
    .object [("name", .string name), ("args", .array (encode a :: encodeList as))]

def encodeList : List ResolvedType → List Json
  | [] => []
  | a :: as => encode a :: encodeList as

end

structure Partial where
  name : Option String
  args : Option (List ResolvedType)

def slots (args : Reading → Decoded (List ResolvedType)) : List (Slot Partial) := [
  .one "name" Partial.name (fun v s => { s with name := some v }) (Decoder.string 0),
  .defaulted "args" Partial.args (fun v s => { s with args := some v }) args]

def Partial.value (s : Partial) : ResolvedType :=
  ⟨s.name.getD "", s.args.getD []⟩

/-- Reads a type; each level of arguments takes an object and an array of the depth. -/
def decode : Decoder ResolvedType
  | 0 => fun _ => .error .malformed
  | 1 => fun r =>
    (Record.decode (slots fun _ => .error .malformed) ⟨none, none⟩ r).map Partial.value
  | depth + 2 => fun r =>
    let args : Reading → Decoded (List ResolvedType) := fun
      | .array items => items.mapM (decode depth)
      | _ => .error .malformed
    (Record.decode (slots args) ⟨none, none⟩ r).map Partial.value

end ResolvedType

namespace Argument

inductive Kind
  | int
  | str
  | bool
  | type
  | other
  deriving DecidableEq

def kinds : List (String × Kind) :=
  [("int", .int), ("str", .str), ("bool", .bool), ("type", .type), ("other", .other)]

def tagged (kind : String) (value : Json) : Json :=
  .object [("kind", .string kind), ("value", value)]

def encode : Argument → Json
  | int n => tagged "int" (.number n.toInt)
  | str s => tagged "str" (.string s)
  | bool b => tagged "bool" (.bool b)
  | type t => tagged "type" t.encode
  | other text => tagged "other" (.string text)

def decodeContent (kind : Kind) (depth : Nat) (r : Reading) : Decoded Argument :=
  match kind with
  | .int => (Decoder.int64 depth r).map int
  | .str => (Decoder.string depth r).map str
  | .bool => (Decoder.bool depth r).map bool
  | .type => (ResolvedType.decode depth r).map type
  | .other => (Decoder.string depth r).map other

end Argument

/-- How a value of several variants is written: a tag and a content side by side. -/
structure Tagged (κ α : Type) where
  tag : String
  content : String
  kinds : List (String × κ)
  /-- What a variant is when there is no content. -/
  bare : κ → Option α
  decode : κ → Decoder α

namespace Tagged

def decodeTag (t : Tagged κ α) (r : Reading) : Decoded κ :=
  Decoder.string 0 r >>= variantOf t.kinds

/-- What is left after tag and content: neither may come again. -/
def finish (t : Tagged κ α) (value : α) : List (Option String × Reading) → Decoded α
  | [] => .ok value
  | (none, _) :: _ => .error .malformed
  | (some key, r) :: rest =>
    if key = t.tag ∨ key = t.content then .error (.duplicateField key)
    else if r.isIntact then finish t value rest else .error .malformed

def afterTag (t : Tagged κ α) (depth : Nat) (kind : κ) :
    List (Option String × Reading) → Decoded α
  | [] =>
    match t.bare kind with
    | some value => .ok value
    | none => .error (.missingField t.content)
  | (none, _) :: _ => .error .malformed
  | (some key, r) :: rest =>
    if key = t.tag then .error (.duplicateField key)
    else if key = t.content then t.decode kind depth r >>= fun value => finish t value rest
    else if r.isIntact then afterTag t depth kind rest else .error .malformed

/-- The fields after a content whose tag has not come yet. -/
def afterContent (t : Tagged κ α) (depth : Nat) (content : Reading) :
    List (Option String × Reading) → Decoded α
  | [] => .error (.missingField t.tag)
  | (none, _) :: _ => .error .malformed
  | (some key, r) :: rest =>
    if key = t.content then .error (.duplicateField key)
    else if key = t.tag then do
      let kind ← decodeTag t r
      let value ← t.decode kind depth content
      finish t value rest
    else if r.isIntact then afterContent t depth content rest else .error .malformed

def decodeFields (t : Tagged κ α) (depth : Nat) : List (Option String × Reading) → Decoded α
  | [] => .error (.missingField t.tag)
  | (none, _) :: _ => .error .malformed
  | (some key, r) :: rest =>
    if key = t.tag then decodeTag t r >>= fun kind => afterTag t depth kind rest
    else if key = t.content then
      if r.isStorable depth then afterContent t depth r rest else .error .malformed
    else if r.isIntact then decodeFields t depth rest else .error .malformed

/-- Reads an object with tag and content in any order, or an array of the two. -/
def decodeValue (t : Tagged κ α) : Decoder α
  | depth + 1, .object fields => decodeFields t depth fields
  | depth + 1, .array [tag, content] => decodeTag t tag >>= fun kind => t.decode kind depth content
  | _, .array (tag :: _) => decodeTag t tag >>= fun _ => .error .malformed
  | _, _ => .error .malformed

end Tagged

namespace Argument

def form : Tagged Kind Argument where
  tag := "kind"
  content := "value"
  kinds := kinds
  bare _ := none
  decode := decodeContent

def decode : Decoder Argument := form.decodeValue

end Argument

namespace Annotation

def encode (a : Annotation) : Json :=
  .record [
    Json.field "class" (match a.class? with
      | some name => .string name
      | none => .null),
    Json.listField "args" Argument.encode a.args]

structure Partial where
  class? : Option (Option String)
  args : Option (List Argument)

def slots (depth : Nat) : List (Slot Partial) := [
  .absent "class" Partial.class? (fun v s => { s with class? := some v })
    (Decoder.option Decoder.string depth),
  .defaulted "args" Partial.args (fun v s => { s with args := some v })
    (Decoder.list Argument.decode depth)]

def decode : Decoder Annotation
  | 0, _ => .error .malformed
  | depth + 1, r =>
    (Record.decode (slots depth) ⟨none, none⟩ r).map fun s =>
      ⟨s.class?.getD none, s.args.getD []⟩

end Annotation

namespace Member

def encode (m : Member) : Json :=
  .record [
    Json.field "name" (.string m.name),
    Json.field "type" m.type.encode,
    Json.listField "attributes" Annotation.encode m.annotations]

structure Partial where
  name : Option String
  type : Option ResolvedType
  annotations : Option (List Annotation)

def slots (depth : Nat) : List (Slot Partial) := [
  .one "name" Partial.name (fun v s => { s with name := some v }) (Decoder.string depth),
  .one "type" Partial.type (fun v s => { s with type := some v }) (ResolvedType.decode depth),
  .defaulted "attributes" Partial.annotations (fun v s => { s with annotations := some v })
    (Decoder.list Annotation.decode depth)]

def decode : Decoder Member
  | 0, _ => .error .malformed
  | depth + 1, r =>
    (Record.decode (slots depth) ⟨none, none, none⟩ r).map fun s =>
      ⟨s.name.getD "", s.type.getD (.plain ""), s.annotations.getD []⟩

end Member

namespace Declaration

def encode (d : Declaration) : Json :=
  .record [
    Json.field "namespace" (.string d.home),
    Json.field "name" (.string d.name),
    Json.listField "generics" Json.string d.generics,
    Json.listField "attributes" Annotation.encode d.annotations,
    Json.field "members" (.array (d.members.map Member.encode)),
    Json.listField "interfaces" ResolvedType.encode d.interfaces]

structure Partial where
  home : Option String
  name : Option String
  generics : Option (List String)
  annotations : Option (List Annotation)
  members : Option (List Member)
  interfaces : Option (List ResolvedType)

def slots (depth : Nat) : List (Slot Partial) := [
  .one "namespace" Partial.home (fun v s => { s with home := some v }) (Decoder.string depth),
  .one "name" Partial.name (fun v s => { s with name := some v }) (Decoder.string depth),
  .defaulted "generics" Partial.generics (fun v s => { s with generics := some v })
    (Decoder.list Decoder.string depth),
  .defaulted "attributes" Partial.annotations (fun v s => { s with annotations := some v })
    (Decoder.list Annotation.decode depth),
  .defaulted "members" Partial.members (fun v s => { s with members := some v })
    (Decoder.list Member.decode depth),
  .defaulted "interfaces" Partial.interfaces (fun v s => { s with interfaces := some v })
    (Decoder.list ResolvedType.decode depth)]

def decode : Decoder Declaration
  | 0, _ => .error .malformed
  | depth + 1, r =>
    (Record.decode (slots depth) ⟨none, none, none, none, none, none⟩ r).map fun s =>
      { home := s.home.getD ""
        name := s.name.getD ""
        generics := s.generics.getD []
        annotations := s.annotations.getD []
        members := s.members.getD []
        interfaces := s.interfaces.getD [] }

end Declaration

namespace Snapshot

def encode (s : Snapshot) : Json :=
  .object [
    ("declarations", .array (s.declarations.map Declaration.encode)),
    ("references", .array (s.references.toList.map Json.string))]

structure Partial where
  declarations : Option (List Declaration)
  references : Option (List String)

def slots (depth : Nat) : List (Slot Partial) := [
  .defaulted "declarations" Partial.declarations (fun v s => { s with declarations := some v })
    (Decoder.list Declaration.decode depth),
  .defaulted "references" Partial.references (fun v s => { s with references := some v })
    (Decoder.list Decoder.string depth)]

def decode : Decoder Snapshot
  | 0, _ => .error .malformed
  | depth + 1, r =>
    (Record.decode (slots depth) ⟨none, none⟩ r).map fun s =>
      ⟨s.declarations.getD [], NameSet.ofList (s.references.getD [])⟩

def toJson (s : Snapshot) : String :=
  s.encode.pretty

def ofJson (text : String) : Decoded Snapshot :=
  Decoder.document decode text

end Snapshot

end ViewCompanion
