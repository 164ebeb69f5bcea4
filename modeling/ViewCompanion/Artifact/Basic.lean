import ViewCompanion.Json.Decode
import ViewCompanion.Name

namespace ViewCompanion

structure Artifact where
  fileName : String
  /-- The view that the file is the companion of. -/
  source : QualifiedName
  content : String
  deriving DecidableEq, Repr

namespace Artifact

/-- A module path as part of a file name. -/
def flatten (home : String) : List Char :=
  (Text.replaceAll QualifiedName.mark ['_'] home.toList).map fun c => if c = '.' then '_' else c

def ending (extension : String) : String :=
  ".generated." ++ extension

/-- The file of a view: its module path and its name, with `_` between the segments. -/
def fileNameOf (home name extension : String) : String :=
  match flatten home with
  | [] => name ++ ending extension
  | path => String.ofList path ++ "_" ++ name ++ ending extension

def encode (a : Artifact) : Json :=
  .object [
    ("file_name", .string a.fileName),
    ("source", .string a.source),
    ("content", .string a.content)]

structure Partial where
  fileName : Option String
  source : Option QualifiedName
  content : Option String

def slots (depth : Nat) : List (Slot Partial) := [
  .one "file_name" Partial.fileName (fun v s => { s with fileName := some v })
    (Decoder.string depth),
  .one "source" Partial.source (fun v s => { s with source := some v }) (Decoder.string depth),
  .one "content" Partial.content (fun v s => { s with content := some v })
    (Decoder.string depth)]

def decode : Decoder Artifact
  | 0, _ => .error .malformed
  | depth + 1, r =>
    (Record.decode (slots depth) ⟨none, none, none⟩ r).map fun s =>
      ⟨s.fileName.getD "", s.source.getD "", s.content.getD ""⟩

end Artifact

end ViewCompanion
