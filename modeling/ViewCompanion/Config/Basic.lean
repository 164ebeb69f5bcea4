import ViewCompanion.Name

namespace ViewCompanion

/-- The qualified names of the types, traits, derives and attributes with a meaning of their own. -/
structure WellKnown where
  viewMarker : QualifiedName
  stickerMarker : QualifiedName
  actionRowMarker : QualifiedName
  capability : QualifiedName
  snowflake : QualifiedName
  embed : QualifiedName
  deriving DecidableEq, Repr

def WellKnown.standard : WellKnown where
  viewMarker := "porbeagle::DiscordView"
  stickerMarker := "porbeagle::attributes::sticker"
  actionRowMarker := "porbeagle::attributes::action_row"
  capability := "porbeagle::MessageView"
  snowflake := "porbeagle::Snowflake"
  embed := "porbeagle::Embed"

structure Config where
  /-- The first segment of every module path of the scanned crate. -/
  crateName : String
  /-- What the names of generated files end in, without the dot. -/
  extension : String
  /-- Whether a missing well-known name fails the whole run. -/
  strictRegistry : Bool
  maxActionRows : Option UInt64
  wellKnown : WellKnown
  /-- Where attributes of one segment on the members of a view are looked for. -/
  helperNamespace : QualifiedName
  /-- Names that other crates define, beside the ones that are always known. -/
  extraReferences : List QualifiedName
  deriving DecidableEq, Repr

namespace Config

def standard : Config where
  crateName := "crate"
  extension := "rs"
  strictRegistry := false
  maxActionRows := some 5
  wellKnown := .standard
  helperNamespace := "porbeagle::attributes"
  extraReferences := []

inductive Fault
  | emptyCrateName
  | badExtension
  | emptyHelperNamespace
  deriving DecidableEq, Repr

def Fault.message : Fault → String
  | .emptyCrateName => "crate_name cannot be empty"
  | .badExtension => "extension must be non-empty and without a leading dot"
  | .emptyHelperNamespace => "helper_namespace cannot be empty"

def isExtension : List Char → Bool
  | [] => false
  | c :: _ => c != '.'

def fault? (c : Config) : Option Fault :=
  if c.crateName.isEmpty then some .emptyCrateName
  else if !isExtension c.extension.toList then some .badExtension
  else if c.helperNamespace.isEmpty then some .emptyHelperNamespace
  else none

end Config

end ViewCompanion
