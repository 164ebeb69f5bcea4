import ViewCompanion.Artifact.Basic
import ViewCompanion.Artifact.Path
import ViewCompanion.View.Classified

namespace ViewCompanion

namespace Config

/-- Where the capability lives, and with it the types that generated code uses. -/
def runtime (c : Config) : QualifiedName :=
  (QualifiedName.parent? c.wellKnown.capability).getD "porbeagle"

def runtimeName (c : Config) (item : String) : QualifiedName :=
  c.runtime ++ "::" ++ item

def runtimePath (c : Config) (item : String) : String :=
  QualifiedName.absolute (c.runtimeName item)

end Config

namespace Artifact

def emptyList : String := "::std::vec::Vec::new()"

/-- A list of members; `convert` tells whether they have to be made the runtime's own type. -/
def memberList (convert : Bool) (members : List String) : String :=
  if members.isEmpty then emptyList
  else
    let item (member : String) : String :=
      "self." ++ member ++ ".clone()" ++ if convert then ".into()" else ""
    "::std::vec![" ++ Text.commaList (members.map item) ++ "]"

def rowText (c : Config) (group : RowGroup) : String :=
  let component := c.runtimePath "Component"
  let item (member : String) : String :=
    "                " ++ component ++ "::from(self." ++ member ++ ".clone()),"
  "            " ++ component ++ "::ActionRow(" ++ c.runtimePath "ActionRow"
    ++ "::new(::std::vec![\n" ++ Text.join "\n" (group.members.map item) ++ "\n            ])),"

def rowList (c : Config) (groups : List RowGroup) : String :=
  if groups.isEmpty then emptyList
  else "::std::vec![\n" ++ Text.join "\n" (groups.map (rowText c)) ++ "\n        ]"

def accessor (c : Config) (name item body : String) : String :=
  "    fn " ++ name ++ "(&self) -> ::std::vec::Vec<" ++ c.runtimePath item ++ "> \x7b\n        "
    ++ body ++ "\n    \x7d\n"

def accessors (c : Config) (name : String) (v : ClassifiedView) : String :=
  "impl " ++ c.runtimePath "ViewParts" ++ " for " ++ name ++ " \x7b\n"
    ++ accessor c "stickers" "Snowflake"
      (memberList (c.wellKnown.snowflake != c.runtimeName "Snowflake") v.stickers)
    ++ "\n"
    ++ accessor c "embeds" "Embed"
      (memberList (c.wellKnown.embed != c.runtimeName "Embed") v.embeds)
    ++ "\n"
    ++ accessor c "components" "Component" (rowList c v.actionRows)
    ++ "\x7d\n"

def factory (c : Config) (name : String) (model : ResolvedType) : String :=
  let model := model.source c.crateName
  "impl " ++ name ++ " \x7b\n    /// Build the view from its model.\n    pub fn create(vm: "
    ++ model ++ ") -> Self \x7b\n        <Self as ::std::convert::From<" ++ model
    ++ ">>::from(vm)\n    \x7d\n\x7d\n"

def contentOf (c : Config) (d : Declaration) (v : ClassifiedView) : String :=
  "// @generated by porbeagle-codegen from `" ++ d.qualifiedName ++ "`. Do not edit.\n\n"
    ++ accessors c d.name v
    ++ match v.model? with
      | some model => "\n" ++ factory c d.name model
      | none => ""

def ofView (c : Config) (d : Declaration) (v : ClassifiedView) : Artifact where
  fileName := fileNameOf d.home d.name c.extension
  source := d.qualifiedName
  content := contentOf c d v

end Artifact

end ViewCompanion
