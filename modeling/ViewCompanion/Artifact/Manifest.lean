import ViewCompanion.Artifact.Basic

namespace ViewCompanion

structure Manifest where
  /-- The module, without the name of the crate; the root has none. -/
  module : String
  fileName : String
  content : String
  deriving DecidableEq, Repr

namespace Manifest

def rootFile : String := "porbeagle_views.rs"

/-- Where the manifests of all other modules are. -/
def directory : String := "porbeagle_views"

def fileNameOf (module : String) : String :=
  if module.isEmpty then rootFile
  else
    directory ++ "/" ++ String.ofList (Text.replaceAll QualifiedName.mark ['/'] module.toList)
      ++ ".rs"

/-- `.` as a separator of modules is as good as `::`. -/
def dotsToMarks (path : List Char) : List Char :=
  Text.replaceAll ['.'] QualifiedName.mark path

def relativeModule (crateName home : String) : String :=
  if home.isEmpty then ""
  else match QualifiedName.below? crateName home with
    | some [] => ""
    | some rest => String.ofList (dotsToMarks (rest.drop QualifiedName.mark.length))
    | none => String.ofList (dotsToMarks home.toList)

end Manifest

namespace Artifact

def module (a : Artifact) (crateName : String) : String :=
  Manifest.relativeModule crateName ((QualifiedName.parent? a.source).getD "")

/-- By file name, and by source for files of one name. -/
def precedes (a b : Artifact) : Bool :=
  decide (a.fileName < b.fileName) || (a.fileName == b.fileName && !decide (b.source < a.source))

def includeLines (a : Artifact) : String :=
  "\n// " ++ a.source ++ "\ninclude!(concat!(env!(\"OUT_DIR\"), \"/" ++ a.fileName ++ "\"));\n"

end Artifact

namespace Manifest

def contentOf (module : String) (artifacts : List Artifact) : String :=
  "// @generated by porbeagle-codegen. Do not edit.\n// Included by `porbeagle::include_views!("
    ++ module ++ ")`.\n" ++ String.join (artifacts.map Artifact.includeLines)

def ofModule (crateName : String) (artifacts : List Artifact) (module : String) : Manifest where
  module := module
  fileName := fileNameOf module
  content := contentOf module
    ((artifacts.filter fun a => a.module crateName == module).mergeSort Artifact.precedes)

/-- The manifests of all modules with an artifact and of the root, in ascending order. -/
def ofArtifacts (crateName : String) (artifacts : List Artifact) : List Manifest :=
  (NameSet.ofList ("" :: artifacts.map fun a => a.module crateName)).toList.map
    (ofModule crateName artifacts)

end Manifest

end ViewCompanion
