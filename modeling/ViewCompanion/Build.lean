import ViewCompanion.Config.Loading
import ViewCompanion.Crate.Loading
import ViewCompanion.Output
import ViewCompanion.Session

namespace ViewCompanion

structure Build where
  /-- Settings that are used instead of the package's own. -/
  config? : Option Config
  sourceFolder? : Option String
  outputFolder? : Option String
  packageFolder : String
  defaultOutput? : Option String

namespace Build

open Storage Session

variable {m : Type → Type} [Monad m]

def rerunLine (path : String) : String := "cargo:rerun-if-changed=" ++ path

def warningLine (d : Diagnostic) : String := "cargo:warning=" ++ d.display

def settings (b : Build) (s : Storage m) : Session Failure m Config :=
  match b.config? with
  | some c => pure c
  | none => do
    let path := Path.join b.packageFolder "porbeagle.toml"
    say (rerunLine path)
    quietly id (s.loadConfigIfAny path)

/-- Generates the companions of a package. Everything that can be written is written before the run
fails on a view without a companion. -/
def run (b : Build) (s : Storage m) : Session Failure m WriteOutcome := do
  let c ← b.settings s
  match b.outputFolder? <|> b.defaultOutput? with
  | none => throw .noOutput
  | some output =>
    let source ← quietly id (s.loadCrate c (b.sourceFolder?.getD (Path.join b.packageFolder "src")))
    source.files.forM fun file => say (rerunLine file)
    match (Snapshot.ofModules c source.modules).generate c with
    | .error missing => throw (.registry missing)
    | .ok report =>
      report.diagnostics.forM fun d => say (warningLine d)
      let outcome ← quietly id (s.writeReport output c.extension report)
      if report.hasErrors then throw (.generation report.failed) else pure outcome

end Build

end ViewCompanion
