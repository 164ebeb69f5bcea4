import ViewCompanion.Artifact.Content
import ViewCompanion.Artifact.Manifest

namespace ViewCompanion

inductive Diagnostic
  | warning (missing : MissingName)
  | error (declaration : QualifiedName) (reason : ViewError)
  deriving DecidableEq, Repr

namespace Diagnostic

def isError : Diagnostic → Bool
  | warning _ => false
  | error _ _ => true

def severity : Diagnostic → String
  | warning _ => "warning"
  | error _ _ => "error"

def declaration? : Diagnostic → Option QualifiedName
  | warning _ => none
  | error declaration _ => some declaration

def message : Diagnostic → String
  | warning missing => missing.message
  | error _ reason => reason.message

def display (d : Diagnostic) : String :=
  match d.declaration? with
  | some name => d.severity ++ " [" ++ name ++ "]: " ++ d.message
  | none => d.severity ++ ": " ++ d.message

end Diagnostic

structure Report where
  artifacts : List Artifact
  diagnostics : List Diagnostic
  manifests : List Manifest
  deriving Repr

namespace Report

def hasErrors (r : Report) : Bool :=
  r.diagnostics.any Diagnostic.isError

def failed (r : Report) : List QualifiedName :=
  (r.diagnostics.filter Diagnostic.isError).filterMap Diagnostic.declaration?

end Report

structure ViewReport where
  declaration : QualifiedName
  outcome : Except ViewError ClassifiedView

namespace Config

def rowLimit (c : Config) : Option Nat :=
  c.maxActionRows.map UInt64.toNat

/-- The registry of a snapshot. A strict configuration accepts no missing name. -/
def registry (c : Config) (s : Snapshot) : Except MissingName Registry :=
  let registry := Registry.ofSnapshot s c.wellKnown
  match c.strictRegistry, registry.missing c.wellKnown with
  | true, missing :: _ => .error missing
  | _, _ => .ok registry

end Config

namespace Snapshot

def inspect (s : Snapshot) (c : Config) : Except MissingName (List ViewReport) := do
  let registry ← c.registry s
  pure ((s.views registry).map fun d => ⟨d.qualifiedName, d.process registry c.rowLimit⟩)

def companion (c : Config) (registry : Registry) (d : Declaration) : Except Diagnostic Artifact :=
  match d.process registry c.rowLimit with
  | .ok view => .ok (.ofView c d view)
  | .error reason => .error (.error d.qualifiedName reason)

def artifact? : Except Diagnostic Artifact → Option Artifact
  | .ok artifact => some artifact
  | .error _ => none

def diagnostic? : Except Diagnostic Artifact → Option Diagnostic
  | .ok _ => none
  | .error diagnostic => some diagnostic

def generate (s : Snapshot) (c : Config) : Except MissingName Report := do
  let registry ← c.registry s
  let companions := (s.views registry).map (companion c registry)
  let artifacts := companions.filterMap artifact?
  pure {
    artifacts
    diagnostics := (registry.missing c.wellKnown).map .warning ++ companions.filterMap diagnostic?
    manifests := Manifest.ofArtifacts c.crateName artifacts }

end Snapshot

namespace ViewReport

def model? (v : ClassifiedView) : Option String :=
  v.model?.map ResolvedType.display

def encode (r : ViewReport) : Json :=
  let name := Json.field "declaration" (.string r.declaration)
  match r.outcome with
  | .ok view =>
    .record [
      name,
      Json.listField "stickers" Json.string view.stickers,
      Json.listField "embeds" Json.string view.embeds,
      Json.listField "action_rows" RowGroup.encode view.actionRows,
      Json.listField "ignored" Json.string view.ignored,
      Json.optionField "model" Json.string (model? view)]
  | .error reason => .record [name, Json.field "error" (.string reason.message)]

end ViewReport

end ViewCompanion
