import ViewCompanion.Build
import ViewCompanion.Config.Codec
import ViewCompanion.Main
import ViewCompanion.Message.Payload
import ViewCompanion.Storage.Tree
import ViewCompanion.View.Derive
import ViewCompanion.Proofs.View.Sorting
import ViewCompanion.Proofs.Text.Joining
import ViewCompanion.Proofs.Text.Reading
import ViewCompanion.Proofs.Name
import ViewCompanion.Proofs.Generation.Artifacts
import ViewCompanion.Proofs.Artifact.FileName
import ViewCompanion.Proofs.Artifact.Manifest
import ViewCompanion.Proofs.Artifact.Content
import ViewCompanion.Proofs.Storage.Path
import ViewCompanion.Proofs.Storage.Tree
import ViewCompanion.Proofs.Storage.Location
import ViewCompanion.Proofs.Storage.Change
import ViewCompanion.Proofs.Storage.Run
import ViewCompanion.Proofs.Output.Writing
import ViewCompanion.Proofs.Output.Removal
import ViewCompanion.Proofs.Output
import ViewCompanion.Proofs.Json.Spelling
import ViewCompanion.Proofs.Json.Scalar
import ViewCompanion.Proofs.Json.Written
import ViewCompanion.Proofs.Json.Decode
import ViewCompanion.Proofs.Declaration.RoundTrip
import ViewCompanion.Proofs.Message.RoundTrip
import ViewCompanion.Proofs.Artifact.Factory
import ViewCompanion.Proofs.Generation.Inspection
import ViewCompanion.Proofs.Generation.Independence
import ViewCompanion.Proofs.Crate.Scopes
import ViewCompanion.Proofs.Source.ModuleName
import ViewCompanion.Proofs.Source.DeriveInput
import ViewCompanion.Proofs.Crate.Attributes
import ViewCompanion.Proofs.View.Accepted
import ViewCompanion.Source.Equality
import ViewCompanion.Proofs.Crate.Files
import ViewCompanion.Proofs.Crate.Inlining
import ViewCompanion.Proofs.Crate.Loading
import ViewCompanion.Proofs.Message.Limits
import ViewCompanion.Proofs.Generation.Order
import ViewCompanion.Proofs.Source.Number
import ViewCompanion.Proofs.View.RowForms
import ViewCompanion.Proofs.Storage.Reading
import ViewCompanion.Proofs.Session
import ViewCompanion.Proofs.Generation.Failing
import ViewCompanion.Proofs.View.Faults
import ViewCompanion.Proofs.View.Reordering
import ViewCompanion.Proofs.Artifact.Path
import ViewCompanion.Proofs.Artifact.Part
import ViewCompanion.Proofs.Crate.WrittenPath
import ViewCompanion.Proofs.Generation.FirstInstance
import ViewCompanion.Proofs.Crate.Anchors
import ViewCompanion.Proofs.Crate.UseTree
import ViewCompanion.Proofs.Source.LeadingMark
import ViewCompanion.Proofs.Crate.MarkedImport
import ViewCompanion.Proofs.Crate.Agreement
import ViewCompanion.Proofs.Crate.ImportOrder
import ViewCompanion.Proofs.Crate.SelfType
import ViewCompanion.Proofs.Crate.TestCondition
import ViewCompanion.Proofs.Source.ModuleAttributes
import ViewCompanion.Proofs.Crate.TestModules
import ViewCompanion.Proofs.Message.FirstFault
import ViewCompanion.Proofs.Crate.Known
import ViewCompanion.Proofs.Crate.Aliases
import ViewCompanion.Proofs.Crate.Finishing
import ViewCompanion.Proofs.Source.Keyword
import ViewCompanion.Proofs.Crate.ReadOnce
import ViewCompanion.Proofs.Generation.Compiled
import ViewCompanion.Proofs.Config.Fields
import ViewCompanion.Proofs.Json.Literal
import ViewCompanion.Proofs.Message.Snowflake
