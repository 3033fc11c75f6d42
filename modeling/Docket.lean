import Docket.Cache.Basic
import Docket.Cache.Key
import Docket.Config.Read
import Docket.Request.Notation
import Docket.Engine
import Docket.Validation
import Docket.CommandLine.Arguments
import Docket.CommandLine.Run
import Docket.CommandLine.Usage
import Docket.Value.Indented
import Docket.Main
import Docket.Proofs.Inheritance.Keyed
import Docket.Proofs.Inheritance.Overlay
import Docket.Proofs.Inheritance.Flattening
import Docket.Proofs.Rendering.Relation
import Docket.Proofs.Rendering.Strictness
import Docket.Proofs.Rendering.Errors
import Docket.Proofs.Rendering.Rounds
import Docket.Proofs.Generation.Basic
import Docket.Proofs.Generation.Checked
import Docket.Proofs.Number.Rounding
import Docket.Proofs.Number.Text
import Docket.Proofs.Value.Canonical
import Docket.Proofs.Cache.Key
import Docket.Proofs.Engine.Session
import Docket.Proofs.Engine.Transparency
import Docket.Proofs.Engine.Sharing
import Docket.Proofs.Inheritance.Expansion
import Docket.Proofs.Definition.Reading
import Docket.Proofs.Store.Building
import Docket.Proofs.Validation.Agreement
import Docket.Proofs.Validation.Sorting
import Docket.Proofs.Text.Trimming
import Docket.Proofs.Template.Cutting
import Docket.Proofs.Path.Display
import Docket.Proofs.Template.Tags
import Docket.Proofs.Template.Grammar
import Docket.Proofs.Template.Paths
import Docket.Proofs.Template.Arguments
import Docket.Proofs.Template.Printing
import Docket.Proofs.Value.Settled
import Docket.Proofs.Path.Canonical
import Docket.Proofs.Path.Characters
import Docket.Proofs.Bindings.Index
import Docket.Proofs.Bindings.Lookup
import Docket.Proofs.Cache.Eviction
import Docket.Proofs.Cache.Separation
import Docket.Proofs.Value.Same
import Docket.Proofs.Entries.Lookup
import Docket.Proofs.Store.Order
import Docket.Proofs.Inheritance.Locality
import Docket.Proofs.Resolution.Fallback
import Docket.Proofs.Rendering.Joining
import Docket.Proofs.Rendering.Sections
import Docket.Proofs.Rendering.Dependence
import Docket.Proofs.Bindings.Defaults
import Docket.Proofs.Bindings.Gaps
import Docket.Proofs.Generation.LastResort
import Docket.Proofs.Rendering.Scoping
import Docket.Proofs.Rendering.Separators
import Docket.Proofs.Text.Casing
import Docket.Proofs.Value.Texts
import Docket.Proofs.Value.Braces
import Docket.Proofs.Rendering.TagFree
import Docket.Proofs.CommandLine.ExitCodes
import Docket.Proofs.Engine.Reloading
import Docket.Proofs.Template.Splitting
import Docket.Proofs.Rendering.Warnings
import Docket.Proofs.Definition.SectionLines
import Docket.Proofs.Rendering.Integers
