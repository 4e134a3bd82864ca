import EffectModel.Annotation
import EffectModel.Declaration
import EffectModel.Fault
import EffectModel.Form.Declaration
import EffectModel.Form.Module
import EffectModel.Form.Output
import EffectModel.Form.Settings
import EffectModel.Generation.Consulted
import EffectModel.Generation.Output
import EffectModel.Generation.Run
import EffectModel.Json.Basic
import EffectModel.Json.Reader
import EffectModel.Json.Record
import EffectModel.Json.Writer
import EffectModel.Lifting.Classification
import EffectModel.Lifting.Shape
import EffectModel.Module.Basic
import EffectModel.Module.Build
import EffectModel.Module.Naming
import EffectModel.Proofs.Annotation
import EffectModel.Proofs.CamelCase
import EffectModel.Proofs.Cause
import EffectModel.Proofs.FirstOccurrence
import EffectModel.Proofs.Form.Abridged
import EffectModel.Proofs.Form.Edited
import EffectModel.Proofs.Form.Exact
import EffectModel.Proofs.Form.Restored
import EffectModel.Proofs.Form.Unchanged
import EffectModel.Proofs.Generation.Accounting
import EffectModel.Proofs.Generation.Agreement
import EffectModel.Proofs.Generation.Attribution
import EffectModel.Proofs.Generation.Cancellation
import EffectModel.Proofs.Generation.Consulted
import EffectModel.Proofs.Generation.Doubling
import EffectModel.Proofs.Generation.Failures
import EffectModel.Proofs.Generation.Ledger
import EffectModel.Proofs.Generation.Locality
import EffectModel.Proofs.Generation.Respelled
import EffectModel.Proofs.Generation.SingleEntry
import EffectModel.Proofs.Identity
import EffectModel.Proofs.Json.Exact
import EffectModel.Proofs.Json.Literal
import EffectModel.Proofs.Json.Reading
import EffectModel.Proofs.Json.Text
import EffectModel.Proofs.Lifting.Classification
import EffectModel.Proofs.Lifting.Nullability
import EffectModel.Proofs.Lookup
import EffectModel.Proofs.Module.Build
import EffectModel.Proofs.Module.Clash
import EffectModel.Proofs.Module.Effects
import EffectModel.Proofs.Module.Fault
import EffectModel.Proofs.Module.Identifiers
import EffectModel.Proofs.Module.Identity
import EffectModel.Proofs.Module.Persistence
import EffectModel.Proofs.Naming
import EffectModel.Proofs.Outcome
import EffectModel.Proofs.Reannotated
import EffectModel.Proofs.Respelled
import EffectModel.Proofs.Runtime.Capabilities
import EffectModel.Proofs.Runtime.Circle
import EffectModel.Proofs.Runtime.Composable
import EffectModel.Proofs.Runtime.Joined
import EffectModel.Proofs.Runtime.Parameters
import EffectModel.Proofs.Runtime.Rearranged
import EffectModel.Proofs.Runtime.Test
import EffectModel.Proofs.Runtime.Unfolded
import EffectModel.Proofs.Settings.Check
import EffectModel.Proofs.Settings.Saved
import EffectModel.Proofs.Sharing
import EffectModel.Proofs.Snapshot
import EffectModel.Proofs.Text.Character
import EffectModel.Proofs.Text.LetterCase
import EffectModel.Proofs.TypeExpression
import EffectModel.Proofs.Walk.Capabilities
import EffectModel.Proofs.Walk.Course
import EffectModel.Proofs.Walk.Gathered
import EffectModel.Proofs.Walk.Halt
import EffectModel.Proofs.Walk.Journal
import EffectModel.Proofs.Walk.Parallel
import EffectModel.Proofs.Walk.Reference
import EffectModel.Proofs.Walk.Sharing
import EffectModel.Proofs.Walk.Trail
import EffectModel.Proofs.Yaml.Assembled
import EffectModel.Proofs.Yaml.Block
import EffectModel.Proofs.Yaml.Character
import EffectModel.Proofs.Yaml.Folding
import EffectModel.Proofs.Yaml.Layout
import EffectModel.Proofs.Yaml.Lexer
import EffectModel.Proofs.Yaml.Quoted
import EffectModel.Proofs.Yaml.Reliable
import EffectModel.Proofs.Yaml.Scanned
import EffectModel.Proofs.Yaml.Unquoted
import EffectModel.Proofs.Yaml.Value
import EffectModel.Proofs.Yaml.Word
import EffectModel.Runtime.Test
import EffectModel.Runtime.Walk
import EffectModel.Settings.Basic
import EffectModel.Settings.Document
import EffectModel.Snapshot
import EffectModel.Text.Character
import EffectModel.Text.LetterCase
import EffectModel.TypeUse
import EffectModel.Yaml.Cursor
import EffectModel.Yaml.Document
import EffectModel.Yaml.Lexer
import EffectModel.Yaml.Library
import EffectModel.Yaml.Plain
import EffectModel.Yaml.Record
import EffectModel.Yaml.Scalar
import EffectModel.Yaml.Tag
import EffectModel.Yaml.Writer
