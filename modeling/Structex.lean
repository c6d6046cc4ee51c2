import Structex.Builder
import Structex.Engine
import Structex.Identifier.Basic
import Structex.Log.Configured
import Structex.Proofs.Cascade.Endless
import Structex.Proofs.Glob.Agreement
import Structex.Proofs.Glob.Captures
import Structex.Proofs.Glob.LineFeed
import Structex.Proofs.Lexer.Acceptance
import Structex.Proofs.Lexer.Displacement
import Structex.Proofs.Region.Partition
import Structex.Proofs.Settings.Assignment
import Structex.Proofs.Settings.Environment
import Structex.Proofs.Settings.Interrupted
import Structex.Proofs.Rule.Loading
import Structex.Proofs.Settings.Lookup
import Structex.Rule.Preset
import Structex.Settings.Environment
import Structex.Settings.Schema
import Structex.Proofs.Settings.Validation
import Structex.Proofs.Rule.History
import Structex.Proofs.Cascade.Identifiers
import Structex.Proofs.Cascade.Admission
import Structex.Proofs.Settings.Reloading
import Structex.Proofs.Settings.Starting
import Structex.Proofs.Template.SinglePass
import Structex.Proofs.Replacement.Scanning
import Structex.Proofs.Template.Traversal
import Structex.Proofs.Lexer.Skipping
import Structex.Proofs.Cascade.Unwatched
import Structex.Proofs.Lexer.Refusal
import Structex.Proofs.Rule.Refusal
import Structex.Proofs.Settings.Sections
import Structex.Proofs.Command.Building
import Structex.Proofs.Command.Slicing
import Structex.Proofs.Settings.Clearing
import Structex.Proofs.Log.Takeover
import Structex.Proofs.Rule.Indexing
import Structex.Proofs.Yaml.Reading
