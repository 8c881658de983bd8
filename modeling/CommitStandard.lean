import CommitStandard.CommandLine.Arguments
import CommitStandard.CommandLine.Disk
import CommitStandard.CommandLine.Linting
import CommitStandard.CommandLine.Path
import CommitStandard.CommandLine.Program
import CommitStandard.CommandLine.Session
import CommitStandard.CommandLine.Showing
import CommitStandard.Engine.Basic
import CommitStandard.Engine.Description
import CommitStandard.Footer
import CommitStandard.Header
import CommitStandard.Lint.Basic
import CommitStandard.Lint.Markup
import CommitStandard.Lint.Terminal
import CommitStandard.Main
import CommitStandard.Message.Basic
import CommitStandard.Message.Data
import CommitStandard.Message.Parse
import CommitStandard.Message.Process
import CommitStandard.Namespace
import CommitStandard.Proofs.Text.Characters
import CommitStandard.Proofs.Text.Words
import CommitStandard.Proofs.Text.Lines
import CommitStandard.Proofs.Text.Trimming
import CommitStandard.Proofs.Text.Filling
import CommitStandard.Platform
import CommitStandard.Rule.Basic
import CommitStandard.Rule.LetterCase
import CommitStandard.Rule.Setting
import CommitStandard.Rule.Test
import CommitStandard.Rule.Vocabulary
import CommitStandard.Settings.Basic
import CommitStandard.Settings.Expansion
import CommitStandard.Settings.File
import CommitStandard.Text.Basic
import CommitStandard.Text.Casing
import CommitStandard.Text.Character
import CommitStandard.Text.Cut
import CommitStandard.Text.Literal
import CommitStandard.Text.Table.Cased
import CommitStandard.Text.Table.Digit
import CommitStandard.Text.Table.Emoji
import CommitStandard.Text.Table.Lower
import CommitStandard.Text.Table.Mark
import CommitStandard.Text.Table.Unprintable
import CommitStandard.Text.Table.Upper
import CommitStandard.Text.Table.Wide
import CommitStandard.Text.Table.Word
import CommitStandard.Text.Template
import CommitStandard.Text.Words
import CommitStandard.Text.Wrap
import CommitStandard.Toml.Numeral
import CommitStandard.Toml.Reader
import CommitStandard.Toml.Writer
import CommitStandard.Value.Basic
import CommitStandard.Value.Double
import CommitStandard.Value.Moment
import CommitStandard.Proofs.Header.Scanning
import CommitStandard.Proofs.Header.RoundTrip
import CommitStandard.Proofs.Footer.RoundTrip
import CommitStandard.Proofs.Message.Paragraphs
import CommitStandard.Proofs.Message.RoundTrip
import CommitStandard.Proofs.Message.Stability
import CommitStandard.Proofs.Message.Trailers
import CommitStandard.Proofs.Rule.Strict
import CommitStandard.Proofs.Message.Standard
import CommitStandard.Proofs.Lint.Rereading
import CommitStandard.Proofs.Lint.Repair
import CommitStandard.Proofs.Engine.Configured
import CommitStandard.Proofs.Engine.Checking
import CommitStandard.Proofs.Message.WritingBack
import CommitStandard.Proofs.Message.Unrepaired
import CommitStandard.Proofs.Message.Verdict
import CommitStandard.Proofs.Message.Compliance
import CommitStandard.Proofs.Engine.Tracking
import CommitStandard.Proofs.Message.FooterTexts
import CommitStandard.Proofs.Rule.Repairing
import CommitStandard.Proofs.Engine.Dependability
import CommitStandard.Proofs.Message.Toggling
import CommitStandard.Proofs.Message.BreakingMarks
import CommitStandard.Proofs.Message.Repaired
import CommitStandard.Proofs.Lint.ReadBack
import CommitStandard.Proofs.Message.Warnings
import CommitStandard.Proofs.Message.WordedLines
import CommitStandard.Proofs.Lint.LineEndings
import CommitStandard.Proofs.Message.BlankLines
import CommitStandard.Proofs.Engine.Ordering
import CommitStandard.Proofs.Message.Division
import CommitStandard.Proofs.Message.Interleaving
import CommitStandard.Proofs.Footer.Spelling
import CommitStandard.Proofs.Header.Marks
import CommitStandard.Proofs.Header.Cutting
import CommitStandard.Proofs.Message.HeaderLength
import CommitStandard.Proofs.Message.Data
import CommitStandard.Proofs.Message.Properties
import CommitStandard.Proofs.Namespace.Alignment
import CommitStandard.Proofs.Namespace.Patterns
import CommitStandard.Proofs.Namespace.Expansion
import CommitStandard.Proofs.Namespace.Naming
import CommitStandard.Proofs.Toml.Storable
import CommitStandard.Proofs.Settings.Loading
import CommitStandard.Proofs.Settings.Reloading
import CommitStandard.Proofs.Message.Painting
import CommitStandard.Proofs.Message.PaintedLine
import CommitStandard.Proofs.Settings.Refusals
import CommitStandard.Proofs.Lint.Delimiter
import CommitStandard.Proofs.Text.Separators
import CommitStandard.Proofs.Text.Letters
import CommitStandard.Proofs.Footer.Legibility
import CommitStandard.Proofs.Header.Delimiters
import CommitStandard.Proofs.Message.Scopes
import CommitStandard.Proofs.Message.FooterEdits
import CommitStandard.Proofs.Header.Grammar
import CommitStandard.Proofs.Text.Wrapping
import CommitStandard.Proofs.Text.Casing
import CommitStandard.Proofs.Rule.Presence
import CommitStandard.Proofs.Rule.Recasing
import CommitStandard.Proofs.Text.Clusters
import CommitStandard.Proofs.Rule.Inversion
import CommitStandard.Proofs.Rule.Converting
