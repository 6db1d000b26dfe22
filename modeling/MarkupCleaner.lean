import MarkupCleaner.Assist.Request
import MarkupCleaner.Assist.Screen
import MarkupCleaner.Assist.Summary
import MarkupCleaner.ClassRules.Engine
import MarkupCleaner.ClassRules.Rules
import MarkupCleaner.ClassRules.Template
import MarkupCleaner.Cleanup.Duplicate
import MarkupCleaner.Cleanup.Empty
import MarkupCleaner.Cleanup.Flatten
import MarkupCleaner.Cleanup.Nesting
import MarkupCleaner.Cleanup.Pass
import MarkupCleaner.Cleanup.Semantic
import MarkupCleaner.Cleanup.Whitespace
import MarkupCleaner.CommandLine.Arguments
import MarkupCleaner.CommandLine.FileTree
import MarkupCleaner.CommandLine.Host
import MarkupCleaner.CommandLine.LogSetup
import MarkupCleaner.CommandLine.Run
import MarkupCleaner.Data.Checked
import MarkupCleaner.Data.Json
import MarkupCleaner.Data.Value
import MarkupCleaner.FilePlace
import MarkupCleaner.Formatter
import MarkupCleaner.Image.Detect
import MarkupCleaner.Image.Replace
import MarkupCleaner.Image.Size
import MarkupCleaner.Live.Basic
import MarkupCleaner.Live.Change
import MarkupCleaner.Live.Classes
import MarkupCleaner.Live.Images
import MarkupCleaner.Live.Links
import MarkupCleaner.Live.Passes
import MarkupCleaner.Live.Slots
import MarkupCleaner.Log
import MarkupCleaner.LogOutput
import MarkupCleaner.LogPath
import MarkupCleaner.Main
import MarkupCleaner.Markup.Draft
import MarkupCleaner.Markup.Error
import MarkupCleaner.Markup.NameTable
import MarkupCleaner.Markup.Parse
import MarkupCleaner.Markup.Reference
import MarkupCleaner.Markup.StartTag
import MarkupCleaner.Markup.Token
import MarkupCleaner.Markup.Tokenize
import MarkupCleaner.Number.Binary64
import MarkupCleaner.Number.Double
import MarkupCleaner.Number.Shortest
import MarkupCleaner.Number.Whole
import MarkupCleaner.Options
import MarkupCleaner.Options.Check
import MarkupCleaner.Output.Html
import MarkupCleaner.Output.React
import MarkupCleaner.Output.Render
import MarkupCleaner.Output.Style
import MarkupCleaner.Pattern.Alternatives
import MarkupCleaner.Pattern.Basic
import MarkupCleaner.Pattern.CharTest
import MarkupCleaner.Pattern.Compile
import MarkupCleaner.Pattern.Escape
import MarkupCleaner.Pattern.Fault
import MarkupCleaner.Pattern.Group
import MarkupCleaner.Pattern.Lexeme
import MarkupCleaner.Pattern.Match
import MarkupCleaner.Pattern.Program
import MarkupCleaner.Pattern.Run
import MarkupCleaner.Pipeline
import MarkupCleaner.Proofs.Markup.Escapes
import MarkupCleaner.Proofs.Unicode.Lowercase
import MarkupCleaner.Sample
import MarkupCleaner.Settings.Basic
import MarkupCleaner.Settings.EnvFile
import MarkupCleaner.Text.Blank
import MarkupCleaner.Text.Quoted
import MarkupCleaner.Text.Split
import MarkupCleaner.Text.StringLiteral
import MarkupCleaner.Text.Utf8
import MarkupCleaner.Tree.Attribute
import MarkupCleaner.Tree.Node
import MarkupCleaner.Tree.Part
import MarkupCleaner.Unicode.CapitalTable
import MarkupCleaner.Unicode.CaseTable
import MarkupCleaner.Unicode.Caseless
import MarkupCleaner.Unicode.Character
import MarkupCleaner.Unicode.LetterTable
import MarkupCleaner.Unicode.Lowercase
import MarkupCleaner.Unicode.MarkTable
import MarkupCleaner.Unicode.NameTable
import MarkupCleaner.Unicode.Names
import MarkupCleaner.Unicode.NumberTable
import MarkupCleaner.Unicode.PrintableTable
import MarkupCleaner.Unicode.Ranges
import MarkupCleaner.Proofs.Markup.Reading
import MarkupCleaner.Proofs.Markup.Building
import MarkupCleaner.Proofs.Output.RoundTrip
import MarkupCleaner.Proofs.Markup.Built
import MarkupCleaner.Proofs.Output.Leaves
import MarkupCleaner.Proofs.Cleanup.Empty
import MarkupCleaner.Proofs.Cleanup.Flatten
import MarkupCleaner.Proofs.Cleanup.Whitespace
import MarkupCleaner.Proofs.Cleanup.Attributes
import MarkupCleaner.Proofs.Cleanup.Semantic
import MarkupCleaner.Proofs.Cleanup.Nesting
import MarkupCleaner.Proofs.Markup.Parsed
import MarkupCleaner.Proofs.Cleanup.Idempotence
import MarkupCleaner.Proofs.Live.Empty
import MarkupCleaner.Proofs.Live.Flatten
import MarkupCleaner.Proofs.Cleanup.WrittenTexts
import MarkupCleaner.Proofs.Live.Cleanup
import MarkupCleaner.Proofs.Text.Words
import MarkupCleaner.Proofs.Tree.ClassTokens
import MarkupCleaner.Proofs.Cleanup.Convergence
import MarkupCleaner.Proofs.Cleanup.Duplicate
import MarkupCleaner.Proofs.Image.Filled
import MarkupCleaner.Proofs.Pipeline.Detectors
import MarkupCleaner.Proofs.Live.Images
import MarkupCleaner.Proofs.ClassRules.Words
import MarkupCleaner.Proofs.ClassRules.Sweep
import MarkupCleaner.Proofs.Live.Classes
import MarkupCleaner.Proofs.Output.Written
import MarkupCleaner.Proofs.Output.Joined
import MarkupCleaner.Proofs.Output.Reread
import MarkupCleaner.Proofs.Output.Stable
import MarkupCleaner.Proofs.Tree.Occurrences
import MarkupCleaner.Proofs.Cleanup.NormalForm
import MarkupCleaner.Proofs.Data.Logged
import MarkupCleaner.Proofs.ClassRules.Malformed
import MarkupCleaner.Proofs.Image.Sizes
import MarkupCleaner.Proofs.Image.Icons
import MarkupCleaner.Proofs.Pipeline.Stages
import MarkupCleaner.Proofs.Pipeline.Failures
import MarkupCleaner.Proofs.Tree.AttributeNames
import MarkupCleaner.Proofs.Pipeline.Presentable
import MarkupCleaner.Proofs.Pipeline.PrintedNames
import MarkupCleaner.Proofs.Markup.Suffixes
import MarkupCleaner.Proofs.Markup.Overlong
import MarkupCleaner.Proofs.Markup.Refused
import MarkupCleaner.Proofs.Output.Places
import MarkupCleaner.Proofs.Output.Expressions
import MarkupCleaner.Proofs.Output.Delimiters
import MarkupCleaner.Proofs.Text.Trim
import MarkupCleaner.Proofs.Output.Jsx
import MarkupCleaner.Proofs.Pipeline.Component
import MarkupCleaner.Proofs.Live.Links
import MarkupCleaner.Proofs.Live.Identities
import MarkupCleaner.Proofs.Live.Slots
import MarkupCleaner.Proofs.Live.Changes
import MarkupCleaner.Proofs.Cleanup.Texts
import MarkupCleaner.Proofs.Live.KeptText
import MarkupCleaner.Proofs.Unicode.Caseless
import MarkupCleaner.Proofs.Assist.Screen
import MarkupCleaner.Proofs.Image.Recursion
import MarkupCleaner.Proofs.Live.Replaced
import MarkupCleaner.Proofs.Cleanup.Filter
import MarkupCleaner.Proofs.Live.Filtered
import MarkupCleaner.Proofs.Live.Unwrapped
import MarkupCleaner.Proofs.ClassRules.Lead
import MarkupCleaner.Proofs.Image.Late
import MarkupCleaner.Proofs.Live.Rerun
import MarkupCleaner.Proofs.Live.Places
import MarkupCleaner.Proofs.Live.Mended
import MarkupCleaner.Proofs.Text.Gaps
import MarkupCleaner.Proofs.Live.Respaced
import MarkupCleaner.Proofs.Pattern.Search
import MarkupCleaner.Proofs.ClassRules.Outcomes
import MarkupCleaner.Proofs.ClassRules.Laws
import MarkupCleaner.Proofs.ClassRules.Quoting
import MarkupCleaner.Proofs.Tree.ClassWriting
import MarkupCleaner.Proofs.Text.Cuts
import MarkupCleaner.Proofs.ClassRules.Notation
import MarkupCleaner.Proofs.Output.Literals
import MarkupCleaner.Proofs.ClassRules.Spelling
import MarkupCleaner.Proofs.ClassRules.Respelled
import MarkupCleaner.Proofs.ClassRules.Regrouped
import MarkupCleaner.Proofs.ClassRules.Recompiled
import MarkupCleaner.Proofs.Output.Declarations
import MarkupCleaner.Proofs.Image.Axes
