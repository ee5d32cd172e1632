import Palette.Color.Function
import Palette.Color.Hex
import Palette.Color.Loose
import Palette.Color.Named
import Palette.Color.Rgba
import Palette.CommandLine.Arguments
import Palette.CommandLine.Command
import Palette.CommandLine.Demo
import Palette.CommandLine.Run
import Palette.Decimal.Binary
import Palette.Decimal.Read
import Palette.Decimal.Shortest
import Palette.Excerpt
import Palette.Files.Path
import Palette.Files.Tree
import Palette.KeyTrie.Insert
import Palette.KeyTrie.Node
import Palette.KeyTrie.Overlap
import Palette.Layout.Flatten
import Palette.Layout.Item
import Palette.Layout.Resolve
import Palette.Layout.Schema
import Palette.Layout.Source
import Palette.Log
import Palette.Main
import Palette.Matcher.Languages
import Palette.Matcher.Decision
import Palette.Matcher.Dialect
import Palette.Matcher.Lookup
import Palette.Ordered
import Palette.Output.ClassSource
import Palette.Output.Header
import Palette.Theme.Flatten
import Palette.Pipeline.Generate
import Palette.Pipeline.Job
import Palette.Pipeline.Report
import Palette.Printer
import Palette.Proofs.CppLookup
import Palette.Proofs.CppText
import Palette.Proofs.LookupDecision
import Palette.Proofs.Outline
import Palette.Proofs.PrintedLookup
import Palette.Proofs.PythonLookup
import Palette.Proofs.PythonText
import Palette.Proofs.TargetCode
import Palette.Proofs.TargetGrammar
import Palette.Proofs.TargetTokens
import Palette.Proofs.TestWording
import Palette.Proofs.TrieCanonical
import Palette.Proofs.TrieMap
import Palette.Proofs.TrieShape
import Palette.Stylesheet.Cursor
import Palette.Stylesheet.Lexeme
import Palette.Stylesheet.Node
import Palette.Stylesheet.Queries
import Palette.Stylesheet.Reader
import Palette.Stylesheet.Selectors
import Palette.Stylesheet.Values
import Palette.Text.Base64
import Palette.Text.Blank
import Palette.Text.Cased
import Palette.Text.Digit
import Palette.Text.Lower
import Palette.Text.Printable
import Palette.Text.Quoted
import Palette.Text.Utf8
import Palette.Theme.Basic
import Palette.Theme.Parse
import Palette.Theme.Value
import Palette.Theme.Walk
import Palette.Yaml.Cursor
import Palette.Yaml.Data
import Palette.Yaml.Document
import Palette.Yaml.Error
import Palette.Yaml.Moment
import Palette.Yaml.Number
import Palette.Yaml.Scalar
import Palette.Yaml.ScalarText
import Palette.Yaml.Timestamp
import Palette.Yaml.Token
import Palette.Yaml.Value
import Palette.Proofs.LayoutFlatten
import Palette.Proofs.TrieNodes
import Palette.Proofs.Printing
import Palette.Proofs.DefaultColors
import Palette.Proofs.LayoutSource
import Palette.Proofs.LayoutReordered
import Palette.Proofs.LayoutAccepted
import Palette.Proofs.ColorLookup
import Palette.Proofs.StructReading
import Palette.Proofs.StructShape
import Palette.Proofs.ThemePaths
import Palette.Proofs.FileEdits
import Palette.Proofs.FailingRuns
import Palette.Proofs.CommentTransparency
import Palette.Proofs.TextDecoding
import Palette.Proofs.HexRange
import Palette.Proofs.InfiniteArguments
import Palette.Proofs.WalkFailures
import Palette.Proofs.BadValues
import Palette.Proofs.ThemeOutcome
import Palette.Proofs.LayoutErrors
import Palette.Proofs.DeclarationOrder
import Palette.Proofs.WalkReaders
import Palette.Proofs.RuleBlocks
import Palette.Proofs.SheetDefects
import Palette.Proofs.ThemeFlatten
import Palette.Proofs.TrieEntries
import Palette.Proofs.TrieOverwrite
import Palette.Proofs.SyntaxIssues
import Palette.Proofs.CppLiterals
import Palette.Proofs.TrieSize
import Palette.Proofs.LoweringFaults
import Palette.Proofs.ThemeFileText
import Palette.Proofs.NestedPaths
import Palette.Proofs.HexNotation
import Palette.Proofs.ExcerptMarker
import Palette.Proofs.SuffixNames
import Palette.Proofs.OutputNames
import Palette.Proofs.BlankText
import Palette.Proofs.ColorArguments
import Palette.Proofs.ClosedBlocks
