import SymbolGraph.Build
import SymbolGraph.Cache
import SymbolGraph.Clock
import SymbolGraph.Command.Options
import SymbolGraph.Command.Request
import SymbolGraph.Command.Run
import SymbolGraph.CurrentProject
import SymbolGraph.Digest.Md5
import SymbolGraph.Discovery
import SymbolGraph.Facts
import SymbolGraph.Facts.Extract
import SymbolGraph.Facts.Reader
import SymbolGraph.Files
import SymbolGraph.Graph.Document
import SymbolGraph.Graph.Dot
import SymbolGraph.Graph.Focus
import SymbolGraph.Graph.Html
import SymbolGraph.Graph.Key
import SymbolGraph.Graph.Query
import SymbolGraph.Graph.Resolver
import SymbolGraph.Graph.Search
import SymbolGraph.Graph.Store
import SymbolGraph.Graph.Symbol
import SymbolGraph.Graph.Table
import SymbolGraph.Graph.Traversal
import SymbolGraph.Journal
import SymbolGraph.Json.Basic
import SymbolGraph.Json.Display
import SymbolGraph.Json.Order
import SymbolGraph.Json.Reader
import SymbolGraph.Json.Writer
import SymbolGraph.Main
import SymbolGraph.Number.Binary64
import SymbolGraph.Number.Shortest
import SymbolGraph.Number.Whole
import SymbolGraph.Path
import SymbolGraph.Proofs.BuiltDocuments
import SymbolGraph.Proofs.BuiltGraphs
import SymbolGraph.Proofs.Calls
import SymbolGraph.Proofs.Components
import SymbolGraph.Proofs.CurrentProjects
import SymbolGraph.Proofs.DiscoveredFiles
import SymbolGraph.Proofs.DocumentGrammar
import SymbolGraph.Proofs.DotText
import SymbolGraph.Proofs.Effects
import SymbolGraph.Proofs.Entries
import SymbolGraph.Proofs.FileOrder
import SymbolGraph.Proofs.FilePartition
import SymbolGraph.Proofs.Folders
import SymbolGraph.Proofs.Homes
import SymbolGraph.Proofs.ImportPaths
import SymbolGraph.Proofs.Indexes
import SymbolGraph.Proofs.Isolation
import SymbolGraph.Proofs.JsonText
import SymbolGraph.Proofs.KeptProjects
import SymbolGraph.Proofs.LimitedWalks
import SymbolGraph.Proofs.LinkTargets
import SymbolGraph.Proofs.Linking
import SymbolGraph.Proofs.Listings
import SymbolGraph.Proofs.PageMarkup
import SymbolGraph.Proofs.Preorder
import SymbolGraph.Proofs.ProjectFiles
import SymbolGraph.Proofs.Queries
import SymbolGraph.Proofs.Recovery
import SymbolGraph.Proofs.RecursiveWalks
import SymbolGraph.Proofs.Reencoding
import SymbolGraph.Proofs.RepeatedBuilds
import SymbolGraph.Proofs.RereadWalks
import SymbolGraph.Proofs.Rereading
import SymbolGraph.Proofs.Reversal
import SymbolGraph.Proofs.SavedGraphs
import SymbolGraph.Proofs.SavedText
import SymbolGraph.Proofs.Searches
import SymbolGraph.Proofs.Selections
import SymbolGraph.Proofs.Sessions
import SymbolGraph.Proofs.Sites
import SymbolGraph.Proofs.SourceOrder
import SymbolGraph.Proofs.StraightPaths
import SymbolGraph.Proofs.SymbolIds
import SymbolGraph.Proofs.Tables
import SymbolGraph.Proofs.Utf8Bytes
import SymbolGraph.Proofs.Walks
import SymbolGraph.Screen.Grid
import SymbolGraph.Screen.Lines
import SymbolGraph.Screen.Markup
import SymbolGraph.Session
import SymbolGraph.Settings
import SymbolGraph.Source.Dialect
import SymbolGraph.Source.Grammar.Bindings
import SymbolGraph.Source.Grammar.Classes
import SymbolGraph.Source.Grammar.Expressions
import SymbolGraph.Source.Grammar.Markup
import SymbolGraph.Source.Grammar.Statements
import SymbolGraph.Source.Grammar.Types
import SymbolGraph.Source.Letter
import SymbolGraph.Source.Parser
import SymbolGraph.Source.Token
import SymbolGraph.Source.Tree
import SymbolGraph.Text.Blank
import SymbolGraph.Text.Case
import SymbolGraph.Text.Digit
import SymbolGraph.Text.Emoji
import SymbolGraph.Text.Hex
import SymbolGraph.Text.Infix
import SymbolGraph.Text.Newline
import SymbolGraph.Text.Printable
import SymbolGraph.Text.Quoted
import SymbolGraph.Text.Ranges
import SymbolGraph.Text.Replace
import SymbolGraph.Text.Utf8
import SymbolGraph.Text.Width
import SymbolGraph.Toml.Document
import SymbolGraph.Toml.Scalar
import SymbolGraph.Toml.Statement
import SymbolGraph.Workspace
