import FileRoutes.Boundary
import FileRoutes.Branch
import FileRoutes.Command.Arguments
import FileRoutes.Command.Directive
import FileRoutes.Command.LogFilter
import FileRoutes.Command.Run
import FileRoutes.Compiler
import FileRoutes.Config
import FileRoutes.Config.Reader
import FileRoutes.Data.Printer
import FileRoutes.Data.Value
import FileRoutes.Decimal.Binary
import FileRoutes.Decimal.Shortest
import FileRoutes.Error
import FileRoutes.Event
import FileRoutes.Identifier
import FileRoutes.Key
import FileRoutes.Lazy.Cell
import FileRoutes.Lazy.Resolution
import FileRoutes.Lazy.Site
import FileRoutes.Main
import FileRoutes.Manifest
import FileRoutes.Merge
import FileRoutes.Module
import FileRoutes.Node
import FileRoutes.NotFound
import FileRoutes.Outline
import FileRoutes.Outline.Printer
import FileRoutes.ParsedFile
import FileRoutes.Pattern
import FileRoutes.Pattern.Bracket
import FileRoutes.Pattern.Escape
import FileRoutes.Pattern.Mode
import FileRoutes.Role
import FileRoutes.Segment
import FileRoutes.Summary
import FileRoutes.Text.Alphabetic
import FileRoutes.Text.Blank
import FileRoutes.Text.Digit
import FileRoutes.Text.GraphemeExtend
import FileRoutes.Text.Markup
import FileRoutes.Text.Numeric
import FileRoutes.Text.Quoted
import FileRoutes.Text.Split
import FileRoutes.Text.Style
import FileRoutes.Text.Unprintable
import FileRoutes.Toml.Document
import FileRoutes.Toml.Item
import FileRoutes.Toml.Quotation
import FileRoutes.Toml.Reader
import FileRoutes.Toml.Scalar
import FileRoutes.Toml.Shape
import FileRoutes.View
import FileRoutes.ViewIndex
import FileRoutes.Proofs.Logged
import FileRoutes.Proofs.Policy
import FileRoutes.Proofs.Arrangement
import FileRoutes.Proofs.Tidy
import FileRoutes.Proofs.Union
import FileRoutes.Proofs.Completion
import FileRoutes.Proofs.Attachment
import FileRoutes.Proofs.History
import FileRoutes.Proofs.Reach
import FileRoutes.Proofs.Contribution
import FileRoutes.Proofs.Trie
import FileRoutes.Proofs.Conflicts
import FileRoutes.Proofs.Guarding
import FileRoutes.Proofs.Pages
import FileRoutes.Proofs.Verdict
import FileRoutes.Proofs.Ranking
import FileRoutes.Proofs.Sorting
import FileRoutes.Proofs.Lookalike
import FileRoutes.Proofs.SortedOutline
import FileRoutes.Proofs.DiscoveryOrder
import FileRoutes.Proofs.Leniency
import FileRoutes.Proofs.Finished
import FileRoutes.Proofs.Foremost
import FileRoutes.Proofs.Groundwork
import FileRoutes.Proofs.Standing
import FileRoutes.Proofs.Unmatched
import FileRoutes.Proofs.Batches
import FileRoutes.Proofs.CellRuns
import FileRoutes.Proofs.Permit
import FileRoutes.Proofs.Ledger
import FileRoutes.Proofs.Settling
import FileRoutes.Proofs.OneShot
import FileRoutes.Proofs.Joining
import FileRoutes.Proofs.Inventory
import FileRoutes.Proofs.Sources
import FileRoutes.Proofs.Outranked
import FileRoutes.Proofs.Conservation
import FileRoutes.Proofs.LoadingSearch
import FileRoutes.Proofs.Registration
import FileRoutes.Proofs.ErrorViews
import FileRoutes.Proofs.Misfits
import FileRoutes.Proofs.SiteVisits
import FileRoutes.Proofs.Usage
import FileRoutes.Proofs.Absorption
import FileRoutes.Proofs.Additions
import FileRoutes.Proofs.Pointwise
import FileRoutes.Proofs.EarlyCompletion
import FileRoutes.Proofs.AttachmentFrame
import FileRoutes.Proofs.Components
import FileRoutes.Proofs.Parsing
import FileRoutes.Proofs.RouteCounts
import FileRoutes.Proofs.Census
import FileRoutes.Proofs.Reordering
import FileRoutes.Proofs.Brackets
import FileRoutes.Proofs.LookupKeys
import FileRoutes.Proofs.PrintedTree
import FileRoutes.Proofs.Ancestry
