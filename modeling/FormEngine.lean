import FormEngine.Cache.Documents
import FormEngine.Cache.Recency
import FormEngine.Cache.StaticStates
import FormEngine.Component.Registry
import FormEngine.Component.Shadow
import FormEngine.Config.Basic
import FormEngine.Config.Path
import FormEngine.Control.Builder
import FormEngine.Control.Element
import FormEngine.Control.Offline
import FormEngine.Control.Tree
import FormEngine.Control.Visit
import FormEngine.Diagnostics
import FormEngine.Digest.Hmac
import FormEngine.Digest.Sha256
import FormEngine.Document.Basic
import FormEngine.Document.Check
import FormEngine.Document.Copy
import FormEngine.Document.Cursor
import FormEngine.Document.Json
import FormEngine.Document.Name
import FormEngine.Document.Walk
import FormEngine.Event.Extract
import FormEngine.Event.Handler
import FormEngine.Event.Index
import FormEngine.Json.Printer
import FormEngine.Json.Reader
import FormEngine.Json.Value
import FormEngine.Markup.Reference
import FormEngine.Markup.Token
import FormEngine.Markup.Tree
import FormEngine.Model
import FormEngine.Pattern.Bracket
import FormEngine.Pattern.CharSet
import FormEngine.Pattern.Engine
import FormEngine.Pattern.Escape
import FormEngine.Pattern.Flags
import FormEngine.Pattern.Matcher
import FormEngine.Pattern.Parser
import FormEngine.Pattern.Syntax
import FormEngine.Pattern.Tables
import FormEngine.Property.Registry
import FormEngine.Property.Table
import FormEngine.Query
import FormEngine.Report.Basic
import FormEngine.Report.Control
import FormEngine.Report.Event
import FormEngine.Report.Scope
import FormEngine.Report.StaticState
import FormEngine.Scope.Resolver
import FormEngine.Scope.Tree
import FormEngine.State.Fault
import FormEngine.State.Manager
import FormEngine.State.Pair
import FormEngine.State.Pool
import FormEngine.State.Request
import FormEngine.State.Store
import FormEngine.State.Token
import FormEngine.StaticState.Analysis
import FormEngine.StaticState.Basic
import FormEngine.StaticState.Metadata
import FormEngine.StaticState.Parts
import FormEngine.Text.Base64Url
import FormEngine.Text.Blank
import FormEngine.Text.Numeral
import FormEngine.Token
import FormEngine.Unicode.CaseFold
import FormEngine.Unicode.Category
import FormEngine.Unicode.Property
import FormEngine.Unicode.Runs
import FormEngine.Unicode.Script
import FormEngine.Proofs.State.Run
import FormEngine.Proofs.State.Signature
import FormEngine.Proofs.Document.Graft
import FormEngine.Proofs.Document.Json
import FormEngine.Proofs.Json.RoundTrip
import FormEngine.Proofs.Text.Base64Url
import FormEngine.Proofs.Document.Forest
import FormEngine.Proofs.Token
import FormEngine.Proofs.StaticState.Fold
import FormEngine.Proofs.Outcome
import FormEngine.Proofs.Outwards
import FormEngine.Proofs.StaticState.Page
import FormEngine.Proofs.StaticState.Restore
import FormEngine.Proofs.Document.Insert
import FormEngine.Proofs.Component.Expansion
import FormEngine.Proofs.Scope.Origin
import FormEngine.Proofs.Scope.Written
import FormEngine.Proofs.Scope.Chain
import FormEngine.Proofs.Control.Place
import FormEngine.Proofs.Scope.Home
import FormEngine.Proofs.Document.StaticIds
import FormEngine.Proofs.Document.Subtree
import FormEngine.Proofs.Scope.Path
import FormEngine.Proofs.Component.Instance
import FormEngine.Proofs.Scope.Survey
import FormEngine.Proofs.Scope.Distinct
import FormEngine.Proofs.Scope.Site
import FormEngine.Proofs.Scope.Unique
import FormEngine.Proofs.Control.Walk
import FormEngine.Proofs.Scope.PrefixedIds
import FormEngine.Proofs.State.Session
import FormEngine.Proofs.Cache.Recency
import FormEngine.Proofs.State.Tally
import FormEngine.Proofs.State.Register
import FormEngine.Proofs.Document.Arena
import FormEngine.Proofs.Cache.Documents
import FormEngine.Proofs.State.Host
import FormEngine.Proofs.State.Marks
import FormEngine.Proofs.State.Backing
import FormEngine.Proofs.State.Coherence
import FormEngine.Proofs.State.Identity
import FormEngine.Proofs.State.Making
import FormEngine.Proofs.State.Recent
import FormEngine.Proofs.State.Use
import FormEngine.Proofs.State.Decoding
import FormEngine.Proofs.State.Return
import FormEngine.Proofs.Cache.Shelf
import FormEngine.Proofs.State.Checkout
import FormEngine.Proofs.Cache.StaticStates
import FormEngine.Proofs.Control.Nesting
import FormEngine.Proofs.Control.Around
import FormEngine.Proofs.Scope.Once
import FormEngine.Proofs.Control.Disputed
import FormEngine.Proofs.StaticState.Definitions
import FormEngine.Proofs.Json.Assign
import FormEngine.Proofs.Text.Words
import FormEngine.Proofs.Property.Precedence
import FormEngine.Proofs.Document.Edit
import FormEngine.Proofs.Markup.Sound
import FormEngine.Proofs.Document.Built
import FormEngine.Proofs.Component.Reach
import FormEngine.Proofs.Scope.Depth
import FormEngine.Proofs.Scope.Reading
import FormEngine.Proofs.Scope.Ending
import FormEngine.Proofs.Component.Links
import FormEngine.Proofs.Scope.Parted
import FormEngine.Proofs.Scope.InStep
import FormEngine.Proofs.Scope.Template
import FormEngine.Proofs.Control.Reach
import FormEngine.Proofs.Scope.Own
import FormEngine.Proofs.Event.Listener
import FormEngine.Proofs.Event.Listing
import FormEngine.Proofs.Event.Once
import FormEngine.Proofs.Scope.Halting
import FormEngine.Proofs.Component.Built
import FormEngine.Proofs.Component.Filling
import FormEngine.Proofs.Control.Supports
import FormEngine.Proofs.Control.Delivered
import FormEngine.Proofs.Markup.Prefixes
import FormEngine.Proofs.Component.Selectors
import FormEngine.Proofs.StaticState.Passes
import FormEngine.Proofs.Control.Common
import FormEngine.Proofs.Control.Variables
import FormEngine.Proofs.Control.Open
import FormEngine.Proofs.Control.Accounted
import FormEngine.Proofs.Document.Line
import FormEngine.Proofs.Control.Balance
import FormEngine.Proofs.Control.Enclosed
import FormEngine.Proofs.Scope.Unbound
import FormEngine.Proofs.Event.AncestorObserver
import FormEngine.Proofs.Event.Repeats
import FormEngine.Proofs.Event.Agreement
import FormEngine.Proofs.Control.Surroundings
import FormEngine.Proofs.Control.Hierarchy
import FormEngine.Proofs.Event.Multiplicity
import FormEngine.Proofs.StaticState.Models
import FormEngine.Proofs.Event.ModelHandlers
import FormEngine.Proofs.Model.Registration
import FormEngine.Proofs.Model.Partition
import FormEngine.Proofs.Document.Preorder
import FormEngine.Proofs.Markup.Tag
import FormEngine.Proofs.Markup.Formed
import FormEngine.Proofs.Document.Copies
import FormEngine.Proofs.Document.Enumeration
import FormEngine.Proofs.Document.Faithful
import FormEngine.Proofs.Scope.Inverse
import FormEngine.Proofs.Model.Search
import FormEngine.Proofs.Pattern.Matching
import FormEngine.Proofs.Pattern.Reader
import FormEngine.Proofs.Pattern.Brackets
import FormEngine.Proofs.Pattern.Tokens
import FormEngine.Proofs.Pattern.Groups
import FormEngine.Proofs.Pattern.Reading
import FormEngine.Proofs.Pattern.Enclosing
