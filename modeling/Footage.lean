import Footage.Calendar.Day
import Footage.Calendar.Epoch
import Footage.Calendar.Layout
import Footage.Calendar.Moment
import Footage.Calendar.Offset
import Footage.Calendar.Stamp
import Footage.CommandLine.Command
import Footage.CommandLine.Options
import Footage.CommandLine.Run
import Footage.Crawl
import Footage.DataSource
import Footage.Document
import Footage.Event.Assembly
import Footage.Event.Basic
import Footage.Event.Stored
import Footage.Extraction
import Footage.Failure
import Footage.Feed.Basic
import Footage.Feed.Forum
import Footage.Feed.Html
import Footage.Feed.Json
import Footage.Feed.Request
import Footage.Field
import Footage.Fixture
import Footage.Harvest
import Footage.Json.Basic
import Footage.Json.Decode
import Footage.Json.Reader
import Footage.Json.Writer
import Footage.Kit.Basic
import Footage.Kit.Source
import Footage.Listing
import Footage.Main
import Footage.Markup.Adoption
import Footage.Markup.Arena
import Footage.Markup.Builder
import Footage.Markup.Construction
import Footage.Markup.Doctype
import Footage.Markup.Entity
import Footage.Markup.Focus
import Footage.Markup.Name
import Footage.Markup.Reader
import Footage.Markup.Scanner
import Footage.Markup.Selector.Basic
import Footage.Markup.Selector.Reader
import Footage.Markup.Token
import Footage.Markup.Tree
import Footage.Markup.Visible
import Footage.Markup.Writer
import Footage.Part
import Footage.Pattern
import Footage.Pattern.Boundary
import Footage.Pattern.CharSet
import Footage.Pattern.Expr
import Footage.Pattern.Program
import Footage.Pattern.Property
import Footage.Pattern.PropertyName
import Footage.Pattern.Reader
import Footage.Pattern.Search
import Footage.Pattern.Syntax
import Footage.Pattern.Weight
import Footage.Proofs.Acceptance
import Footage.Proofs.Address.Bytes
import Footage.Proofs.Address.Paging
import Footage.Proofs.Address.Pairs
import Footage.Proofs.Address.Request
import Footage.Proofs.Address.Segments
import Footage.Proofs.Assembly
import Footage.Proofs.Calendar.Day
import Footage.Proofs.Calendar.EventDate
import Footage.Proofs.Calendar.IsoDate
import Footage.Proofs.Calendar.Offset
import Footage.Proofs.Calendar.Pieces
import Footage.Proofs.Calendar.Stamp
import Footage.Proofs.Collapsing
import Footage.Proofs.Containers
import Footage.Proofs.Crawl
import Footage.Proofs.Defaults
import Footage.Proofs.Entries
import Footage.Proofs.Excerpt
import Footage.Proofs.Extraction
import Footage.Proofs.Fallback
import Footage.Proofs.Fixture.Order
import Footage.Proofs.Fixture.Size
import Footage.Proofs.Fixture.Spelling
import Footage.Proofs.Fixture.Title
import Footage.Proofs.Fixture.Token
import Footage.Proofs.Flattening
import Footage.Proofs.Forum
import Footage.Proofs.Kinds
import Footage.Proofs.Kit.Binding
import Footage.Proofs.Kit.Compiling
import Footage.Proofs.Kit.Rules
import Footage.Proofs.Label.Before
import Footage.Proofs.Label.Reading
import Footage.Proofs.Label.Spelling
import Footage.Proofs.Label.Standard
import Footage.Proofs.Mirror
import Footage.Proofs.Numbers
import Footage.Proofs.Omission
import Footage.Proofs.Outcome
import Footage.Proofs.Packing
import Footage.Proofs.Pattern.Matching
import Footage.Proofs.Pattern.Whole
import Footage.Proofs.Pool
import Footage.Proofs.Readings
import Footage.Proofs.Runs
import Footage.Proofs.Scan.Chain
import Footage.Proofs.Scan.Extension
import Footage.Proofs.Scan.Step
import Footage.Proofs.Season.Reading
import Footage.Proofs.Season.Span
import Footage.Proofs.Stored.Digits
import Footage.Proofs.Stored.Event
import Footage.Proofs.Stored.Filing
import Footage.Proofs.Stored.Moment
import Footage.Proofs.Stored.Record
import Footage.Proofs.Stored.Text
import Footage.Proofs.Trimming
import Footage.Proofs.Variants
import Footage.Proofs.Words
import Footage.Record
import Footage.Registry
import Footage.Resolution
import Footage.Scan
import Footage.Season
import Footage.Settings
import Footage.Snapshot
import Footage.Source.Description
import Footage.Text.Age
import Footage.Text.Blank
import Footage.Text.CaseFold
import Footage.Text.CaseRuns
import Footage.Text.Category
import Footage.Text.CodeRanges
import Footage.Text.Composition
import Footage.Text.Decimal
import Footage.Text.DecimalDigit
import Footage.Text.Hexadecimal
import Footage.Text.Lowercase
import Footage.Text.NamedSet
import Footage.Text.Property
import Footage.Text.Script
import Footage.Text.Substring
import Footage.Text.Utf8
import Footage.Text.WordChar
import Footage.Url.Address
import Footage.Url.Basic
import Footage.Url.DomainMapping
import Footage.Url.Error
import Footage.Url.Host
import Footage.Url.Label
import Footage.Url.Percent
import Footage.Url.Punycode
import Footage.Url.Query
import Footage.Url.Reader
import Footage.Value
import Footage.Video
import Footage.Warning
import Footage.Yaml.Decode
import Footage.Yaml.Number
import Footage.Yaml.Reader
import Footage.Yaml.Scalar
import Footage.Yaml.Scanner
import Footage.Yaml.Token
import Footage.Yaml.Writer
