import TraitRoutes.Attributes.Defaults
import TraitRoutes.Attributes.Expansion
import TraitRoutes.Attributes.Helper
import TraitRoutes.Attributes.Settings
import TraitRoutes.Binding
import TraitRoutes.Build
import TraitRoutes.Controller.Basic
import TraitRoutes.Controller.FileReading
import TraitRoutes.Controller.Printer
import TraitRoutes.Controller.Synthesis
import TraitRoutes.Demo.App
import TraitRoutes.Demo.Categories
import TraitRoutes.Demo.Endpoints
import TraitRoutes.Demo.Sample
import TraitRoutes.Demo.Users
import TraitRoutes.Disk.Tree
import TraitRoutes.Disk.Walk
import TraitRoutes.Fault
import TraitRoutes.Generation
import TraitRoutes.Grammar.Attributes
import TraitRoutes.Grammar.Expressions
import TraitRoutes.Grammar.Items
import TraitRoutes.Grammar.Parser
import TraitRoutes.Grammar.Patterns
import TraitRoutes.Grammar.Productions
import TraitRoutes.Grammar.Reading
import TraitRoutes.Grammar.Types
import TraitRoutes.Http.Encoding
import TraitRoutes.Http.FormFiles
import TraitRoutes.Http.MediaType
import TraitRoutes.Http.Message
import TraitRoutes.Http.Multipart
import TraitRoutes.Http.QueryString
import TraitRoutes.Http.Template
import TraitRoutes.Http.Verb
import TraitRoutes.Http.VerbInference
import TraitRoutes.Json.Reader
import TraitRoutes.Json.Value
import TraitRoutes.Layout.Doc
import TraitRoutes.Layout.Expressions
import TraitRoutes.Layout.Items
import TraitRoutes.Layout.Laid
import TraitRoutes.Layout.Patterns
import TraitRoutes.Layout.Tokens
import TraitRoutes.Layout.Trees
import TraitRoutes.Naming
import TraitRoutes.Options
import TraitRoutes.Output
import TraitRoutes.Service.Basic
import TraitRoutes.Service.Resolution
import TraitRoutes.Service.Routes
import TraitRoutes.Source.Collection
import TraitRoutes.Source.Corpus
import TraitRoutes.Source.Declaration
import TraitRoutes.Source.Namespace
import TraitRoutes.Source.Scan
import TraitRoutes.Syntax.Printer
import TraitRoutes.Syntax.Tree
import TraitRoutes.Text.Integer
import TraitRoutes.Text.PathName
import TraitRoutes.Text.Quoted
import TraitRoutes.Text.Similarity
import TraitRoutes.Text.StringValue
import TraitRoutes.Text.Words
import TraitRoutes.Token.Basic
import TraitRoutes.Token.Lexer
import TraitRoutes.Token.Printer
import TraitRoutes.Token.Scan
import TraitRoutes.Unicode.Blank
import TraitRoutes.Unicode.Cluster
import TraitRoutes.Unicode.IdentChar
import TraitRoutes.Unicode.LetterCase
import TraitRoutes.Unicode.Printable
import TraitRoutes.Unicode.Ranges
import TraitRoutes.Proofs.Batch
import TraitRoutes.Proofs.Capabilities
import TraitRoutes.Proofs.SupertraitPaths
import TraitRoutes.Proofs.DistinctKeys
import TraitRoutes.Proofs.FileDelivery
import TraitRoutes.Proofs.RenderedServices
import TraitRoutes.Proofs.GeneratedNames
import TraitRoutes.Proofs.Interruption
import TraitRoutes.Proofs.LaidText
import TraitRoutes.Proofs.DocumentText
import TraitRoutes.Proofs.TypeText
import TraitRoutes.Proofs.QuotedValues
import TraitRoutes.Proofs.ControllerSyntax
import TraitRoutes.Proofs.ControllerText
import TraitRoutes.Proofs.Wiring
import TraitRoutes.Proofs.PlainNames
import TraitRoutes.Proofs.TypeNames
import TraitRoutes.Proofs.ResolvedServices
import TraitRoutes.Proofs.Agreement
import TraitRoutes.Proofs.Spans
import TraitRoutes.Proofs.RouteCaptures
import TraitRoutes.Proofs.KeyNames
import TraitRoutes.Proofs.HelperAttributes
import TraitRoutes.Proofs.ResolvedMethods
import TraitRoutes.Proofs.OwnedTypes
import TraitRoutes.Proofs.OptionalParameters
import TraitRoutes.Proofs.SourceOrder
import TraitRoutes.Proofs.RawSpelling
import TraitRoutes.Proofs.ExpansionChecks
import TraitRoutes.Proofs.AttributeErrors
import TraitRoutes.Proofs.DiagnosticLines
import TraitRoutes.Proofs.StoredRecords
import TraitRoutes.Proofs.CategoryTrees
import TraitRoutes.Proofs.RequestEffects
import TraitRoutes.Proofs.PathParts
import TraitRoutes.Proofs.FileTrees
import TraitRoutes.Proofs.CandidateFaults
import TraitRoutes.Proofs.BuildEffects
import TraitRoutes.Proofs.NamingStyles
import TraitRoutes.Proofs.RoutePlanning
import TraitRoutes.Proofs.EndpointRouting
import TraitRoutes.Proofs.RespelledDefaults
import TraitRoutes.Proofs.RespelledMethods
import TraitRoutes.Proofs.TypeSpelling
import TraitRoutes.Proofs.FileTaking
import TraitRoutes.Proofs.DefaultGrammar
import TraitRoutes.Proofs.QuotedText
import TraitRoutes.Proofs.LiteralText
import TraitRoutes.Proofs.LexedLiterals
import TraitRoutes.Proofs.LiteralExpressions
import TraitRoutes.Proofs.RenderedDefaults
import TraitRoutes.Proofs.AttributeForms
import TraitRoutes.Proofs.ByteOrder
import TraitRoutes.Proofs.WalkOrder
import TraitRoutes.Proofs.PathsBelow
import TraitRoutes.Proofs.DirectoryScans
import TraitRoutes.Proofs.ImportedNames
import TraitRoutes.Proofs.WrittenFiles
import TraitRoutes.Proofs.DeletionReports
import TraitRoutes.Proofs.OrphanedCategories
import TraitRoutes.Proofs.Namespaces
import TraitRoutes.Proofs.PrefixForm
import TraitRoutes.Proofs.ListedPages
import TraitRoutes.Proofs.TextPlaces
import TraitRoutes.Proofs.TokenPlaces
import TraitRoutes.Proofs.TraitHeadings
import TraitRoutes.Proofs.ItemHeadings
import TraitRoutes.Proofs.TraitPlaces
