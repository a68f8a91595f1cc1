import RouteBook.Config.Load
import RouteBook.Documenter
import RouteBook.Proofs.Catalog.QualifiedName
import RouteBook.Proofs.Selection
import RouteBook.Proofs.Sequence
import RouteBook.Proofs.Sampling.Completion
import RouteBook.Proofs.Separation
import RouteBook.Proofs.Declarations
import RouteBook.Proofs.Contribution
import RouteBook.Proofs.Rule.Writing
import RouteBook.Proofs.Validation.Bars
import RouteBook.Proofs.Sampling.MediaTypes
import RouteBook.Proofs.Rule.Listing
import RouteBook.Proofs.Rule.Readings
import RouteBook.Proofs.Catalog.Qualifying
import RouteBook.Proofs.Catalog.Standing
import RouteBook.Proofs.Catalog.Stability
import RouteBook.Proofs.Files.Scanning
import RouteBook.Proofs.Sampling.Headers
import RouteBook.Proofs.Doc.Wording
import RouteBook.Proofs.Doc.NormalForm
import RouteBook.Proofs.Json.Documents
import RouteBook.Proofs.Json.Readable
import RouteBook.Proofs.Catalog.DeclaredTypes
import RouteBook.Proofs.Catalog.Mentions
import RouteBook.Proofs.Catalog.Requests
import RouteBook.Proofs.Catalog.Concealment
import RouteBook.Proofs.Catalog.Moving
import RouteBook.Proofs.Catalog.Broken
import RouteBook.Proofs.Yaml.Running
import RouteBook.Proofs.Yaml.Handing
import RouteBook.Proofs.Yaml.Keys
import RouteBook.Proofs.Yaml.Gaps
import RouteBook.Proofs.Yaml.Quotes
import RouteBook.Proofs.Yaml.PlainText
import RouteBook.Proofs.Yaml.Blocks
import RouteBook.Proofs.Yaml.Scalars
import RouteBook.Proofs.Yaml.Trees
import RouteBook.Proofs.Yaml.Layout
import RouteBook.Proofs.Yaml.Telling
import RouteBook.Proofs.Yaml.Loading
import RouteBook.Proofs.Yaml.Documents
import RouteBook.Proofs.Calendar.Spellings
import RouteBook.Proofs.Calendar.DatedRules
import RouteBook.Proofs.Offsets
import RouteBook.Proofs.Text.Nouns
