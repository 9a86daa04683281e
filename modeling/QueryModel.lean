import QueryModel.Main
import QueryModel.Proofs.Flatten.Naming
import QueryModel.Proofs.Flatten.Lossless
import QueryModel.Proofs.Schema.Lookup
import QueryModel.Proofs.Selection.Typing
import QueryModel.Proofs.Document.Forms
import QueryModel.Proofs.Document.Lexing
import QueryModel.Proofs.Document.Scanning
import QueryModel.Proofs.Document.Cutting
import QueryModel.Proofs.Schema.Growth
import QueryModel.Proofs.Document.Stability
import QueryModel.Proofs.Catalog.Routing
import QueryModel.Proofs.Document.Entry
import QueryModel.Proofs.Document.Mixing
import QueryModel.Proofs.Document.Safety
import QueryModel.Proofs.Document.Order
import QueryModel.Proofs.Document.Fallback
import QueryModel.Proofs.Document.Coverage
import QueryModel.Proofs.Catalog.References
import QueryModel.Proofs.Flatten.Fields
import QueryModel.Proofs.Flatten.Hoisting
import QueryModel.Proofs.Document.Counting
import QueryModel.Proofs.Document.Numbering
import QueryModel.Proofs.TypeRef.Spelling
import QueryModel.Proofs.Flatten.Counting
import QueryModel.Proofs.Flatten.Again
import QueryModel.Proofs.Syntax.Names
import QueryModel.Proofs.Flatten.Usable
import QueryModel.Proofs.Selection.Defects
import QueryModel.Proofs.Document.Spelling
import QueryModel.Proofs.Selection.Conditions
import QueryModel.Proofs.Document.Chunks
import QueryModel.Proofs.Document.Offsets
import QueryModel.Proofs.Document.LiteralEnds
import QueryModel.Proofs.Catalog.Dangling
import QueryModel.Proofs.DirectiveUses.Meaning
import QueryModel.Proofs.DirectiveUses.NormalForm
import QueryModel.Proofs.TypeRef.Textual
import QueryModel.Proofs.Command.Words
import QueryModel.Proofs.Document.Joining
import QueryModel.Proofs.Record.Basic
import QueryModel.Proofs.Record.Projections
import QueryModel.Proofs.Record.Flags
