import QueryTyping.Document.Catalog
import QueryTyping.Document.Expr
import QueryTyping.Document.Options
import QueryTyping.Function.Builtin
import QueryTyping.Function.Outline
import QueryTyping.Inference
import QueryTyping.Json.Writer
import QueryTyping.Proofs.AllOrNothing
import QueryTyping.Proofs.Conservativity
import QueryTyping.Proofs.Contexts
import QueryTyping.Proofs.FailFast
import QueryTyping.Proofs.Log
import QueryTyping.Proofs.Narrowing
import QueryTyping.Proofs.Positions
import QueryTyping.Proofs.Typing
import QueryTyping.Proofs.UpperCase
import QueryTyping.Proofs.AddedColumn
import QueryTyping.Proofs.Placement
import QueryTyping.Proofs.Acceptance
import QueryTyping.Proofs.Reading
import QueryTyping.Proofs.RoundTrip
import QueryTyping.Proofs.Precedence
import QueryTyping.Proofs.Chains
import QueryTyping.Proofs.UndottedColumns
import QueryTyping.Proofs.DottedPaths
import QueryTyping.Proofs.Qualification
import QueryTyping.Proofs.ColumnOrder
import QueryTyping.Proofs.Selection
import QueryTyping.Proofs.DeclaredArguments
import QueryTyping.Proofs.ArithmeticTrees
import QueryTyping.Proofs.RegisteredNames
import QueryTyping.Proofs.TypeDocuments
import QueryTyping.Proofs.Outlines
import QueryTyping.Proofs.TypeTexts
import QueryTyping.Proofs.Signatures
import QueryTyping.Proofs.NameMatching
