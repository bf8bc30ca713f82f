import Formulary.Expr.Json
import Formulary.Main
import Formulary.Proofs.Engine.Memory
import Formulary.Proofs.Engine.Statistics
import Formulary.Proofs.Engine.Visibility
import Formulary.Proofs.Expr.Printing
import Formulary.Proofs.Program.Finite
import Formulary.Proofs.Sql.Acceptance
import Formulary.Proofs.Sql.Columns
import Formulary.Proofs.Sql.Comparison
import Formulary.Proofs.Sql.Operands
import Formulary.Proofs.Sql.Outline
import Formulary.Proofs.Sql.Placeholders
import Formulary.Proofs.Sql.Rollup
import Formulary.Proofs.Sql.Sealed
import Formulary.Proofs.Expr.Exchange
import Formulary.Proofs.Value.Exchange
import Formulary.Proofs.Command.Columns
import Formulary.Proofs.Engine.Locality
import Formulary.Proofs.Program.Conditional
import Formulary.Proofs.Program.Mentions
import Formulary.Proofs.Program.IntegerTests
import Formulary.Proofs.Program.IntegerArithmetic
import Formulary.Proofs.Program.Misuse
import Formulary.Proofs.Function.DateAdd
import Formulary.Proofs.Function.DateOrder
import Formulary.Proofs.Function.RoundInteger
import Formulary.Proofs.Template.Substitution
import Formulary.Proofs.Engine.Spelling
