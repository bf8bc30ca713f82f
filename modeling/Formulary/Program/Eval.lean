import Formulary.Program.Basic
import Formulary.Program.Operators

/-!
# Running programs

A program is run in a context, which gives values to names.  Operands and arguments
are evaluated from the left, and the first error is the result.  A logical operator
whose left operand settles it does not evaluate the right one, and a conditional
evaluates one of its branches.
-/

namespace Formulary

/-- The values that a formula may speak of. -/
abbrev Context := Fields Value

namespace Node

/-- The value that a path leads to in a context. -/
def resolve (context : Context) (path : Path) : Option Value :=
  match path.segments with
  | [] => none
  | root :: rest => (context.get? root).bind (Value.getPath? rest)

mutual

/-- The value of a bound formula in a context. -/
def eval (context : Context) : Node → Except RuntimeError Value
  | .literal value => .ok value
  | .identifier path =>
    match resolve context path with
    | some value => .ok value
    | none => .error (.missingIdentifier path)
  | .neg operand =>
    match eval context operand with
    | .error e => .error e
    | .ok value => value.opposite
  | .binary op left right =>
    match eval context left with
    | .error e => .error e
    | .ok leftValue =>
      if op.isLogical then
        match leftValue.expectBool op.symbol with
        | .error e => .error e
        | .ok decided =>
          if op.settledBy decided then
            .ok (.bool decided)
          else
            match eval context right with
            | .error e => .error e
            | .ok rightValue => (rightValue.expectBool op.symbol).map .bool
      else
        match eval context right with
        | .error e => .error e
        | .ok rightValue => op.apply leftValue rightValue
  | .call name function args =>
    match evalAll context args with
    | .error e => .error e
    | .ok values =>
      match function values with
      | .ok value => .ok value
      | .error source => .error (.function name source)
  | .conditional condition thenNode elseNode =>
    match eval context condition with
    | .error e => .error e
    | .ok value =>
      match value.expectBool "IF" with
      | .error e => .error e
      | .ok true => eval context thenNode
      | .ok false => eval context elseNode

/-- The values of some bound formulas; the first error counts. -/
def evalAll (context : Context) : List Node → Except RuntimeError (List Value)
  | [] => .ok []
  | node :: rest =>
    match eval context node with
    | .error e => .error e
    | .ok value =>
      match evalAll context rest with
      | .error e => .error e
      | .ok values => .ok (value :: values)

end

end Node

/-- The value of a program in a context. -/
def Program.run (program : Program) (context : Context) : Except RuntimeError Value :=
  program.root.eval context

end Formulary
