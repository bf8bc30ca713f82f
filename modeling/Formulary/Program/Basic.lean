import Formulary.Function.Registry

/-!
# Bound programs

A program is a formula in which every function name has been replaced by what the
registry held under it.  Binding finds every mistake that shows in the text: a name
that means nothing, a wrong number of arguments, and a literal of the wrong kind.
-/

namespace Formulary

/-! ## Errors of binding -/

/-- Why a formula cannot be bound to a registry. -/
inductive BindError where
  /-- No function has the name. -/
  | unknownFunction (name : String)
  /-- The number of arguments is wrong. -/
  | arity (function expected : String) (actual : Nat)
  /-- A literal argument is of a wrong kind.  Positions count from one. -/
  | argumentType (function : String) (position : Nat) (expected : ParamKind) (actual : String)
  deriving DecidableEq

/-- The message of an error. -/
def BindError.message : BindError → String
  | .unknownFunction name => s!"Unknown function: {name}"
  | .arity function expected actual => s!"{function} expects {expected} argument(s), got {actual}"
  | .argumentType function position expected actual =>
    s!"{function} argument {position} must be " ++ expected.describe ++ s!", got {actual} literal"

/-! ## Bound trees -/

/-- A formula whose function names are resolved. -/
inductive Node where
  /-- A constant. -/
  | literal (value : Value)
  /-- A value of the context. -/
  | identifier (path : Path)
  /-- The opposite of an operand. -/
  | neg (operand : Node)
  /-- An operator between two operands. -/
  | binary (op : BinaryOp) (left right : Node)
  /-- A function and its arguments. -/
  | call (name : String) (function : Native) (args : List Node)
  /-- A choice between two operands. -/
  | conditional (condition thenNode elseNode : Node)

namespace Node

/-- The first literal argument that is not of the kind its position asks for, as an
error.  Positions are counted from the given one. -/
def checkLiterals (entry : FunctionEntry) : Nat → List Expr → Except BindError Unit
  | _, [] => .ok ()
  | position, .literal value :: rest =>
    let kind := entry.paramKind position
    if kind.accepts (.ofLiteral value) then
      checkLiterals entry (position + 1) rest
    else
      .error (.argumentType entry.name (position + 1) kind value.kind)
  | position, _ :: rest => checkLiterals entry (position + 1) rest

/-- A call of a function with bound arguments.  A conditional function takes the last
three, and there have to be as many. -/
def ofCall (entry : FunctionEntry) (args : List Node) : Except BindError Node :=
  match entry.implementation with
  | .native function => .ok (.call entry.name function args)
  | .conditional =>
    match args.reverse with
    | elseNode :: thenNode :: condition :: _ => .ok (.conditional condition thenNode elseNode)
    | _ => .error (.arity entry.name "3" args.length)

mutual

/-- The bound form of a formula. -/
def bind (registry : Registry) : Expr → Except BindError Node
  | .literal value => .ok (.literal (.ofLiteral value))
  | .identifier path => .ok (.identifier path)
  | .neg operand =>
    match bind registry operand with
    | .error e => .error e
    | .ok operand => .ok (.neg operand)
  | .binary op left right =>
    match bind registry left with
    | .error e => .error e
    | .ok left =>
      match bind registry right with
      | .error e => .error e
      | .ok right => .ok (.binary op left right)
  | .call name args =>
    match registry.lookup? name with
    | none => .error (.unknownFunction (Text.upper name))
    | some entry =>
      if entry.arity.accepts args.length then
        match checkLiterals entry 0 args with
        | .error e => .error e
        | .ok () =>
          match bindAll registry args with
          | .error e => .error e
          | .ok nodes => ofCall entry nodes
      else
        .error (.arity entry.name entry.arity.text args.length)

/-- The bound forms of some formulas; the first error counts. -/
def bindAll (registry : Registry) : List Expr → Except BindError (List Node)
  | [] => .ok []
  | expr :: rest =>
    match bind registry expr with
    | .error e => .error e
    | .ok node =>
      match bindAll registry rest with
      | .error e => .error e
      | .ok nodes => .ok (node :: nodes)

end

end Node

/-! ## Programs -/

/-- A bound formula with what it was bound from. -/
structure Program where
  /-- The text of the formula. -/
  source : String
  /-- The bound tree. -/
  root : Node
  /-- The epoch of the registry. -/
  epoch : Nat
  /-- The names of the functions it calls, in upper case. -/
  functions : List String

/-- The program of a formula under a registry. -/
def Program.compile (source : String) (expr : Expr) (registry : Registry) :
    Except BindError Program :=
  match Node.bind registry expr with
  | .error e => .error e
  | .ok root => .ok ⟨source, root, registry.epoch, expr.functionNames⟩

end Formulary
