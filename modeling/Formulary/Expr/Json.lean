import Formulary.Digest.Sha256
import Formulary.Expr.Basic
import Formulary.Json.Writer
import Formulary.Json.Reader

/-!
# The data-exchange form of formulas

A tree is an object whose field `type` names its kind; the other fields follow in a
fixed order.  A literal is a variant named for its kind.  Reading is more liberal
than writing: fields stand in any order, unknown ones are passed over, and every
record may be a list of its values.  The digest of the written form is the
fingerprint of a formula.
-/

namespace Formulary

/-! ## Writing -/

/-- The data-exchange form of a literal. -/
def Literal.toJson : Literal → Json
  | .null => .string "Null"
  | .bool b => .object [("Bool", .bool b)]
  | .int n => .object [("Int", .integer n.toInt)]
  | .float x => .object [("Float", .float x)]
  | .string s => .object [("String", .string s)]

/-- The data-exchange form of a path. -/
def Path.toJson (path : Path) : Json :=
  .object [("segments", .array (path.segments.map .string))]

namespace Expr

mutual

/-- The data-exchange form of a formula. -/
def toJson : Expr → Json
  | .literal value => .object [("type", .string "Literal"), ("value", value.toJson)]
  | .identifier path => .object [("type", .string "Identifier"), ("path", path.toJson)]
  | .neg operand =>
    .object [("type", .string "Unary"), ("op", .string "Neg"), ("operand", toJson operand)]
  | .binary op left right =>
    .object [("type", .string "Binary"), ("op", .string op.name), ("left", toJson left),
      ("right", toJson right)]
  | .call name args =>
    .object [("type", .string "Call"), ("name", .string name), ("args", .array (toJsons args))]

/-- The data-exchange forms of some formulas. -/
def toJsons : List Expr → List Json
  | [] => []
  | expr :: rest => toJson expr :: toJsons rest

end

/-- The canonical text of a formula. -/
def canonicalText (expr : Expr) : String :=
  expr.toJson.compact

/-- The digest of the canonical text. -/
def fingerprint (expr : Expr) : String :=
  Sha256.hexDigest expr.canonicalText

end Expr

/-! ## Reading -/

/-- The literal of a variant. -/
def Literal.ofJson? (json : Json) : Option Literal :=
  match json.variant? with
  | some ("Null", content) => if Json.isVoid content then some .null else none
  | some ("Bool", some (.bool b)) => some (.bool b)
  | some ("Int", some (.integer n)) => (Integer.ofInt? n).map .int
  | some ("Float", some (.float x)) => some (.float x)
  | some ("Float", some (.integer n)) => some (.float (Binary64.ofInt n))
  | some ("String", some (.string s)) => some (.string s)
  | _ => none

/-- A text of data exchange. -/
def Json.string? : Json → Option String
  | .string s => some s
  | _ => none

/-- The path of a record. -/
def Path.ofJson? (json : Json) : Option Path :=
  match json.record? ["segments"] with
  | some [.array segments] => (segments.mapM Json.string?).map Path.mk
  | _ => none

/-- The operator of a variant without content. -/
def BinaryOp.ofJson? (json : Json) : Option BinaryOp :=
  match json.variant? with
  | some (name, content) => if Json.isVoid content then ofName? name else none
  | none => none

namespace Expr

/-- The kinds of trees that data exchange tells apart, in the order of their numbers. -/
inductive Kind where
  | literal | identifier | unary | binary | call
  deriving DecidableEq

/-- The kinds in the order of their numbers, with their names. -/
def kinds : List (String × Kind) :=
  [("Literal", .literal), ("Identifier", .identifier), ("Unary", .unary), ("Binary", .binary),
    ("Call", .call)]

/-- The kind that a `type` names.  Below the top its number will do. -/
def kind? (top : Bool) : Json → Option Kind
  | .string name => kinds.lookup name
  | .integer n => if top ∨ n < 0 then none else (kinds[n.toNat]?).map Prod.snd
  | _ => none

/-- The kind of a tree and the record of its fields. -/
def tagged? (top : Bool) : Json → Option (Kind × Json)
  | .object fields => (Json.unique? "type" fields).bind fun tag =>
    (kind? top tag).map fun kind => (kind, .object fields)
  | .array (tag :: items) => (kind? top tag).map fun kind => (kind, .array items)
  | _ => none

/-- The formula of a value that is at most as deep as the first number says. -/
def read? : Nat → Bool → Json → Option Expr
  | 0, _, _ => none
  | depth + 1, top, json =>
    match tagged? top json with
    | some (.literal, fields) =>
      match fields.record? ["value"] with
      | some [value] => (Literal.ofJson? value).map .literal
      | _ => none
    | some (.identifier, fields) =>
      match fields.record? ["path"] with
      | some [path] => (Path.ofJson? path).map .identifier
      | _ => none
    | some (.unary, fields) =>
      match fields.record? ["op", "operand"] with
      | some [op, operand] =>
        match op.variant? with
        | some ("Neg", content) =>
          if Json.isVoid content then (read? depth false operand).map .neg else none
        | _ => none
      | _ => none
    | some (.binary, fields) =>
      match fields.record? ["op", "left", "right"] with
      | some [op, left, right] => do
        let op ← BinaryOp.ofJson? op
        let left ← read? depth false left
        let right ← read? depth false right
        return .binary op left right
      | _ => none
    | some (.call, fields) =>
      match fields.record? ["name", "args"] with
      | some [.string name, .array args] =>
        (args.mapM fun arg => read? depth false arg).map (.call name)
      | _ => none
    | none => none

/-- The formula of a data-exchange value. -/
def ofJson? (json : Json) : Option Expr :=
  read? json.depth true json

/-- The formula of a data-exchange text. -/
def ofJsonText? (text : String) : Option Expr :=
  (Json.parse? text).bind ofJson?

end Expr

end Formulary
