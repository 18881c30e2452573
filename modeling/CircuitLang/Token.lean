import CircuitLang.Operation
import CircuitLang.Span

/-! Tokens: a kind with what it carries, the span it stands at, and the spelling
it was read from.

A statement is governed by a token with a production (`Token.production?`): the
definition marker, or a keyword whose operation governs. -/
namespace CircuitLang

/-- What a token is. -/
inductive Kind where
  /-- The mark `:` between a name and its value. -/
  | definition
  /-- The mark `;` behind a statement. -/
  | terminator
  /-- A boolean literal, `0` or `1`. -/
  | literal (value : Bool)
  /-- A name that is no keyword. -/
  | identifier (name : String)
  /-- A name the table has an operation for. -/
  | keyword (op : Operation)
  deriving DecidableEq, Repr

namespace Kind

/-- A kind as it is listed. -/
def render : Kind → String
  | definition => "VarDefMarker"
  | terminator => "EndOfStatement"
  | literal value => "Boolean(" ++ (if value then "true" else "false") ++ ")"
  | identifier name => "Identifier(" ++ name ++ ")"
  | keyword op => "Keyword(" ++ op.name ++ ")"

/-- The kind of a name, which the table alone decides. -/
def ofName (table : OperationTable) (name : String) : Kind :=
  match table.get? name with
  | some op => keyword op
  | none => identifier name

end Kind

/-- The two forms a statement can have. -/
inductive Production where
  /-- A name, the definition marker, and a value. -/
  | definition
  /-- A keyword and its arguments. -/
  | operation (op : Operation)
  deriving DecidableEq, Repr

structure Token where
  kind : Kind
  span : Span
  lexeme : String
  deriving DecidableEq, Repr

namespace Token

def isTerminator (t : Token) : Bool :=
  t.kind == .terminator

def isIdentifier (t : Token) : Bool :=
  match t.kind with
  | .identifier _ => true
  | _ => false

def isLiteral (t : Token) : Bool :=
  match t.kind with
  | .literal _ => true
  | _ => false

/-- Operands are names and literals. -/
def isOperand (t : Token) : Bool :=
  t.isIdentifier || t.isLiteral

/-- The form of a statement this token governs, if it governs one. -/
def production? (t : Token) : Option Production :=
  match t.kind with
  | .definition => some .definition
  | .keyword op => if op.governs then some (.operation op) else none
  | _ => none

/-- A token as it is listed: kind, lexeme, and where it begins. -/
def render (t : Token) : String :=
  "<" ++ t.kind.render ++ ": " ++ t.lexeme ++ " @ " ++ t.span.render ++ ">"

end Token

end CircuitLang
