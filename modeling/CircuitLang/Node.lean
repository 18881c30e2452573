import CircuitLang.Statement.Root

/-! Nodes: statements that have been understood.

A node is a definition of a name or an operation on arguments. It is built around
the root of a statement, and building it is where the form of the statement is
checked: nothing but the name stands before a definition marker, nothing at all
before a keyword, and an operation has as many arguments as its arity says, names
and literals first and literals after them. -/
namespace CircuitLang

/-- A statement that has one of the two forms. -/
inductive Node where
  /-- `name : value` -/
  | definition (name marker : Token) (value : List Token)
  /-- A keyword and its arguments. -/
  | operation (op : Operation) (keyword : Token) (arguments : List Token)
  deriving DecidableEq, Repr

namespace Node

def production : Node → Production
  | definition .. => .definition
  | operation op .. => .operation op

/-- The token that governs the statement. -/
def root : Node → Token
  | definition _ marker _ => marker
  | operation _ keyword _ => keyword

/-- The name a definition is for, or the first name among an operation's operands. -/
def target? : Node → Option Token
  | definition name .. => some name
  | operation op _ arguments => (arguments.take op.positional.toNat).find? Token.isIdentifier

/-- The arguments of an operation; the only argument of a definition is its name. -/
def arguments : Node → List Token
  | definition name .. => [name]
  | operation _ _ arguments => arguments

/-- The tokens behind a definition marker. -/
def value : Node → List Token
  | definition _ _ value => value
  | operation .. => []

def render : Node → String
  | definition name _ value => "Def(" ++ " ".intercalate ((name :: value).map Token.lexeme) ++ ")"
  | operation op _ arguments => op.name ++ "(" ++ ", ".intercalate (arguments.map Token.lexeme) ++ ")"

end Node

/-! ### Building a node around a root -/

namespace Operation

/-- Whether a token may be the argument with `i` others before it: operands come
first, flags after them. -/
def accepts (op : Operation) (i : Nat) (t : Token) : Bool :=
  if i < op.positional.toNat then t.isOperand else t.isLiteral

/-- What is asked of the argument with `i` others before it. -/
def expected (op : Operation) (i : Nat) : String :=
  if i < op.positional.toNat then "an identifier or literal" else "a boolean flag"

/-- The place of the first argument that is not accepted. -/
def refused? (op : Operation) (arguments : List Token) : Option Nat :=
  arguments.zipIdx.findIdx? fun (t, i) => !op.accepts i t

end Operation

namespace Statement

def definition (s : Statement) (root : Root) : Except SyntaxError Node :=
  match (s.tokens.take root.index).getLast? with
  | none => .error (.unnamedDefinition s.ordinal (root.index + 1))
  | some name =>
    if !name.isIdentifier then .error (.unnamedDefinition s.ordinal (root.index + 1))
    else if 1 < root.index then .error (.strayToken s.ordinal 1)
    else .ok (.definition name root.token (s.tokens.drop (root.index + 1)))

/-- The operation behind a keyword that takes `arity` arguments. -/
def operationTaking (s : Statement) (arity : UInt64) (root : Root) (op : Operation) :
    Except SyntaxError Node :=
  let arguments := s.tokens.drop (root.index + 1)
  if 0 < root.index then .error (.strayToken s.ordinal 1)
  else if arguments.length ≠ arity.toNat then
    .error (.arityMismatch s.ordinal (root.index + 1) op.name arity.toNat arguments.length)
  else
    match op.refused? arguments with
    | some i => .error (.unfitArgument s.ordinal (root.index + i + 2) op.name (op.expected i))
    | none => .ok (.operation op root.token arguments)

def operation (s : Statement) (root : Root) (op : Operation) : Except SyntaxError Node :=
  s.operationTaking op.arity root op

/-- The node around a root, in the form the root asks for. -/
def build (s : Statement) (root : Root) : Except SyntaxError Node :=
  match root.production with
  | .definition => s.definition root
  | .operation op => s.operation root op

def node (s : Statement) : Except SyntaxError Node := do
  let root ← s.root
  s.build root

/-- The error of a statement, if it has no node. -/
def error? (s : Statement) : Option SyntaxError :=
  match s.node with
  | .ok _ => none
  | .error e => some e

end Statement

end CircuitLang
