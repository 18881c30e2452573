import CircuitLang.Node
import CircuitLang.Token.Lexer

/-! Programs: the nodes of all statements, in order.

Under the policy `abort` a token list is first cut into statements, which fails on
a tail in strict mode, and then the first statement without a node fails. Under
`collect` the errors of all statements come in order, and the error of the tail is
the last. -/
namespace CircuitLang

structure Program where
  nodes : List Node
  deriving DecidableEq, Repr

namespace Program

def size (p : Program) : Nat :=
  p.nodes.length

def isEmpty (p : Program) : Bool :=
  p.nodes.isEmpty

/-- A program as it is listed, a node on each line. -/
def render (p : Program) : String :=
  String.join (p.nodes.map fun node => node.render ++ "\n")

/-- Reads a program up to its first error. -/
def parseFirst (mode : Mode) (tokens : List Token) : Except SyntaxError Program := do
  let statements ← segment mode tokens
  let nodes ← statements.mapM Statement.node
  return ⟨nodes⟩

/-- All errors of a token list: those of its statements in order, then that of its
tail. -/
def errors (mode : Mode) (tokens : List Token) : List SyntaxError :=
  let segments := Segments.split tokens
  segments.statements.filterMap Statement.error? ++ (segments.tailError? mode).toList

/-- The program of some nodes, unless there are errors to report. -/
def ofNodes (nodes : List Node) : List SyntaxError → Except Failure Program
  | [] => .ok ⟨nodes⟩
  | [e] => .error (.grammatical e)
  | es => .error (.several es)

/-- Reads a program and reports all its errors. -/
def parseAll (mode : Mode) (tokens : List Token) : Except Failure Program :=
  ofNodes ((Segments.split tokens).statements.filterMap fun s => s.node.toOption)
    (errors mode tokens)

/-- Reads the program that a token list spells. -/
def parse (options : Options) (tokens : List Token) : Except Failure Program :=
  match options.policy with
  | .abort => (parseFirst options.mode tokens).mapError .grammatical
  | .collect => parseAll options.mode tokens

end Program

/-- Reads the program of a text with the keywords of a table. -/
def readUnder (table : OperationTable) (options : Options) (source : String) :
    Except Failure Program := do
  let tokens ← (tokenize table source).mapError .lexical
  Program.parse options tokens

/-- Reads the program of a circuit description. -/
def compile (options : Options) (source : String) : Except Failure Program :=
  readUnder .standard options source

section
variable {table : OperationTable} {options : Options} {source : String}

/-- Behind its tokens a text is read as they are. -/
theorem readUnder_of_tokenize {tokens : List Token} (h : tokenize table source = .ok tokens) :
    readUnder table options source = Program.parse options tokens := by
  rw [readUnder, h]
  rfl

theorem readUnder_of_tokenize_error {e : LexError} (h : tokenize table source = .error e) :
    readUnder table options source = .error (.lexical e) := by
  rw [readUnder, h]
  rfl

theorem compile_of_tokenize {tokens : List Token} (h : tokenize .standard source = .ok tokens) :
    compile options source = Program.parse options tokens :=
  readUnder_of_tokenize h

theorem compile_of_tokenize_error {e : LexError} (h : tokenize .standard source = .error e) :
    compile options source = .error (.lexical e) :=
  readUnder_of_tokenize_error h

theorem compile_eq_ok_iff {p : Program} :
    compile options source = .ok p ↔
      ∃ tokens, tokenize .standard source = .ok tokens ∧ Program.parse options tokens = .ok p := by
  cases h : tokenize .standard source with
  | error e => simp [compile_of_tokenize_error h]
  | ok tokens => simp [compile_of_tokenize h]

end

end CircuitLang
