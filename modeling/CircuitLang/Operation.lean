import CircuitLang.Text.Quoted

/-! The operations of the language, and the table that gives each keyword its
operation.

An operation takes operands first and boolean flags after them. Its arity is
their sum in 64-bit words. Where that does not fit into a word, it is the sum modulo
`2 ^ 64` or there is none, depending on the arithmetic. The table is looked up by the
exact spelling of a keyword; a key need not be the name of the operation it stands
for. -/
namespace CircuitLang

/-- What becomes of a sum that does not fit into a word. -/
inductive Arithmetic where
  /-- Its carry is lost, as in a release build. -/
  | wrapping
  /-- The program stops, as in a build with overflow checks. -/
  | checked
  deriving DecidableEq, Repr

/-- What a keyword stands for: how many operands and flags it takes, and whether
it may govern a statement. -/
structure Operation where
  name : String
  positional : UInt64
  flags : UInt64
  governs : Bool
  deriving DecidableEq, Repr

namespace Operation

/-- A gate with one operand and one flag, which never governs a statement. -/
def gate (name : String) : Operation :=
  ⟨name, 1, 1, false⟩

/-- How many arguments the operation takes, in a word. -/
def arity (op : Operation) : UInt64 :=
  op.positional + op.flags

/-- The arity in an arithmetic, or nothing where the program stops at the sum. -/
def arityIn (op : Operation) : Arithmetic → Option UInt64
  | .wrapping => some op.arity
  | .checked =>
    if UInt64.size ≤ op.positional.toNat + op.flags.toNat then none else some op.arity

/-- The order of a listing: by name, then operands, flags, and governing last. -/
def before (a b : Operation) : Bool :=
  if a.name ≠ b.name then a.name < b.name
  else if a.positional ≠ b.positional then a.positional < b.positional
  else if a.flags ≠ b.flags then a.flags < b.flags
  else !a.governs || b.governs

end Operation

/-- The keywords of a language with their operations, each keyword once. -/
structure OperationTable where
  entries : List (String × Operation)
  distinct : (entries.map Prod.fst).Nodup

namespace OperationTable

/-- The table of some entries, if no key stands twice among them. -/
def ofEntries? (entries : List (String × Operation)) : Option OperationTable :=
  if h : (entries.map Prod.fst).Nodup then some ⟨entries, h⟩ else none

/-- The operations of the circuit language. Only `OUT` governs a statement. -/
def standardOperations : List Operation :=
  [⟨"OUT", 1, 0, true⟩, ⟨"NOT", 1, 0, false⟩, .gate "AND", .gate "NAND", .gate "OR", .gate "NOR",
    .gate "XOR", .gate "XNOR"]

/-- The keywords of the circuit language, each the name of its operation. -/
def standard : OperationTable where
  entries := standardOperations.map fun op => (op.name, op)
  distinct := by decide

/-- The operation of a keyword, by its exact spelling. -/
def get? (table : OperationTable) (key : String) : Option Operation :=
  table.entries.lookup key

def size (table : OperationTable) : Nat :=
  table.entries.length

def isEmpty (table : OperationTable) : Bool :=
  table.entries.isEmpty

/-- All operations of the table in the order of a listing. -/
def operations (table : OperationTable) : List Operation :=
  (table.entries.map Prod.snd).mergeSort Operation.before

/-- The set of keywords as text, each between quotes. -/
def renderKeys (table : OperationTable) : String :=
  "\x7b" ++ ", ".intercalate (table.entries.map fun entry => Text.Quoted.encode entry.1) ++ "\x7d"

end OperationTable

end CircuitLang
