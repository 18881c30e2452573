import CircuitLang.Program

/-! Reading in either arithmetic.

The arity of an operation is a sum, and in checked arithmetic the program stops where
that does not fit into a word. Reading then comes to nothing (`none`), whatever else
the text holds. The sum is taken once a keyword is the only root of its statement and
stands first, and the statements are looked at in the order of the policy: all of
them under `collect`, and none behind the first failing one under `abort`. -/
namespace CircuitLang

variable (arithmetic : Arithmetic)

namespace Statement

/-- The operation behind a keyword. A stray token in front of it is reported before its
arguments are counted. -/
def operationIn (s : Statement) (root : Root) (op : Operation) :
    Option (Except SyntaxError Node) :=
  if 0 < root.index then some (.error (.strayToken s.ordinal 1))
  else (op.arityIn arithmetic).map fun arity => s.operationTaking arity root op

def buildIn (s : Statement) (root : Root) : Option (Except SyntaxError Node) :=
  match root.production with
  | .definition => some (s.definition root)
  | .operation op => s.operationIn arithmetic root op

def nodeIn (s : Statement) : Option (Except SyntaxError Node) :=
  match s.root with
  | .error e => some (.error e)
  | .ok root => s.buildIn arithmetic root

/-- The nodes of statements up to the first one that has none. -/
def nodesIn : List Statement → Option (Except SyntaxError (List Node))
  | [] => some (.ok [])
  | s :: rest =>
    (s.nodeIn arithmetic).bind fun
      | .error e => some (.error e)
      | .ok n => (nodesIn rest).map (Except.map (n :: ·))

end Statement

namespace Program

def parseFirstIn (mode : Mode) (tokens : List Token) : Option (Except SyntaxError Program) :=
  match segment mode tokens with
  | .error e => some (.error e)
  | .ok statements => (Statement.nodesIn arithmetic statements).map (Except.map Program.mk)

def parseAllIn (mode : Mode) (tokens : List Token) : Option (Except Failure Program) :=
  let segments := Segments.split tokens
  (segments.statements.mapM (Statement.nodeIn arithmetic)).map fun results =>
    ofNodes (results.filterMap Except.toOption)
      (results.filterMap (fun | .ok _ => none | .error e => some e) ++
        (segments.tailError? mode).toList)

def parseIn (options : Options) (tokens : List Token) : Option (Except Failure Program) :=
  match options.policy with
  | .abort => (parseFirstIn arithmetic options.mode tokens).map (Except.mapError .grammatical)
  | .collect => parseAllIn arithmetic options.mode tokens

end Program

/-- Reads the program of a text with the keywords of a table. -/
def readIn (table : OperationTable) (options : Options) (source : String) :
    Option (Except Failure Program) :=
  match tokenize table source with
  | .error e => some (.error (.lexical e))
  | .ok tokens => Program.parseIn arithmetic options tokens

end CircuitLang
