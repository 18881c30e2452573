import CircuitLang.Log
import CircuitLang.Program

/-! What reading a program leaves in the log.

Each token is recorded when it is read, and their number once the text has come to
its end. Then come the number of statements, the root of each statement that is
looked at and has one, a warning if a tail is dropped, and the number of nodes
once the program is there. Under the policy `abort` the tail is looked at before
the statements, and no statement behind the first failing one. -/
namespace CircuitLang

open Log

/-- The records of reading a text. -/
def Lexer.Scan.records (s : Lexer.Scan) : List Record :=
  s.tokens.map (fun t => ⟨.trace, .lexer, "token " ++ t.render⟩) ++
    match s.error? with
    | none => [⟨.debug, .lexer, "lexed " ++ toString s.tokens.length ++ " tokens"⟩]
    | some _ => []

namespace Segments

/-- The record of cutting a token list. -/
def record (s : Segments) : Record :=
  ⟨.debug, .segmenter, "segmented " ++ toString s.statements.length ++ " statements"⟩

/-- The warning about a tail that is dropped. -/
def tailRecords (s : Segments) (mode : Mode) : List Record :=
  match mode, s.tail with
  | .lenient, first :: _ =>
    [⟨.warn, .segmenter, "dropping unterminated statement " ++ toString s.tailOrdinal ++
      " starting at " ++ first.span.render⟩]
  | _, _ => []

end Segments

namespace Statement

/-- The record of a statement's root, if it has one. -/
def rootRecords (s : Statement) : List Record :=
  match s.root with
  | .ok root =>
    [⟨.trace, .parser, "statement " ++ toString s.ordinal ++ " has root " ++ root.token.render⟩]
  | .error _ => []

end Statement

namespace Program

/-- The statements up to the first one without a node, that one included. -/
def throughFailure : List Statement → List Statement
  | [] => []
  | s :: rest => s :: if s.error?.isNone then throughFailure rest else []

/-- The record of a program that is there. -/
def record (p : Program) : Record :=
  ⟨.debug, .parser, "parsed " ++ toString p.size ++ " statements"⟩

/-- The records of everything that is looked at, in the order of the policy. -/
def examined (options : Options) (segments : Segments) : List Record :=
  match options.policy with
  | .abort =>
    segments.tailRecords options.mode ++
      match segments.tailError? options.mode with
      | some _ => []
      | none => (throughFailure segments.statements).flatMap Statement.rootRecords
  | .collect =>
    segments.statements.flatMap Statement.rootRecords ++ segments.tailRecords options.mode

/-- The records of reading a program from its tokens. -/
def records (options : Options) (tokens : List Token) : List Record :=
  let segments := Segments.split tokens
  segments.record :: examined options segments ++
    match parse options tokens with
    | .ok program => [program.record]
    | .error _ => []

end Program

end CircuitLang
