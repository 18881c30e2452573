import CircuitLang.Diagnostic
import CircuitLang.Options
import CircuitLang.Token

/-! Statements: runs of tokens, each closed by a terminator.

Empty runs are no statements and take no number. The tokens behind the last
terminator are kept apart as the tail; in strict mode a tail is an error, in
lenient mode it is dropped. -/
namespace CircuitLang

/-- A numbered run of tokens, without its terminator. Numbers count from one. -/
structure Statement where
  ordinal : Nat
  tokens : List Token
  deriving DecidableEq, Repr

/-- The runs that a terminator closes, in order, and the run behind the last of
them. Runs may be empty. -/
def runs : List Token → List (List Token) × List Token
  | [] => ([], [])
  | t :: rest =>
    let (closed, tail) := runs rest
    if t.isTerminator then ([] :: closed, tail)
    else
      match closed with
      | [] => ([], t :: tail)
      | run :: more => ((t :: run) :: more, tail)

theorem runs_cons_of_terminator {t : Token} (h : t.isTerminator = true) (rest : List Token) :
    runs (t :: rest) = ([] :: (runs rest).1, (runs rest).2) := by
  simp [runs, h]

theorem runs_cons_of_open {t : Token} {rest tail : List Token} (h : t.isTerminator = false)
    (hrest : runs rest = ([], tail)) : runs (t :: rest) = ([], t :: tail) := by
  simp [runs, h, hrest]

theorem runs_cons_of_closed {t : Token} {rest run tail : List Token} {more : List (List Token)}
    (h : t.isTerminator = false) (hrest : runs rest = (run :: more, tail)) :
    runs (t :: rest) = ((t :: run) :: more, tail) := by
  simp [runs, h, hrest]

/-- Numbers runs of tokens in order. -/
def numbered (tokenRuns : List (List Token)) : List Statement :=
  tokenRuns.mapIdx fun i tokens => ⟨i + 1, tokens⟩

/-- The statements of a token list, and the tokens behind the last terminator. -/
structure Segments where
  statements : List Statement
  tail : List Token
  deriving DecidableEq, Repr

namespace Segments

/-- Cuts a token list at its terminators. -/
def split (tokens : List Token) : Segments :=
  let (closed, tail) := runs tokens
  ⟨numbered (closed.filter fun run => !run.isEmpty), tail⟩

/-- The number a statement made of the tail would have. -/
def tailOrdinal (s : Segments) : Nat :=
  s.statements.length + 1

/-- The tail as a statement, if there is one. -/
def unterminated? (s : Segments) : Option Statement :=
  if s.tail.isEmpty then none else some ⟨s.tailOrdinal, s.tail⟩

/-- The error of a tail in a mode: its last token should be followed by a terminator. -/
def tailError? (s : Segments) (mode : Mode) : Option SyntaxError :=
  match mode, s.tail with
  | .strict, first :: _ => some (.unterminated s.tailOrdinal s.tail.length first.span.line)
  | _, _ => none

/-- Whether a tail is acceptable. -/
def check (s : Segments) (mode : Mode) : Except SyntaxError Unit :=
  match s.tailError? mode with
  | some e => .error e
  | none => .ok ()

end Segments

/-- The statements of a token list, if its tail is acceptable. -/
def segment (mode : Mode) (tokens : List Token) : Except SyntaxError (List Statement) := do
  let segments := Segments.split tokens
  segments.check mode
  return segments.statements

end CircuitLang
