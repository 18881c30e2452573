import CircuitLang.Path
import CircuitLang.Span

/-! Everything that can go wrong, and the words for it.

Each error is a cause with the facts about it; `message` is the one place where it
is put into words. A syntax error names its statement by number and its token by
its place in the statement, both counted from one. -/
namespace CircuitLang

/-- A character that begins no token. -/
structure LexError where
  character : Char
  span : Span
  deriving DecidableEq, Repr

namespace LexError

def message (e : LexError) : String :=
  "ERROR: unrecognized character '" ++ e.character.toString ++ "' (" ++ e.span.render ++ ")"

end LexError

/-- What is wrong with a statement. -/
inductive SyntaxError where
  /-- No token governs the statement. -/
  | noRoot (statement : Nat)
  /-- A second token governs the statement. -/
  | multipleRoots (statement index : Nat)
  /-- The definition marker has no name before it. -/
  | unnamedDefinition (statement index : Nat)
  /-- The operation has too few or too many arguments. -/
  | arityMismatch (statement index : Nat) (operation : String) (expected found : Nat)
  /-- An argument is not what its place asks for. -/
  | unfitArgument (statement index : Nat) (operation expected : String)
  /-- A token stands before the governing one, and is not the name of a definition. -/
  | strayToken (statement index : Nat)
  /-- The last statement has no terminator; it begins on `line`. -/
  | unterminated (statement index : Nat) (line : UInt32)
  deriving DecidableEq, Repr

namespace SyntaxError

/-- Statement and token, as they stand at the end of a message. -/
def location (statement index : Nat) : String :=
  " (" ++ toString statement ++ ":" ++ toString index ++ ")"

def message : SyntaxError → String
  | noRoot s => "ERROR: no root in statement " ++ toString s
  | multipleRoots s i => "ERROR: multiple roots in same statement" ++ location s i
  | unnamedDefinition s i => "ERROR: expected name before definition" ++ location s i
  | arityMismatch s i op expected found =>
    "ERROR: " ++ op ++ " expects " ++ toString expected ++ " argument(s), found " ++
      toString found ++ location s i
  | unfitArgument s i op expected =>
    "ERROR: expected " ++ expected ++ " as argument of " ++ op ++ location s i
  | strayToken s i => "ERROR: unexpected token before root" ++ location s i
  | unterminated s i line =>
    "ERROR: missing ';' after statement " ++ toString s ++ " on line " ++ toString line.toNat ++
      location s i

end SyntaxError

/-- What is wrong with the choice of files. -/
inductive ConfigError where
  | missingSource
  | wrongSourceExtension (path : Path)
  | wrongOutputExtension (path : Path)
  deriving DecidableEq, Repr

namespace ConfigError

def message : ConfigError → String
  | missingSource => "ERROR: source file not specified"
  | wrongSourceExtension p =>
    "ERROR: wrong source file extension, expected '.cl': " ++ p.toString
  | wrongOutputExtension p =>
    "ERROR: wrong output file extension, expected '.asm': " ++ p.toString

end ConfigError

/-- Why a file could not be read as text. -/
inductive ReadError where
  | notFound
  | notDirectory
  | isDirectory
  | nameTooLong
  | invalidText
  /-- Any other cause, in the words of the system. -/
  | other (text : String)
  deriving DecidableEq, Repr

namespace ReadError

def message : ReadError → String
  | notFound => "No such file or directory (os error 2)"
  | notDirectory => "Not a directory (os error 20)"
  | isDirectory => "Is a directory (os error 21)"
  | nameTooLong => "File name too long (os error 36)"
  | invalidText => "stream did not contain valid UTF-8"
  | other text => text

end ReadError

/-- Every way a run can fail. -/
inductive Failure where
  | lexical (error : LexError)
  | grammatical (error : SyntaxError)
  | several (errors : List SyntaxError)
  | config (error : ConfigError)
  | unreadable (path : Path) (cause : ReadError)
  deriving DecidableEq, Repr

namespace Failure

/-- Several errors are put on a line each. -/
def message : Failure → String
  | lexical e => e.message
  | grammatical e => e.message
  | several es => "\n".intercalate (es.map SyntaxError.message)
  | config e => e.message
  | unreadable p cause => "ERROR: could not read " ++ p.toString ++ ": " ++ cause.message

/-- What lies behind a failure: the cause of a failed reading. -/
def cause? : Failure → Option String
  | unreadable _ cause => some cause.message
  | _ => none

end Failure

end CircuitLang
