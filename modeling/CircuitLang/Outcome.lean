import CircuitLang.CommandLine.Help
import CircuitLang.Session

/-! What the command leaves behind: an exit code, and what went to the two output
streams. Nothing else of a run can be seen from outside. -/
namespace CircuitLang

structure Outcome where
  exitCode : UInt32
  stdout : String
  stderr : String
  deriving DecidableEq, Repr

namespace Outcome

/-- A session seen through a filter. -/
def ofSession (filter : Log.Filter) (s : Session Unit) : Outcome where
  exitCode := if s.result.isOk then 0 else 1
  stdout := s.printed
  stderr := s.logged filter ++ s.diagnostics

/-- The warnings about a written filter, which come before anything else. -/
def warn (warnings : List String) (o : Outcome) : Outcome :=
  { o with stderr := String.join (warnings.map (· ++ "\n")) ++ o.stderr }

/-- What the command does with its arguments, a written log filter, and the files it
can read. -/
def ofCommand (args : List String) (written? : Option String)
    (read : Path → Except ReadError String) : Outcome :=
  match CommandLine.parse args with
  | .error e => ⟨2, "", e.message ++ "\n"⟩
  | .ok .help => ⟨0, CommandLine.help, ""⟩
  | .ok .version => ⟨0, CommandLine.version, ""⟩
  | .ok (.run invocation) =>
    (ofSession (.ofSettings invocation.verbosity written?) (Session.run invocation read)).warn
      (Log.Filter.warnings written?)

end Outcome

end CircuitLang
