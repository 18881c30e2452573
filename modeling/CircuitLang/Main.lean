import CircuitLang.Outcome

/-! The command itself: arguments and files in, output and an exit code out. -/
namespace CircuitLang

/-- Why the system could not read a file. -/
def readErrorOfSystem : IO.Error → ReadError
  | .noFileOrDirectory .. => .notFound
  | .inappropriateType _ 21 _ => .isDirectory
  | .inappropriateType .. => .notDirectory
  | .invalidArgument _ 36 _ => .nameTooLong
  | e => .other (toString e)

def readText (path : Path) : IO (Except ReadError String) := do
  try
    let bytes ← IO.FS.readBinFile path.toString
    return (String.fromUTF8? bytes).elim (.error .invalidText) .ok
  catch e => return .error (readErrorOfSystem e)

/-- The source some arguments lead to, if they lead to one. -/
def source? (args : List String) : Option Path :=
  match CommandLine.parse args with
  | .ok (.run invocation) => invocation.config.toOption.map Config.source
  | _ => none

end CircuitLang

open CircuitLang in
def main (args : List String) : IO UInt32 := do
  let text ← (source? args).elim (pure (.error .notFound)) readText
  let outcome := Outcome.ofCommand args (← IO.getEnv "RUST_LOG") fun _ => text
  IO.print outcome.stdout
  IO.eprint outcome.stderr
  return outcome.exitCode
