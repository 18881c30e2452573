import CircuitLang.Options
import CircuitLang.Path

/-! The arguments of the command.

Arguments are read from left to right. Help and version are given where they are
asked for, unless something before them cannot be read. A lone `--` ends the
options; a lone `-` is no option. Short options may stand together, and the output
takes its value from the rest of its argument or from the argument behind it, as
long as that is no option. That a source is given, and an output at most once and
with its value, is checked at the end. -/
namespace CircuitLang.CommandLine

/-- What a run of the command was asked for. -/
structure Invocation where
  source : Path
  output? : Option Path
  lenient : Bool
  allErrors : Bool
  printTokens : Bool
  printAst : Bool
  verbosity : Nat
  deriving DecidableEq, Repr

/-- How the program is to be read. -/
def Invocation.options (i : Invocation) : Options where
  mode := if i.lenient then .lenient else .strict
  policy := if i.allErrors then .collect else .abort

inductive Request where
  | help
  | version
  | run (invocation : Invocation)
  deriving DecidableEq, Repr

inductive UsageError where
  | unknownOption (text : String)
  | unexpectedValue (option : String)
  | unexpectedArgument (text : String)
  | emptyValue
  | missingOutput
  | repeatedOutput
  | missingSource
  deriving DecidableEq, Repr

namespace UsageError

def message : UsageError → String
  | unknownOption text => "error: unknown option '" ++ text ++ "'"
  | unexpectedValue option => "error: the option '" ++ option ++ "' takes no value"
  | unexpectedArgument text => "error: unexpected argument '" ++ text ++ "'"
  | emptyValue => "error: a path must not be empty"
  | missingOutput => "error: the option '--output' needs a value"
  | repeatedOutput => "error: the option '--output' was given more than once"
  | missingSource => "error: no source was given"

end UsageError

/-- What has been read so far. There is an entry for each time the output was given,
without a path if none followed. -/
structure Draft where
  source? : Option Path := none
  outputs : List (Option Path) := []
  lenient : Bool := false
  allErrors : Bool := false
  printTokens : Bool := false
  printAst : Bool := false
  verbosity : Nat := 0
  deriving DecidableEq, Repr

namespace Draft

/-- Adds an argument that is no option. -/
def addSource (d : Draft) (text : List Char) : Except UsageError Draft :=
  if d.source?.isSome then .error (.unexpectedArgument (String.ofList text))
  else if text.isEmpty then .error .emptyValue
  else .ok { d with source? := some ⟨text⟩ }

/-- Adds an output with its path. -/
def addOutput (d : Draft) (text : List Char) : Except UsageError Draft :=
  if text.isEmpty then .error .emptyValue
  else .ok { d with outputs := some ⟨text⟩ :: d.outputs }

/-- Adds an output without a path, if one was waiting for it. -/
def settle (d : Draft) (waiting : Bool) : Draft :=
  if waiting then { d with outputs := none :: d.outputs } else d

/-- The request, once all arguments have been read. -/
def finish (d : Draft) : Except UsageError Request :=
  match d.source?, d.outputs with
  | none, _ => .error .missingSource
  | _, [none] => .error .missingOutput
  | _, _ :: _ :: _ => .error .repeatedOutput
  | some source, outputs =>
    .ok (.run ⟨source, outputs.head?.join, d.lenient, d.allErrors, d.printTokens, d.printAst,
      d.verbosity⟩)

end Draft

/-- What reading one argument comes to: a draft, and whether an output waits for its
path; or a request that is answered at once. -/
inductive Reading where
  | more (draft : Draft) (waiting : Bool)
  | done (request : Request)

/-- Reads short options that stand together. -/
def shortOptions (d : Draft) : List Char → Except UsageError Reading
  | [] => .ok (.more d false)
  | 'v' :: rest => shortOptions { d with verbosity := d.verbosity + 1 } rest
  | 'h' :: _ => .ok (.done .help)
  | 'V' :: _ => .ok (.done .version)
  | ['o'] => .ok (.more d true)
  | 'o' :: '=' :: value => (d.addOutput value).map (.more · false)
  | 'o' :: value => (d.addOutput value).map (.more · false)
  | c :: _ => .error (.unknownOption ("-" ++ c.toString))

/-- A long option that takes no value. -/
def flag? (d : Draft) : String → Option Reading
  | "help" => some (.done .help)
  | "version" => some (.done .version)
  | "lenient" => some (.more { d with lenient := true } false)
  | "all-errors" => some (.more { d with allErrors := true } false)
  | "print-tokens" => some (.more { d with printTokens := true } false)
  | "print-ast" => some (.more { d with printAst := true } false)
  | _ => none

/-- Reads a long option, with its value if one was attached. -/
def longOption (d : Draft) (name : String) (value? : Option (List Char)) :
    Except UsageError Reading :=
  if name = "output" then
    match value? with
    | none => .ok (.more d true)
    | some value => (d.addOutput value).map (.more · false)
  else
    match flag? d name, value? with
    | none, _ => .error (.unknownOption ("--" ++ name))
    | some reading, none => .ok reading
    | some _, some _ => .error (.unexpectedValue ("--" ++ name))

/-- The value attached to a long option, behind its first `=`. -/
def attached? (text : List Char) : Option (List Char) :=
  match text.dropWhile (· ≠ '=') with
  | [] => none
  | _ :: value => some value

/-- Reads arguments that are no options. -/
def plainArguments (d : Draft) : List String → Except UsageError Request
  | [] => d.finish
  | arg :: rest =>
    match d.addSource arg.toList with
    | .error e => .error e
    | .ok d => plainArguments d rest

/-- Reads one argument other than `--`. -/
def argument (d : Draft) (waiting : Bool) (arg : List Char) : Except UsageError Reading :=
  match arg with
  | '-' :: '-' :: text =>
    longOption (d.settle waiting) (String.ofList (text.takeWhile (· ≠ '='))) (attached? text)
  | '-' :: c :: cluster => shortOptions (d.settle waiting) (c :: cluster)
  | text => (if waiting then d.addOutput text else d.addSource text).map (.more · false)

/-- Reads arguments, the first of which may be the path an output waits for. -/
def arguments (d : Draft) (waiting : Bool) : List String → Except UsageError Request
  | [] => (d.settle waiting).finish
  | "--" :: rest => plainArguments (d.settle waiting) rest
  | arg :: rest =>
    match argument d waiting arg.toList with
    | .error e => .error e
    | .ok (.done request) => .ok request
    | .ok (.more d waiting) => arguments d waiting rest

/-- Reads the arguments of the command. -/
def parse (args : List String) : Except UsageError Request :=
  arguments {} false args

end CircuitLang.CommandLine
