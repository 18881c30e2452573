import CircuitLang.CommandLine
import CircuitLang.Config
import CircuitLang.Log.Filter
import CircuitLang.Program.Trace

/-! A run of the command on a source, with all that it writes.

A `Session` writes entries, log records and text to be printed, and comes to a
result or fails; what was written before a failure stays. `run` goes from the
choice of files through reading the source to its tokens and its program. The log
filter has no part in it: it only decides which of the records are shown. -/
namespace CircuitLang

/-- The files and options an invocation asks for. -/
def CommandLine.Invocation.config (i : CommandLine.Invocation) : Except ConfigError Config :=
  Config.choose (some i.source) i.output? i.options

/-- Something a session writes. -/
inductive Note where
  | record (record : Log.Record)
  | print (text : String)
  deriving DecidableEq, Repr

/-- A computation that writes notes and may fail. -/
structure Session (α : Type) where
  notes : List Note
  result : Except Failure α

namespace Session

instance : Monad Session where
  pure a := ⟨[], .ok a⟩
  bind s f :=
    match s.result with
    | .ok a =>
      let next := f a
      ⟨s.notes ++ next.notes, next.result⟩
    | .error e => ⟨s.notes, .error e⟩

@[simp] theorem pure_eq {α : Type} (a : α) : (pure a : Session α) = ⟨[], .ok a⟩ := rfl

/-- Behind a result the next computation goes on writing. -/
theorem bind_of_ok {α β : Type} {s : Session α} {a : α} (f : α → Session β)
    (h : s.result = .ok a) : s >>= f = ⟨s.notes ++ (f a).notes, (f a).result⟩ := by
  show (match s.result with | .ok a => _ | .error e => _ : Session β) = _
  rw [h]

/-- A failure ends the computation, and what was written stays. -/
theorem bind_of_error {α β : Type} {s : Session α} {e : Failure} (f : α → Session β)
    (h : s.result = .error e) : s >>= f = ⟨s.notes, .error e⟩ := by
  show (match s.result with | .ok a => _ | .error e => _ : Session β) = _
  rw [h]

def write (notes : List Note) : Session Unit :=
  ⟨notes, .ok ()⟩

def log (level : Log.Level) (text : String) : Session Unit :=
  write [.record ⟨level, .command, text⟩]

/-- Prints a title and a line for each item, set in by a tabulator. -/
def list (title : String) (items : List String) : Session Unit :=
  write [.print (title ++ ":\n" ++ String.join (items.map fun item => "\t" ++ item ++ "\n"))]

/-- Writes nothing, and fails if the value is an error. -/
def ofExcept {ε α : Type} (failure : ε → Failure) (value : Except ε α) : Session α :=
  ⟨[], value.mapError failure⟩

def tokens (source : String) : Session (List Token) :=
  let scan := (Lexer.ofSource .standard source).scan
  ⟨scan.records.map .record, scan.result.mapError .lexical⟩

def program (options : Options) (tokens : List Token) : Session Program :=
  ⟨(Program.records options tokens).map .record, Program.parse options tokens⟩

/-- Does what an invocation asks for. -/
def run (invocation : CommandLine.Invocation) (read : Path → Except ReadError String) :
    Session Unit := do
  let config ← ofExcept .config invocation.config
  log .info ("[SOURCE PATH] " ++ config.source.toString)
  log .info ("[OUTPUT PATH] " ++ config.output.toString)
  let source ← ofExcept (.unreadable config.source) (read config.source)
  log .debug ("[START OF CODE]\n" ++ source ++ "[END OF CODE]")
  let tokens ← tokens source
  if invocation.printTokens then list "Tokens" (tokens.map Token.render)
  let program ← program config.options tokens
  if invocation.printAst then list "AST" (program.nodes.map Node.render)
  log .info ("parsed " ++ toString program.size ++ " statements from " ++ config.source.toString)

/-! ### What a session shows -/

/-- Everything printed, in order. -/
def printed {α : Type} (s : Session α) : String :=
  String.join <| s.notes.filterMap fun
    | .print text => some text
    | .record _ => none

def records {α : Type} (s : Session α) : List Log.Record :=
  s.notes.filterMap fun
    | .record r => some r
    | .print _ => none

/-- The lines that say why a session failed. -/
def diagnostics {α : Type} (s : Session α) : String :=
  match s.result with
  | .ok _ => ""
  | .error e => e.message ++ "\n"

/-- The records a filter admits, as lines. -/
def logged {α : Type} (filter : Log.Filter) (s : Session α) : String :=
  String.join ((s.records.filter filter.admits).map Log.Record.render)

end Session

end CircuitLang
