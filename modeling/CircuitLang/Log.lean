import CircuitLang.Text.Plain

/-! Log records: how important, from which part of the program, and what they say. -/
namespace CircuitLang.Log

/-- How important a record is, the most important first. -/
inductive Level where
  | error
  | warn
  | info
  | debug
  | trace
  deriving DecidableEq, Repr

namespace Level

def rank : Level → Nat
  | error => 1
  | warn => 2
  | info => 3
  | debug => 4
  | trace => 5

/-- The name of a level. -/
def name : Level → String
  | error => "error"
  | warn => "warn"
  | info => "info"
  | debug => "debug"
  | trace => "trace"

def all : List Level :=
  [error, warn, info, debug, trace]

/-- A level at the head of a line, five columns wide. -/
def label : Level → String
  | error => "ERROR"
  | warn => "WARN "
  | info => "INFO "
  | debug => "DEBUG"
  | trace => "TRACE"

end Level

/-- The part of the program a record comes from. -/
inductive Origin where
  | command
  | lexer
  | segmenter
  | parser
  deriving DecidableEq, Repr

/-- The name of a part, which a filter is matched with. -/
def Origin.name : Origin → String
  | command => "clc"
  | lexer => "clc::frontend::lexer"
  | segmenter => "clc::frontend::segmenter"
  | parser => "clc::frontend::parser"

structure Record where
  level : Level
  origin : Origin
  text : String
  deriving DecidableEq, Repr

/-- A text whose lines after the first are set in by four columns. -/
def indent (text : String) : String :=
  String.ofList (text.toList.flatMap fun c => if c = '\n' then '\n' :: List.replicate 4 ' ' else [c])

theorem shown_indent {text : String} (h : Text.Plain.Shown text) :
    Text.Plain.Shown (indent text) := by
  intro c hc
  rw [indent, String.toList_ofList, List.mem_flatMap] at hc
  obtain ⟨d, hd, hc⟩ := hc
  split at hc
  · rcases List.mem_cons.mp hc with rfl | hc
    · rfl
    · rw [List.eq_of_mem_replicate hc]
      rfl
  · rw [List.mem_singleton.mp hc]
    exact h d hd

namespace Record

/-- A record as it is written: where it comes from in front of what it says. -/
def line (r : Record) : String :=
  "[" ++ r.level.label ++ " " ++ r.origin.name ++ "] " ++ indent r.text ++ "\n"

/-- A record as a line of the log, without controls in what it says. -/
def render (r : Record) : String :=
  Text.Plain.strip r.line

/-- A record that says nothing but blanks and visible characters is shown as it is written. -/
theorem render_eq_line {r : Record} (h : Text.Plain.Shown r.text) : r.render = r.line := by
  have hlevel : Text.Plain.Shown r.level.label := by cases r.level <;> decide
  have horigin : Text.Plain.Shown r.origin.name := by cases r.origin <;> decide
  have hopen : Text.Plain.Shown "[" := by decide
  have hspace : Text.Plain.Shown " " := by decide
  have hclose : Text.Plain.Shown "] " := by decide
  have hend : Text.Plain.Shown "\n" := by decide
  apply Text.Plain.strip_eq_self
  exact (((((hopen.append hlevel).append hspace).append horigin).append hclose).append
    (shown_indent h)).append hend

end Record

end CircuitLang.Log
