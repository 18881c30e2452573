import CircuitLang.Diagnostic
import CircuitLang.Options

/-! Which file is read, which is to be produced, and how the program is read.

A source has the extension `cl` and an output the extension `asm`. An output that
is not given stands next to the source. -/
namespace CircuitLang

structure Config where
  source : Path
  output : Path
  options : Options
  deriving DecidableEq, Repr

namespace Config

def sourceExtension : String := "cl"

def outputExtension : String := "asm"

/-- Settles the output for a source: the given one if its extension is right, else
the source with the extension exchanged. -/
def settleOutput (source : Path) : Option Path → Except ConfigError Path
  | some output =>
    if output.hasExtension outputExtension then .ok output
    else .error (.wrongOutputExtension output)
  | none => .ok (source.withExtension outputExtension)

/-- Settles both files. The source is looked at first. -/
def choose (source? output? : Option Path) (options : Options) : Except ConfigError Config :=
  match source? with
  | none => .error .missingSource
  | some source =>
    if source.hasExtension sourceExtension then
      (settleOutput source output?).map fun output => ⟨source, output, options⟩
    else .error (.wrongSourceExtension source)

end Config

end CircuitLang
