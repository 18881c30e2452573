/-! The texts the command shows about itself. -/
namespace CircuitLang.CommandLine

def versionLine : String :=
  "clc 0.0.1"

/-- The lines of the help, without their ends. -/
def helpLines : List String := [
  versionLine,
  "Compiles boolean circuit descriptions (.cl) for assembly emission.",
  "",
  "USAGE:",
  "    clc [OPTIONS] <SOURCE>",
  "",
  "ARGS:",
  "    <SOURCE>    Path to the .cl file that will be compiled.",
  "",
  "OPTIONS:",
  "        --all-errors         Report every syntax error instead of stopping at the first one.",
  "    -h, --help               Print help information",
  "        --lenient            Silently drop a trailing statement without ';' instead of failing.",
  "    -o, --output <OUTPUT>    Path of the .asm file to produce. Defaults to SOURCE with an .asm",
  "                             extension.",
  "        --print-ast          Output the AST. Useful for debugging.",
  "        --print-tokens       Output the tokens. Useful for debugging.",
  "    -v                       Increase logging verbosity (-v info, -vv debug, -vvv trace).",
  "    -V, --version            Print version information"]

def version : String :=
  versionLine ++ "\n"

def help : String :=
  String.join (helpLines.map (· ++ "\n"))

end CircuitLang.CommandLine
