/-! What can be wrong with a written pattern, and how it is shown.

A fault has a cause and a stretch of the pattern, and sometimes an earlier stretch
that it clashes with. Its message is the pattern with carets under the stretches. A
pattern of several lines is shown with line numbers between two rules, and a stretch
over several lines is described below them. -/
namespace CircuitLang.Text.Pattern

/-- The characters from one offset up to another. -/
structure Extent where
  first : Nat
  stop : Nat
  deriving DecidableEq, Repr

/-- How deep the parts of a pattern may stand in each other. -/
def depthLimit : Nat := 250

/-- How many bytes an automaton may take. -/
def roomLimit : Nat := 10 * 1024 * 1024

inductive Cause where
  | backreference
  | boundaryUnclosed
  | boundaryUnfinished
  | boundaryUnknown
  | classBoundary
  | classEscape
  | classInverted
  | classUnclosed
  | countEmpty
  | countInverted
  | countTooLarge
  | countUnclosed
  | escapeUnfinished
  | escapeUnknown
  | flagDangling
  | flagNegatedTwice
  | flagRepeated
  | flagUnfinished
  | flagUnknown
  | groupUnclosed
  | groupUnopened
  | hexEmpty
  | hexInvalid
  | hexNoDigit
  | lookAround
  | nameEmpty
  | nameInvalid
  | nameRepeated
  | nameUnclosed
  | nothingToRepeat
  | propertyInvalid
  | tooDeep
  /-- What is more than one byte, where bytes are asked for. -/
  | noBytes
  /-- What may fit pieces that are no text. -/
  | noText
  | noPropertyNamed
  | noPropertyValue
  | noWideCase
  | noWideClass
  deriving DecidableEq, Repr

def Cause.message : Cause → String
  | backreference => "backreferences are not supported"
  | boundaryUnclosed =>
    "special word boundary assertion is either unclosed or contains an invalid character"
  | boundaryUnfinished =>
    "found either the beginning of a special word boundary or a bounded repetition on a \\b " ++
      "with an opening brace, but no closing brace"
  | boundaryUnknown =>
    "unrecognized special word boundary assertion, valid choices are: " ++
      "start, end, start-half or end-half"
  | classBoundary => "invalid range boundary, must be a literal"
  | classEscape => "invalid escape sequence found in character class"
  | classInverted => "invalid character class range, the start must be <= the end"
  | classUnclosed => "unclosed character class"
  | countEmpty => "repetition quantifier expects a valid decimal"
  | countInverted => "invalid repetition count range, the start must be <= the end"
  | countTooLarge => "decimal literal invalid"
  | countUnclosed => "unclosed counted repetition"
  | escapeUnfinished => "incomplete escape sequence, reached end of pattern prematurely"
  | escapeUnknown => "unrecognized escape sequence"
  | flagDangling => "dangling flag negation operator"
  | flagNegatedTwice => "flag negation operator repeated"
  | flagRepeated => "duplicate flag"
  | flagUnfinished => "expected flag but got end of regex"
  | flagUnknown => "unrecognized flag"
  | groupUnclosed => "unclosed group"
  | groupUnopened => "unopened group"
  | hexEmpty => "hexadecimal literal empty"
  | hexInvalid => "hexadecimal literal is not a Unicode scalar value"
  | hexNoDigit => "invalid hexadecimal digit"
  | lookAround => "look-around, including look-ahead and look-behind, is not supported"
  | nameEmpty => "empty capture group name"
  | nameInvalid => "invalid capture group character"
  | nameRepeated => "duplicate capture group name"
  | nameUnclosed => "unclosed capture group name"
  | nothingToRepeat => "repetition operator missing expression"
  | propertyInvalid => "invalid Unicode character class"
  | tooDeep =>
    "exceed the maximum number of nested parentheses/brackets (" ++ toString depthLimit ++ ")"
  | noBytes => "Unicode not allowed here"
  | noText => "pattern can match invalid UTF-8"
  | noPropertyNamed => "Unicode property not found"
  | noPropertyValue => "Unicode property value not found"
  | noWideCase =>
    "Unicode-aware case insensitivity matching is not available " ++
      "(make sure the unicode-case feature is enabled)"
  | noWideClass =>
    "Unicode-aware Perl class not found (make sure the unicode-perl feature is enabled)"

inductive Fault where
  /-- Something in the pattern; `clash?` is the earlier stretch it clashes with. -/
  | written (cause : Cause) (extent : Extent) (clash? : Option Extent)
  /-- Its automaton takes too much room. -/
  | tooLarge
  /-- It asks for words with letters of all kinds, which are not known. -/
  | wideWord
  deriving DecidableEq, Repr

/-! ### Showing a stretch -/

/-- Line and column, from one. -/
structure Position where
  line : Nat
  column : Nat
  deriving DecidableEq, Repr

def position (source : List Char) (offset : Nat) : Position :=
  let before := source.take offset
  ⟨before.count '\n' + 1, (before.reverse.takeWhile (· ≠ '\n')).length + 1⟩

structure Stretch where
  first : Position
  stop : Position
  deriving DecidableEq, Repr

def stretch (source : List Char) (extent : Extent) : Stretch :=
  ⟨position source extent.first, position source extent.stop⟩

/-- The lines of a pattern, without their ends. -/
def lines (source : List Char) : List String :=
  let pieces := (String.ofList source).splitOn "\n"
  let closed := pieces.dropLast.map fun line => ((line.dropSuffix? "\r").getD line.toSlice).copy
  closed ++ pieces.getLast?.toList.filter (· ≠ "")

/-- Carets under stretches of a line, in their order, from a column on. -/
def carets (column : Nat) : List Stretch → List Char
  | [] => []
  | s :: rest =>
    let width := max 1 (s.stop.column - s.first.column)
    List.replicate (s.first.column - column) ' ' ++ List.replicate width '^' ++
      carets (max column s.first.column + width) rest

/-- A line behind its margin, with carets below it. -/
def underline (margin : String) (text : String) (stretches : List Stretch) : String :=
  margin ++ text ++ "\n" ++
    if stretches.isEmpty then ""
    else String.ofList (List.replicate margin.length ' ' ++ carets 1 stretches) ++ "\n"

/-- All lines with the carets that belong below them. -/
def underlined (source : List Char) (margin : Nat → String) (stretches : List Stretch) : String :=
  let inLine := stretches.filter fun s => s.first.line = s.stop.line
  String.join <| (lines source).zipIdx.map fun (text, i) =>
    underline (margin (i + 1)) text (inLine.filter fun s => s.first.line = i + 1)

/-- Where a stretch over several lines begins and ends. -/
def Stretch.describe (s : Stretch) : String :=
  "on line " ++ toString s.first.line ++ " (column " ++ toString s.first.column ++
    ") through line " ++ toString s.stop.line ++ " (column " ++ toString (s.stop.column - 1) ++ ")"

/-- A number at the head of a line, with blanks to a common width. -/
def lineMargin (width line : Nat) : String :=
  let digits := toString line
  String.ofList (List.replicate (width - digits.length) ' ') ++ digits ++ ": "

/-- The message about some stretches of a pattern, in their order. -/
def report (source : List Char) (stretches : List Stretch) (text : String) : String :=
  if '\n' ∈ source then
    let count := (lines source).length + if source.getLast? = some '\n' then 1 else 0
    let rule := String.ofList (List.replicate 79 '~') ++ "\n"
    let wide := (stretches.filter fun s => s.first.line ≠ s.stop.line).map Stretch.describe
    "regex parse error:\n" ++ rule ++
      underlined source (lineMargin (toString count).length) stretches ++ rule ++
      (if wide.isEmpty then "" else "\n".intercalate wide ++ "\n") ++ "error: " ++ text
  else
    "regex parse error:\n" ++ underlined source (fun _ => "    ") stretches ++ "error: " ++ text

def Fault.message (source : List Char) : Fault → String
  | written cause extent clash? =>
    report source ((clash?.toList ++ [extent]).map (stretch source)) cause.message
  | tooLarge => "Compiled regex exceeds size limit of " ++ toString roomLimit ++ " bytes."
  | wideWord => "error building NFA"

end CircuitLang.Text.Pattern
