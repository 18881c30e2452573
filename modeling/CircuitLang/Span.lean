/-! Where things stand in a text.

A `Place` lies between two characters: the line it is on and the number of
characters passed on that line. Reading a character moves the place by one rule
(`Place.advance`), and everything the lexer counts is that rule repeated
(`Place.after`). A `Span` is a stretch of columns on one line; the span of a
lexeme begins one column after the place in front of it. Counters are 32 bits
wide. -/
namespace CircuitLang

/-- The columns `first` to `last` of a line. Lines and columns count from one. -/
structure Span where
  line : UInt32
  first : UInt32
  last : UInt32
  deriving DecidableEq, Repr

namespace Span

def single (line column : UInt32) : Span :=
  ⟨line, column, column⟩

/-- A span is shown by where it begins. -/
def render (s : Span) : String :=
  toString s.line.toNat ++ ":" ++ toString s.first.toNat

end Span

/-- A place between two characters: its line, and how many characters of the line
lie before it. -/
structure Place where
  line : UInt32
  column : UInt32
  deriving DecidableEq, Repr

namespace Place

def start : Place :=
  ⟨1, 0⟩

/-- The place behind one more character. -/
def advance (p : Place) (c : Char) : Place :=
  if c = '\n' then ⟨p.line + 1, 0⟩ else ⟨p.line, p.column + 1⟩

/-- The place behind a stretch of text. -/
def after (p : Place) (text : List Char) : Place :=
  text.foldl advance p

@[simp] theorem after_nil (p : Place) : p.after [] = p := rfl

@[simp] theorem after_cons (p : Place) (c : Char) (text : List Char) :
    p.after (c :: text) = (p.advance c).after text := rfl

theorem after_append (p : Place) (text more : List Char) :
    p.after (text ++ more) = (p.after text).after more := by
  simp [after]

/-- The span of a lexeme behind a place: from the next column to the last one passed. -/
def spanOf (p : Place) (lexeme : List Char) : Span :=
  ⟨p.line, p.column + 1, (p.after lexeme).column⟩

end Place

end CircuitLang
