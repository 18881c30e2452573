import CircuitLang.Text.Pattern.Form
import CircuitLang.Text.WhiteSpace

/-! A place in a written pattern, and the steps of reading on from it.

Reading stops at the first fault in the form of a pattern. What the form stands for is
not looked at. -/
namespace CircuitLang.Text.Pattern

structure Cursor where
  rest : List Char
  /-- How many characters the rest has. -/
  left : Nat
  offset : Nat
  /-- Whether blanks and comments stand for nothing. -/
  spaced : Bool
  /-- How many groups have a number. -/
  groups : Nat
  /-- The names of groups, and where they stand. -/
  names : List (String × Extent)

namespace Cursor

def start (source : List Char) : Cursor :=
  ⟨source, source.length, 0, false, 0, []⟩

/-- Behind the next character. -/
def advance (c : Cursor) : Cursor :=
  match c.rest with
  | [] => c
  | _ :: rest => { c with rest, left := c.left - 1, offset := c.offset + 1 }

/-- How many blanks and comments a text begins with, in characters beyond `found`, and
what comes behind them. A comment goes from a number sign to the end of the line. -/
def passBlanks (inComment : Bool) (found : Nat) : List Char → Nat × List Char
  | [] => (found, [])
  | c :: rest =>
    if inComment then passBlanks (c ≠ '\n') (found + 1) rest
    else if whiteSpace.contains c then passBlanks false (found + 1) rest
    else if c = '#' then passBlanks true (found + 1) rest
    else (found, c :: rest)

/-- Behind what stands for nothing. -/
def skip (c : Cursor) : Cursor :=
  if c.spaced then
    let (passed, rest) := passBlanks false 0 c.rest
    { c with rest, left := c.left - passed, offset := c.offset + passed }
  else c

end Cursor

/-- The first character of a text that is no blank, not counting one number sign before
it, or just the first character. Unlike reading on, this does not pass a comment. -/
def glance (text : List Char) : Option Char :=
  let dropBlanks := List.dropWhile whiteSpace.contains
  let found :=
    match dropBlanks text with
    | '#' :: rest => (dropBlanks rest).head?
    | rest => rest.head?
  found <|> text.head?

abbrev Reader := StateT Cursor (Except Fault)

namespace Reader

/-! ### Looking and going on -/

def peek : Reader (Option Char) := do
  return (← get).rest.head?

def offset : Reader Nat := do
  return (← get).offset

/-- Goes on by a character. -/
def advance : Reader Unit :=
  modify Cursor.advance

/-- Passes over blanks and comments, where they stand for nothing. -/
def skip : Reader Unit :=
  modify Cursor.skip

/-- Goes on by a character and what stands for nothing behind it. -/
def next : Reader Unit :=
  modify fun c => c.advance.skip

/-- Passes over a word, if it is next. -/
def accept (word : String) : Reader Bool := do
  if word.toList.isPrefixOf (← get).rest then
    modify fun c => Nat.repeat Cursor.advance word.length c
    return true
  return false

/-- Passes over one of some words, if one is next. -/
def acceptAny : List String → Reader Bool
  | [] => return false
  | word :: words => do
    if ← accept word then return true
    acceptAny words

/-- Reads characters of a kind, each with `step`, behind those in `found`, which are in
reverse. -/
def collect (kind : Char → Bool) (step : Cursor → Cursor) :
    Nat → List Char → Reader (List Char)
  | 0, found => return found.reverse
  | fuel + 1, found => do
    match ← peek with
    | none => return found.reverse
    | some c =>
      if kind c then
        modify step
        collect kind step fuel (c :: found)
      else return found.reverse

/-- Reads all characters of a kind that are next, each with `step`. -/
def readWhile (kind : Char → Bool) (step : Cursor → Cursor) : Reader (List Char) := do
  collect kind step (← get).left []

/-- Reads all characters of a kind that are next. -/
def readAll (kind : Char → Bool) : Reader (List Char) :=
  readWhile kind Cursor.advance

/-- Reads all characters of a kind that are next, and what stands for nothing. -/
def readSpaced (kind : Char → Bool) : Reader (List Char) :=
  readWhile kind fun c => c.advance.skip

/-! ### Faults -/

def fail {α : Type} (cause : Cause) (first stop : Nat) : Reader α :=
  throw (.written cause ⟨first, stop⟩ none)

/-- Stops at a fault that begins at an offset and goes up to the cursor. -/
def failFrom {α : Type} (cause : Cause) (first : Nat) : Reader α := do
  fail cause first (← offset)

/-- Stops at a fault at the cursor, which is `width` characters wide. -/
def failHere {α : Type} (cause : Cause) (width : Nat) : Reader α := do
  let here ← offset
  fail cause here (here + width)

end Reader

end CircuitLang.Text.Pattern
