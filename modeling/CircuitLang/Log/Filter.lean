import CircuitLang.Log
import CircuitLang.Text.Pattern.Written

/-! Which records are shown.

A filter has a threshold for each of some parts of the program, named by how
their names begin, and one for all the rest. Of the names that fit a record the
longest decides. A filter may also have a pattern, which then has to occur in what a
record says.

A filter is written as a list of items between commas and, behind a slash, the
pattern. A level alone is the threshold for the rest, `part=level` is that of a part,
and a part alone is shown in full. Of two items for the same part the later one
counts. An item or a pattern that says nothing clear is passed over with a warning,
and with a second slash all of it. -/
namespace CircuitLang.Log

/-- The least important level that is shown, or `none` if nothing is. -/
abbrev Threshold := Option Level

/-- Whether a level is shown under a threshold. -/
def Threshold.admits : Threshold → Level → Bool
  | none, _ => false
  | some least, level => level.rank ≤ least.rank

structure Filter where
  fallback : Threshold
  parts : List (String × Threshold)
  pattern? : Option Text.Pattern := none
  deriving BEq, Repr

namespace Filter

/-- The threshold that so many requests for more detail ask for. -/
def verbosity : Nat → Level
  | 0 => .warn
  | 1 => .info
  | 2 => .debug
  | _ => .trace

/-- The filter without any items. -/
def ofVerbosity (n : Nat) : Filter :=
  ⟨some (verbosity n), [], none⟩

/-- The longer of two names with their thresholds, the first if they are as long. -/
def longer (a b : String × Threshold) : String × Threshold :=
  if a.1.length < b.1.length then b else a

/-- The threshold of the longest name that `origin` begins with. -/
def threshold (f : Filter) (origin : String) : Threshold :=
  let fitting := f.parts.filter fun part => part.1.toList.isPrefixOf origin.toList
  match fitting with
  | [] => f.fallback
  | part :: more => (more.foldl longer part).2

def admits (f : Filter) (r : Record) : Bool :=
  (f.threshold r.origin.name).admits r.level && f.pattern?.all (·.occursIn r.text)

/-! ### Written filters -/

def trim (text : List Char) : List Char :=
  let trimStart := List.dropWhile Text.whiteSpace.contains
  (trimStart (trimStart text).reverse).reverse

/-- The pieces of a text between marks. -/
def pieces (mark : Char) (text : String) : List String :=
  (text.toList.splitOn mark).map String.ofList

/-- A threshold by its name, in letters of either case. -/
def threshold? (text : String) : Option Threshold :=
  if text.toLower = "off" then some none
  else (Level.all.find? fun level => level.name = text.toLower).map some

/-- What an item asks for. -/
inductive Item where
  | rest (threshold : Threshold)
  | part (name : String) (threshold : Threshold)
  /-- Nothing clear; the text is what is wrong with it. -/
  | unclear (text : String)
  deriving DecidableEq, Repr

def item (text : String) : Item :=
  match pieces '=' text with
  | [single] =>
    match threshold? single with
    | some threshold => .rest threshold
    | none => .part single (some .trace)
  | [name, value] =>
    let value := String.ofList (trim value.toList)
    if value.isEmpty then .part name (some .trace)
    else
      match threshold? value with
      | some threshold => .part name threshold
      | none => .unclear value
  | _ => .unclear text

/-- The items between commas, blank ones left out. -/
def items (text : String) : List Item :=
  let texts := (pieces ',' text).map fun piece => String.ofList (trim piece.toList)
  (texts.filter fun piece => !piece.isEmpty).map item

/-- The filter with one more item. -/
def apply (f : Filter) : Item → Filter
  | .rest threshold => { f with fallback := threshold }
  | .part name threshold =>
    { f with parts := (name, threshold) :: f.parts.filter fun part => part.1 ≠ name }
  | .unclear _ => f

/-- A written filter cut at its slash, if it has no more than one. -/
def cut? (written : String) : Option (String × Option String) :=
  match pieces '/' written with
  | [items] => some (items, none)
  | [items, pattern] => some (items, some pattern)
  | _ => none

/-- The filter for a verbosity and a written filter, which goes before it. -/
def ofSettings (verbosity : Nat) (written? : Option String) : Filter :=
  match written?.bind cut? with
  | none => ofVerbosity verbosity
  | some (text, pattern?) =>
    { (items text).foldl apply (ofVerbosity verbosity) with
      pattern? := pattern?.bind fun pattern => (Text.Pattern.read pattern.toList).toOption }

/-! ### Warnings -/

/-- The warning about what is passed over. -/
def warning (complaint : String) : String :=
  "warning: " ++ complaint ++ ", ignoring it"

/-- What is wrong with an item that says nothing clear. -/
def complaint? : Item → Option String
  | .unclear text => some ("invalid logging spec '" ++ text ++ "'")
  | _ => none

/-- What is wrong with a written pattern. -/
def patternComplaint? (pattern : String) : Option String :=
  match Text.Pattern.read pattern.toList with
  | .ok _ => none
  | .error fault => some ("invalid regex filter - " ++ fault.message pattern.toList)

/-- What is wrong with a written filter. -/
def complaints (written : String) : List String :=
  match cut? written with
  | none => ["invalid logging spec '" ++ written ++ "' (too many '/'s)"]
  | some (text, pattern?) =>
    (items text).filterMap complaint? ++ (pattern?.bind patternComplaint?).toList

/-- The warnings about a written filter. -/
def warnings (written? : Option String) : List String :=
  (written?.elim [] complaints).map warning

end Filter

end CircuitLang.Log
