import CircuitLang.Text.Pattern.Cursor

/-! Escapes: a backslash and the characters behind it.

A backslash takes the meaning from a character that has one, and gives one to some
letters: a control, a character by its code point, a class of characters, or a
condition on a place. -/
namespace CircuitLang.Text.Pattern

/-! ### Numbers and names -/

/-- The value of a digit to the base sixteen. -/
def hexDigit? (c : Char) : Option Nat :=
  if '0' ≤ c ∧ c ≤ '9' then some (c.toNat - '0'.toNat)
  else if 'a' ≤ c ∧ c ≤ 'f' then some (c.toNat - 'a'.toNat + 10)
  else if 'A' ≤ c ∧ c ≤ 'F' then some (c.toNat - 'A'.toNat + 10)
  else none

/-- The number that digits to a base stand for, or `bound` if it is no less. -/
def numberBelow (bound base : Nat) (digits : List Char) : Nat :=
  (digits.filterMap hexDigit?).foldl (fun n d => min bound (base * n + d)) 0

/-- The character that digits to the base sixteen stand for. -/
def character? (digits : List Char) : Option Char :=
  let code := numberBelow (CharRange.greatest + 1) 16 digits
  if code.isValidChar then some (Char.ofNat code) else none

/-- The name of a property without case, without what may stand between its words, and
without `is` at its head. Only its basic Latin characters count. -/
def plainName (name : List Char) : String :=
  let body := if (name.take 2).map Char.toLower = ['i', 's'] then name.drop 2 else name
  let kept := body.filter fun c => c ≤ '\x7f' && c ∉ [' ', '_', '-']
  String.ofList (kept.map Char.toLower)

/-- What is wrong with a property: none is known. Three names are looked for only among
the values of a property. -/
def propertyCause (name : List Char) : Cause :=
  if ':' ∉ name ∧ '=' ∉ name ∧ plainName name ∈ ["cf", "sc", "lc"] then .noPropertyValue
  else .noPropertyNamed

/-- The place with regard to words that a name between braces stands for. -/
def wordLook? : String → Option WordLook
  | "start" => some .start
  | "end" => some .stop
  | "start-half" => some .startHalf
  | "end-half" => some .stopHalf
  | _ => none

/-- The class of a letter; the capital letter stands for all else. -/
def letterClass (c : Char) : Atom :=
  let s := if c.toLower = 'd' then CharSet.digit else if c.toLower = 's' then .space else .word
  .letter s c.isUpper

/-- Whether a character can be escaped to stand for itself. -/
def isMark (c : Char) : Bool :=
  c ≤ '\x7f' && !c.isAlphanum && c ≠ '<' && c ≠ '>'

namespace Reader

/-! ### Code points -/

/-- The character of some digits that stand between two offsets. -/
def codePoint (digits : List Char) (first stop : Nat) : Reader Char :=
  match character? digits with
  | some c => return c
  | none => fail .hexInvalid first stop

/-- Reads so many digits and what stands for nothing between them. -/
def hexDigits : Nat → Reader (List Char)
  | 0 => return []
  | n + 1 => do
    match ← peek with
    | none => failHere .escapeUnfinished 0
    | some c =>
      if (hexDigit? c).isNone then failHere .hexNoDigit 1
      next
      return c :: (← hexDigits n)

/-- Reads a code point in so many digits, or in any number between braces. -/
def hex (count : Nat) : Reader Atom := do
  next
  let start ← offset
  match ← peek with
  | none => failHere .escapeUnfinished 0
  | some '\x7b' =>
    next
    let digits ← readSpaced fun c => (hexDigit? c).isSome
    let stop ← offset
    match ← peek with
    | none => failFrom .escapeUnfinished start
    | some '\x7d' =>
      next
      if digits.isEmpty then failFrom .hexEmpty start
      return .char (← codePoint digits (start + 1) stop) false
    | some _ => failHere .hexNoDigit 1
  | some _ =>
    let digits ← hexDigits count
    return .char (← codePoint digits start (← offset)) (count = 2)

/-! ### Properties -/

/-- Reads a class by a property, which is a character or stands between braces. -/
def property : Reader Atom := do
  next
  match ← peek with
  | none => failHere .escapeUnfinished 0
  | some '\x7b' =>
    next
    let name ← readSpaced (· ≠ '\x7d')
    if (← peek).isNone then failHere .escapeUnfinished 0
    advance
    return .property (propertyCause name)
  | some '\\' => failHere .propertyInvalid 1
  | some c =>
    next
    return .property (propertyCause [c])

/-! ### Conditions -/

/-- Reads the name between braces of a place with regard to words, if there is one:
braces that begin with anything but a letter or a hyphen are a repetition. -/
def namedWordLook? (start : Nat) : Reader (Option WordLook) := do
  let before ← get
  let kind := fun c : Char => c.isAlpha || c = '-'
  if before.rest.head? ≠ some '\x7b' then return none
  next
  let first ← offset
  match ← peek with
  | none => failFrom .boundaryUnfinished start
  | some c =>
    if kind c then
      let name ← readSpaced kind
      let stop ← offset
      if (← peek) ≠ some '\x7d' then failFrom .boundaryUnclosed before.offset
      advance
      match wordLook? (String.ofList name) with
      | some found => return some found
      | none => fail .boundaryUnknown first stop
    else
      modify fun _ => before
      return none

/-- What a letter behind a backslash stands for. -/
def letterEscape (start : Nat) : Char → Reader Atom
  | 'a' => return .char '\x07' false
  | 'f' => return .char '\x0c' false
  | 't' => return .char '\t' false
  | 'n' => return .char '\n' false
  | 'r' => return .char '\r' false
  | 'v' => return .char '\x0b' false
  | 'A' => return .condition .textStart
  | 'z' => return .condition .textEnd
  | 'b' => do return .condition (.word ((← namedWordLook? start).getD .boundary))
  | 'B' => return .condition (.word .noBoundary)
  | '<' => return .condition (.word .start)
  | '>' => return .condition (.word .stop)
  | _ => failFrom .escapeUnknown start

/-! ### All escapes -/

def escape : Reader Atom := do
  let start ← offset
  advance
  match ← peek with
  | none => failFrom .escapeUnfinished start
  | some c =>
    if c.isDigit then fail .backreference start (← offset).succ
    else if c = 'x' then hex 2
    else if c = 'u' then hex 4
    else if c = 'U' then hex 8
    else if c ∈ ['p', 'P'] then property
    else
      advance
      if c ∈ ['d', 's', 'w', 'D', 'S', 'W'] then return letterClass c
      else if isMark c then return .char c false
      else letterEscape start c

end Reader

end CircuitLang.Text.Pattern
