import CircuitLang.Text.Letter
import CircuitLang.Text.Pattern.Bracket

/-! Reading the form of a pattern.

A pattern is a choice of sequences. Groups, classes, escapes and single characters
stand one behind the other, and a repetition behind what it repeats. Groups are kept on
a stack while they are open, so a pattern may open any number of them. -/
namespace CircuitLang.Text.Pattern

/-- What has been read of a group. -/
structure Draft where
  /-- Where the group begins, and its sequences, the last first. -/
  start : Nat
  finished : List Form
  /-- Where the sequence being read begins, and its parts, the last first. -/
  current : Nat
  parts : List Form

namespace Draft

def blank (start : Nat) : Draft :=
  ⟨start, [], start, []⟩

def push (d : Draft) (p : Form) : Draft :=
  { d with parts := p :: d.parts }

/-- The sequence being read, if it ends at an offset. -/
def sequence (d : Draft) (stop : Nat) : Form :=
  match d.parts with
  | [] => .empty ⟨d.current, d.current⟩
  | [p] => p
  | parts => .cat parts.reverse ⟨d.current, stop⟩

/-- The draft behind a bar at an offset. -/
def bar (d : Draft) (here : Nat) : Draft :=
  { d with finished := d.sequence here :: d.finished, current := here + 1, parts := [] }

/-- The choice of all sequences, if it ends at an offset. -/
def choice (d : Draft) (stop : Nat) : Form :=
  match d.finished with
  | [] => d.sequence stop
  | finished => .alt (d.sequence stop :: finished).reverse ⟨d.start, stop⟩

end Draft

/-- A group that is not closed yet. -/
structure OpenGroup where
  start : Nat
  kind : GroupKind
  /-- Whether blanks stand for nothing around it. -/
  spaced : Bool
  /-- What has been read around it. -/
  around : Draft

/-- What the head of a group says. -/
inductive Opening where
  | flags (changes : Changes)
  | group (kind : GroupKind)

def flag? : Char → Option Flag
  | 'i' => some .ignoreCase
  | 'm' => some .multiLine
  | 's' => some .dotAll
  | 'U' => some .fewerFirst
  | 'u' => some .wide
  | 'R' => some .returns
  | 'x' => some .spaced
  | _ => none

namespace Reader

/-! ### Single characters -/

def character : Reader Form := do
  let start ← offset
  let atom ← match ← peek with
    | some '\\' => escape
    | some c =>
      advance
      pure <| match c with
        | '.' => .dot
        | '^' => .condition .lineStart
        | '$' => .condition .lineEnd
        | c => .char c false
    | none => pure .dot
  return .atom atom ⟨start, ← offset⟩

/-! ### Groups -/

/-- Reads flags up to a colon or a closing parenthesis. `seen` holds the letters before
and where they stand, the last first; behind a hyphen flags are unset. -/
def flagList : Nat → List (Char × Nat) → Changes → Reader Changes
  | 0, _, changes => return changes.reverse
  | fuel + 1, seen, changes => do
    let here ← offset
    match ← peek with
    | none => failHere .flagUnfinished 0
    | some c =>
      if c = ':' || c = ')' then
        match seen with
        | ('-', hyphen) :: _ => fail .flagDangling hyphen (hyphen + 1)
        | _ => return changes.reverse
      else
        let flag := flag? c
        if flag.isNone ∧ c ≠ '-' then failHere .flagUnknown 1
        match seen.lookup c with
        | some earlier =>
          let cause := if c = '-' then Cause.flagNegatedTwice else .flagRepeated
          throw (.written cause ⟨here, here + 1⟩ (some ⟨earlier, earlier + 1⟩))
        | none =>
          advance
          let value := (seen.lookup '-').isNone
          flagList fuel ((c, here) :: seen) ((flag.toList.map (·, value)) ++ changes)

/-- Counts a group with a number. -/
def numberGroup : Reader GroupKind := do
  modify fun c => { c with groups := c.groups + 1 }
  return .numbered (← get).groups

/-- Reads the name of a group and the bracket behind it. -/
def groupName : Reader Unit := do
  let first ← offset
  match ← peek with
  | none => failHere .nameUnclosed 0
  | some c => if !(c = '>' || c = '_' || isAlphabetic c) then failHere .nameInvalid 1
  let name ← readAll fun c => c ∈ ['_', '.', '[', ']'] || isAlphanumeric c
  let stop ← offset
  match ← peek with
  | none => failHere .nameUnclosed 0
  | some '>' => advance
  | some _ => failHere .nameInvalid 1
  if name.isEmpty then fail .nameEmpty first first
  let name := String.ofList name
  let extent : Extent := ⟨first, stop⟩
  match (← get).names.lookup name with
  | some earlier => throw (.written .nameRepeated extent (some earlier))
  | none => modify fun c => { c with names := (name, extent) :: c.names }

/-- Reads the head of a group. -/
def opening : Reader Opening := do
  let start ← offset
  next
  let here ← offset
  if ← acceptAny ["?=", "?!", "?<=", "?<!"] then failFrom .lookAround start
  if ← acceptAny ["?P<", "?<"] then
    let kind ← numberGroup
    groupName
    return .group kind
  if ← accept "?" then
    if (← peek).isNone then fail .groupUnclosed start (start + 1)
    let changes ← flagList ((← get).left + 1) [] []
    let isDirective := (← peek) = some ')'
    advance
    if !isDirective then return .group (.flagged changes)
    if changes.isEmpty then fail .nothingToRepeat here here
    return .flags changes
  return .group (← numberGroup)

/-! ### Repetitions -/

/-- The numbers of a repetition are below this one. -/
def countBound : Nat := 4294967296

/-- Reads a number with blanks around it. A fault in it is given back, since a fault
behind it may go before. -/
def number : Reader (Except Fault Nat) := do
  let _ ← readAll whiteSpace.contains
  let start ← offset
  let digits ← readSpaced Char.isDigit
  let extent : Extent := ⟨start, ← offset⟩
  let _ ← readSpaced whiteSpace.contains
  let n := numberBelow countBound 10 digits
  if digits.isEmpty then return .error (.written .countEmpty extent none)
  if n = countBound then return .error (.written .countTooLarge extent none)
  return .ok n

/-- Reads the numbers of a repetition between braces that begins at an offset. -/
def counts (start : Nat) : Reader (Nat × Option Nat) := do
  next
  if (← peek).isNone then failFrom .countUnclosed start
  let least ← number
  match ← peek with
  | none => failFrom .countUnclosed start
  | some ',' =>
    next
    match ← peek with
    | none => failFrom .countUnclosed start
    | some '\x7d' => return (← liftM least, none)
    | some _ =>
      let least ← liftM least
      let most ← number
      return (least, some (← liftM most))
  | some _ =>
    let least ← liftM least
    return (least, some least)

/-- Passes over a mark that asks for fewer rounds first. -/
def fewerMark : Reader Bool :=
  accept "?"

def repetition (p : Form) (mark : Char) : Reader Form := do
  let start ← offset
  if mark = '\x7b' then
    let (least, most?) ← counts start
    if (← peek) ≠ some '\x7d' then failFrom .countUnclosed start
    next
    let fewer ← fewerMark
    if most?.any (· < least) then failFrom .countInverted start
    return .rep p least most? fewer ⟨p.extent.first, ← offset⟩
  advance
  let fewer ← fewerMark
  let least := if mark = '+' then 1 else 0
  let most? := if mark = '?' then some 1 else none
  return .rep p least most? fewer ⟨p.extent.first, ← offset⟩

/-- Reads a repetition of the last part of a draft. -/
def repeatLast (d : Draft) (mark : Char) : Reader Draft := do
  match d.parts with
  | [] => failHere .nothingToRepeat 0
  | .flags .. :: _ => failHere .nothingToRepeat 0
  | p :: rest => return { d with parts := (← repetition p mark) :: rest }

/-! ### The pattern -/

/-- Reads on in a group, which may stand in others, up to the end of the pattern. -/
def form : Nat → Draft → List OpenGroup → Reader Form
  | 0, d, _ => return d.choice d.start
  | fuel + 1, d, outer => do
    skip
    let here ← offset
    match ← peek with
    | none =>
      match outer with
      | [] => return d.choice here
      | g :: _ => fail .groupUnclosed g.start (g.start + 1)
    | some '|' =>
      advance
      form fuel (d.bar here) outer
    | some '(' =>
      let spaced := (← get).spaced
      match ← opening with
      | .flags changes =>
        modify fun c => { c with spaced := (changes.lookup .spaced).getD spaced }
        let extent : Extent := ⟨here, ← offset⟩
        form fuel (d.push (.flags changes extent)) outer
      | .group kind =>
        let inside :=
          match kind with
          | .flagged changes => (changes.lookup .spaced).getD spaced
          | .numbered _ => spaced
        modify fun c => { c with spaced := inside }
        let start ← offset
        form fuel (.blank start) (⟨here, kind, spaced, d⟩ :: outer)
    | some ')' =>
      match outer with
      | [] => failHere .groupUnopened 1
      | g :: outer =>
        modify fun c => { c.advance with spaced := g.spaced }
        let closed : Form := .group g.kind (d.choice here) ⟨g.start, here + 1⟩
        form fuel (g.around.push closed) outer
    | some '[' =>
      let c ← bracket
      form fuel (d.push (.bracket c)) outer
    | some c =>
      if c ∈ ['?', '*', '+', '\x7b'] then
        let d ← repeatLast d c
        form fuel d outer
      else
        let p ← character
        form fuel (d.push p) outer

end Reader

/-- Reads the form of a pattern, which may not be too deep. -/
def Form.read (source : List Char) : Except Fault Form := do
  let (form, _) ← (Reader.form (source.length + 1) (.blank 0) []).run (.start source)
  match form.tooDeep? depthLimit with
  | some extent => throw (.written .tooDeep extent none)
  | none => return form

end CircuitLang.Text.Pattern
