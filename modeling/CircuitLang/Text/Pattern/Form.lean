import CircuitLang.Text.Pattern
import CircuitLang.Text.Pattern.Fault

/-! A pattern as it is written.

A form says what stands in a pattern and where. What it stands for depends on the flags
in force, and it may stand for nothing that is known. Forms must not stand too deep in
each other: `tooDeep?` finds the first one that does, in the order in which they open. -/
namespace CircuitLang.Text.Pattern

inductive Flag where
  | ignoreCase
  | multiLine
  | dotAll
  | fewerFirst
  | wide
  | returns
  | spaced
  deriving DecidableEq, Repr

/-- Flags that are set or unset. -/
abbrev Changes := List (Flag × Bool)

/-- A condition on a place, which may depend on the flags. -/
inductive Condition where
  | lineStart
  | lineEnd
  | textStart
  | textEnd
  | word (kind : WordLook)
  deriving DecidableEq, Repr

/-- A single character, or an escape that stands for one or for a condition. -/
inductive Atom where
  /-- A character; `byte` if it is written as two digits, which may mean a byte. -/
  | char (c : Char) (byte : Bool)
  /-- A class that has a letter, or all else. -/
  | letter (s : CharSet) (negated : Bool)
  /-- A class by a property; the cause says what is wrong with it. -/
  | property (cause : Cause)
  | dot
  | condition (c : Condition)
  deriving DecidableEq, Repr

/-- How two unions in a class are joined. -/
inductive Junction where
  | both
  | without
  | either
  deriving DecidableEq, Repr

/-- A character as an end of a range, as in `Atom.char`. -/
structure RangeEnd where
  char : Char
  byte : Bool
  extent : Extent
  deriving DecidableEq, Repr

/-- What stands between brackets. -/
inductive ClassForm where
  | nothing (extent : Extent)
  | atom (a : Atom) (extent : Extent)
  | range (first last : RangeEnd)
  /-- A class that has a name, or all else. -/
  | named (s : CharSet) (negated : Bool) (extent : Extent)
  | bracket (negated : Bool) (body : ClassForm) (extent : Extent)
  | union (items : List ClassForm) (extent : Extent)
  | joint (j : Junction) (a b : ClassForm) (extent : Extent)

def ClassForm.extent : ClassForm → Extent
  | nothing e => e
  | atom _ e => e
  | range first last => ⟨first.extent.first, last.extent.stop⟩
  | named _ _ e => e
  | bracket _ _ e => e
  | union _ e => e
  | joint _ _ _ e => e

/-- What a group does besides holding its parts together. -/
inductive GroupKind where
  | numbered (index : Nat)
  | flagged (changes : Changes)

inductive Form where
  | empty (extent : Extent)
  /-- Flags for the rest of the group. -/
  | flags (changes : Changes) (extent : Extent)
  | atom (a : Atom) (extent : Extent)
  | bracket (c : ClassForm)
  | rep (p : Form) (least : Nat) (most? : Option Nat) (fewer : Bool) (extent : Extent)
  | group (kind : GroupKind) (p : Form) (extent : Extent)
  | cat (ps : List Form) (extent : Extent)
  | alt (ps : List Form) (extent : Extent)

def Form.extent : Form → Extent
  | empty e => e
  | flags _ e => e
  | atom _ e => e
  | bracket c => c.extent
  | rep _ _ _ _ e => e
  | group _ _ e => e
  | cat _ e => e
  | alt _ e => e

/-! ### Depth -/

mutual

/-- The first part of a class that stands deeper than `room` parts. -/
def ClassForm.tooDeep? (room : Nat) : ClassForm → Option Extent
  | .bracket _ body e => if room = 0 then some e else body.tooDeep? (room - 1)
  | .union items e => if room = 0 then some e else ClassForm.firstTooDeep? (room - 1) items
  | .joint _ a b e =>
    if room = 0 then some e
    else
      match a.tooDeep? (room - 1) with
      | some e => some e
      | none => b.tooDeep? (room - 1)
  | _ => none

def ClassForm.firstTooDeep? (room : Nat) : List ClassForm → Option Extent
  | [] => none
  | c :: cs =>
    match c.tooDeep? room with
    | some e => some e
    | none => ClassForm.firstTooDeep? room cs

end

mutual

/-- The first part of a form that stands deeper than `room` parts. -/
def Form.tooDeep? (room : Nat) : Form → Option Extent
  | .bracket c => c.tooDeep? room
  | .rep p _ _ _ e => if room = 0 then some e else p.tooDeep? (room - 1)
  | .group _ p e => if room = 0 then some e else p.tooDeep? (room - 1)
  | .cat ps e => if room = 0 then some e else Form.firstTooDeep? (room - 1) ps
  | .alt ps e => if room = 0 then some e else Form.firstTooDeep? (room - 1) ps
  | _ => none

def Form.firstTooDeep? (room : Nat) : List Form → Option Extent
  | [] => none
  | p :: ps =>
    match p.tooDeep? room with
    | some e => some e
    | none => Form.firstTooDeep? room ps

end

end CircuitLang.Text.Pattern
