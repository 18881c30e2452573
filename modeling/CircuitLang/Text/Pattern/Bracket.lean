import CircuitLang.Text.Pattern.Escape

/-! Reading what stands between brackets.

Between brackets stand characters, ranges, escapes, classes by name and classes
between brackets again, which all together are a union; a circumflex at the head
stands for all else. Unions can be joined by `&&` (both), `--` (the first without the
second) and `~~` (one of the two), from left to right. -/
namespace CircuitLang.Text.Pattern

/-- What has been read of a class. -/
structure ClassDraft where
  negated : Bool
  /-- Where the head of the class stands. -/
  opened : Extent
  /-- The union before the last junction. -/
  before? : Option (Junction × ClassForm)
  /-- Where the union behind it begins, and its items, the last first. -/
  start : Nat
  items : List ClassForm

namespace ClassDraft

def push (d : ClassDraft) (item : ClassForm) : ClassDraft :=
  { d with items := item :: d.items }

def union (d : ClassDraft) : ClassForm :=
  match d.items with
  | [] => .nothing ⟨d.start, d.start⟩
  | [item] => item
  | last :: _ =>
    let items := d.items.reverse
    .union items ⟨(items.head?.getD last).extent.first, last.extent.stop⟩

/-- All unions joined. -/
def body (d : ClassDraft) : ClassForm :=
  match d.before? with
  | none => d.union
  | some (j, a) => .joint j a d.union ⟨a.extent.first, d.union.extent.stop⟩

/-- The draft behind a junction that ends at an offset. -/
def join (d : ClassDraft) (j : Junction) (stop : Nat) : ClassDraft :=
  { d with before? := some (j, d.body), start := stop, items := [] }

/-- The class, which ends at an offset. -/
def close (d : ClassDraft) (stop : Nat) : ClassForm :=
  .bracket d.negated d.body ⟨d.opened.first, stop⟩

end ClassDraft

/-- The class that a name between colons stands for, whether it is negated, and how many
characters it takes from its bracket on. -/
def namedClass? (source : List Char) : Option (CharSet × Bool × Nat) :=
  match source with
  | '[' :: ':' :: rest =>
    let negated := rest.head? = some '^'
    let rest := if negated then rest.drop 1 else rest
    let name := rest.takeWhile (· ≠ ':')
    match rest.drop name.length with
    | ':' :: ']' :: _ =>
      (CharSet.named? (String.ofList name)).map fun s =>
        (s, decide negated, name.length + if negated then 5 else 4)
    | _ => none
  | _ => none

namespace Reader

/-- Stops because a class is not closed. -/
def failOpen {α : Type} (opened : Extent) : Reader α :=
  fail .classUnclosed opened.first opened.stop

/-! ### Items -/

/-- Reads a character or an escape, and where it stands. -/
def primitive : Reader (Atom × Extent) := do
  let start ← offset
  let atom ← match ← peek with
    | some '\\' => escape
    | some c =>
      advance
      pure (.char c false)
    | none => pure .dot
  return (atom, ⟨start, ← offset⟩)

/-- A character as an end of a range. -/
def rangeEnd : Atom × Extent → Reader RangeEnd
  | (.char c byte, extent) => return ⟨c, byte, extent⟩
  | (_, extent) => fail .classBoundary extent.first extent.stop

/-- A character or an escape as an item of a class. -/
def single : Atom × Extent → Reader ClassForm
  | (.condition _, extent) => fail .classEscape extent.first extent.stop
  | (a, extent) => return .atom a extent

/-- Reads a character, an escape or a range in the class that opens at an extent. -/
def item (opened : Extent) : Reader ClassForm := do
  let first ← primitive
  skip
  let c ← get
  match c.rest with
  | [] => failOpen opened
  | '-' :: rest =>
    let behind := if c.spaced then glance rest else rest.head?
    if behind = some ']' || behind = some '-' then single first
    else
      next
      if (← peek).isNone then failOpen opened
      let last ← primitive
      let a ← rangeEnd first
      let b ← rangeEnd last
      if b.char < a.char then fail .classInverted a.extent.first b.extent.stop
      return .range a b
  | _ => single first

/-! ### The class -/

/-- Reads literal hyphens at the head of a class. -/
def hyphens : Nat → ClassDraft → Reader ClassDraft
  | 0, d => return d
  | fuel + 1, d => do
    if (← peek) ≠ some '-' then return d
    let here ← offset
    next
    if (← peek).isNone then failOpen ⟨d.opened.first, d.opened.first⟩
    hyphens fuel (d.push (.atom (.char '-' false) ⟨here, here + 1⟩))

/-- Reads the head of a class, with the characters that stand for themselves only there. -/
def classHead : Reader ClassDraft := do
  let start ← offset
  next
  let negated := (← peek) = some '^'
  if negated then next
  if (← peek).isNone then failFrom .classUnclosed start
  let union ← offset
  let d ← hyphens (← get).left ⟨negated, ⟨start, start⟩, none, union, []⟩
  if d.items.isEmpty ∧ (← peek) = some ']' then
    let here ← offset
    next
    if (← peek).isNone then failFrom .classUnclosed start
    let d := d.push (.atom (.char ']' false) ⟨here, here + 1⟩)
    return { d with opened := ⟨start, ← offset⟩ }
  return { d with opened := ⟨start, ← offset⟩ }

/-- Reads on in a class, which may stand in others, and goes on behind all of them. -/
def classRest : Nat → ClassDraft → List ClassDraft → Reader ClassForm
  | 0, d, _ => return d.body
  | fuel + 1, d, outer => do
    skip
    let c ← get
    let joined := fun (j : Junction) => do
      advance
      advance
      return d.join j (← offset)
    match c.rest with
    | [] => failOpen d.opened
    | ']' :: _ =>
      advance
      let done := d.close (← offset)
      match outer with
      | [] => return done
      | around :: outer => classRest fuel (around.push done) outer
    | '&' :: '&' :: _ =>
      let d ← joined .both
      classRest fuel d outer
    | '-' :: '-' :: _ =>
      let d ← joined .without
      classRest fuel d outer
    | '~' :: '~' :: _ =>
      let d ← joined .either
      classRest fuel d outer
    | '[' :: _ =>
      match namedClass? c.rest with
      | some (s, negated, width) =>
        modify fun c => Nat.repeat Cursor.advance width c
        let extent : Extent := ⟨c.offset, ← offset⟩
        classRest fuel (d.push (.named s negated extent)) outer
      | none =>
        let inner ← classHead
        classRest fuel inner (d :: outer)
    | _ =>
      let form ← item d.opened
      classRest fuel (d.push form) outer

def bracket : Reader ClassForm := do
  let d ← classHead
  classRest ((← get).left + 1) d []

end Reader

end CircuitLang.Text.Pattern
