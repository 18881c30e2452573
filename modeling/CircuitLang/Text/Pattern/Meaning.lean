import CircuitLang.Text.Pattern.Form
import CircuitLang.Text.Pattern.Normal

/-! What the form of a pattern stands for.

Flags hold from where they are set to the end of their group. Among all characters,
that is unless they say otherwise, neither the letters' other case nor the classes of a
letter or a property are known. Among bytes they stand for basic Latin characters, and
what would fit a part of a character is refused. -/
namespace CircuitLang.Text.Pattern

structure Flags where
  /-- Letters of either case. -/
  ignoreCase : Bool := false
  /-- Line starts and ends, and not only those of the text. -/
  multiLine : Bool := false
  /-- The dot fits a line feed too. -/
  dotAll : Bool := false
  /-- Repetitions try fewer rounds first, unless they are marked. -/
  fewerFirst : Bool := false
  /-- All characters, and not only bytes. -/
  wide : Bool := true
  /-- A carriage return ends a line too. -/
  returns : Bool := false
  deriving DecidableEq, Repr

namespace Flags

def change (f : Flags) : Flag × Bool → Flags
  | (.ignoreCase, value) => { f with ignoreCase := value }
  | (.multiLine, value) => { f with multiLine := value }
  | (.dotAll, value) => { f with dotAll := value }
  | (.fewerFirst, value) => { f with fewerFirst := value }
  | (.wide, value) => { f with wide := value }
  | (.returns, value) => { f with returns := value }
  | (.spaced, _) => f

def changeAll (f : Flags) (changes : Changes) : Flags :=
  changes.foldl change f

end Flags

def refuse {α : Type} (cause : Cause) (extent : Extent) : Except Fault α :=
  .error (.written cause extent none)

/-! ### Classes -/

/-- A set; `closed` if it is known to have the other case of all its letters. -/
structure Letters where
  set : CharSet
  closed : Bool

namespace Letters

def none : Letters := ⟨.empty, true⟩

def ofSet (s : CharSet) : Letters := ⟨s, s.isEmpty⟩

def union (a b : Letters) : Letters :=
  if b.set.isEmpty ∨ a.set = b.set then a else ⟨a.set.union b.set, a.closed && b.closed⟩

def inter (a b : Letters) : Letters :=
  if a.set.isEmpty then a
  else if b.set.isEmpty then none
  else ⟨a.set.inter b.set, a.closed && b.closed⟩

def diff (a b : Letters) : Letters :=
  if a.set.isEmpty ∨ b.set.isEmpty then a else ⟨a.set.diff b.set, a.closed && b.closed⟩

def compl (a : Letters) : Letters :=
  if a.set.isEmpty then ⟨.all, true⟩ else ⟨a.set.compl, a.closed⟩

/-- Two sets joined. -/
def joint (a b : Letters) : Junction → Letters
  | .both => a.inter b
  | .without => a.diff b
  | .either => (a.union b).diff (a.inter b)

/-- A set with either case of its letters, if case is ignored. -/
def fold (f : Flags) (extent : Extent) (a : Letters) : Except Fault Letters :=
  if !f.ignoreCase then .ok a
  else if !f.wide then .ok ⟨a.set.eitherCase, true⟩
  else if a.closed || a.set.isEmpty then .ok ⟨a.set, true⟩
  else refuse .noWideCase extent

/-- A set that is finished, or all else. -/
def finish (f : Flags) (negated : Bool) (extent : Extent) (a : Letters) :
    Except Fault Letters := do
  let a ← a.fold f extent
  if !negated then return a
  if f.wide then return a.compl
  refuse .noText extent

end Letters

/-- A class by a letter, which is known among bytes only. -/
def letterSet (f : Flags) (s : CharSet) (negated : Bool) (extent : Extent) :
    Except Fault CharSet :=
  if f.wide then refuse .noWideClass extent
  else if negated then refuse .noText extent
  else .ok s

/-- A class by a property, which is never known. -/
def propertySet (f : Flags) (cause : Cause) (extent : Extent) : Except Fault CharSet :=
  refuse (if f.wide then cause else .noBytes) extent

/-- Refuses what is no basic Latin character among bytes in a class. -/
def checkByte (f : Flags) (e : RangeEnd) : Except Fault Unit :=
  if f.wide || e.char ≤ '\x7f' then .ok ()
  else refuse (if e.byte then .noText else .noBytes) e.extent

/-- The set of an atom in a class. -/
def atomSet (f : Flags) (a : Atom) (extent : Extent) : Except Fault CharSet :=
  match a with
  | .char c byte => do
    checkByte f ⟨c, byte, extent⟩
    return .single c
  | .letter s negated => letterSet f s negated extent
  | .property cause => propertySet f cause extent
  | .dot => .ok .all
  | .condition _ => .ok .empty

mutual

/-- The set that stands between brackets. -/
def ClassForm.meaning (f : Flags) : ClassForm → Except Fault Letters
  | .nothing _ => .ok .none
  | .atom a e => do return .ofSet (← atomSet f a e)
  | .range first last => do
    checkByte f first
    checkByte f last
    return .ofSet (.range first.char last.char)
  | .named s negated e => (Letters.ofSet s).finish f negated e
  | .bracket negated body e => do (← body.meaning f).finish f negated e
  | .union items _ => ClassForm.meaningAll f items []
  | .joint j a b _ => do
    let first ← a.meaning f
    let second ← b.meaning f
    let second ← second.fold f b.extent
    let first ← first.fold f a.extent
    return first.joint second j

/-- The union of items, of which some are done. -/
def ClassForm.meaningAll (f : Flags) : List ClassForm → List Letters → Except Fault Letters
  | [], done =>
    .ok ⟨.ofRanges (done.flatMap fun a => a.set.ranges), done.all fun a => a.closed⟩
  | item :: items, done => do
    let a ← item.meaning f
    ClassForm.meaningAll f items (a :: done)

end

/-! ### Atoms -/

def charPattern (f : Flags) (c : Char) (byte : Bool) (extent : Extent) :
    Except Fault Pattern :=
  if f.wide then
    if f.ignoreCase then refuse .noWideCase extent else .ok (literal [c])
  else if c > '\x7f' then
    if byte then refuse .noText extent else .ok (literal [c])
  else .ok (ofSet (if f.ignoreCase then (CharSet.single c).eitherCase else .single c) false)

def dotPattern (f : Flags) (extent : Extent) : Except Fault Pattern :=
  if !f.wide then refuse .noText extent
  else if f.dotAll then .ok (set .all true)
  else
    let ends := if f.returns then [('\n', '\n'), ('\r', '\r')] else [('\n', '\n')]
    .ok (set (CharSet.ofEnds ends).compl true)

def conditionLook (f : Flags) : Condition → Look
  | .textStart => .textStart
  | .textEnd => .textEnd
  | .lineStart =>
    if !f.multiLine then .textStart else if f.returns then .returnLineStart else .lineStart
  | .lineEnd => if !f.multiLine then .textEnd else if f.returns then .returnLineEnd else .lineEnd
  | .word kind => .word kind f.wide

def atomPattern (f : Flags) (a : Atom) (extent : Extent) : Except Fault Pattern :=
  match a with
  | .char c byte => charPattern f c byte extent
  | .letter s negated => do return ofSet (← letterSet f s negated extent) false
  | .property cause => do return ofSet (← propertySet f cause extent) true
  | .dot => dotPattern f extent
  | .condition c => .ok (look (conditionLook f c))

/-! ### Forms -/

mutual

/-- What a form stands for under flags, and the flags behind it. -/
def Form.meaning (f : Flags) : Form → Except Fault (Pattern × Flags)
  | .empty _ => .ok (Pattern.empty, f)
  | .flags changes _ => .ok (Pattern.empty, f.changeAll changes)
  | .atom a e => do return (← atomPattern f a e, f)
  | .bracket c => do return (ofSet (← c.meaning f).set f.wide, f)
  | .rep p least most? fewer _ => do
    let (p, f) ← p.meaning f
    return (repeated p least most? (fewer == f.fewerFirst), f)
  | .group kind p _ => do
    match kind with
    | .numbered index =>
      let (p, _) ← p.meaning f
      return (Pattern.group index p, f)
    | .flagged changes =>
      let (p, _) ← p.meaning (f.changeAll changes)
      return (p, f)
  | .cat ps _ => do
    let (ps, f) ← Form.meaningAll f ps []
    return (sequence ps, f)
  | .alt ps _ => do
    let (ps, f) ← Form.meaningAll f ps []
    return (choice ps, f)

/-- What forms stand for, one after the other, behind some that are done. -/
def Form.meaningAll (f : Flags) : List Form → List Pattern → Except Fault (List Pattern × Flags)
  | [], done => .ok (done.reverse, f)
  | p :: ps, done => do
    let (p, f) ← p.meaning f
    Form.meaningAll f ps (p :: done)

end

end CircuitLang.Text.Pattern
