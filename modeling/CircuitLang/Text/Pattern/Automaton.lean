import CircuitLang.Text.Pattern.Normal
import CircuitLang.Text.Pattern.SetRoom
import CircuitLang.Text.Pattern.WordTree

/-! The automata of a pattern.

A pattern is looked for with an automaton that reads a text forward and one that reads
it backward. Neither is built here; what is settled is whether each is small enough to
be built. A repetition has its pattern as often as it counts. -/
namespace CircuitLang.Text.Pattern

/-- How a text is read. -/
inductive Direction where
  | forward
  | backward
  deriving DecidableEq, Repr

/-! ### Order -/

mutual

/-- The pattern with all sequences the other way round. -/
def turned : Pattern → Pattern
  | empty => empty
  | literal cs => literal cs
  | set s wide => set s wide
  | look l => look l
  | rep p least most? eager => rep p.turned least most? eager
  | group index p => group index p.turned
  | cat ps => cat (turnedAll ps [])
  | alt ps => alt (turnedAll ps []).reverse

/-- The last pattern first. -/
def turnedAll : List Pattern → List Pattern → List Pattern
  | [], done => done
  | p :: ps, done => turnedAll ps (p.turned :: done)

end

/-! ### Places where a pattern begins and ends -/

mutual

/-- Whether what fits begins at a place with a condition, as far as the pattern says so
in the first part that takes a character. -/
def beginsAt (l : Look) : Pattern → Bool
  | look m => l = m
  | rep p least _ _ => 0 < least && p.beginsAt l
  | group _ p => p.beginsAt l
  | cat ps => anyBeginsAt l ps
  | alt ps => !ps.isEmpty && allBeginAt l ps
  | empty => false
  | literal _ => false
  | set _ _ => false

/-- Whether one of the parts does, up to the first that takes a character. -/
def anyBeginsAt (l : Look) : List Pattern → Bool
  | [] => false
  | p :: ps => p.beginsAt l || (p.fitsOnlyEmpty && anyBeginsAt l ps)

def allBeginAt (l : Look) : List Pattern → Bool
  | [] => true
  | p :: ps => p.beginsAt l && allBeginAt l ps

end

mutual

/-- Whether a pattern asks for words with letters of all kinds. -/
def asksWideWords : Pattern → Bool
  | look (.word _ wide) => wide
  | rep p _ _ _ => p.asksWideWords
  | group _ p => p.asksWideWords
  | cat ps => anyAsksWideWords ps
  | alt ps => anyAsksWideWords ps
  | _ => false

def anyAsksWideWords : List Pattern → Bool
  | [] => false
  | p :: ps => p.asksWideWords || anyAsksWideWords ps

end

/-! ### Room -/

def literal? : Pattern → Option (List Char)
  | literal cs => some cs
  | _ => none

/-- The bytes of characters in the order in which they are read. -/
def bytesRead (d : Direction) (cs : List Char) : List Nat :=
  match d with
  | .forward => Utf8.bytesOf cs
  | .backward => (Utf8.bytesOf cs).reverse

/-- The room with a set of characters. -/
def addSet (d : Direction) (s : CharSet) (r : Room) : Option Room :=
  if s.ranges.all fun range => range.last ≤ 0x7F then r.add 2 (arcSize * s.ranges.length)
  else
    match d with
    | .forward => r.addForward s
    | .backward => r.addBackward s

/-- The room with a repetition, of which one round is added by `one`; `moves` if a round
takes something. -/
def addRounds (moves : Bool) (least : Nat) (most? : Option Nat) (one : Room → Option Room)
    (r : Room) : Option Room :=
  let choose := fun r : Room => r.add 1 (2 * edgeSize)
  match most? with
  | none =>
    if least > 0 then (r.times one least).bind choose
    else if moves then (choose r).bind one
    else do
      let r ← one r
      r.add 3 (4 * edgeSize)
  | some most => do
    if least = 0 ∧ most = 1 then
      let r ← choose r
      let r ← one r
      r.add 1 0
    else
      let r ← if least = 0 then r.add 1 0 else r.times one least
      if least = most then return r
      let r ← r.add 1 0
      r.times (fun r => (choose r).bind one) (most - least)

mutual

/-- The room with a pattern whose parts are read in the order in which they stand. -/
def add (d : Direction) : Pattern → Room → Option Room
  | empty, r => r.add 1 0
  | look _, r => r.add 1 0
  | literal cs, r => r.add (String.ofList cs).utf8ByteSize 0
  | set s _, r => addSet d s r
  | rep p least most? _, r => addRounds (p.appetite = .something) least most? (p.add d) r
  | group _ p, r =>
    match d with
    | .forward => do
      let r ← r.add 1 0
      let r ← p.add d r
      r.add 1 0
    | .backward => p.add d r
  | cat ps, r => addAll d ps r
  | alt ps, r =>
    match ps.mapM literal? with
    | some words => r.addWords (words.map (bytesRead d))
    | none => addChoices d 0 ps r

/-- The room with patterns one behind the other. -/
def addAll (d : Direction) : List Pattern → Room → Option Room
  | [], r => some r
  | p :: ps, r =>
    match p.add d r with
    | some r => addAll d ps r
    | none => none

/-- The room with a choice of patterns, of which so many are done. The second is
followed by the state that leads to all of them and the one behind them. -/
def addChoices (d : Direction) (done : Nat) : List Pattern → Room → Option Room
  | [], r => some r
  | p :: ps, r =>
    match p.add d r with
    | some r =>
      match (if done = 1 then r.add 2 (2 * edgeSize)
        else if done = 0 then some r
        else r.add 0 edgeSize) with
      | some r => addChoices d (done + 1) ps r
      | none => none
    | none => none

end

/-- The room of a whole automaton: where a pattern may begin anywhere a loop over all
bytes stands before it. -/
def automaton? (d : Direction) (p : Pattern) : Option Room := do
  let (p, bound) :=
    match d with
    | .forward => (p, Look.textStart)
    | .backward => (p.turned, Look.textEnd)
  let r ← if p.beginsAt bound then Room.blank.add 1 0
    else Room.blank.add 3 (2 * edgeSize + arcSize)
  match d with
  | .forward => do
    let r ← r.add 1 0
    let r ← p.add d r
    r.add 2 0
  | .backward => do
    let r ← p.add d r
    r.add 1 0

end CircuitLang.Text.Pattern
