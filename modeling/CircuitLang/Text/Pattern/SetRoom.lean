import CircuitLang.Text.Pattern.Room
import CircuitLang.Text.CharSet
import CircuitLang.Text.Utf8

/-! The room that a set of characters takes in an automaton.

The characters of a set are read by their bytes, so beyond basic Latin a set is a list
of pieces, each a byte range after the other. Forward, the states are put together from
the last byte to the first, and a state is only finished when no later piece can begin
with the bytes that lead to it; the pieces come in increasing order. Backward, a piece
is a chain of states, of which pieces with the same first bytes share the last ones. -/
namespace CircuitLang.Text.Pattern

/-- The pieces of a set in increasing order. -/
def setPieces (s : CharSet) : List (List Utf8.ByteRange) :=
  s.ranges.flatMap Utf8.piecesOf

/-! ### Forward -/

/-- A state that is not finished yet. -/
structure OpenState where
  /-- For each way out that is finished its range and where it leads, the last one first. -/
  ways : List (Utf8.ByteRange × Nat)
  /-- The range of the way that leads to the next unfinished state. -/
  last? : Option Utf8.ByteRange

namespace OpenState

/-- A state with one way out, which is not finished. -/
def opening (range : Utf8.ByteRange) : OpenState := ⟨[], some range⟩

/-- Finishes the last way out. -/
def close (n : OpenState) (next : Nat) : OpenState :=
  match n.last? with
  | some range => ⟨(range, next) :: n.ways, none⟩
  | none => n

/-- What tells a finished state from others. -/
def key (n : OpenState) : List Nat :=
  n.ways.reverse.flatMap fun ((first, last), next) => [first, last, next]

/-- Finishes a state whose last way leads to a given one. -/
def finish (n : OpenState) (next : Nat) (s : Sharing) : Option (Nat × Sharing) :=
  let done := n.close next
  s.state done.key (arcSize * done.ways.length)

end OpenState

/-- Finishes states, each of which leads to the next one and the last one to `target`. -/
def finishAll (target : Nat) : List OpenState → Sharing → Option (Nat × Sharing)
  | [], s => some (target, s)
  | n :: rest, s => do
    let (next, s) ← finishAll target rest s
    n.finish next s

/-- Takes up a piece. States that it does not go through are finished. -/
def takePiece (target : Nat) :
    List OpenState → List Utf8.ByteRange → Sharing → Option (List OpenState × Sharing)
  | n :: rest, range :: piece, s =>
    if n.last? = some range then do
      let (rest, s) ← takePiece target rest piece s
      return (n :: rest, s)
    else do
      let (next, s) ← finishAll target rest s
      return ({ n.close next with last? := some range } :: piece.map .opening, s)
  | states, _, s => some (states, s)

/-- Takes up pieces and finishes all states. -/
def takePieces (target : Nat) :
    List (List Utf8.ByteRange) → List OpenState → Sharing → Option Room
  | [], states, s => (finishAll target states s).map fun (_, s) => s.room
  | piece :: pieces, states, s => do
    let (states, s) ← takePiece target states piece s
    takePieces target pieces states s

/-- The room with a set of characters that is read forward. -/
def Room.addForward (r : Room) (s : CharSet) : Option Room := do
  let room ← r.add 1 0
  takePieces r.states (setPieces s) [⟨[], none⟩] ⟨room, .blank 10000⟩

/-! ### Backward -/

/-- Adds the chain of a piece, from its first byte on, before a state. -/
def addChain : List Utf8.ByteRange → Nat → Sharing → Option Sharing
  | [], _, s => some s
  | (first, last) :: piece, state, s => do
    let (state, s) ← s.state [state, first, last] 0
    addChain piece state s

/-- Adds the chains of pieces, to each of which a way leads. -/
def addChains (stop : Nat) : List (List Utf8.ByteRange) → Sharing → Option Room
  | [], s => some s.room
  | piece :: pieces, s => do
    let s ← addChain piece stop s
    let room ← s.room.add 0 edgeSize
    addChains stop pieces { s with room }

/-- The room with a set of characters that is read backward. -/
def Room.addBackward (r : Room) (s : CharSet) : Option Room := do
  let room ← r.add 2 0
  addChains (r.states + 1) (setPieces s) ⟨room, .blank 1000⟩

end CircuitLang.Text.Pattern
