import CircuitLang.Text.Pattern.Room

/-! The room that a choice of words takes in an automaton.

Words that begin alike share the states for their beginning, as long as that does not
change which of them is tried first. A state is given by what is still to be read of
the words that lead to it, in their order: words before one that ends there are kept
apart from those behind it. -/
namespace CircuitLang.Text.Pattern

/-- What is still to be read of a word. -/
abbrev Rest := List Nat

/-- The rests between those with nothing more to be read. -/
def segments (rests : List Rest) : List (List Rest) :=
  let (current, done) := rests.foldr
    (fun rest (current, done) =>
      if rest.isEmpty then ([], current :: done) else (rest :: current, done))
    ([], [])
  (current :: done).filter fun segment => !segment.isEmpty

/-- The rests with the same first byte together, in their order. -/
def branches (segment : List Rest) : List (List Rest) :=
  let byHead := segment.mergeSort fun a b => a.headD 0 ≤ b.headD 0
  byHead.splitBy fun a b => a.head? = b.head?

/-- How often a state leads to the end: once for the words that end there before all
others, and once for each that ends there behind another one. -/
def stops (rests : List Rest) : Nat :=
  let behind := rests.dropWhile List.isEmpty
  behind.countP List.isEmpty + if behind.length < rests.length then 1 else 0

/-- The bytes for the ways out of the state of a segment with so many branches. -/
def segmentWays (branches : Nat) : Nat :=
  if branches = 1 then 0 else arcSize * branches

/-- The states that words lead to and the bytes of their ways out, from a list of the
rests of the words at each state that is to be done. -/
def treeRoom : Nat → List (List Rest) → Room → Room
  | 0, _, room => room
  | _, [], room => room
  | fuel + 1, rests :: others, room =>
    let parts := (segments rests).map branches
    let ways := edgeSize * (parts.length + stops rests) +
      parts.foldl (fun sum branches => sum + segmentWays branches.length) 0
    let tails := parts.flatten.map fun branch => branch.map (·.drop 1)
    let longer := tails.filter fun rests => rests.any fun rest => !rest.isEmpty
    treeRoom fuel (longer ++ others) ⟨room.states + 1 + parts.length, room.ways + ways⟩

/-- The room with a choice of words. -/
def Room.addWords (r : Room) (words : List Rest) : Option Room :=
  let tree := treeRoom (words.flatten.length + 1) [words] .blank
  r.add (1 + tree.states) tree.ways

end CircuitLang.Text.Pattern
