import CircuitLang.Text.CharSet

/-! Patterns, and whether one occurs in a text.

A pattern fits pieces of a text. A text has a place before each character and one
behind the last, and `ends` takes the places where a piece may begin to all those
where a piece that fits can end, so nothing is tried twice and no choice is taken
back. A round of a repetition that changes none of the places changes nothing later
either, and one that leads to no new place leads nowhere further. -/
namespace CircuitLang.Text

/-- Where a place stands with regard to words. -/
inductive WordLook where
  | boundary
  | noBoundary
  | start
  | stop
  /-- No word character stands before it. -/
  | startHalf
  /-- No word character stands behind it. -/
  | stopHalf
  deriving DecidableEq, Repr

/-- A condition on a place of a text. -/
inductive Look where
  | textStart
  | textEnd
  | lineStart
  | lineEnd
  /-- A line start where a carriage return ends a line too. -/
  | returnLineStart
  /-- A line end where a carriage return ends a line too. -/
  | returnLineEnd
  /-- `wide` if words may have letters of all kinds, and not only basic Latin ones. -/
  | word (kind : WordLook) (wide : Bool)
  deriving DecidableEq, Repr

/-- Whether a place stands as asked for between two characters, of which the arguments
say whether they are word characters. -/
def WordLook.holds (before after : Bool) : WordLook → Bool
  | boundary => before != after
  | noBoundary => before == after
  | start => !before && after
  | stop => before && !after
  | startHalf => !before
  | stopHalf => !after

/-- Whether a condition holds between two characters, or an end of the text. -/
def Look.holds (before after : Option Char) : Look → Bool
  | textStart => before.isNone
  | textEnd => after.isNone
  | lineStart => before.all (· == '\n')
  | lineEnd => after.all (· == '\n')
  | returnLineStart => before.all (· == '\n') || (before == some '\r' && after != some '\n')
  | returnLineEnd => after.all (· == '\r') || (after == some '\n' && before != some '\r')
  | word kind _ => kind.holds (before.any CharSet.word.contains) (after.any CharSet.word.contains)

/-- A pattern. Two differ also if only their groups or the order of their choices
differ, which makes no difference to what they fit. -/
inductive Pattern where
  | empty
  | literal (cs : List Char)
  /-- A character of a set; `wide` if it was not asked for as a set of bytes. -/
  | set (s : CharSet) (wide : Bool)
  | look (l : Look)
  /-- At least `least` times and, if there is a bound, at most so many times; `eager` if
  more rounds are tried before fewer. -/
  | rep (p : Pattern) (least : Nat) (most? : Option Nat) (eager : Bool)
  /-- A numbered group. -/
  | group (index : Nat) (p : Pattern)
  | cat (ps : List Pattern)
  | alt (ps : List Pattern)
  deriving BEq, Repr

/-- Places of a text in increasing order. -/
abbrev Places := List Nat

namespace Places

def union (a b : Places) : Places :=
  if b.isEmpty || a == b then a
  else if a.isEmpty then b
  else (a.merge b).foldr (fun i done => if done.head? = some i then done else i :: done) []

/-- Marks places of a text. -/
def mark (marks : Array Bool) (places : Places) : Array Bool :=
  places.foldl (fun marks i => marks.setIfInBounds i true) marks

def marked (marks : Array Bool) : Places :=
  (List.range marks.size).filter fun i => marks[i]?.getD false

/-- The places behind exactly `n` rounds. -/
def rounds (round : Places → Places) : Nat → Places → Places
  | 0, places => places
  | n + 1, places =>
    let after := round places
    if after = places then places else rounds round n after

/-- Marks the places behind up to `n` more rounds, from those behind the last one. -/
def spread (round : Places → Places) : Nat → Places → Array Bool → Array Bool
  | 0, _, marks => marks
  | n + 1, places, marks =>
    let fresh := (round places).filter fun i => !marks[i]?.getD true
    if fresh.isEmpty then marks else spread round n fresh (mark marks fresh)

end Places

namespace Pattern

/-- Whether characters stand in a text from a place on. -/
def stands (text : Array Char) (place : Nat) : List Char → Bool
  | [] => true
  | c :: rest => text[place]? == some c && stands text (place + 1) rest

def behindLiteral (text : Array Char) (cs : List Char) (places : Places) : Places :=
  let length := cs.length
  places.filterMap fun i => if stands text i cs then some (i + length) else none

def behindSet (text : Array Char) (s : CharSet) (places : Places) : Places :=
  places.filterMap fun i => if text[i]?.any s.contains then some (i + 1) else none

def whereHolds (text : Array Char) (l : Look) (places : Places) : Places :=
  places.filter fun i => l.holds (if i = 0 then none else text[i - 1]?) text[i]?

mutual

/-- Where pieces that fit can end, from where they may begin. -/
def ends (text : Array Char) : Pattern → Places → Places
  | empty, places => places
  | literal cs, places => behindLiteral text cs places
  | set s _, places => behindSet text s places
  | look l, places => whereHolds text l places
  | group _ p, places => p.ends text places
  | rep p least most? _, places =>
    let first := Places.rounds (p.ends text) least places
    if most? = some least then first
    else
      let marks := Places.mark (Array.replicate (text.size + 1) false) first
      let more := most?.elim (text.size + 1) (· - least)
      Places.marked (Places.spread (p.ends text) more first marks)
  | cat ps, places => endsAll text ps places
  | alt ps, places => endsAny text places ps []

/-- Where pieces that fit one pattern after the other can end. -/
def endsAll (text : Array Char) : List Pattern → Places → Places
  | [], places => places
  | p :: ps, places => if places.isEmpty then [] else endsAll text ps (p.ends text places)

/-- Where pieces that fit one of some patterns can end, or one of `found`. -/
def endsAny (text : Array Char) (places : Places) : List Pattern → Places → Places
  | [], found => found
  | p :: ps, found => endsAny text places ps (found.union (p.ends text places))

end

/-- Whether some piece of a text fits. -/
def occursIn (p : Pattern) (text : String) : Bool :=
  let chars := text.toList.toArray
  !(p.ends chars (List.range (chars.size + 1))).isEmpty

end Pattern

end CircuitLang.Text
