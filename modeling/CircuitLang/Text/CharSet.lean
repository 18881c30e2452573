import CircuitLang.Text.CharClass

/-! Sets of characters that are put together at run time.

A set is a list of ranges of code points in increasing order, none of which touches
the next one. The surrogates are no characters: the code point behind the last one
before them is the first one after them. Two ranges that meet there do not touch. -/
namespace CircuitLang.Text

namespace CharRange

def greatest : Nat := 0x10FFFF

def after (code : Nat) : Nat :=
  if code = 0xD7FF then 0xE000 else code + 1

def before (code : Nat) : Nat :=
  if code = 0xE000 then 0xD7FF else code - 1

/-- The order of ranges: by where they begin, then by where they end. -/
def precedes (a b : CharRange) : Bool :=
  a.first < b.first || (a.first == b.first && a.last ≤ b.last)

/-- The range from one code point to another one, whichever comes first. -/
def between (a b : Nat) : CharRange :=
  ⟨min a b, max a b⟩

end CharRange

structure CharSet where
  ranges : List CharRange
  deriving DecidableEq, Repr

namespace CharSet

def contains (s : CharSet) (c : Char) : Bool :=
  s.ranges.any fun r => r.first ≤ c.toNat && c.toNat ≤ r.last

def empty : CharSet := ⟨[]⟩

def all : CharSet := ⟨[⟨0, CharRange.greatest⟩]⟩

def isEmpty (s : CharSet) : Bool :=
  s.ranges.isEmpty

/-- Takes one more range up into ranges in decreasing order, the last of which begins no
later. -/
def absorb (done : List CharRange) (r : CharRange) : List CharRange :=
  match done with
  | [] => [r]
  | a :: rest =>
    if r.first ≤ a.last + 1 then ⟨a.first, max a.last r.last⟩ :: rest else r :: a :: rest

/-- The set of the characters in some ranges. -/
def ofRanges (ranges : List CharRange) : CharSet :=
  ⟨((ranges.mergeSort CharRange.precedes).foldl absorb []).reverse⟩

def range (first last : Char) : CharSet :=
  ⟨[⟨first.toNat, last.toNat⟩]⟩

def single (c : Char) : CharSet :=
  range c c

/-- The only character of a set. -/
def single? (s : CharSet) : Option Char :=
  match s.ranges with
  | [r] => if r.first = r.last then some (Char.ofNat r.first) else none
  | _ => none

/-! ### Operations -/

def union (a b : CharSet) : CharSet :=
  ofRanges (a.ranges ++ b.ranges)

/-- What ranges have in common, from the lists of both in increasing order. -/
def common : List CharRange → List CharRange → List CharRange
  | [], _ => []
  | _, [] => []
  | a :: as, b :: bs =>
    let rest := if a.last < b.last then common as (b :: bs) else common (a :: as) bs
    let first := max a.first b.first
    let last := min a.last b.last
    if first ≤ last then ⟨first, last⟩ :: rest else rest
  termination_by as bs => as.length + bs.length

def inter (a b : CharSet) : CharSet :=
  ⟨common a.ranges b.ranges⟩

/-- The gaps behind a code point, each from its first to its last code point. -/
def gapsBehind (last : Nat) : List CharRange → List (Nat × Nat)
  | [] => if last = CharRange.greatest then [] else [(CharRange.after last, CharRange.greatest)]
  | r :: rest => (CharRange.after last, CharRange.before r.first) :: gapsBehind r.last rest

/-- The gaps before, between and behind the ranges of a set. A gap between two ranges
that meet at the surrogates ends before it begins. -/
def gaps (s : CharSet) : List (Nat × Nat) :=
  match s.ranges with
  | [] => [(0, CharRange.greatest)]
  | r :: rest =>
    (if r.first = 0 then [] else [(0, CharRange.before r.first)]) ++ gapsBehind r.last rest

/-- The set from which another one is taken away. -/
def diff (a b : CharSet) : CharSet :=
  a.inter ⟨b.gaps.filterMap fun (first, last) => if first ≤ last then some ⟨first, last⟩ else none⟩

/-- The characters in exactly one of two sets. -/
def symmDiff (a b : CharSet) : CharSet :=
  (a.union b).diff (a.inter b)

/-- All the gaps of a set; one that ends before it begins counts with both its ends. -/
def compl (s : CharSet) : CharSet :=
  ⟨s.gaps.map fun (first, last) => .between first last⟩

/-- The part of a range that lies in another one, moved. -/
def moved (r within : CharRange) (move : Nat → Nat) : List CharRange :=
  let first := max r.first within.first
  let last := min r.last within.last
  if first ≤ last then [⟨move first, move last⟩] else []

/-- A set with the other case of each of its basic Latin letters. -/
def eitherCase (s : CharSet) : CharSet :=
  ofRanges <| s.ranges ++ s.ranges.flatMap fun r =>
    moved r ⟨'a'.toNat, 'z'.toNat⟩ (· - 32) ++ moved r ⟨'A'.toNat, 'Z'.toNat⟩ (· + 32)

/-! ### Classes of the basic Latin block -/

/-- The characters of some ranges, each given by its ends. -/
def ofEnds (ends : List (Char × Char)) : CharSet :=
  ofRanges (ends.map fun (first, last) => ⟨first.toNat, last.toNat⟩)

def basicLatin : CharSet := range '\x00' '\x7f'

def alpha : CharSet := ofEnds [('A', 'Z'), ('a', 'z')]

def digit : CharSet := range '0' '9'

def alnum : CharSet := ofEnds [('0', '9'), ('A', 'Z'), ('a', 'z')]

def hexDigit : CharSet := ofEnds [('0', '9'), ('A', 'F'), ('a', 'f')]

/-- Letters, digits and the underscore. -/
def word : CharSet := ofEnds [('0', '9'), ('A', 'Z'), ('_', '_'), ('a', 'z')]

/-- The space, and the controls from the tabulator to the carriage return. -/
def space : CharSet := ofEnds [('\t', '\r'), (' ', ' ')]

/-- A class by its name. -/
def named? : String → Option CharSet
  | "alnum" => some alnum
  | "alpha" => some alpha
  | "ascii" => some basicLatin
  | "blank" => some (ofEnds [('\t', '\t'), (' ', ' ')])
  | "cntrl" => some (ofEnds [('\x00', '\x1f'), ('\x7f', '\x7f')])
  | "digit" => some digit
  | "graph" => some (range '!' '~')
  | "lower" => some (range 'a' 'z')
  | "print" => some (range ' ' '~')
  | "punct" => some (ofEnds [('!', '/'), (':', '@'), ('[', '\x60'), ('\x7b', '~')])
  | "space" => some space
  | "upper" => some (range 'A' 'Z')
  | "word" => some word
  | "xdigit" => some hexDigit
  | _ => none

end CharSet

end CircuitLang.Text
