import CircuitLang.Text.Pattern

/-! Patterns in normal form.

The constructions of this module keep what a pattern fits and bring it into a form in
which some patterns are never written: characters that follow each other are one
literal, a set of one character is a literal, nothing stands in a sequence or choice of
its own kind, a choice of single characters is a set, and what is repeated no times is
not there. How much room the automaton of a pattern takes depends on that form. -/
namespace CircuitLang.Text.Pattern

/-! ### Measures -/

mutual

/-- Whether nothing but the empty text fits. -/
def fitsOnlyEmpty : Pattern → Bool
  | empty => true
  | look _ => true
  | literal _ => false
  | set _ _ => false
  | rep p _ most? _ => most?.isSome && p.fitsOnlyEmpty
  | group _ p => p.fitsOnlyEmpty
  | cat ps => allFitOnlyEmpty ps
  | alt ps => allFitOnlyEmpty ps

def allFitOnlyEmpty : List Pattern → Bool
  | [] => true
  | p :: ps => p.fitsOnlyEmpty && allFitOnlyEmpty ps

end

/-- How much of a text a pattern takes. -/
inductive Appetite where
  /-- It may take nothing. -/
  | maybeNothing
  /-- It takes something. -/
  | something
  /-- It has a part that fits nothing, so this is left open. -/
  | unknown
  deriving DecidableEq, Repr

namespace Appetite

/-- Of two patterns, one behind the other. -/
def both : Appetite → Appetite → Appetite
  | unknown, _ => unknown
  | _, unknown => unknown
  | something, _ => something
  | maybeNothing, a => a

/-- Of a choice of two patterns. -/
def either : Appetite → Appetite → Appetite
  | unknown, _ => unknown
  | _, unknown => unknown
  | maybeNothing, _ => maybeNothing
  | something, a => a

end Appetite

mutual

def appetite : Pattern → Appetite
  | empty => .maybeNothing
  | look _ => .maybeNothing
  | literal _ => .something
  | set s _ => if s.isEmpty then .unknown else .something
  | rep p least _ _ =>
    match p.appetite with
    | .something => if least = 0 then .maybeNothing else .something
    | a => a
  | group _ p => p.appetite
  | cat ps => appetiteAll ps .maybeNothing
  | alt ps => appetiteAny ps .something

def appetiteAll : List Pattern → Appetite → Appetite
  | [], a => a
  | p :: ps, a => appetiteAll ps (a.both p.appetite)

def appetiteAny : List Pattern → Appetite → Appetite
  | [], a => a
  | p :: ps, a => appetiteAny ps (a.either p.appetite)

end

/-! ### Sets and literals -/

/-- A character of a set. -/
def ofSet (s : CharSet) (wide : Bool) : Pattern :=
  match s.single? with
  | some c => literal [c]
  | none => set s (wide && !s.isEmpty)

/-! ### Repetitions -/

/-- A repetition. One of something that can only be empty needs no more than one round. -/
def repeated (p : Pattern) (least : Nat) (most? : Option Nat) (eager : Bool) : Pattern :=
  let (least, most?) :=
    if p.fitsOnlyEmpty then (min least 1, some (most?.elim 1 (min · 1))) else (least, most?)
  if least = 0 ∧ most? = some 0 then empty
  else if least = 1 ∧ most? = some 1 then p
  else rep p least most? eager

/-! ### Sequences -/

def parts : Pattern → List Pattern
  | empty => []
  | cat ps => ps
  | p => [p]

/-- Puts a part behind a sequence, which is given from its last part to its first. Two
literals become one, whose characters are in reverse as long as it is the last part. -/
def append (done : List Pattern) (p : Pattern) : List Pattern :=
  match p, done with
  | literal cs, literal before :: rest => literal (cs.reverse ++ before) :: rest
  | literal cs, done => literal cs.reverse :: done
  | p, literal before :: rest => p :: literal before.reverse :: rest
  | p, done => p :: done

/-- The parts of a sequence in order, from what `append` built. -/
def inOrder : List Pattern → List Pattern
  | literal cs :: rest => (literal cs.reverse :: rest).reverse
  | done => done.reverse

def sequence (ps : List Pattern) : Pattern :=
  match inOrder ((ps.flatMap parts).foldl append []) with
  | [] => empty
  | [p] => p
  | ps => cat ps

/-! ### Choices -/

def choices : Pattern → List Pattern
  | alt ps => ps
  | p => [p]

/-- The range of a single character. -/
def singleRange? : Pattern → Option CharRange
  | literal [c] => some ⟨c.toNat, c.toNat⟩
  | _ => none

def setRanges? : Pattern → Option (List CharRange)
  | set s _ => some s.ranges
  | _ => none

/-- The set of the characters in a choice of single characters or in one of sets. -/
def choiceSet? (ps : List Pattern) : Option CharSet :=
  (ps.mapM singleRange?).map .ofRanges <|>
    (ps.mapM setRanges?).map fun ranges => .ofRanges ranges.flatten

/-- The parts that two sequences begin with. -/
def sharedHead : List Pattern → List Pattern → List Pattern
  | p :: ps, q :: qs => if p == q then p :: sharedHead ps qs else []
  | _, _ => []

def sequence? : Pattern → Option (List Pattern)
  | cat ps => some ps
  | _ => none

/-- A choice without anything that all sequences in it could share. -/
def flatChoice (ps : List Pattern) : Pattern :=
  match ps.flatMap choices with
  | [] => set .empty false
  | [p] => p
  | ps =>
    match choiceSet? ps with
    | some s => ofSet s true
    | none => alt ps

/-- A choice of patterns. What all of them begin with goes before the choice; the parts
behind it share no beginning. -/
def choice (ps : List Pattern) : Pattern :=
  match flatChoice ps with
  | alt ps =>
    match ps.mapM sequence? with
    | some (first :: others) =>
      let head := others.foldl sharedHead first
      if head.isEmpty then alt ps
      else
        let tails := (first :: others).map fun ps => sequence (ps.drop head.length)
        sequence (head ++ [flatChoice tails])
    | _ => alt ps
  | p => p

end CircuitLang.Text.Pattern
