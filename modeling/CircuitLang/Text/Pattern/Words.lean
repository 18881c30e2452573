import CircuitLang.Text.Pattern.Normal
import CircuitLang.Text.Utf8

/-! Patterns that fit just a few words.

A pattern without groups and conditions that fits no more than some short words can be
looked for without an automaton. The words are listed in the order in which they are
tried, up to limits on their length and number; a part that fits nothing leaves no
words, however often it counts. The list is of use if it can be searched for as it
stands: words that are shortened to look for them faster may stand where the pattern
does not fit. -/
namespace CircuitLang.Text.Pattern

abbrev Word := List Nat

/-! ### Limits -/

/-- How many bytes a listed word may have. -/
def wordLimit : Nat := 100

/-- How many characters a listed set may have. -/
def setLimit : Nat := 10

/-- How many rounds of a repetition are listed. -/
def roundLimit : Nat := 10

/-- How many words may be listed. -/
def listLimit : Nat := 250

/-! ### The list -/

/-- The words, if they are not too long. -/
def ifShort (words : List Word) : Option (List Word) :=
  if words.any fun w => w.length > wordLimit then none else some words

/-- Each word of a list with each of another one behind it. -/
def crossed (a b : List Word) : Option (List Word) :=
  if a.length * b.length > listLimit then none
  else ifShort (a.flatMap fun w => b.map (w ++ ·)).eraseReps

/-- The words of two lists, if they are not too many. Words that have to be told apart
only by their first bytes may come more than once. -/
def joined (a b : List Word) : Option (List Word) :=
  if a.length + b.length ≤ listLimit then some (a ++ b).eraseReps
  else if (a ++ b).any fun w => w.length > 4 then none
  else if a.eraseReps.length + b.eraseReps.length > listLimit then none
  else some (a.eraseReps ++ b.eraseReps).eraseReps

/-- The words of so many rounds, behind other words. -/
def wordRounds (round : List Word) : Nat → List Word → Option (List Word)
  | 0, done => some done
  | n + 1, done =>
    if done.isEmpty then some done
    else
      match crossed done round with
      | some done => wordRounds round n done
      | none => none

def wordsOfRep (round : List Word) (least : Nat) (most? : Option Nat) (eager : Bool) :
    Option (List Word) := do
  if least = 0 then
    if most? ≠ some 1 ∧ !round.isEmpty then none
    if eager then joined round [[]] else joined [[]] round
  else
    let words ← wordRounds round (min least roundLimit) [[]]
    if (most? = some least ∧ least ≤ roundLimit) ∨ words.isEmpty then words else none

def wordsOfSet (s : CharSet) : Option (List Word) :=
  if s.ranges.foldl (fun count r => count + (r.last - r.first + 1)) 0 > setLimit then none
  else
    some <| s.ranges.flatMap fun r =>
      (List.range' r.first (r.last - r.first + 1)).map fun code => Utf8.bytesOf [Char.ofNat code]

mutual

/-- The words that a pattern without groups and conditions fits. -/
def words? : Pattern → Option (List Word)
  | empty => some [[]]
  | literal cs => ifShort [Utf8.bytesOf cs]
  | set s _ => wordsOfSet s
  | look _ => none
  | group _ _ => none
  | rep p least most? eager => do wordsOfRep (← p.words?) least most? eager
  | cat ps => wordsOfAll ps [[]]
  | alt ps => wordsOfAny ps []

/-- The words of patterns one behind the other, behind other words. -/
def wordsOfAll : List Pattern → List Word → Option (List Word)
  | [], done => some done
  | p :: ps, done =>
    if done.isEmpty then some done
    else
      match p.words?.bind (crossed done) with
      | some done => wordsOfAll ps done
      | none => none

/-- The words of a choice of patterns, behind those of others in it. -/
def wordsOfAny : List Pattern → List Word → Option (List Word)
  | [], done => some done
  | p :: ps, done =>
    match p.words?.bind (joined done) with
    | some done => wordsOfAny ps done
    | none => none

end

mutual

/-- Whether a pattern has neither groups nor conditions. -/
def isPlain : Pattern → Bool
  | group _ _ => false
  | look _ => false
  | rep p _ _ _ => p.isPlain
  | cat ps => allPlain ps
  | alt ps => allPlain ps
  | _ => true

def allPlain : List Pattern → Bool
  | [] => true
  | p :: ps => p.isPlain && allPlain ps

end

/-! ### The search -/

/-- Whether a byte is common in texts. -/
def isCommon (byte : Nat) : Bool :=
  byte ≥ 0xC0 || "\n\r (),-./0129:_abcdefghilmnoprstuvxy|".toList.any (·.toNat = byte)

/-- The words without those that begin with an earlier one, which is tried first. -/
def withoutLonger (words : List Word) : List Word :=
  (words.foldl (fun kept w => if kept.any (·.isPrefixOf w) then kept else w :: kept) []).reverse

/-- What two words begin with. -/
def commonHead : Word → Word → Word
  | a :: as, b :: bs => if a = b then a :: commonHead as bs else []
  | _, _ => []

/-- What all words begin with. -/
def headOfAll : List Word → Word
  | [] => []
  | w :: ws => ws.foldl commonHead w

/-- The words cut to fewer bytes, step by step, until they are few enough. -/
def cutWords : List (Nat × Nat) → List Word → List Word
  | [], words => words
  | (length, enough) :: steps, words =>
    if words.length ≤ enough then words
    else cutWords steps (withoutLonger (words.map (·.take length)))

/-- Whether a search for some words looks for all of each. It looks for their common
head if that is rare or long, and for less of them if they are many, unless too little
were left. -/
def searchedWhole (words : List Word) : Bool :=
  let kept := withoutLonger words
  let head := headOfAll kept
  if words.length > 1 ∧ 1 ≤ head.length ∧ head.length ≤ 3 ∧
      !isCommon (head.headD 0) then
    kept.all fun w => w.length ≤ 1
  else if head.length > 4 ∨ (head.length > 1 ∧ kept.length > 16) then
    kept.all fun w => w.length ≤ head.length
  else
    let cut := cutWords [(5, 10), (4, 10), (3, 64), (2, 64), (1, 10)] kept
    cut = kept || cut.length > 64 || cut.any fun w => w.length ≤ 2

/-- Whether a pattern is looked for as some words. -/
def isFewWords (p : Pattern) : Bool :=
  p.isPlain &&
    match p.words? with
    | some words => !words.isEmpty && !words.any List.isEmpty && searchedWhole words
    | none => false

end CircuitLang.Text.Pattern
