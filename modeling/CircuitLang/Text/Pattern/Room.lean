import CircuitLang.Text.Pattern.Fault
import Std.Data.HashMap

/-! The room that an automaton takes.

An automaton is counted state by state, as far as its limit allows. A state takes a
fixed number of bytes and some more for each way out of it beyond the first. States
that lead to the same places are shared where a table still knows the earlier one. -/
namespace CircuitLang.Text.Pattern

/-- The bytes of a state. -/
def stateSize : Nat := 32

/-- The bytes of a way out that reads nothing. -/
def edgeSize : Nat := 4

/-- The bytes of a way out that reads a range of bytes. -/
def arcSize : Nat := 8

/-- The states of an automaton so far, and the bytes of the ways out of them. -/
structure Room where
  states : Nat
  ways : Nat
  deriving DecidableEq, Repr

namespace Room

def blank : Room := ⟨0, 0⟩

def bytes (r : Room) : Nat :=
  stateSize * r.states + r.ways

/-- The room with more states, if it is not too much. -/
def add (r : Room) (states ways : Nat) : Option Room :=
  let more : Room := ⟨r.states + states, r.ways + ways⟩
  if more.bytes ≤ roomLimit then some more else none

/-- What is added so many times, if it is not too much. -/
def times (step : Room → Option Room) : Nat → Room → Option Room
  | 0, r => some r
  | n + 1, r =>
    match step r with
    | some r => times step n r
    | none => none

end Room

/-! ### Shared states -/

/-- Numbers of states by what they lead to. There are so many places; which one is an
entry's follows from its key, and an entry takes the place of an earlier one. -/
structure StateTable where
  places : Nat
  entries : Std.HashMap Nat (List Nat × Nat)

namespace StateTable

def blank (places : Nat) : StateTable := ⟨places, ∅⟩

/-- One number for a key, in which each part counts. -/
def scatter (key : List Nat) : UInt64 :=
  key.foldl (fun sum part => (sum ^^^ part.toUInt64) * 1099511628211) 14695981039346656037

def place (t : StateTable) (key : List Nat) : Nat :=
  (scatter key).toNat % t.places

def find? (t : StateTable) (key : List Nat) : Option Nat :=
  match t.entries[t.place key]? with
  | some (other, state) => if other = key then some state else none
  | none => none

def insert (t : StateTable) (key : List Nat) (state : Nat) : StateTable :=
  { t with entries := t.entries.insert (t.place key) (key, state) }

end StateTable

/-- The room of an automaton while states are shared. -/
structure Sharing where
  room : Room
  table : StateTable

/-- The state with a key, which is added with so many bytes for its ways out if the table
does not know it. -/
def Sharing.state (s : Sharing) (key : List Nat) (ways : Nat) : Option (Nat × Sharing) :=
  match s.table.find? key with
  | some state => some (state, s)
  | none =>
    (s.room.add 1 ways).map fun room =>
      (s.room.states, ⟨room, s.table.insert key s.room.states⟩)

end CircuitLang.Text.Pattern
