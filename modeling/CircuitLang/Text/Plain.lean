/-! The part of a text that is no control.

A terminal takes some characters as commands, and a text for a file has no use for
them. A control character goes alone. An escape begins a control sequence, which
goes as a whole: an escape and a letter, a sequence of parameters that a letter ends,
or a string that a terminator of its own ends. What `strip` leaves are blanks, visible
characters of the basic Latin block and all characters beyond it, so a text of those
alone stays as it is (`strip_eq_self`).

A blank in a short sequence or among parameters is not part of it. It is kept, and
with it what follows up to the next control, where the sequence goes on. -/
namespace CircuitLang.Text.Plain

/-! ### Classes of characters -/

def within (first last c : Char) : Bool :=
  first ≤ c && c ≤ last

/-- Controls that lay out a text. -/
def isLayout (c : Char) : Bool :=
  c ∈ ['\t', '\n', '\x0c', '\r']

/-- Characters beyond the basic Latin block. -/
def isWide (c : Char) : Bool :=
  '\x80' ≤ c

/-- Characters that stand for themselves. -/
def isVisible (c : Char) : Bool :=
  within ' ' '~' c || isWide c

/-- Whether the written form of a character has the byte that ends a string. -/
def endsString (c : Char) : Bool :=
  isWide c && (String.utf8EncodeChar c).contains 0x9c

/-! ### Control sequences -/

/-- How far a control sequence has got. -/
inductive Stage where
  /-- There is none. -/
  | outside
  /-- Behind the escape. -/
  | escape
  /-- Behind an escape and a mark that asks for one more character. -/
  | charset
  /-- Among the parameters of a command. -/
  | parameters
  /-- At the head of a device string. -/
  | device
  /-- Among the parameters of a device string. -/
  | deviceParameters
  /-- Behind the parameters of a device string. -/
  | deviceMark
  /-- In a string. -/
  | text
  /-- In a string that a bell ends. -/
  | title
  deriving DecidableEq, Repr

namespace Stage

/-- Whether a blank is kept. -/
def keepsBlank : Stage → Bool
  | escape | charset | parameters => true
  | _ => false

/-- The stage behind a character of a sequence. -/
def next (c : Char) : Stage → Stage
  | outside => outside
  | escape =>
    if c = '[' then parameters
    else if c = ']' then title
    else if c = 'P' then device
    else if c ∈ ['X', '^', '_'] then text
    else if within ' ' '/' c then charset
    else if within '0' '~' c then outside
    else escape
  | charset => if within '0' '~' c then outside else charset
  | parameters => if within '@' '~' c then outside else parameters
  | device =>
    if within ' ' '/' c then deviceMark
    else if within '0' '?' c then deviceParameters
    else if within '@' '~' c then text
    else device
  | deviceParameters =>
    if within ' ' '/' c then deviceMark
    else if within '<' '~' c then text
    else deviceParameters
  | deviceMark => if within '0' '~' c then text else deviceMark
  | text => if endsString c then outside else text
  | title => if c = '\x07' then outside else title

end Stage

/-- A stage, and whether the sequence is interrupted by a blank and what follows. -/
structure State where
  stage : Stage
  interrupted : Bool
  deriving DecidableEq, Repr

namespace State

/-- Outside of any sequence. -/
def initial : State := ⟨.outside, false⟩

/-- The state behind a character, and whether the character is kept. -/
def step (s : State) (c : Char) : State × Bool :=
  if c = '\x1b' then (⟨.escape, false⟩, false)
  else if c ∈ ['\x18', '\x1a'] then (initial, false)
  else if s.interrupted || s.stage == .outside then
    if isWide c then (initial, true)
    else if isVisible c || isLayout c then ({ s with interrupted := true }, true)
    else ({ s with interrupted := false }, false)
  else if s.stage.keepsBlank && isLayout c then ({ s with interrupted := true }, true)
  else ({ s with stage := s.stage.next c }, false)

/-- The characters kept from a state on. -/
def keep (s : State) : List Char → List Char
  | [] => []
  | c :: rest =>
    let (after, kept) := s.step c
    if kept then c :: keep after rest else keep after rest

end State

/-- A text without controls and control sequences. -/
def strip (text : String) : String :=
  String.ofList (State.initial.keep text.toList)

/-! ### Texts without controls -/

/-- Outside of a sequence blanks and visible characters are kept, and lead to none. -/
theorem step_of_outside {s : State} {c : Char} (hs : s.stage = .outside)
    (hc : isVisible c || isLayout c) :
    (s.step c).1.stage = .outside ∧ (s.step c).2 = true := by
  have hescape : c ≠ '\x1b' := by rintro rfl; revert hc; decide
  have hcancel : c ∉ ['\x18', '\x1a'] := by
    intro h
    simp only [List.mem_cons, List.not_mem_nil, or_false] at h
    rcases h with rfl | rfl <;> revert hc <;> decide
  by_cases hw : isWide c <;> simp [State.step, hescape, hcancel, hs, hw, hc, State.initial]

theorem keep_of_outside {s : State} {cs : List Char} (hs : s.stage = .outside)
    (hcs : ∀ c ∈ cs, isVisible c || isLayout c) : s.keep cs = cs := by
  induction cs generalizing s with
  | nil => rfl
  | cons c rest ih =>
    obtain ⟨hafter, hkept⟩ := step_of_outside hs (hcs c (by simp))
    simp [State.keep, hkept, ih hafter fun d hd => hcs d (by simp [hd])]

/-- All characters of a text are blanks or visible. -/
def Shown (text : String) : Prop :=
  ∀ c ∈ text.toList, isVisible c || isLayout c

instance (text : String) : Decidable (Shown text) :=
  List.decidableBAll _ _

theorem Shown.append {a b : String} (ha : Shown a) (hb : Shown b) : Shown (a ++ b) := by
  intro c hc
  rw [String.toList_append, List.mem_append] at hc
  exact hc.elim (ha c) (hb c)

theorem strip_eq_self {text : String} (h : Shown text) : strip text = text := by
  simp [strip, keep_of_outside (s := State.initial) rfl h]

end CircuitLang.Text.Plain
