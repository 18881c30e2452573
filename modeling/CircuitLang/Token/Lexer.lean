import CircuitLang.Diagnostic
import CircuitLang.Text.Letter
import CircuitLang.Token

/-! From text to tokens.

Blanks separate tokens and mean nothing else. A terminator opens a comment, which
runs to the end of its line; the line feed behind it is a blank again. A name is
taken as long as it goes on, and the table decides whether it is a keyword. The
first character that begins no token ends the reading.

`Lexer.step` reads one token off the text that is left. It passes a piece of the
text, never empty, and leaves the rest (`step_passes`). Reading token by token
(`Lexer.next`) and all at once (`Lexer.scan`, `Lexer.tokenize`) are both that step
repeated. -/
namespace CircuitLang

/-- A text that has been read in part: what is left of it, and the place in front
of that. -/
structure Lexer where
  table : OperationTable
  place : Place
  rest : List Char

namespace Lexer

/-- A lexer in front of a whole text. -/
def ofSource (table : OperationTable) (source : String) : Lexer :=
  ⟨table, .start, source.toList⟩

def spent (l : Lexer) : Lexer :=
  { l with rest := [] }

/-- What reading one token comes to. -/
inductive Step where
  /-- Only blanks were left. -/
  | finished
  /-- A token, and the lexer behind it. -/
  | read (token : Token) (after : Lexer)
  /-- A character that begins no token. -/
  | refused (error : LexError)

/-- The lexer behind a stretch of text that it has passed. -/
def pass (l : Lexer) (text rest : List Char) : Lexer :=
  ⟨l.table, l.place.after text, rest⟩

/-- The token of a lexeme that stands in front of `rest`, and the lexer behind it. -/
def take (l : Lexer) (kind : Kind) (lexeme rest : List Char) : Step :=
  .read ⟨kind, l.place.spanOf lexeme, String.ofList lexeme⟩ (l.pass lexeme rest)

/-- Takes a terminator in front of `rest` together with the comment it opens. -/
def takeTerminator (l : Lexer) (rest : List Char) : Step :=
  .read ⟨.terminator, l.place.spanOf [';'], ";"⟩
    (l.pass (';' :: rest.takeWhile (· ≠ '\n')) (rest.dropWhile (· ≠ '\n')))

/-- Takes a name that begins with `c` and goes on into `rest`. -/
def takeName (l : Lexer) (c : Char) (rest : List Char) : Step :=
  let name := c :: rest.takeWhile Text.isAlphanumeric
  l.take (.ofName l.table (String.ofList name)) name (rest.dropWhile Text.isAlphanumeric)

/-- The token that begins with `c`, which is no blank. -/
def takeToken (l : Lexer) (c : Char) (rest : List Char) : Step :=
  if c = ':' then l.take .definition [c] rest
  else if c = ';' then l.takeTerminator rest
  else if c = '0' then l.take (.literal false) [c] rest
  else if c = '1' then l.take (.literal true) [c] rest
  else if Text.isAlphabetic c then l.takeName c rest
  else .refused ⟨c, l.place.spanOf [c]⟩

/-- Passes blanks and reads the token behind them. -/
def stepFrom (table : OperationTable) (place : Place) : List Char → Step
  | [] => .finished
  | c :: rest =>
    if Text.isBlank c then stepFrom table (place.advance c) rest
    else takeToken ⟨table, place, c :: rest⟩ c rest

/-- Reads one token. -/
def step (l : Lexer) : Step :=
  stepFrom l.table l.place l.rest

/-! ### A step passes a piece of text -/

theorem takeToken_passes {l after : Lexer} {c : Char} {rest : List Char} {t : Token}
    (h : l.takeToken c rest = .read t after) :
    ∃ more, rest = more ++ after.rest ∧ after = l.pass (c :: more) after.rest := by
  simp only [takeToken, takeName, takeTerminator, take] at h
  split at h
  · cases h
    exact ⟨[], rfl, rfl⟩
  split at h
  · rename_i hc
    cases h
    exact ⟨rest.takeWhile (· ≠ '\n'), List.takeWhile_append_dropWhile.symm, hc ▸ rfl⟩
  split at h
  · cases h
    exact ⟨[], rfl, rfl⟩
  split at h
  · cases h
    exact ⟨[], rfl, rfl⟩
  split at h
  · cases h
    exact ⟨rest.takeWhile Text.isAlphanumeric, List.takeWhile_append_dropWhile.symm, rfl⟩
  · cases h

theorem stepFrom_passes {table : OperationTable} {place : Place} {text : List Char} {t : Token}
    {after : Lexer} (h : stepFrom table place text = .read t after) :
    ∃ passed, passed ≠ [] ∧ text = passed ++ after.rest ∧
      after = ⟨table, place.after passed, after.rest⟩ := by
  induction text generalizing place with
  | nil => cases h
  | cons c rest ih =>
    rw [stepFrom] at h
    split at h
    · obtain ⟨passed, _, hrest, hafter⟩ := ih h
      exact ⟨c :: passed, by simp, by rw [hrest]; rfl, hafter⟩
    · obtain ⟨more, hrest, hafter⟩ := takeToken_passes h
      exact ⟨c :: more, by simp, by rw [hrest]; rfl, hafter⟩

/-- A step passes a piece of the text, never empty: what it leaves is the rest, and
the place behind that piece. -/
theorem step_passes {l after : Lexer} {t : Token} (h : l.step = .read t after) :
    ∃ passed, passed ≠ [] ∧ l.rest = passed ++ after.rest ∧ after = l.pass passed after.rest :=
  stepFrom_passes h

theorem step_shorter {l after : Lexer} {t : Token} (h : l.step = .read t after) :
    after.rest.length < l.rest.length := by
  obtain ⟨passed, hne, hrest, _⟩ := step_passes h
  have := List.length_pos_iff.mpr hne
  rw [hrest, List.length_append]
  omega

/-! ### All tokens -/

/-- The tokens of a text up to its end or to the first character that begins none. -/
structure Scan where
  tokens : List Token
  error? : Option LexError
  deriving DecidableEq, Repr

/-- Reads as many tokens as there are. -/
def scan (l : Lexer) : Scan :=
  match _h : l.step with
  | .finished => ⟨[], none⟩
  | .read t after =>
    let behind := after.scan
    ⟨t :: behind.tokens, behind.error?⟩
  | .refused e => ⟨[], some e⟩
termination_by l.rest.length
decreasing_by all_goals exact step_shorter _h

theorem scan_of_finished {l : Lexer} (h : l.step = .finished) : l.scan = ⟨[], none⟩ := by
  rw [scan]
  split <;> simp_all

theorem scan_of_read {l after : Lexer} {t : Token} (h : l.step = .read t after) :
    l.scan = ⟨t :: after.scan.tokens, after.scan.error?⟩ := by
  rw [scan]
  split <;> simp_all

theorem scan_of_refused {l : Lexer} {e : LexError} (h : l.step = .refused e) :
    l.scan = ⟨[], some e⟩ := by
  rw [scan]
  split <;> simp_all

/-- The tokens, unless a character was refused. -/
def Scan.result (s : Scan) : Except LexError (List Token) :=
  match s.error? with
  | none => .ok s.tokens
  | some e => .error e

/-- Reads the whole text that is left, failing at the first character that begins no
token. -/
def tokenize (l : Lexer) : Except LexError (List Token) :=
  l.scan.result

/-! ### One token at a time -/

/-- The next token or error, if any, and the lexer behind it. Nothing is left behind
an error. -/
def next (l : Lexer) : Option (Except LexError Token) × Lexer :=
  match l.step with
  | .finished => (none, l.spent)
  | .read t after => (some (.ok t), after)
  | .refused e => (some (.error e), l.spent)

/-- The first `n` answers of `next`, and the lexer behind them. -/
def nextN (l : Lexer) : Nat → List (Option (Except LexError Token)) × Lexer
  | 0 => ([], l)
  | n + 1 =>
    let (answer, after) := l.next
    let (answers, last) := after.nextN n
    (answer :: answers, last)

theorem nextN_succ (l : Lexer) (n : Nat) :
    l.nextN (n + 1) = (l.next.1 :: (l.next.2.nextN n).1, (l.next.2.nextN n).2) := rfl

/-- Asking goes on where it was left. -/
theorem nextN_add (l : Lexer) (m n : Nat) :
    l.nextN (m + n) =
      ((l.nextN m).1 ++ ((l.nextN m).2.nextN n).1, ((l.nextN m).2.nextN n).2) := by
  induction m generalizing l with
  | zero =>
    rw [Nat.zero_add]
    rfl
  | succ m ih =>
    rw [Nat.add_right_comm, nextN_succ, nextN_succ, ih]
    rfl

/-- A lexer with a token in front of it answers with the token and goes on behind it. -/
theorem next_of_token {l : Lexer} {t : Token} {more : List Token} {error? : Option LexError}
    (h : l.scan = ⟨t :: more, error?⟩) :
    ∃ after : Lexer, l.next = (some (.ok t), after) ∧ after.scan = ⟨more, error?⟩ := by
  cases hstep : l.step with
  | finished =>
    rw [scan_of_finished hstep] at h
    cases h
  | refused e =>
    rw [scan_of_refused hstep] at h
    cases h
  | read first after =>
    rw [scan_of_read hstep] at h
    cases h
    exact ⟨after, by rw [next, hstep], rfl⟩

theorem next_of_finished {l : Lexer} (h : l.scan = ⟨[], none⟩) : l.next = (none, l.spent) := by
  cases hstep : l.step with
  | finished => rw [next, hstep]
  | read t after =>
    rw [scan_of_read hstep] at h
    cases h
  | refused e =>
    rw [scan_of_refused hstep] at h
    cases h

theorem next_of_scan {l : Lexer} {e : LexError} (h : l.scan = ⟨[], some e⟩) :
    l.next = (some (.error e), l.spent) := by
  cases hstep : l.step with
  | finished =>
    rw [scan_of_finished hstep] at h
    cases h
  | read t after =>
    rw [scan_of_read hstep] at h
    cases h
  | refused e' =>
    rw [scan_of_refused hstep] at h
    cases h
    rw [next, hstep]

/-- Asked for its tokens one by one, a lexer answers with them, and goes on with what
is left. -/
theorem nextN_of_scan {l : Lexer} {tokens behind : List Token} {error? : Option LexError}
    (h : l.scan = ⟨tokens ++ behind, error?⟩) :
    ∃ after : Lexer, l.nextN tokens.length = (tokens.map fun t => some (.ok t), after) ∧
      after.scan = ⟨behind, error?⟩ := by
  induction tokens generalizing l with
  | nil => exact ⟨l, rfl, h⟩
  | cons t tokens ih =>
    obtain ⟨m, hnext, hm⟩ := next_of_token h
    obtain ⟨after, hafter, hbehind⟩ := ih hm
    refine ⟨after, ?_, hbehind⟩
    rw [List.length_cons, nextN_succ, hnext, hafter]
    rfl

end Lexer

/-- The tokens of a text under a table. -/
def tokenize (table : OperationTable) (source : String) : Except LexError (List Token) :=
  (Lexer.ofSource table source).tokenize

theorem tokenize_eq_ok_iff {table : OperationTable} {source : String} {tokens : List Token} :
    tokenize table source = .ok tokens ↔
      Lexer.scan ⟨table, .start, source.toList⟩ = ⟨tokens, none⟩ := by
  show (Lexer.scan ⟨table, .start, source.toList⟩).result = _ ↔ _
  obtain ⟨read, _ | e⟩ := Lexer.scan ⟨table, .start, source.toList⟩
  · simp [Lexer.Scan.result]
  · simp [Lexer.Scan.result]

theorem tokenize_eq_error_iff {table : OperationTable} {source : String} {e : LexError} :
    tokenize table source = .error e ↔
      (Lexer.scan ⟨table, .start, source.toList⟩).error? = some e := by
  show (Lexer.scan ⟨table, .start, source.toList⟩).result = _ ↔ _
  obtain ⟨read, _ | e⟩ := Lexer.scan ⟨table, .start, source.toList⟩
  · simp [Lexer.Scan.result]
  · simp [Lexer.Scan.result]

end CircuitLang
