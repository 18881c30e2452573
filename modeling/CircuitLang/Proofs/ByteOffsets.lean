import CircuitLang.Token.Lexer
import Mathlib.Data.String.Basic

/-! Reading a text by byte offsets.

The lexer reads characters off a list. The same reading can be done on the bytes of the text:
every character comes with the offset of its first byte, and a lexeme is cut out of the text
from the offset of its first character to the offset of the next character that is left, or to
the end. Such a cut is refused unless both offsets lie at characters and the first is before
the second (`cut?`).

A byte lexer follows a lexer as long as its characters are what the lexer has left, at their
own offsets (`ByteLexer.Follows`). A step keeps this and is refused no cut
(`ByteLexer.Follows.step`), so a whole text is read without a refused cut, and comes to the
same tokens (`ByteLexer.tokenize?_eq`). -/
namespace CircuitLang

open String (utf8Len)

/-- The text between two byte offsets, of which the first is before the second. Each of them
lies at the first byte of a character, or at the end. -/
def cut? (source : String) (start stop : Nat) : Option String :=
  if start < stop ∧ (⟨start⟩ : String.Pos.Raw).IsValid source ∧
      (⟨stop⟩ : String.Pos.Raw).IsValid source then
    some (String.Pos.Raw.extract source ⟨start⟩ ⟨stop⟩)
  else none

theorem cut?_eq {source : String} {before lexeme behind : List Char}
    (hsource : source.toList = before ++ lexeme ++ behind) (hne : lexeme ≠ []) :
    cut? source (utf8Len before) (utf8Len before + utf8Len lexeme) = some (String.ofList lexeme) := by
  have hpos : 0 < utf8Len lexeme := Nat.pos_of_ne_zero fun h => hne (String.utf8Len_eq_zero.mp h)
  have htext : source = String.ofList (before ++ lexeme ++ behind) := by
    rw [← hsource, String.ofList_toList]
  have hstart : (⟨utf8Len before⟩ : String.Pos.Raw).IsValid source := by
    rw [String.Pos.Raw.isValid_iff_exists_append]
    refine ⟨String.ofList before, String.ofList (lexeme ++ behind), ?_, ?_⟩
    · rw [htext, ← String.ofList_append, List.append_assoc]
    · rw [String.rawEndPos_ofList]
  have hstop : (⟨utf8Len before + utf8Len lexeme⟩ : String.Pos.Raw).IsValid source := by
    rw [String.Pos.Raw.isValid_iff_exists_append]
    refine ⟨String.ofList (before ++ lexeme), String.ofList behind, ?_, ?_⟩
    · rw [htext, ← String.ofList_append]
    · rw [String.rawEndPos_ofList, String.utf8Len_append]
  rw [cut?, if_pos ⟨by omega, hstart, hstop⟩, htext, String.extract_of_valid]

-- Within a character nothing can be cut.
example : cut? "né:" 1 3 = some "é" ∧ cut? "né:" 1 2 = none := by decide

/-! ### Characters at their offsets -/

/-- Characters from an offset on, each with the offset of its first byte. -/
def offsets (start : Nat) : List Char → List (Nat × Char)
  | [] => []
  | c :: rest => (start, c) :: offsets (start + c.utf8Size) rest

/-- The offset of the first character that is left, or of the end. -/
def nextOffset (source : String) : List (Nat × Char) → Nat
  | [] => source.utf8ByteSize
  | (start, _) :: _ => start

theorem nextOffset_eq {source : String} {passed rest : List Char}
    (h : source.toList = passed ++ rest) :
    nextOffset source (offsets (utf8Len passed) rest) = utf8Len passed := by
  cases rest with
  | nil =>
    show source.utf8ByteSize = _
    rw [← String.ofList_toList (s := source), String.utf8ByteSize_ofList, h, List.append_nil]
  | cons c rest => rfl

theorem map_snd_offsets (start : Nat) (text : List Char) :
    (offsets start text).map Prod.snd = text := by
  induction text generalizing start with
  | nil => rfl
  | cons c rest ih => rw [offsets, List.map_cons, ih]

section
variable (p : Char → Bool)

theorem takeWhile_offsets (start : Nat) (text : List Char) :
    ((offsets start text).takeWhile fun pair => p pair.2).map Prod.snd = text.takeWhile p := by
  conv_rhs => rw [← map_snd_offsets start text, List.takeWhile_map]
  rfl

theorem dropWhile_offsets (start : Nat) (text : List Char) :
    ((offsets start text).dropWhile fun pair => p pair.2) =
      offsets (start + utf8Len (text.takeWhile p)) (text.dropWhile p) := by
  induction text generalizing start with
  | nil => rfl
  | cons c rest ih =>
    rw [offsets]
    by_cases hc : p c = true
    · rw [List.dropWhile_cons_of_pos (p := fun pair : Nat × Char => p pair.2) hc, List.takeWhile_cons_of_pos hc,
        List.dropWhile_cons_of_pos hc, ih, String.utf8Len_cons, Nat.add_assoc, Nat.add_comm c.utf8Size]
    · rw [List.dropWhile_cons_of_neg (p := fun pair : Nat × Char => p pair.2) hc, List.takeWhile_cons_of_neg hc,
        List.dropWhile_cons_of_neg hc]
      rfl

end

/-! ### The lexer on byte offsets -/

/-- A text that has been read in part by byte offsets: the whole text, and the characters that
are left of it with their offsets. -/
structure ByteLexer where
  table : OperationTable
  source : String
  place : Place
  rest : List (Nat × Char)

namespace ByteLexer

def ofSource (table : OperationTable) (source : String) : ByteLexer :=
  ⟨table, source, .start, offsets 0 source.toList⟩

/-- What reading one token comes to. -/
inductive Step where
  | finished
  | read (token : Token) (after : ByteLexer)
  | refused (error : LexError)

def pass (l : ByteLexer) (text : List Char) (rest : List (Nat × Char)) : ByteLexer :=
  ⟨l.table, l.source, l.place.after text, rest⟩

/-- Takes a mark, which is as long as its only character. -/
def takeMark? (l : ByteLexer) (kind : Kind) (start : Nat) (c : Char) (rest : List (Nat × Char)) :
    Option Step :=
  (cut? l.source start (start + c.utf8Size)).map fun lexeme =>
    .read ⟨kind, l.place.spanOf [c], lexeme⟩ (l.pass [c] rest)

/-- Takes a terminator, and passes the comment that it opens. -/
def takeTerminator? (l : ByteLexer) (start : Nat) (c : Char) (rest : List (Nat × Char)) :
    Option Step :=
  let comment := (rest.takeWhile fun pair => pair.2 ≠ '\n').map Prod.snd
  (cut? l.source start (start + c.utf8Size)).map fun lexeme =>
    .read ⟨.terminator, l.place.spanOf [c], lexeme⟩
      (l.pass (c :: comment) (rest.dropWhile fun pair => pair.2 ≠ '\n'))

/-- Takes a name, which goes up to the next character that it does not go on with. -/
def takeName? (l : ByteLexer) (start : Nat) (c : Char) (rest : List (Nat × Char)) : Option Step :=
  let name := c :: (rest.takeWhile fun pair => Text.isAlphanumeric pair.2).map Prod.snd
  let behind := rest.dropWhile fun pair => Text.isAlphanumeric pair.2
  (cut? l.source start (nextOffset l.source behind)).map fun lexeme =>
    .read ⟨.ofName l.table lexeme, l.place.spanOf name, lexeme⟩ (l.pass name behind)

/-- The token that begins with `c`, which is no blank. -/
def takeToken? (l : ByteLexer) (start : Nat) (c : Char) (rest : List (Nat × Char)) : Option Step :=
  if c = ':' then l.takeMark? .definition start c rest
  else if c = ';' then l.takeTerminator? start c rest
  else if c = '0' then l.takeMark? (.literal false) start c rest
  else if c = '1' then l.takeMark? (.literal true) start c rest
  else if Text.isAlphabetic c then l.takeName? start c rest
  else some (.refused ⟨c, l.place.spanOf [c]⟩)

/-- Passes blanks and reads the token behind them. -/
def stepFrom? (table : OperationTable) (source : String) (place : Place) :
    List (Nat × Char) → Option Step
  | [] => some .finished
  | (start, c) :: rest =>
    if Text.isBlank c then stepFrom? table source (place.advance c) rest
    else takeToken? ⟨table, source, place, (start, c) :: rest⟩ start c rest

def step? (l : ByteLexer) : Option Step :=
  stepFrom? l.table l.source l.place l.rest

section
variable {l after : ByteLexer} {start : Nat} {c : Char} {rest : List (Nat × Char)} {t : Token}

theorem takeMark?_rest {kind : Kind}
    (h : l.takeMark? kind start c rest = some (.read t after)) : after.rest = rest := by
  obtain ⟨_, -, hread⟩ := Option.map_eq_some_iff.mp h
  cases hread
  rfl

theorem takeTerminator?_rest (h : l.takeTerminator? start c rest = some (.read t after)) :
    after.rest = rest.dropWhile fun pair => pair.2 ≠ '\n' := by
  obtain ⟨_, -, hread⟩ := Option.map_eq_some_iff.mp h
  cases hread
  rfl

theorem takeName?_rest (h : l.takeName? start c rest = some (.read t after)) :
    after.rest = rest.dropWhile fun pair => Text.isAlphanumeric pair.2 := by
  obtain ⟨_, -, hread⟩ := Option.map_eq_some_iff.mp h
  cases hread
  rfl

theorem takeToken?_shorter (h : l.takeToken? start c rest = some (.read t after)) :
    after.rest.length ≤ rest.length := by
  have hdrop (p : Nat × Char → Bool) : (rest.dropWhile p).length ≤ rest.length :=
    (List.dropWhile_sublist p).length_le
  unfold takeToken? at h
  split at h
  · rw [takeMark?_rest h]
  split at h
  · rw [takeTerminator?_rest h]
    exact hdrop _
  split at h
  · rw [takeMark?_rest h]
  split at h
  · rw [takeMark?_rest h]
  split at h
  · rw [takeName?_rest h]
    exact hdrop _
  · cases h

end

theorem step?_shorter {l after : ByteLexer} {t : Token} (h : l.step? = some (.read t after)) :
    after.rest.length < l.rest.length := by
  obtain ⟨table, source, place, rest⟩ := l
  simp only [step?] at h ⊢
  induction rest generalizing place with
  | nil => cases h
  | cons pair rest ih =>
    rw [stepFrom?] at h
    split at h
    · exact Nat.lt_succ_of_lt (ih _ h)
    · exact Nat.lt_succ_of_le (takeToken?_shorter h)

def scan? (l : ByteLexer) : Option Lexer.Scan :=
  match _h : l.step? with
  | none => none
  | some .finished => some ⟨[], none⟩
  | some (.read t after) => after.scan?.map fun behind => ⟨t :: behind.tokens, behind.error?⟩
  | some (.refused e) => some ⟨[], some e⟩
termination_by l.rest.length
decreasing_by exact step?_shorter _h

section
variable {l : ByteLexer}

theorem scan?_of_finished (h : l.step? = some .finished) : l.scan? = some ⟨[], none⟩ := by
  rw [scan?]
  split <;> simp_all

theorem scan?_of_read {after : ByteLexer} {t : Token} (h : l.step? = some (.read t after)) :
    l.scan? = after.scan?.map fun behind => ⟨t :: behind.tokens, behind.error?⟩ := by
  rw [scan?]
  split <;> simp_all

theorem scan?_of_refused {e : LexError} (h : l.step? = some (.refused e)) :
    l.scan? = some ⟨[], some e⟩ := by
  rw [scan?]
  split <;> simp_all

end

/-! ### Following the lexer -/

/-- A byte lexer is where a lexer is: it has the same characters left, at their offsets in the
whole text. -/
structure Follows (b : ByteLexer) (l : Lexer) : Prop where
  table : b.table = l.table
  place : b.place = l.place
  rest : ∃ passed, b.source.toList = passed ++ l.rest ∧ b.rest = offsets (utf8Len passed) l.rest

/-- Steps that come to the same, with lexers behind them of which one follows the other. -/
inductive Step.Follows : Step → Lexer.Step → Prop where
  | finished : Follows .finished .finished
  | read {t : Token} {after : ByteLexer} {after' : Lexer} (h : after.Follows after') :
      Follows (.read t after) (.read t after')
  | refused (e : LexError) : Follows (.refused e) (.refused e)

theorem follows_ofSource (table : OperationTable) (source : String) :
    (ofSource table source).Follows (Lexer.ofSource table source) :=
  ⟨rfl, rfl, [], rfl, rfl⟩

section
variable {table : OperationTable} {source : String} {place : Place} {passed rest : List Char}
  {c : Char}

theorem follows_behind {piece behind : List Char} (htext : rest = piece ++ behind)
    (hsource : source.toList = passed ++ rest) :
    Follows ⟨table, source, place, offsets (utf8Len passed + utf8Len piece) behind⟩
      ⟨table, place, behind⟩ := by
  refine ⟨rfl, rfl, passed ++ piece, ?_, ?_⟩
  · rw [hsource, htext, List.append_assoc]
  · rw [String.utf8Len_append]

theorem takeMark_follows (kind : Kind) (hsource : source.toList = passed ++ c :: rest)
    (ahead : List (Nat × Char)) :
    ∃ s, takeMark? ⟨table, source, place, ahead⟩ kind (utf8Len passed) c
          (offsets (utf8Len passed + c.utf8Size) rest) = some s ∧
      s.Follows (Lexer.take ⟨table, place, c :: rest⟩ kind [c] rest) := by
  have hsize : c.utf8Size = utf8Len [c] := by
    rw [String.utf8Len_cons, String.utf8Len_nil, Nat.zero_add]
  have hcut : cut? source (utf8Len passed) (utf8Len passed + utf8Len [c]) =
      some (String.ofList [c]) :=
    cut?_eq (by rw [hsource, List.append_cons]) (by simp)
  rw [hsize]
  refine ⟨_, by rw [takeMark?, hsize, hcut, Option.map_some], .read ?_⟩
  exact follows_behind List.singleton_append.symm hsource

theorem takeTerminator_follows (hsource : source.toList = passed ++ ';' :: rest)
    (ahead : List (Nat × Char)) :
    ∃ s, takeTerminator? ⟨table, source, place, ahead⟩ (utf8Len passed) ';'
          (offsets (utf8Len passed + Char.utf8Size ';') rest) = some s ∧
      s.Follows (Lexer.takeTerminator ⟨table, place, ';' :: rest⟩ rest) := by
  let comment := rest.takeWhile (· ≠ '\n')
  have hcut : cut? source (utf8Len passed) (utf8Len passed + utf8Len [';']) =
      some (String.ofList [';']) :=
    cut?_eq (by rw [hsource, List.append_cons]) (by simp)
  have htext : ';' :: rest = (';' :: comment) ++ rest.dropWhile (· ≠ '\n') := by
    rw [List.cons_append, List.takeWhile_append_dropWhile]
  have hsize : utf8Len passed + Char.utf8Size ';' + utf8Len comment =
      utf8Len passed + utf8Len (';' :: comment) := by
    rw [String.utf8Len_cons]
    omega
  refine ⟨_, by rw [takeTerminator?]; exact congrArg (Option.map _) hcut, ?_⟩
  simp only [takeWhile_offsets fun c => decide (c ≠ '\n'), dropWhile_offsets fun c => decide (c ≠ '\n')]
  rw [hsize]
  exact .read (follows_behind htext hsource)

theorem takeName_follows (hsource : source.toList = passed ++ c :: rest)
    (ahead : List (Nat × Char)) :
    ∃ s, takeName? ⟨table, source, place, ahead⟩ (utf8Len passed) c
          (offsets (utf8Len passed + c.utf8Size) rest) = some s ∧
      s.Follows (Lexer.takeName ⟨table, place, c :: rest⟩ c rest) := by
  let name := c :: rest.takeWhile Text.isAlphanumeric
  let behind := rest.dropWhile Text.isAlphanumeric
  have htext : c :: rest = name ++ behind := by
    rw [List.cons_append, List.takeWhile_append_dropWhile]
  have hsize : utf8Len passed + c.utf8Size + utf8Len (rest.takeWhile Text.isAlphanumeric) =
      utf8Len passed + utf8Len name := by
    rw [String.utf8Len_cons]
    omega
  have hend : nextOffset source (offsets (utf8Len passed + utf8Len name) behind) =
      utf8Len passed + utf8Len name := by
    rw [← String.utf8Len_append]
    exact nextOffset_eq (by rw [hsource, htext, List.append_assoc])
  have hcut : cut? source (utf8Len passed) (utf8Len passed + utf8Len name) = some (String.ofList name) :=
    cut?_eq (by rw [hsource, htext, List.append_assoc]) (by simp [name])
  refine ⟨_, by
    simp only [takeName?, takeWhile_offsets, dropWhile_offsets]
    rw [hsize, hend, hcut, Option.map_some], .read ?_⟩
  exact follows_behind htext hsource

/-- A token is taken alike, and no cut is refused. -/
theorem takeToken_follows (hsource : source.toList = passed ++ c :: rest)
    (ahead : List (Nat × Char)) :
    ∃ s, takeToken? ⟨table, source, place, ahead⟩ (utf8Len passed) c
          (offsets (utf8Len passed + c.utf8Size) rest) = some s ∧
      s.Follows (Lexer.takeToken ⟨table, place, c :: rest⟩ c rest) := by
  unfold takeToken? Lexer.takeToken
  split
  · exact takeMark_follows .definition hsource ahead
  split
  · rename_i hc
    subst hc
    exact takeTerminator_follows hsource ahead
  split
  · exact takeMark_follows (.literal false) hsource ahead
  split
  · exact takeMark_follows (.literal true) hsource ahead
  split
  · exact takeName_follows hsource ahead
  · exact ⟨_, rfl, .refused _⟩

end

/-- **A step on byte offsets comes to the same as a step**, and no cut is refused. -/
theorem Follows.step {b : ByteLexer} {l : Lexer} (h : b.Follows l) :
    ∃ s, b.step? = some s ∧ s.Follows l.step := by
  obtain ⟨table, source, place, ahead⟩ := b
  obtain ⟨table', place', rest⟩ := l
  obtain ⟨htable, hplace, passed, hsource, hahead⟩ := h
  dsimp only at htable hplace hsource hahead
  subst htable hplace hahead
  show ∃ s, stepFrom? table source place (offsets (utf8Len passed) rest) = some s ∧
    s.Follows (Lexer.stepFrom table place rest)
  induction rest generalizing place passed with
  | nil => exact ⟨_, rfl, .finished⟩
  | cons c rest ih =>
    rw [offsets, stepFrom?, Lexer.stepFrom]
    split
    · have hnext := ih (place.advance c) (passed ++ [c]) (by rw [hsource, List.append_cons])
      rwa [String.utf8Len_append, String.utf8Len_cons, String.utf8Len_nil, Nat.zero_add] at hnext
    · exact takeToken_follows hsource _

/-- What follows a lexer reads what it reads. -/
theorem Follows.scan {b : ByteLexer} {l : Lexer} (h : b.Follows l) : b.scan? = some l.scan := by
  induction l using Lexer.scan.induct generalizing b with
  | case1 l hstep =>
    obtain ⟨s, hs, hfollows⟩ := h.step
    rw [hstep] at hfollows
    cases hfollows
    rw [Lexer.scan_of_finished hstep, scan?_of_finished hs]
  | case2 l t after hstep ih =>
    obtain ⟨s, hs, hfollows⟩ := h.step
    rw [hstep] at hfollows
    cases hfollows with
    | read hbehind =>
      rw [Lexer.scan_of_read hstep, scan?_of_read hs, ih hbehind, Option.map_some]
  | case3 l e hstep =>
    obtain ⟨s, hs, hfollows⟩ := h.step
    rw [hstep] at hfollows
    cases hfollows
    rw [Lexer.scan_of_refused hstep, scan?_of_refused hs]

/-- The tokens of a text, read by byte offsets. -/
def tokenize? (table : OperationTable) (source : String) : Option (Except LexError (List Token)) :=
  (ofSource table source).scan?.map Lexer.Scan.result

/-- **Reading a text by byte offsets is refused no cut and comes to its tokens.** -/
theorem tokenize?_eq (table : OperationTable) (source : String) :
    tokenize? table source = some (tokenize table source) := by
  rw [tokenize?, (follows_ofSource table source).scan, Option.map_some]
  rfl

end ByteLexer

end CircuitLang
