import CircuitLang.Token.Lexer
import Mathlib.Data.List.TakeWhile

/-! The lexical grammar.

`Lexeme` says what a lexeme of each kind is in front of the text behind it, and `Gap`
what may stand between a lexeme and the text behind that. A name is taken as long as
it goes on, because nothing alphanumeric may follow it; behind a terminator the rest
of the line is a comment.

A text begins with a lexeme unless its first character is a blank or illegal
(`exists_lexeme`), and with no second one (`Lexeme.unique`). The same holds of gaps
in front of a text that does not begin with a blank (`Gap.unique`). -/
namespace CircuitLang

/-! ### Lexemes and gaps -/

/-- A stretch of blanks. -/
def Blank (text : List Char) : Prop :=
  ∀ c ∈ text, Text.isBlank c = true

theorem Blank.singleton {c : Char} (h : Text.isBlank c = true) : Blank [c] := by
  intro d hd
  rw [List.mem_singleton.mp hd]
  exact h

/-- A text that does not begin with a blank. -/
def Dense (text : List Char) : Prop :=
  ∀ c ∈ text.head?, Text.isBlank c = false

/-- A character that is no blank and begins no lexeme. -/
structure Illegal (c : Char) : Prop where
  blank : Text.isBlank c = false
  colon : c ≠ ':'
  semicolon : c ≠ ';'
  zero : c ≠ '0'
  one : c ≠ '1'
  alphabetic : Text.isAlphabetic c = false

/-- A whole name in front of a text: an alphabetic character and alphanumeric ones, with
nothing alphanumeric behind them. -/
structure Name (name behind : List Char) : Prop where
  letters : ∃ c more, name = c :: more ∧ Text.isAlphabetic c = true ∧
    ∀ d ∈ more, Text.isAlphanumeric d = true
  ends : ∀ d ∈ behind.head?, Text.isAlphanumeric d = false

/-- The lexemes of each kind, in front of the text behind them. -/
inductive Lexeme (table : OperationTable) : Kind → List Char → List Char → Prop where
  | definition {behind : List Char} : Lexeme table .definition [':'] behind
  | terminator {behind : List Char} : Lexeme table .terminator [';'] behind
  | zero {behind : List Char} : Lexeme table (.literal false) ['0'] behind
  | one {behind : List Char} : Lexeme table (.literal true) ['1'] behind
  | keyword {name behind : List Char} {op : Operation} (hname : Name name behind)
      (hop : table.get? (String.ofList name) = some op) : Lexeme table (.keyword op) name behind
  | identifier {name behind : List Char} (hname : Name name behind)
      (hop : table.get? (String.ofList name) = none) :
      Lexeme table (.identifier (String.ofList name)) name behind

/-- What may stand between a lexeme and the text behind it: blanks, and behind a
terminator a comment that ends its line or the text. -/
inductive Gap : Kind → List Char → List Char → Prop where
  | blanks {kind : Kind} {gap behind : List Char} (hkind : kind ≠ .terminator)
      (hblank : Blank gap) : Gap kind gap behind
  | line {comment gap behind : List Char} (hcomment : '\n' ∉ comment) (hblank : Blank gap) :
      Gap .terminator (comment ++ '\n' :: gap) behind
  | last {comment : List Char} (hcomment : '\n' ∉ comment) : Gap .terminator comment []

/-! ### Where stretches end -/

/-- A stretch in a class ends where the class does. -/
theorem takeWhile_append_of_ends {p : Char → Bool} {inside behind : List Char}
    (hinside : ∀ c ∈ inside, p c = true) (hends : ∀ c ∈ behind.head?, p c = false) :
    (inside ++ behind).takeWhile p = inside ∧ (inside ++ behind).dropWhile p = behind := by
  rw [List.takeWhile_append_of_pos hinside, List.dropWhile_append_of_pos hinside]
  cases behind with
  | nil => simp
  | cons c rest => simp [hends c rfl]

/-- Two stretches of one class in front of the same text are the same stretch. -/
theorem append_inj_of_ends {p : Char → Bool} {a a' b b' : List Char} (ha : ∀ c ∈ a, p c = true)
    (ha' : ∀ c ∈ a', p c = true) (hb : ∀ c ∈ b.head?, p c = false)
    (hb' : ∀ c ∈ b'.head?, p c = false) (h : a ++ b = a' ++ b') : a = a' ∧ b = b' := by
  obtain ⟨htake, hdrop⟩ := takeWhile_append_of_ends ha hb
  obtain ⟨htake', hdrop'⟩ := takeWhile_append_of_ends ha' hb'
  rw [h] at htake hdrop
  exact ⟨htake.symm.trans htake', hdrop.symm.trans hdrop'⟩

/-- Any text is a stretch of a class and what does not begin in the class. -/
theorem exists_stretch (p : Char → Bool) (text : List Char) :
    ∃ inside behind, text = inside ++ behind ∧ (∀ c ∈ inside, p c = true) ∧
      ∀ c ∈ behind.head?, p c = false := by
  refine ⟨text.takeWhile p, text.dropWhile p, List.takeWhile_append_dropWhile.symm,
    fun c hc => List.mem_takeWhile_imp hc, fun c hc => ?_⟩
  have hne : text.dropWhile p ≠ [] := by
    intro hnil
    rw [hnil] at hc
    cases hc
  rw [List.head?_eq_some_head hne, Option.mem_some_iff] at hc
  rw [← hc]
  exact List.head_dropWhile_not p hne

theorem newline_notMem_iff {text : List Char} :
    '\n' ∉ text ↔ ∀ c ∈ text, decide (c ≠ '\n') = true := by
  constructor
  · intro h c hc
    have hne : c ≠ '\n' := fun heq => h (heq ▸ hc)
    simpa using hne
  · intro h hmem
    simpa using h _ hmem

theorem head?_newline_iff {text : List Char} :
    (∀ c ∈ text.head?, c = '\n') ↔ ∀ c ∈ text.head?, decide (c ≠ '\n') = false := by
  simp

theorem newline_notMem_of_isBlank {text : List Char} (h : ∀ c ∈ text, Text.isBlank c = false) :
    '\n' ∉ text := by
  intro hmem
  exact absurd (h _ hmem) (by decide)

/-! ### Lexemes -/

theorem isBlank_eq_false_of_isAlphanumeric {c : Char} (h : Text.isAlphanumeric c = true) :
    Text.isBlank c = false := by
  cases hblank : Text.isBlank c
  · rfl
  · rw [Text.isAlphanumeric_eq_false_of_isBlank hblank] at h
    cases h

theorem Name.mem {name behind : List Char} (h : Name name behind) {c : Char} (hc : c ∈ name) :
    Text.isAlphanumeric c = true := by
  obtain ⟨first, more, rfl, hfirst, hmore⟩ := h.letters
  rcases List.mem_cons.mp hc with rfl | hc
  · exact Text.isAlphanumeric_of_isAlphabetic hfirst
  · exact hmore c hc

/-- The kind of a mark, the lexemes that are a single character whatever follows. -/
def mark? (c : Char) : Option Kind :=
  if c = ':' then some .definition
  else if c = ';' then some .terminator
  else if c = '0' then some (.literal false)
  else if c = '1' then some (.literal true)
  else none

theorem mark?_eq_some {c : Char} {kind : Kind} (h : mark? c = some kind) :
    c = ':' ∧ kind = .definition ∨ c = ';' ∧ kind = .terminator ∨
      c = '0' ∧ kind = .literal false ∨ c = '1' ∧ kind = .literal true := by
  simp only [mark?] at h
  split at h
  · simp_all
  split at h
  · simp_all
  split at h
  · simp_all
  split at h
  · simp_all
  · cases h

theorem isAlphabetic_eq_false_of_mark? {c : Char} {kind : Kind} (h : mark? c = some kind) :
    Text.isAlphabetic c = false := by
  rcases mark?_eq_some h with ⟨rfl, -⟩ | ⟨rfl, -⟩ | ⟨rfl, -⟩ | ⟨rfl, -⟩ <;> decide

theorem isBlank_eq_false_of_mark? {c : Char} {kind : Kind} (h : mark? c = some kind) :
    Text.isBlank c = false := by
  rcases mark?_eq_some h with ⟨rfl, -⟩ | ⟨rfl, -⟩ | ⟨rfl, -⟩ | ⟨rfl, -⟩ <;> decide

theorem illegal_of_mark? {c : Char} (hblank : Text.isBlank c = false) (hmark : mark? c = none)
    (halpha : Text.isAlphabetic c = false) : Illegal c := by
  have hne : c ≠ ':' ∧ c ≠ ';' ∧ c ≠ '0' ∧ c ≠ '1' := by
    refine ⟨?_, ?_, ?_, ?_⟩ <;> (intro hc; subst hc; cases hmark)
  exact ⟨hblank, hne.1, hne.2.1, hne.2.2.1, hne.2.2.2, halpha⟩

theorem Kind.ofName_ne_terminator (table : OperationTable) (name : String) :
    Kind.ofName table name ≠ .terminator := by
  unfold Kind.ofName
  split <;> exact nofun

namespace Lexeme
variable {table : OperationTable} {kind kind' : Kind} {lexeme lexeme' behind behind' : List Char}

/-- A lexeme is a mark, or a name of the kind the table gives it. -/
theorem mark_or_name (h : Lexeme table kind lexeme behind) :
    (∃ c, lexeme = [c] ∧ mark? c = some kind) ∨
      Name lexeme behind ∧ kind = .ofName table (String.ofList lexeme) := by
  cases h with
  | definition => exact .inl ⟨':', rfl, rfl⟩
  | terminator => exact .inl ⟨';', rfl, rfl⟩
  | zero => exact .inl ⟨'0', rfl, rfl⟩
  | one => exact .inl ⟨'1', rfl, rfl⟩
  | keyword hname hop => exact .inr ⟨hname, by rw [Kind.ofName, hop]⟩
  | identifier hname hop => exact .inr ⟨hname, by rw [Kind.ofName, hop]⟩

theorem of_mark {c : Char} (h : mark? c = some kind) : Lexeme table kind [c] behind := by
  rcases mark?_eq_some h with ⟨rfl, rfl⟩ | ⟨rfl, rfl⟩ | ⟨rfl, rfl⟩ | ⟨rfl, rfl⟩ <;> constructor

theorem of_name (h : Name lexeme behind) :
    Lexeme table (.ofName table (String.ofList lexeme)) lexeme behind := by
  cases hop : table.get? (String.ofList lexeme) with
  | none =>
    rw [Kind.ofName, hop]
    exact .identifier h hop
  | some op =>
    rw [Kind.ofName, hop]
    exact .keyword h hop

theorem not_blank (h : Lexeme table kind lexeme behind) :
    ∀ c ∈ lexeme, Text.isBlank c = false := by
  intro c hc
  rcases h.mark_or_name with ⟨d, rfl, hmark⟩ | ⟨hname, -⟩
  · rw [List.mem_singleton.mp hc]
    exact isBlank_eq_false_of_mark? hmark
  · exact isBlank_eq_false_of_isAlphanumeric (hname.mem hc)

theorem newline_notMem (h : Lexeme table kind lexeme behind) : '\n' ∉ lexeme :=
  newline_notMem_of_isBlank h.not_blank

/-- A lexeme is never empty and begins with no blank. -/
theorem head (h : Lexeme table kind lexeme behind) :
    ∃ c more, lexeme = c :: more ∧ Text.isBlank c = false := by
  have hblank := h.not_blank
  rcases h.mark_or_name with ⟨c, rfl, -⟩ | ⟨hname, -⟩
  · exact ⟨c, [], rfl, hblank c (by simp)⟩
  · obtain ⟨c, more, rfl, -⟩ := hname.letters
    exact ⟨c, more, rfl, hblank c (by simp)⟩

theorem not_illegal {c : Char} {more : List Char} (h : Lexeme table kind (c :: more) behind) :
    ¬ Illegal c := by
  intro hillegal
  rcases h.mark_or_name with ⟨d, hd, hmark⟩ | ⟨hname, -⟩
  · obtain ⟨rfl, -⟩ := List.cons.inj hd
    rcases mark?_eq_some hmark with ⟨rfl, -⟩ | ⟨rfl, -⟩ | ⟨rfl, -⟩ | ⟨rfl, -⟩
    · exact hillegal.colon rfl
    · exact hillegal.semicolon rfl
    · exact hillegal.zero rfl
    · exact hillegal.one rfl
  · obtain ⟨d, rest, hd, halpha, -⟩ := hname.letters
    obtain ⟨rfl, -⟩ := List.cons.inj hd
    rw [hillegal.alphabetic] at halpha
    cases halpha

/-- Where nothing can be read there is no lexeme. -/
theorem append_ne {more rest : List Char} (h : Lexeme table kind lexeme behind)
    (hrest : ∀ c ∈ rest.head?, Illegal c) : lexeme ++ more ≠ rest := by
  intro heq
  obtain ⟨c, tail, rfl, -⟩ := h.head
  have hc : rest.head? = some c := by rw [← heq]; rfl
  exact h.not_illegal (hrest c hc)

/-- **A text begins with one lexeme at most.** -/
theorem unique (h : Lexeme table kind lexeme behind) (h' : Lexeme table kind' lexeme' behind')
    (htext : lexeme ++ behind = lexeme' ++ behind') :
    kind = kind' ∧ lexeme = lexeme' ∧ behind = behind' := by
  rcases h.mark_or_name with ⟨c, rfl, hmark⟩ | ⟨hname, rfl⟩ <;>
    rcases h'.mark_or_name with ⟨c', rfl, hmark'⟩ | ⟨hname', rfl⟩
  · obtain ⟨rfl, rfl⟩ := List.cons.inj htext
    rw [hmark, Option.some.injEq] at hmark'
    exact ⟨hmark', rfl, rfl⟩
  · obtain ⟨d, more, rfl, hd, -⟩ := hname'.letters
    obtain ⟨rfl, -⟩ := List.cons.inj htext
    rw [isAlphabetic_eq_false_of_mark? hmark] at hd
    cases hd
  · obtain ⟨d, more, rfl, hd, -⟩ := hname.letters
    obtain ⟨rfl, -⟩ := List.cons.inj htext
    rw [isAlphabetic_eq_false_of_mark? hmark'] at hd
    cases hd
  · obtain ⟨rfl, rfl⟩ := append_inj_of_ends (fun _ => hname.mem) (fun _ => hname'.mem) hname.ends
      hname'.ends htext
    exact ⟨rfl, rfl, rfl⟩

end Lexeme

theorem Illegal.newline_notMem {c : Char} (h : Illegal c) : '\n' ∉ [c] := by
  apply newline_notMem_of_isBlank
  rw [List.forall_mem_singleton]
  exact h.blank

/-- **A text begins with a lexeme, unless its first character is a blank or illegal.** -/
theorem exists_lexeme (table : OperationTable) {c : Char} (rest : List Char)
    (hblank : Text.isBlank c = false) (hlegal : ¬ Illegal c) :
    ∃ kind lexeme behind, c :: rest = lexeme ++ behind ∧ Lexeme table kind lexeme behind := by
  cases hmark : mark? c with
  | some kind => exact ⟨kind, [c], rest, rfl, .of_mark hmark⟩
  | none =>
    cases halpha : Text.isAlphabetic c
    · exact absurd (illegal_of_mark? hblank hmark halpha) hlegal
    · obtain ⟨more, behind, rfl, hmore, hends⟩ := exists_stretch Text.isAlphanumeric rest
      exact ⟨_, c :: more, behind, rfl, .of_name ⟨⟨c, more, rfl, halpha, hmore⟩, hends⟩⟩

/-! ### Gaps -/

/-- What is passed together with a lexeme: behind a terminator, all that is left of the
line. -/
inductive Comment : Kind → List Char → List Char → Prop where
  | none {kind : Kind} {behind : List Char} (hkind : kind ≠ .terminator) : Comment kind [] behind
  | line {comment behind : List Char} (hcomment : '\n' ∉ comment)
      (hends : ∀ c ∈ behind.head?, c = '\n') : Comment .terminator comment behind

theorem exists_comment (kind : Kind) (text : List Char) :
    ∃ comment behind, text = comment ++ behind ∧ Comment kind comment behind := by
  by_cases hkind : kind = .terminator
  · obtain ⟨comment, behind, htext, hcomment, hends⟩ := exists_stretch (· ≠ '\n') text
    subst hkind
    exact ⟨comment, behind, htext, .line (newline_notMem_iff.mpr hcomment)
      (head?_newline_iff.mpr hends)⟩
  · exact ⟨[], text, rfl, .none hkind⟩

theorem Comment.unique {kind : Kind} {a a' b b' : List Char} (h : Comment kind a b)
    (h' : Comment kind a' b') (htext : a ++ b = a' ++ b') : a = a' ∧ b = b' := by
  cases h with
  | none hkind =>
    cases h' with
    | none => exact ⟨rfl, htext⟩
    | line => exact absurd rfl hkind
  | line hcomment hends =>
    cases h' with
    | none hkind => exact absurd rfl hkind
    | line hcomment' hends' =>
      exact append_inj_of_ends (newline_notMem_iff.mp hcomment) (newline_notMem_iff.mp hcomment')
        (head?_newline_iff.mp hends) (head?_newline_iff.mp hends') htext

/-- A gap is a comment, where there can be one, and blanks. -/
theorem Gap.split {kind : Kind} {gap behind : List Char} (h : Gap kind gap behind) :
    ∃ comment blanks, gap = comment ++ blanks ∧ Comment kind comment (blanks ++ behind) ∧
      Blank blanks := by
  cases h with
  | blanks hkind hblank => exact ⟨[], gap, rfl, .none hkind, hblank⟩
  | @line comment blanks _ hcomment hblank =>
    refine ⟨comment, '\n' :: blanks, rfl, .line hcomment (by simp), ?_⟩
    intro c hc
    rcases List.mem_cons.mp hc with rfl | hc
    · decide
    · exact hblank c hc
  | last hcomment =>
    exact ⟨gap, [], (List.append_nil gap).symm, .line hcomment (by simp), by simp [Blank]⟩

theorem Comment.gap {kind : Kind} {comment blanks behind : List Char}
    (h : Comment kind comment (blanks ++ behind)) (hblank : Blank blanks) (hdense : Dense behind) :
    Gap kind (comment ++ blanks) behind := by
  cases h with
  | none hkind => exact .blanks hkind hblank
  | line hcomment hends =>
    cases blanks with
    | cons c blanks =>
      have hc : c = '\n' := hends c (by simp)
      subst hc
      exact .line hcomment fun d hd => hblank d (by simp [hd])
    | nil =>
      cases behind with
      | nil =>
        rw [List.append_nil]
        exact .last hcomment
      | cons c behind =>
        have hc : c = '\n' := hends c (by simp)
        subst hc
        exact absurd (hdense '\n' rfl) (by decide)

/-- Behind a terminator the line ends, unless the text does. -/
theorem Gap.newline {gap behind : List Char} (h : Gap .terminator gap behind) :
    behind = [] ∨ '\n' ∈ gap := by
  cases h with
  | blanks hkind => exact absurd rfl hkind
  | line => exact .inr (by simp)
  | last => exact .inl rfl

theorem Gap.unique {kind : Kind} {gap gap' behind behind' : List Char} (h : Gap kind gap behind)
    (h' : Gap kind gap' behind') (hdense : Dense behind) (hdense' : Dense behind')
    (htext : gap ++ behind = gap' ++ behind') : gap = gap' ∧ behind = behind' := by
  obtain ⟨comment, blanks, rfl, hcomment, hblank⟩ := h.split
  obtain ⟨comment', blanks', rfl, hcomment', hblank'⟩ := h'.split
  rw [List.append_assoc, List.append_assoc] at htext
  obtain ⟨rfl, hbehind⟩ := hcomment.unique hcomment' htext
  obtain ⟨rfl, rfl⟩ := append_inj_of_ends hblank hblank' hdense hdense' hbehind
  exact ⟨rfl, rfl⟩

end CircuitLang
