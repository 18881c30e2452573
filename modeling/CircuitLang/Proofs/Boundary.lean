import CircuitLang.Proofs.Lexeme

/-! Where a text can be cut in two.

A name ends where nothing alphanumeric follows, and a comment ends in front of a line
feed. So what stands behind a text can change the last lexeme of the text or the
comment behind it, and nothing else: at a `Boundary` it changes neither, and a lexeme or
a comment in front of the end of the text stands in front of the text behind it as
well. -/
namespace CircuitLang

/-- The text ends with a name. -/
def EndsInName (text : List Char) : Prop :=
  ∃ before name, text = before ++ name ∧ Name name []

/-- The text ends within a comment: no line ends behind its last terminator. -/
def EndsInComment (text : List Char) : Prop :=
  ∃ before comment, text = before ++ ';' :: comment ∧ '\n' ∉ comment

/-- A cut between two texts through which no name and no comment goes. -/
structure Boundary (before behind : List Char) : Prop where
  name : EndsInName before → ∀ c ∈ behind.head?, Text.isAlphanumeric c = false
  comment : EndsInComment before → ∀ c ∈ behind.head?, c = '\n'

namespace Boundary

theorem end_of_text (before : List Char) : Boundary before [] :=
  ⟨by simp, by simp⟩

/-- Only the end of the text in front counts. -/
theorem of_append {before after behind : List Char} (h : Boundary (before ++ after) behind) :
    Boundary after behind := by
  constructor
  · intro hname
    obtain ⟨front, name, rfl, hname⟩ := hname
    exact h.name ⟨before ++ front, name, by rw [List.append_assoc], hname⟩
  · intro hcomment
    obtain ⟨front, comment, rfl, hline⟩ := hcomment
    exact h.comment ⟨before ++ front, comment, by rw [List.append_assoc], hline⟩

end Boundary

theorem Name.of_append {name more : List Char} (h : Name (name ++ more) []) (hne : name ≠ []) :
    Name name [] := by
  obtain ⟨c, rest, hname, hc, hrest⟩ := h.letters
  cases name with
  | nil => exact absurd rfl hne
  | cons d name =>
    obtain ⟨rfl, rfl⟩ := List.cons.inj hname
    exact ⟨⟨d, name, rfl, hc, fun e he => hrest e (List.mem_append_left more he)⟩, by simp⟩

namespace Boundary

/-- Two boundaries come to one: what ends with the whole text in front began in its first
part only if all of its second part goes on with it. -/
theorem append {before after behind : List Char} (h : Boundary before (after ++ behind))
    (h' : Boundary after behind) : Boundary (before ++ after) behind := by
  constructor
  · intro hname
    obtain ⟨front, name, htext, hname⟩ := hname
    rcases List.append_eq_append_iff.mp htext with ⟨more, -, hafter⟩ | ⟨start, hbefore, rfl⟩
    · exact h'.name ⟨more, name, hafter, hname⟩
    · cases start with
      | nil => exact h'.name ⟨[], after, rfl, hname⟩
      | cons c start =>
        have hends := h.name ⟨front, c :: start, hbefore, hname.of_append (List.cons_ne_nil _ _)⟩
        cases after with
        | nil => exact hends
        | cons d after =>
          have hd : Text.isAlphanumeric d = true := hname.mem (by simp)
          rw [hends d rfl] at hd
          cases hd
  · intro hcomment
    obtain ⟨front, comment, htext, hline⟩ := hcomment
    rcases List.append_eq_append_iff.mp htext with ⟨more, -, hafter⟩ | ⟨start, hbefore, hstart⟩
    · exact h'.comment ⟨more, comment, hafter, hline⟩
    · rcases List.cons_eq_append_iff.mp hstart with ⟨rfl, hafter⟩ | ⟨start, rfl, rfl⟩
      · exact h'.comment ⟨[], comment, hafter, hline⟩
      · have hends := h.comment ⟨front, start, hbefore, fun hmem => hline (by simp [hmem])⟩
        cases after with
        | nil => exact hends
        | cons d after =>
          have hd : d = '\n' := hends d rfl
          exact absurd (by simp [hd]) hline

/-- No name and no comment is among blanks. -/
theorem of_blank {lead : List Char} (h : Blank lead) (behind : List Char) :
    Boundary lead behind := by
  constructor
  · intro hname
    obtain ⟨front, name, rfl, hname⟩ := hname
    obtain ⟨c, more, rfl, hc, -⟩ := hname.letters
    have hletter := Text.isAlphanumeric_of_isAlphabetic hc
    rw [Text.isAlphanumeric_eq_false_of_isBlank (h c (by simp))] at hletter
    cases hletter
  · intro hcomment
    obtain ⟨front, comment, rfl, -⟩ := hcomment
    exact absurd (h ';' (by simp)) (by decide)

end Boundary

theorem Name.append {name behind more : List Char} (h : Name name behind)
    (hends : behind = [] → Boundary name more) : Name name (behind ++ more) := by
  refine ⟨h.letters, ?_⟩
  cases behind with
  | nil => exact (hends rfl).name ⟨[], name, rfl, h⟩
  | cons c rest => exact h.ends

/-- A lexeme at the end of a text stays one in front of more, if the text ends at a
boundary. -/
theorem Lexeme.append {table : OperationTable} {kind : Kind} {lexeme behind more : List Char}
    (h : Lexeme table kind lexeme behind) (hends : behind = [] → Boundary lexeme more) :
    Lexeme table kind lexeme (behind ++ more) := by
  rcases h.mark_or_name with ⟨c, rfl, hmark⟩ | ⟨hname, rfl⟩
  · exact .of_mark hmark
  · exact .of_name (hname.append hends)

theorem Comment.append {table : OperationTable} {kind : Kind}
    {lexeme comment behind behind' more : List Char} (h : Comment kind comment behind)
    (hlexeme : Lexeme table kind lexeme behind')
    (hends : behind = [] → Boundary (lexeme ++ comment) more) :
    Comment kind comment (behind ++ more) := by
  cases h with
  | none hkind => exact .none hkind
  | line hcomment hnewline =>
    refine .line hcomment ?_
    cases behind with
    | nil =>
      cases hlexeme
      exact (hends rfl).comment ⟨[], comment, rfl, hcomment⟩
    | cons c rest => exact hnewline

theorem Lexeme.of_append {table : OperationTable} {kind : Kind} {lexeme behind more : List Char}
    (h : Lexeme table kind lexeme (behind ++ more)) : Lexeme table kind lexeme behind := by
  rcases h.mark_or_name with ⟨c, rfl, hmark⟩ | ⟨hname, rfl⟩
  · exact .of_mark hmark
  · refine .of_name ⟨hname.letters, ?_⟩
    cases behind with
    | nil => simp
    | cons c behind => exact hname.ends

theorem Gap.of_append {kind : Kind} {gap behind more : List Char}
    (h : Gap kind gap (behind ++ more)) : Gap kind gap behind := by
  generalize hwhole : behind ++ more = whole at h
  cases h with
  | blanks hkind hblank => exact .blanks hkind hblank
  | line hcomment hblank => exact .line hcomment hblank
  | last hcomment =>
    obtain ⟨rfl, -⟩ := List.append_eq_nil_iff.mp hwhole
    exact .last hcomment

/-- A lexeme and the comment behind it end at a boundary. -/
theorem Lexeme.boundary {table : OperationTable} {kind : Kind} {lexeme comment behind : List Char}
    (h : Lexeme table kind lexeme (comment ++ behind)) (hcomment : Comment kind comment behind) :
    Boundary (lexeme ++ comment) behind := by
  cases hcomment with
  | line hline hends =>
    refine ⟨fun _ c hc => ?_, fun _ => hends⟩
    rw [hends c hc]
    decide
  | none hkind =>
    rw [List.append_nil]
    refine ⟨fun hname => ?_, fun hsemicolon => ?_⟩
    · obtain ⟨front, name, rfl, hname⟩ := hname
      rcases h.mark_or_name with ⟨c, hc, hmark⟩ | ⟨hwhole, -⟩
      · obtain ⟨d, more, rfl, hd, -⟩ := hname.letters
        have hmem : d ∈ [c] := by simp [← hc]
        rw [List.mem_singleton.mp hmem, isAlphabetic_eq_false_of_mark? hmark] at hd
        cases hd
      · exact hwhole.ends
    · obtain ⟨front, rest, rfl, -⟩ := hsemicolon
      rcases h.mark_or_name with ⟨c, hc, hmark⟩ | ⟨hwhole, -⟩
      · have hmem : ';' ∈ [c] := by simp [← hc]
        rw [← List.mem_singleton.mp hmem] at hmark
        cases hmark
        exact absurd rfl hkind
      · have hletter : Text.isAlphanumeric ';' = true := hwhole.mem (by simp)
        exact absurd hletter (by decide)

end CircuitLang
