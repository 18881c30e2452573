import CircuitLang.Proofs.Cut
import Mathlib.Algebra.Group.Nat.Defs
import Mathlib.Data.List.DropRight

/-! Spans are exact.

The counters of a place say how many line feeds lie before it and how many
characters lie behind the last of them (`start_after`), as long as neither of them
wraps around, and in a text of fewer than `2 ^ 32 - 1` characters neither does. So
the span of a lexeme tells where the lexeme stands (`Exact`), and reading the text
at the span gives the lexeme back (`Exact.read`). A run of the lexer only ever
passes more of the text (`Reaches.passed`), and what it reads stands one behind the
other. The main statement is `scan_spans_exact`. -/
namespace CircuitLang

/-! ### Places count -/

/-- The characters behind the last line feed. -/
def lastLine (text : List Char) : List Char :=
  text.rtakeWhile (· ≠ '\n')

theorem lastLine_concat_newline (text : List Char) : lastLine (text ++ ['\n']) = [] :=
  List.rtakeWhile_concat_neg _ _ _ (by simp)

theorem lastLine_append_of_notMem (text : List Char) {more : List Char} (h : '\n' ∉ more) :
    lastLine (text ++ more) = lastLine text ++ more := by
  have hmore : '\n' ∉ more.reverse := by rwa [List.mem_reverse]
  rw [lastLine, List.rtakeWhile, List.reverse_append,
    List.takeWhile_append_of_pos (newline_notMem_iff.mp hmore),
    List.reverse_append, List.reverse_reverse]
  rfl

theorem newline_notMem_lastLine (text : List Char) : '\n' ∉ lastLine text := by
  apply newline_notMem_iff.mpr
  intro c hc
  exact List.mem_rtakeWhile_imp (p := (· ≠ '\n')) hc

/-- A text is a single line, or its last line stands behind a line feed. -/
theorem eq_lastLine_or (text : List Char) :
    text = lastLine text ∨ ∃ above, text = above ++ '\n' :: lastLine text := by
  induction text using List.reverseRecOn with
  | nil => exact .inl rfl
  | append_singleton text c ih =>
    by_cases hc : c = '\n'
    · subst hc
      rw [lastLine_concat_newline]
      exact .inr ⟨text, rfl⟩
    · rw [lastLine_append_of_notMem _ (by simpa using Ne.symm hc)]
      rcases ih with htext | ⟨above, htext⟩
      · exact .inl (by rw [← htext])
      · refine .inr ⟨above, ?_⟩
        conv_lhs => rw [htext]
        simp

theorem lastLine_eq_self {text : List Char} (h : '\n' ∉ text) : lastLine text = text :=
  lastLine_append_of_notMem [] h

/-- Nothing in front of a line feed is on the last line. -/
theorem lastLine_append_of_mem (text : List Char) {more : List Char} (h : '\n' ∈ more) :
    lastLine (text ++ more) = lastLine more := by
  have hline := newline_notMem_lastLine more
  rcases eq_lastLine_or more with hmore | ⟨above, hmore⟩
  · rw [hmore] at h
    exact absurd h hline
  · have hparts : text ++ more = (text ++ above ++ ['\n']) ++ lastLine more := by
      conv_lhs => rw [hmore]
      simp
    rw [hparts, lastLine_append_of_notMem _ hline, lastLine_concat_newline, List.nil_append]

theorem length_lastLine_le (text : List Char) : (lastLine text).length ≤ text.length :=
  (List.rtakeWhile_suffix _ _).length_le

theorem toNat_succ {n : UInt32} (h : n.toNat + 1 < 2 ^ 32) : (n + 1).toNat = n.toNat + 1 := by
  rw [UInt32.toNat_add]
  exact Nat.mod_eq_of_lt h

theorem toNat_add_ofNat {a : UInt32} {n : Nat} (h : a.toNat + n < 2 ^ 32) :
    (a + .ofNat n).toNat = a.toNat + n := by
  have hn : n < 2 ^ 32 := by omega
  rw [UInt32.toNat_add, UInt32.toNat_ofNat_of_lt' hn]
  exact Nat.mod_eq_of_lt h

/-- **The place behind a text counts its line feeds, and the characters behind the last
of them.** -/
theorem start_after {text : List Char} (h : text.length < 2 ^ 32 - 1) :
    (Place.start.after text).line.toNat = 1 + text.count '\n' ∧
      (Place.start.after text).column.toNat = (lastLine text).length := by
  induction text using List.reverseRecOn with
  | nil => exact ⟨rfl, rfl⟩
  | append_singleton text c ih =>
    rw [List.length_append, List.length_singleton] at h
    obtain ⟨hline, hcolumn⟩ := ih (by omega)
    have hcount : text.count '\n' ≤ text.length := List.count_le_length
    have hlast := length_lastLine_le text
    rw [Place.after_append, Place.after_cons, Place.after_nil, Place.advance]
    by_cases hc : c = '\n'
    · subst hc
      rw [if_pos rfl, lastLine_concat_newline]
      refine ⟨?_, rfl⟩
      show ((Place.start.after text).line + 1).toNat = _
      rw [toNat_succ (by omega), hline, List.count_append, List.count_singleton_self]
      omega
    · rw [if_neg hc, lastLine_append_of_notMem _ (by simpa using Ne.symm hc), List.length_append,
        List.length_singleton, List.count_append, List.count_singleton]
      refine ⟨by simp [hline, hc], ?_⟩
      show ((Place.start.after text).column + 1).toNat = _
      rw [toNat_succ (by omega), hcolumn]

/-- Both counters can still take a step. -/
structure Place.HasRoom (p : Place) : Prop where
  line : p.line.toNat + 1 < 2 ^ 32
  column : p.column.toNat + 1 < 2 ^ 32

/-- In a short text the counters have room in front of every character. -/
theorem hasRoom_of_short {before behind : List Char} {c : Char}
    (h : (before ++ c :: behind).length < 2 ^ 32 - 1) : (Place.start.after before).HasRoom := by
  rw [List.length_append, List.length_cons] at h
  have hbefore : before.length < 2 ^ 32 - 1 := by omega
  obtain ⟨hline, hcolumn⟩ := start_after hbefore
  have hcount : before.count '\n' ≤ before.length := List.count_le_length
  have hlast := length_lastLine_le before
  exact ⟨by omega, by omega⟩

/-! ### Spans of lexemes -/

/-- A span that tells where `lexeme` stands behind `before`: its line, and its first and
its last column. -/
structure Exact (before lexeme : List Char) (s : Span) : Prop where
  line : s.line.toNat = 1 + before.count '\n'
  first : s.first.toNat = 1 + (lastLine before).length
  last : s.last.toNat = s.first.toNat + lexeme.length - 1

/-- In a short text the span of a lexeme tells where it stands. -/
theorem spanOf_exact {before lexeme behind : List Char} (hline : '\n' ∉ lexeme)
    (hshort : (before ++ (lexeme ++ behind)).length < 2 ^ 32 - 1) :
    Exact before lexeme ((Place.start.after before).spanOf lexeme) := by
  rw [← List.append_assoc, List.length_append] at hshort
  have hthrough : (before ++ lexeme).length < 2 ^ 32 - 1 := by omega
  rw [List.length_append] at hshort
  have hprefix : before.length < 2 ^ 32 - 1 := by omega
  have hlast := length_lastLine_le before
  obtain ⟨hbefore, hcolumn⟩ := start_after hprefix
  obtain ⟨-, hend⟩ := start_after hthrough
  rw [lastLine_append_of_notMem before hline, List.length_append, Place.after_append] at hend
  have hfirst : ((Place.start.after before).column + 1).toNat = 1 + (lastLine before).length := by
    rw [toNat_succ (by omega), hcolumn]
    omega
  refine ⟨hbefore, hfirst, ?_⟩
  show ((Place.start.after before).after lexeme).column.toNat =
    ((Place.start.after before).column + 1).toNat + lexeme.length - 1
  rw [hfirst, hend]
  omega

/-- One span lies before another: on a line above, or on the same line to the left. -/
def Span.Before (s t : Span) : Prop :=
  s.line < t.line ∨ s.line = t.line ∧ s.last < t.first

namespace Exact
variable {before lexeme between lexeme' : List Char} {s t : Span}

theorem line_lt (h : Exact before lexeme s) (h' : Exact (before ++ between) lexeme' t)
    (hline : '\n' ∈ between) : s.line < t.line := by
  have hpos := List.count_pos_iff.mpr hline
  rw [UInt32.lt_iff_toNat_lt, h.line, h'.line, List.count_append]
  omega

theorem span_before (h : Exact before lexeme s)
    (h' : Exact (before ++ (lexeme ++ between)) lexeme' t) : s.Before t := by
  by_cases hline : '\n' ∈ lexeme ++ between
  · exact .inl (h.line_lt h' hline)
  · refine .inr ⟨?_, ?_⟩
    · apply UInt32.toNat_inj.mp
      rw [h.line, h'.line, List.count_append, List.count_eq_zero.mpr hline, Nat.add_zero]
    · rw [UInt32.lt_iff_toNat_lt, h.last, h.first, h'.first, lastLine_append_of_notMem _ hline]
      simp only [List.length_append]
      omega

end Exact

/-! ### Reading a text at a span -/

/-- The characters a span covers in a text: its columns on its line. -/
def Span.read (s : Span) (text : List Char) : Option (List Char) :=
  (text.splitOn '\n')[s.line.toNat - 1]?.map fun line =>
    (line.take s.last.toNat).drop (s.first.toNat - 1)

/-- The first line of a text goes on to its first line feed. -/
theorem splitOn_newline_zero {line : List Char} (hline : '\n' ∉ line) (behind : List Char) :
    ((line ++ behind).splitOn '\n')[0]? = some (line ++ behind.takeWhile (· ≠ '\n')) := by
  obtain ⟨more, below, rfl, hmore, hends⟩ := exists_stretch (· ≠ '\n') behind
  rw [(takeWhile_append_of_ends hmore hends).1, ← List.append_assoc]
  have hnone : '\n' ∉ line ++ more := by
    rw [List.mem_append, not_or]
    exact ⟨hline, newline_notMem_iff.mpr hmore⟩
  cases below with
  | nil => rw [List.append_nil, List.splitOn_eq_singleton hnone]; rfl
  | cons c below =>
    have hc : c = '\n' := head?_newline_iff.mpr hends c rfl
    rw [hc, List.splitOn_append_cons_self_of_not_mem hnone]
    rfl

theorem length_splitOn_newline (text : List Char) :
    (text.splitOn '\n').length = text.count '\n' + 1 := by
  induction text with
  | nil => rfl
  | cons c rest ih =>
    rw [List.splitOn_cons_eq_if_modifyHead]
    by_cases hc : c = '\n'
    · simp [hc, ih]
    · simp [hc, ih]

/-- The line on which two stretches of a text meet. -/
theorem splitOn_newline_count (before behind : List Char) :
    ((before ++ behind).splitOn '\n')[before.count '\n']? =
      some (lastLine before ++ behind.takeWhile (· ≠ '\n')) := by
  have hline := newline_notMem_lastLine before
  rcases eq_lastLine_or before with hbefore | ⟨above, hbefore⟩
  · rw [← hbefore] at hline ⊢
    rw [List.count_eq_zero.mpr hline]
    exact splitOn_newline_zero hline behind
  · have hcount : before.count '\n' = (above.splitOn '\n').length := by
      rw [length_splitOn_newline]
      conv_lhs => rw [hbefore]
      rw [List.count_append, List.count_cons_self, List.count_eq_zero.mpr hline]
    have hlines : (before ++ behind).splitOn '\n' =
        above.splitOn '\n' ++ (lastLine before ++ behind).splitOn '\n' := by
      conv_lhs => rw [hbefore]
      rw [List.append_assoc]
      exact List.splitOn_append_cons_self _ _
    rw [hcount, hlines, List.getElem?_append_right (Nat.le_refl _), Nat.sub_self]
    exact splitOn_newline_zero hline behind

/-- **Reading a text at an exact span gives the lexeme.** -/
theorem Exact.read {before lexeme : List Char} {s : Span} (h : Exact before lexeme s)
    (hline : '\n' ∉ lexeme) (hne : lexeme ≠ []) (behind : List Char) :
    s.read (before ++ (lexeme ++ behind)) = some lexeme := by
  have hlength := List.length_pos_iff.mpr hne
  have hindex : s.line.toNat - 1 = before.count '\n' := by
    rw [h.line]
    omega
  have hfirst : s.first.toNat - 1 = (lastLine before).length := by
    rw [h.first]
    omega
  have hlast : s.last.toNat = (lastLine before ++ lexeme).length := by
    rw [h.last, h.first, List.length_append]
    omega
  rw [Span.read, hindex, splitOn_newline_count, List.takeWhile_append_of_pos (newline_notMem_iff.mp hline),
    Option.map_some, hfirst, hlast, ← List.append_assoc, List.take_left, List.drop_left]

example : Span.read ⟨2, 1, 3⟩ "né :;\nOUT né;".toList = some "OUT".toList := by decide

/-- In a short text the span of a lexeme tells where it stands, and the text has the
lexeme there. -/
theorem spanOf_tells {text before lexeme behind : List Char}
    (htext : text = before ++ (lexeme ++ behind)) (hshort : text.length < 2 ^ 32 - 1)
    (hline : '\n' ∉ lexeme) (hne : lexeme ≠ []) :
    Exact before lexeme ((Place.start.after before).spanOf lexeme) ∧
      ((Place.start.after before).spanOf lexeme).read text = some lexeme := by
  rw [htext] at hshort ⊢
  have hexact := spanOf_exact hline hshort
  exact ⟨hexact, hexact.read hline hne behind⟩

/-! ### Runs of the lexer -/

/-- What a lexer comes to by reading tokens. -/
inductive Lexer.Reaches (l : Lexer) : Lexer → Prop where
  | here : Reaches l l
  | read {m after : Lexer} {t : Token} (h : Reaches l m) (hstep : m.step = .read t after) :
      Reaches l after

/-- A run passes text and does nothing else: what is left is the end of the text, and
the place is the one in front of it. -/
theorem Lexer.Reaches.passed {l m : Lexer} (h : l.Reaches m) :
    ∃ passed, l.rest = passed ++ m.rest ∧ m.place = l.place.after passed := by
  induction h with
  | here => exact ⟨[], rfl, rfl⟩
  | @read m after t _ hstep ih =>
    obtain ⟨passed, hrest, hplace⟩ := ih
    obtain ⟨more, -, hmore, hafter⟩ := step_passes hstep
    refine ⟨passed ++ more, ?_, ?_⟩
    · rw [hrest, hmore, List.append_assoc]
    · rw [hafter, Place.after_append, ← hplace]
      rfl

/-- Whether it is a terminator, and the span, of each token and of the refused character. -/
def Lexer.Scan.marks (s : Lexer.Scan) : List (Bool × Span) :=
  (s.tokens.map fun t => (t.isTerminator, t.span)) ++ s.error?.toList.map fun e => (false, e.span)

/-- The text in front of a piece, or behind the last one. -/
def Cut.before (cut : Cut) (k : Nat) : List Char :=
  cut.lead ++ written (cut.pieces.take k)

/-- Spans that tell where the tokens of a cut text stand, and the character it refuses. -/
structure ExactSpans (cut : Cut) (s : Lexer.Scan) : Prop where
  count : s.tokens.length = cut.pieces.length
  /-- Each token is the piece of its number, and its span tells where that stands. -/
  token : ∀ k p, cut.pieces[k]? = some p → ∃ t, s.tokens[k]? = some t ∧
    t.lexeme = String.ofList p.lexeme ∧ Exact (cut.before k) p.lexeme t.span ∧
      t.span.read cut.text = some p.lexeme
  /-- The refused character is the first that is not read. -/
  error : ∀ e ∈ s.error?, (∃ more, cut.rest = e.character :: more) ∧
    Exact (cut.before cut.pieces.length) [e.character] e.span ∧
      e.span.read cut.text = some [e.character]
  /-- Everything stands behind all that is read before it. -/
  ordered : s.marks.Pairwise fun m n => m.2.Before n.2
  /-- Nothing else stands on the line of a terminator behind it. -/
  lines : s.marks.Pairwise fun m n => m.1 = true → m.2.line < n.2.line

/-! ### Pieces and their spans -/

theorem Cut.text_eq_before {cut : Cut} {k : Nat} {p : Piece} (hp : cut.pieces[k]? = some p) :
    ∃ behind, cut.text = cut.before k ++ (p.lexeme ++ behind) := by
  obtain ⟨hk, rfl⟩ := List.getElem?_eq_some_iff.mp hp
  have hsplit : cut.pieces = cut.pieces.take k ++ cut.pieces[k] :: cut.pieces.drop (k + 1) := by
    rw [← List.drop_eq_getElem_cons hk, List.take_append_drop]
  have hwritten := congrArg written hsplit
  rw [written_append, written_cons] at hwritten
  refine ⟨cut.pieces[k].gap ++ (written (cut.pieces.drop (k + 1)) ++ cut.rest), ?_⟩
  rw [Cut.text, hwritten, Cut.before]
  simp only [List.append_assoc]

theorem marks_scanFrom_cons (place : Place) (before : List Char) (p : Piece)
    (more : List Piece) (rest : List Char) :
    (Cut.scanFrom place ⟨before, p :: more, rest⟩).marks =
      (p.kind == .terminator, (place.after before).spanOf p.lexeme) ::
        (Cut.scanFrom place ⟨before ++ (p.lexeme ++ p.gap), more, rest⟩).marks := by
  simp only [Cut.scanFrom, Lexer.Scan.marks, Cut.tokensFrom, Token.isTerminator, written_cons,
    Place.after_append, List.map_cons, List.cons_append, List.append_assoc]

theorem marks_scanFrom_refused (place : Place) (before : List Char) (c : Char)
    (rest : List Char) :
    (Cut.scanFrom place ⟨before, [], c :: rest⟩).marks =
      [(false, (place.after before).spanOf [c])] := by
  simp only [Cut.scanFrom, Lexer.Scan.marks, Cut.tokensFrom, Cut.errorFrom?, written_nil,
    List.append_nil, List.map_nil, Option.toList_some, List.map_cons, List.nil_append]

/-- Whatever is read behind a text stands behind it, and one thing behind the other. The
induction is on the pieces, and the text in front of them grows. -/
theorem Pieces.marks {table : OperationTable} {rest : List Char} {pieces : List Piece}
    (h : Pieces table rest pieces) (hrest : ∀ c ∈ rest.head?, Illegal c) (before : List Char)
    (hshort : (before ++ (written pieces ++ rest)).length < 2 ^ 32 - 1) :
    (∀ m ∈ (Cut.scanFrom .start ⟨before, pieces, rest⟩).marks,
        ∃ between lexeme, Exact (before ++ between) lexeme m.2) ∧
      (Cut.scanFrom .start ⟨before, pieces, rest⟩).marks.Pairwise fun m n =>
        m.2.Before n.2 ∧ (m.1 = true → m.2.line < n.2.line) := by
  induction h generalizing before with
  | nil =>
    cases rest with
    | nil => exact ⟨fun m hm => (List.not_mem_nil hm).elim, .nil⟩
    | cons c rest =>
      have hlength : (before ++ ([c] ++ rest)).length < 2 ^ 32 - 1 := hshort
      have hexact := spanOf_exact (hrest c rfl).newline_notMem hlength
      rw [marks_scanFrom_refused, List.forall_mem_singleton]
      exact ⟨⟨[], [c], by rwa [List.append_nil]⟩, List.pairwise_singleton _ _⟩
  | @cons p more hlexeme hgap hmore ih =>
    rw [written_cons, List.append_assoc, List.append_assoc] at hshort
    have hexact := spanOf_exact hlexeme.newline_notMem hshort
    have hlength : (before ++ (p.lexeme ++ p.gap) ++ (written more ++ rest)).length < 2 ^ 32 - 1 := by
      rwa [List.append_assoc, List.append_assoc]
    obtain ⟨hbehind, hpairwise⟩ := ih (before ++ (p.lexeme ++ p.gap)) hlength
    rw [marks_scanFrom_cons]
    constructor
    · intro m hm
      rcases List.mem_cons.mp hm with rfl | hm
      · exact ⟨[], p.lexeme, by rwa [List.append_nil]⟩
      · obtain ⟨between, lexeme, hm⟩ := hbehind m hm
        exact ⟨p.lexeme ++ p.gap ++ between, lexeme, by rwa [← List.append_assoc]⟩
    · refine List.pairwise_cons.mpr ⟨fun m hm => ?_, hpairwise⟩
      obtain ⟨between, lexeme, hm'⟩ := hbehind m hm
      rw [List.append_assoc, List.append_assoc] at hm'
      refine ⟨hexact.span_before hm', fun hkind => ?_⟩
      rw [beq_iff_eq.mp hkind] at hgap
      rcases hgap.newline with hend | hline
      · -- Nothing is read behind the end of the text.
        obtain ⟨hwritten, rfl⟩ := List.append_eq_nil_iff.mp hend
        rw [hmore.eq_nil_of_written hwritten] at hm
        exact (List.not_mem_nil hm).elim
      · exact hexact.line_lt hm' (by simp [hline])

/-- What is read of a lawful cut has exact spans. -/
theorem Cut.Lawful.exactSpans {table : OperationTable} {cut : Cut} (h : cut.Lawful table)
    (hshort : cut.text.length < 2 ^ 32 - 1) : ExactSpans cut (cut.scanFrom .start) := by
  obtain ⟨-, hpairwise⟩ := h.pieces.marks h.rest cut.lead hshort
  refine ⟨length_tokensFrom _ _, ?_, ?_, hpairwise.imp And.left, hpairwise.imp And.right⟩
  · intro k p hp
    obtain ⟨_, hlexeme⟩ := h.pieces.exists_lexeme (List.mem_of_getElem? hp)
    obtain ⟨c, tail, hhead, -⟩ := hlexeme.head
    obtain ⟨behind, hparts⟩ := Cut.text_eq_before hp
    refine ⟨_, (getElem?_tokensFrom _ _ k).trans (congrArg _ hp), rfl, ?_⟩
    rw [← Place.after_append]
    exact spanOf_tells hparts hshort hlexeme.newline_notMem (by simp [hhead])
  · intro e he
    have hbefore : cut.before cut.pieces.length = cut.lead ++ written cut.pieces := by
      rw [Cut.before, List.take_length]
    rw [hbefore]
    unfold Cut.scanFrom at he
    cases hrest : cut.rest with
    | nil =>
      rw [hrest] at he
      cases he
    | cons c more =>
      rw [hrest] at he
      cases he
      have hillegal : Illegal c := h.rest c (by rw [hrest]; rfl)
      have hparts : cut.text = cut.lead ++ written cut.pieces ++ ([c] ++ more) := by
        rw [Cut.text, hrest, List.append_assoc]
        rfl
      exact ⟨⟨more, rfl⟩, spanOf_tells hparts hshort hillegal.newline_notMem (by simp)⟩

/-- Whatever a run over a short text has passed, the counters have room for each character
ahead. -/
theorem Lexer.Reaches.hasRoom {table : OperationTable} {source : String} {l : Lexer}
    (h : (Lexer.ofSource table source).Reaches l) (hshort : source.length < 2 ^ 32 - 1)
    {ahead behind : List Char} {c : Char} (hrest : l.rest = ahead ++ c :: behind) :
    (l.place.after ahead).HasRoom := by
  obtain ⟨passed, hpassed, hplace⟩ := h.passed
  have hsource : source.toList = passed ++ ahead ++ c :: behind := by
    rw [List.append_assoc, ← hrest]
    exact hpassed
  have hlength : (passed ++ ahead ++ c :: behind).length < 2 ^ 32 - 1 := by rwa [← hsource]
  rw [hplace, ← Place.after_append]
  exact hasRoom_of_short hlength

/-- **Spans are exact**: in a text of fewer than `2 ^ 32 - 1` characters every token, and
the character that is refused, has the span of the place where its lexeme stands in the
cut text, reading the text there gives the lexeme back, and spans come in order. The
counters never wrap around: whatever a run has passed, they have room for each
character ahead. -/
theorem scan_spans_exact (table : OperationTable) (source : String)
    (hshort : source.length < 2 ^ 32 - 1) :
    (∃ cut : Cut, cut.Lawful table ∧ cut.text = source.toList ∧
        ExactSpans cut (Lexer.ofSource table source).scan) ∧
      ∀ l, (Lexer.ofSource table source).Reaches l → ∀ ahead c behind,
        l.rest = ahead ++ c :: behind → (l.place.after ahead).HasRoom := by
  constructor
  · obtain ⟨cut, hcut, htext⟩ := exists_cut table source.toList
    have hlength : cut.text.length < 2 ^ 32 - 1 := by rwa [htext]
    refine ⟨cut, hcut, htext, ?_⟩
    rw [scan_ofSource hcut htext]
    exact hcut.exactSpans hlength
  · intro l hl ahead c behind hrest
    exact hl.hasRoom hshort hrest

/-- A comment, an empty line, a name of several bytes, and a refused character. -/
theorem spans_exact_of_three_lines :
    "né2 : 1; $\n\n  OUT né2 $".length < 2 ^ 32 - 1 ∧
      ∃ cut : Cut, cut.Lawful .standard ∧ cut.text = "né2 : 1; $\n\n  OUT né2 $".toList ∧
        ExactSpans cut (Lexer.ofSource .standard "né2 : 1; $\n\n  OUT né2 $").scan := by
  have hshort : "né2 : 1; $\n\n  OUT né2 $".length < 2 ^ 32 - 1 := by decide
  exact ⟨hshort, (scan_spans_exact .standard _ hshort).1⟩

end CircuitLang
