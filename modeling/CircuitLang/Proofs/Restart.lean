import CircuitLang.Proofs.Moving
import CircuitLang.Proofs.Spans

/-! Reading can begin again at a boundary.

Between two tokens a lexer holds nothing but its place and the text that is left. So a
text and more text behind it are read one after the other, if no name and no comment
goes through the cut between them, and what is read of the second stands below and to
the right of the first (`Span.behind`). The main statement is `tokenize_append`. -/
namespace CircuitLang

/-! ### Spans behind a text -/

/-- The span as it stands behind a text: below its lines, and on its last line to the
right of what is there. -/
def Span.behind (text : List Char) (s : Span) : Span :=
  let columns := if s.line = 1 then UInt32.ofNat (lastLine text).length else 0
  ⟨s.line + UInt32.ofNat (text.count '\n'), s.first + columns, s.last + columns⟩

/-- The error at another place. -/
def LexError.move (g : Span → Span) (e : LexError) : LexError :=
  { e with span := g e.span }

def Lexer.Scan.move (g : Span → Span) (s : Lexer.Scan) : Lexer.Scan :=
  ⟨s.tokens.map (Token.move g), s.error?.map (LexError.move g)⟩

/-- The last line of a text goes into a comment exactly when it has a terminator. -/
theorem endsInComment_iff {text : List Char} : EndsInComment text ↔ ';' ∈ lastLine text := by
  constructor
  · intro h
    obtain ⟨before, comment, rfl, hcomment⟩ := h
    rw [lastLine_append_of_notMem before (by simpa using hcomment)]
    simp
  · intro h
    have hline := newline_notMem_lastLine text
    obtain ⟨front, comment, hlast⟩ := List.append_of_mem h
    rw [hlast] at hline
    have hcomment : '\n' ∉ comment := fun hmem => hline (by simp [hmem])
    rcases eq_lastLine_or text with htext | ⟨above, htext⟩
    · exact ⟨front, comment, htext.trans hlast, hcomment⟩
    · refine ⟨above ++ '\n' :: front, comment, ?_, hcomment⟩
      rw [htext, hlast]
      simp

namespace Exact
variable {text before lexeme behind : List Char} {s t : Span}

theorem unique (h : Exact before lexeme s) (h' : Exact before lexeme t) : s = t := by
  obtain ⟨line, first, last⟩ := s
  obtain ⟨line', first', last'⟩ := t
  have hline : line = line' := UInt32.toNat_inj.mp (h.line.trans h'.line.symm)
  have hfirst : first = first' := UInt32.toNat_inj.mp (h.first.trans h'.first.symm)
  have hlast : last = last' := by
    apply UInt32.toNat_inj.mp
    rw [h.last, h'.last, show first.toNat = first'.toNat from congrArg _ hfirst]
  rw [hline, hfirst, hlast]

theorem behind_text (h : Exact before lexeme s)
    (hshort : (text ++ (before ++ (lexeme ++ behind))).length < 2 ^ 32 - 1) :
    Exact (text ++ before) lexeme (s.behind text) := by
  simp only [List.length_append] at hshort
  have hlines : text.count '\n' ≤ text.length := List.count_le_length
  have hlines' : before.count '\n' ≤ before.length := List.count_le_length
  have hcolumns := length_lastLine_le text
  have hcolumns' := length_lastLine_le before
  have hline := h.line
  have hfirst := h.first
  have hlast := h.last
  have hbelow : (s.behind text).line.toNat = 1 + (text ++ before).count '\n' := by
    rw [Span.behind, toNat_add_ofNat (by omega), List.count_append]
    omega
  by_cases hmem : '\n' ∈ before
  · have hpos := List.count_pos_iff.mpr hmem
    have hne : s.line ≠ 1 := by
      intro h1
      rw [h1, show (1 : UInt32).toNat = 1 from rfl] at hline
      omega
    simp only [Span.behind, if_neg hne] at hbelow ⊢
    refine ⟨hbelow, ?_, ?_⟩
    · rw [lastLine_append_of_mem _ hmem, UInt32.add_zero, hfirst]
    · rw [UInt32.add_zero, UInt32.add_zero, hlast]
  · have hone : s.line = 1 := by
      apply UInt32.toNat_inj.mp
      rw [hline, List.count_eq_zero.mpr hmem]
      rfl
    rw [lastLine_eq_self hmem] at hfirst
    simp only [Span.behind, if_pos hone] at hbelow ⊢
    refine ⟨hbelow, ?_, ?_⟩
    · rw [toNat_add_ofNat (by omega), lastLine_append_of_notMem _ hmem, List.length_append]
      omega
    · rw [toNat_add_ofNat (by omega), toNat_add_ofNat (by omega)]
      omega

end Exact

/-! ### What is read behind a text -/

theorem spanOf_behind {text before lexeme behind : List Char} (hline : '\n' ∉ lexeme)
    (hshort : (text ++ (before ++ (lexeme ++ behind))).length < 2 ^ 32 - 1) :
    ((Place.start.after text).after before).spanOf lexeme =
      ((Place.start.after before).spanOf lexeme).behind text := by
  have hparts : (text ++ before ++ (lexeme ++ behind)).length < 2 ^ 32 - 1 := by
    rwa [List.append_assoc]
  have hown : (before ++ (lexeme ++ behind)).length < 2 ^ 32 - 1 := by
    rw [List.length_append] at hshort
    omega
  rw [← Place.after_append]
  exact (spanOf_exact hline hparts).unique ((spanOf_exact hline hown).behind_text hshort)

theorem Pieces.tokensFrom_behind {table : OperationTable} {rest : List Char} {pieces : List Piece}
    (h : Pieces table rest pieces) (text before : List Char)
    (hshort : (text ++ (before ++ (written pieces ++ rest))).length < 2 ^ 32 - 1) :
    Cut.tokensFrom ((Place.start.after text).after before) pieces =
      (Cut.tokensFrom (Place.start.after before) pieces).map (Token.move (Span.behind text)) := by
  induction h generalizing before with
  | nil => rfl
  | @cons p more hlexeme hgap hmore ih =>
    simp only [written_cons, List.append_assoc] at hshort
    have hbehind := ih (before ++ (p.lexeme ++ p.gap)) (by simpa using hshort)
    rw [Place.after_append _ before, Place.after_append _ before] at hbehind
    rw [Cut.tokensFrom, Cut.tokensFrom, List.map_cons, hbehind,
      spanOf_behind hlexeme.newline_notMem hshort]
    rfl

theorem Cut.Lawful.scanFrom_behind {table : OperationTable} {cut : Cut} (h : cut.Lawful table)
    (text : List Char) (hshort : (text ++ cut.text).length < 2 ^ 32 - 1) :
    cut.scanFrom (Place.start.after text) = (cut.scanFrom .start).move (Span.behind text) := by
  have htokens := h.pieces.tokensFrom_behind text cut.lead hshort
  have herror : Cut.errorFrom? ((Place.start.after text).after (cut.lead ++ written cut.pieces))
      cut.rest = (Cut.errorFrom? (Place.start.after (cut.lead ++ written cut.pieces))
        cut.rest).map (LexError.move (Span.behind text)) := by
    rw [Cut.text] at hshort
    cases hrest : cut.rest with
    | nil => rfl
    | cons c more =>
      have hillegal : Illegal c := h.rest c (by rw [hrest]; rfl)
      have hparts : (text ++ (cut.lead ++ written cut.pieces ++ ([c] ++ more))).length < 2 ^ 32 - 1 := by
        simpa [hrest] using hshort
      rw [Cut.errorFrom?, Cut.errorFrom?, spanOf_behind hillegal.newline_notMem hparts]
      rfl
  rw [Cut.scanFrom, Cut.scanFrom, htokens, herror]
  rfl

/-- A text behind another is read as by itself, but for the spans. -/
theorem scan_behind (table : OperationTable) {text more : List Char}
    (hshort : (text ++ more).length < 2 ^ 32 - 1) :
    Lexer.scan ⟨table, Place.start.after text, more⟩ =
      (Lexer.scan ⟨table, .start, more⟩).move (Span.behind text) := by
  obtain ⟨cut, hcut, rfl⟩ := exists_cut table more
  rw [scan_eq_of_lawful (l := ⟨table, Place.start.after text, cut.text⟩) hcut rfl,
    scan_eq_of_lawful (l := ⟨table, .start, cut.text⟩) hcut rfl, hcut.scanFrom_behind text hshort]

/-! ### Two texts one behind the other -/

/-- Nothing behind a refused character is looked at. -/
theorem scan_append_of_error {table : OperationTable} {place : Place} {text : List Char}
    {e : LexError} (h : (Lexer.scan ⟨table, place, text⟩).error? = some e) (more : List Char) :
    Lexer.scan ⟨table, place, text ++ more⟩ = Lexer.scan ⟨table, place, text⟩ := by
  obtain ⟨cut, hcut, rfl⟩ := exists_cut table text
  rw [scan_eq_of_lawful (l := ⟨table, place, cut.text⟩) hcut rfl] at h ⊢
  obtain ⟨lead, pieces, rest⟩ := cut
  cases rest with
  | nil => cases h
  | cons c rest =>
    have hillegal : ∀ d ∈ (c :: (rest ++ more)).head?, Illegal d := hcut.rest
    have hscan := hcut.pieces.scan_append more (fun hnil => nomatch hnil) place hcut.lead
    dsimp only [List.cons_append] at hscan
    rw [Lexer.scan_of_illegal _ _ hillegal, List.append_nil] at hscan
    simpa [Cut.text, Cut.scanFrom, Cut.errorFrom?] using hscan

/-- At a boundary reading goes on as it would have begun. -/
theorem scan_append_of_boundary {table : OperationTable} {place : Place} {text more : List Char}
    (h : (Lexer.scan ⟨table, place, text⟩).error? = none) (hboundary : Boundary text more) :
    Lexer.scan ⟨table, place, text ++ more⟩ =
      ⟨(Lexer.scan ⟨table, place, text⟩).tokens ++
          (Lexer.scan ⟨table, place.after text, more⟩).tokens,
        (Lexer.scan ⟨table, place.after text, more⟩).error?⟩ := by
  obtain ⟨cut, hcut, rfl⟩ := exists_cut table text
  rw [scan_eq_of_lawful (l := ⟨table, place, cut.text⟩) hcut rfl] at h ⊢
  obtain ⟨lead, pieces, rest⟩ := cut
  cases rest with
  | cons c rest => cases h
  | nil =>
    have hwhole : Boundary (lead ++ written pieces) more := by
      simpa [Cut.text] using hboundary
    have hscan := hcut.pieces.scan_append more (fun _ => hwhole.of_append) place hcut.lead
    simpa [Cut.text, Cut.scanFrom] using hscan

/-- Behind a boundary the tokens or the error of the second text come as they are behind the
first. -/
theorem tokenize_append_of_boundary {table : OperationTable} {text more : String}
    {tokens : List Token} (hshort : text.length + more.length < 2 ^ 32 - 1)
    (htokens : tokenize table text = .ok tokens) (hboundary : Boundary text.toList more.toList) :
    (∀ behind, tokenize table more = .ok behind →
        tokenize table (text ++ more) =
          .ok (tokens ++ behind.map (Token.move (Span.behind text.toList)))) ∧
      ∀ e, tokenize table more = .error e →
        tokenize table (text ++ more) = .error (e.move (Span.behind text.toList)) := by
  have hlength : (text.toList ++ more.toList).length < 2 ^ 32 - 1 := by
    rwa [List.length_append]
  rw [tokenize_eq_ok_iff] at htokens
  have happend := scan_append_of_boundary (congrArg Lexer.Scan.error? htokens) hboundary
  rw [scan_behind table hlength, htokens, ← String.toList_append] at happend
  constructor
  · intro behind hbehind
    rw [tokenize_eq_ok_iff] at hbehind ⊢
    rw [happend, hbehind]
    rfl
  · intro e he
    rw [tokenize_eq_error_iff] at he ⊢
    rw [happend]
    show ((Lexer.scan _).error?.map _) = _
    rw [he]
    rfl

/-- **Reading can begin again at a boundary.** In two texts one behind the other, of fewer
than `2 ^ 32 - 1` characters together, a character the first text refuses is refused
again. If the first has tokens, its last line has no terminator, and it does not end
with a name that goes on in the second, then the tokens or the error of the second come
behind them, below the lines of the first and to the right of its last one. -/
theorem tokenize_append (table : OperationTable) (text more : String)
    (hshort : text.length + more.length < 2 ^ 32 - 1) :
    (∀ e, tokenize table text = .error e → tokenize table (text ++ more) = .error e) ∧
      ∀ tokens, tokenize table text = .ok tokens → ';' ∉ lastLine text.toList →
        ¬ (EndsInName text.toList ∧ ∃ c ∈ more.toList.head?, Text.isAlphanumeric c = true) →
        (∀ behind, tokenize table more = .ok behind →
            tokenize table (text ++ more) =
              .ok (tokens ++ behind.map (Token.move (Span.behind text.toList)))) ∧
          ∀ e, tokenize table more = .error e →
            tokenize table (text ++ more) = .error (e.move (Span.behind text.toList)) := by
  constructor
  · intro e he
    rw [tokenize_eq_error_iff] at he ⊢
    rw [String.toList_append, scan_append_of_error he, he]
  · intro tokens htokens hcomment hname
    have hboundary : Boundary text.toList more.toList := by
      constructor
      · intro hends c hc
        cases hletter : Text.isAlphanumeric c
        · rfl
        · exact absurd ⟨hends, c, hc, hletter⟩ hname
      · intro hends
        exact absurd (endsInComment_iff.mp hends) hcomment
    exact tokenize_append_of_boundary hshort htokens hboundary

/-- A name at the end of the first text, behind a comment, and a line feed in the second. -/
theorem tokenize_append_behind_name :
    let text := "né : 1; c\n x"
    let more := ": 0;\nOUT x"
    let tokens : List Token := [⟨.identifier "né", ⟨1, 1, 2⟩, "né"⟩, ⟨.definition, ⟨1, 4, 4⟩, ":"⟩,
      ⟨.literal true, ⟨1, 6, 6⟩, "1"⟩, ⟨.terminator, ⟨1, 7, 7⟩, ";"⟩, ⟨.identifier "x", ⟨2, 2, 2⟩, "x"⟩]
    let behind : List Token := [⟨.definition, ⟨2, 3, 3⟩, ":"⟩, ⟨.literal false, ⟨2, 5, 5⟩, "0"⟩,
      ⟨.terminator, ⟨2, 6, 6⟩, ";"⟩, ⟨.keyword ⟨"OUT", 1, 0, true⟩, ⟨3, 1, 3⟩, "OUT"⟩,
      ⟨.identifier "x", ⟨3, 5, 5⟩, "x"⟩]
    text.length + more.length < 2 ^ 32 - 1 ∧ tokenize .standard text = .ok tokens ∧
      ';' ∉ lastLine text.toList ∧ ¬ (∃ c ∈ more.toList.head?, Text.isAlphanumeric c = true) ∧
        tokenize .standard (text ++ more) = .ok (tokens ++ behind) := by
  intro text more tokens behind
  have hshort : text.length + more.length < 2 ^ 32 - 1 := by decide
  have htokens : tokenize .standard text = .ok tokens := by decide +kernel
  have hcomment : ';' ∉ lastLine text.toList := by decide
  have hhead : more.toList.head? = some ':' := by decide
  have hname : ¬ ∃ c ∈ more.toList.head?, Text.isAlphanumeric c = true := by
    intro h
    obtain ⟨c, hc, hletter⟩ := h
    rw [hhead] at hc
    cases hc
    exact absurd hletter (by decide)
  obtain ⟨hbehind, -⟩ := (tokenize_append .standard text more hshort).2 tokens htokens hcomment
    fun h => hname h.2
  let own : List Token := [⟨.definition, ⟨1, 1, 1⟩, ":"⟩, ⟨.literal false, ⟨1, 3, 3⟩, "0"⟩,
    ⟨.terminator, ⟨1, 4, 4⟩, ";"⟩, ⟨.keyword ⟨"OUT", 1, 0, true⟩, ⟨2, 1, 3⟩, "OUT"⟩,
    ⟨.identifier "x", ⟨2, 5, 5⟩, "x"⟩]
  have hown : tokenize .standard more = .ok own := by decide +kernel
  have hmoved : own.map (Token.move (Span.behind text.toList)) = behind := by decide
  exact ⟨hshort, htokens, hcomment, hname, hmoved ▸ hbehind own hown⟩

end CircuitLang
