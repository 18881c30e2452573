import CircuitLang.Proofs.Cut
import CircuitLang.Proofs.Moving

/-! Writing a program out and reading it again.

A program is written with a statement on each line and a space between two tokens
(`Program.format`). Every lexeme that was read is a lexeme again in front of a space or a
terminator (`Lexeme.exchange`), so the written text is cut where it was put together, and
its tokens are those of the program but for the spans. The main statement is
`compile_format`. -/
namespace CircuitLang

/-! ### The written form -/

/-- A statement on a line: the lexemes of its tokens with a space between two, and a
terminator behind them. -/
def Node.format (n : Node) : String :=
  " ".intercalate (n.spelling.map Token.lexeme) ++ ";\n"

/-- A program as text, a statement on each line. -/
def Program.format (p : Program) : String :=
  String.join (p.nodes.map Node.format)

/-- The token without its span. -/
def Token.bare : Token → Token :=
  Token.move fun _ => ⟨0, 0, 0⟩

/-- The program without its spans. -/
def Program.bare : Program → Program :=
  Program.move fun _ => ⟨0, 0, 0⟩

theorem Program.format_move (g : Span → Span) (p : Program) : (p.move g).format = p.format := by
  have hnode (n : Node) : (n.move g).format = n.format := by
    rw [Node.format, Node.format, Node.spelling_move, List.map_map]
    rfl
  rw [format, format, move, List.map_map]
  congr 1
  apply List.map_congr_left
  intro n _
  exact hnode n

/-! ### Lexemes that are read again -/

/-- Only an alphanumeric character behind a lexeme can change it. -/
theorem Lexeme.exchange {table : OperationTable} {kind : Kind} {lexeme behind behind' : List Char}
    (h : Lexeme table kind lexeme behind)
    (hends : ∀ c ∈ behind'.head?, Text.isAlphanumeric c = false) :
    Lexeme table kind lexeme behind' := by
  rcases h.mark_or_name with ⟨c, rfl, hmark⟩ | ⟨hname, rfl⟩
  · exact .of_mark hmark
  · exact .of_name ⟨hname.letters, hends⟩

/-- A token within a statement that can have been read. -/
structure Legible (table : OperationTable) (t : Token) : Prop where
  kind : t.kind ≠ .terminator
  lexeme : ∃ behind, Lexeme table t.kind t.lexeme.toList behind

def Token.piece (t : Token) (gap : List Char) : Piece :=
  ⟨t.kind, t.lexeme.toList, gap⟩

/-- The token of a piece, without its span. -/
def Piece.bare (p : Piece) : Token :=
  ⟨p.kind, ⟨0, 0, 0⟩, String.ofList p.lexeme⟩

/-- Tokens with a space between two. -/
def spaced : List Token → List Piece
  | [] => []
  | [t] => [t.piece []]
  | t :: next :: more => t.piece [' '] :: spaced (next :: more)

/-- The pieces of a statement on a line. -/
def Node.pieces (n : Node) : List Piece :=
  spaced n.spelling ++ [⟨.terminator, [';'], ['\n']⟩]

theorem Token.piece_bare (t : Token) (gap : List Char) : (t.piece gap).bare = t.bare := by
  rw [Piece.bare, Token.piece, String.ofList_toList]
  rfl

theorem tokensFrom_bare (place : Place) (pieces : List Piece) :
    (Cut.tokensFrom place pieces).map Token.bare = pieces.map Piece.bare := by
  induction pieces generalizing place with
  | nil => rfl
  | cons p more ih =>
    rw [Cut.tokensFrom, List.map_cons, List.map_cons, ih]
    rfl

/-- A text that is written in pieces has the tokens of the pieces. -/
theorem Pieces.exists_tokens {table : OperationTable} {pieces : List Piece} {source : String}
    (h : Pieces table [] pieces) (hwritten : written pieces = source.toList) :
    ∃ tokens, tokenize table source = .ok tokens ∧
      tokens.map Token.bare = pieces.map Piece.bare := by
  let cut : Cut := ⟨[], pieces, []⟩
  have hcut : cut.Lawful table := ⟨by simp [Blank, cut], h, by simp [cut]⟩
  have htext : cut.text = source.toList := by
    rw [← hwritten]
    exact List.append_nil _
  exact ⟨cut.tokens, tokenize_eq_ok_iff.mpr (scan_ofSource hcut htext), tokensFrom_bare _ _⟩

/-! ### Tokens with spaces between them -/

theorem written_spaced (tokens : List Token) :
    written (spaced tokens) = [' '].intercalate (tokens.map fun t => t.lexeme.toList) := by
  induction tokens using spaced.induct with
  | case1 => rfl
  | case2 t => simp [spaced, Token.piece]
  | case3 t next more ih =>
    rw [spaced, written_cons, ih]
    simp only [List.map_cons, List.intercalate_cons_cons, List.append_assoc]
    rfl

theorem spaced_bare (tokens : List Token) :
    (spaced tokens).map Piece.bare = tokens.map Token.bare := by
  induction tokens using spaced.induct with
  | case1 => rfl
  | case2 t => rw [spaced, List.map_singleton, t.piece_bare, List.map_singleton]
  | case3 t next more ih =>
    rw [spaced, List.map_cons, t.piece_bare, ih]
    rfl

/-- Legible tokens with spaces between them are pieces in front of anything that goes on with
no name. -/
theorem pieces_spaced {table : OperationTable} {tokens : List Token} {behind : List Char}
    (h : ∀ t ∈ tokens, Legible table t)
    (hends : ∀ c ∈ behind.head?, Text.isAlphanumeric c = false) :
    Pieces table behind (spaced tokens) := by
  induction tokens using spaced.induct with
  | case1 => exact .nil
  | case2 t =>
    have ht := h t (by simp)
    obtain ⟨_, hlexeme⟩ := ht.lexeme
    exact .cons (hlexeme.exchange hends) (.blanks ht.kind (by simp [Blank, Token.piece])) .nil
  | case3 t next more ih =>
    rw [List.forall_mem_cons] at h
    obtain ⟨_, hlexeme⟩ := h.1.lexeme
    refine .cons (hlexeme.exchange ?_) (.blanks h.1.kind (.singleton rfl)) (ih h.2)
    intro c hc
    cases hc
    decide

/-! ### Statements on lines -/

/-- A terminator, wherever it stands. -/
def Token.stop : Token :=
  ⟨.terminator, ⟨0, 0, 0⟩, ";"⟩

theorem Node.written_pieces (n : Node) : written n.pieces = n.format.toList := by
  rw [pieces, written_append, written_spaced, format, String.toList_append,
    String.toList_intercalate, List.map_map]
  rfl

theorem Node.pieces_bare (n : Node) :
    n.pieces.map Piece.bare = (n.spelling ++ [Token.stop]).map Token.bare := by
  rw [pieces, List.map_append, spaced_bare, List.map_append]
  rfl

theorem Program.written_pieces (p : Program) :
    written (p.nodes.flatMap Node.pieces) = p.format.toList := by
  rw [format, String.toList_join, List.flatMap_map, written, List.flatMap_assoc]
  apply List.flatMap_congr
  intro n _
  exact n.written_pieces

/-- **A program of legible tokens is cut where it was put together.** -/
theorem Program.pieces_lawful {table : OperationTable} {p : Program}
    (h : ∀ n ∈ p.nodes, ∀ t ∈ n.spelling, Legible table t) :
    Pieces table [] (p.nodes.flatMap Node.pieces) := by
  obtain ⟨nodes⟩ := p
  induction nodes with
  | nil => exact .nil
  | cons n rest ih =>
    rw [List.forall_mem_cons] at h
    have hends : ∀ c ∈ (written [(⟨.terminator, [';'], ['\n']⟩ : Piece)] ++
        (written (rest.flatMap Node.pieces) ++ [])).head?, Text.isAlphanumeric c = false := by
      intro c hc
      cases hc
      decide
    have hgap (behind : List Char) : Gap .terminator ([] ++ ['\n']) behind :=
      .line (by simp) (by simp [Blank])
    rw [List.flatMap_cons]
    exact .append (.append (pieces_spaced h.1 hends) (.cons .terminator (hgap _) .nil)) (ih h.2)

/-! ### What was read can be read again -/

/-- Every token that was read is a piece of the text. -/
theorem exists_piece_of_tokenize {table : OperationTable} {source : String} {tokens : List Token}
    (h : tokenize table source = .ok tokens) {t : Token} (ht : t ∈ tokens) :
    ∃ cut : Cut, cut.Lawful table ∧ cut.text = source.toList ∧
      ∃ p ∈ cut.pieces, p.kind = t.kind ∧ p.lexeme = t.lexeme.toList := by
  obtain ⟨cut, hcut, htext⟩ := exists_cut table source.toList
  have hscan := (scan_ofSource hcut htext).symm.trans (tokenize_eq_ok_iff.mp h)
  have htokens : Cut.tokensFrom (Place.start.after cut.lead) cut.pieces = tokens :=
    congrArg Lexer.Scan.tokens hscan
  have hmem : t.bare ∈ cut.pieces.map Piece.bare := by
    rw [← tokensFrom_bare (Place.start.after cut.lead), htokens]
    exact List.mem_map_of_mem ht
  obtain ⟨p, hp, hbare⟩ := List.mem_map.mp hmem
  have hkind : p.kind = t.kind := congrArg Token.kind hbare
  have hlexeme : String.ofList p.lexeme = t.lexeme := congrArg Token.lexeme hbare
  exact ⟨cut, hcut, htext, p, hp, hkind, by rw [← hlexeme, String.toList_ofList]⟩

theorem exists_lexeme_of_tokenize {table : OperationTable} {source : String} {tokens : List Token}
    (h : tokenize table source = .ok tokens) {t : Token} (ht : t ∈ tokens) :
    ∃ behind, Lexeme table t.kind t.lexeme.toList behind := by
  obtain ⟨cut, hcut, -, p, hp, hkind, hlexeme⟩ := exists_piece_of_tokenize h ht
  rw [← hkind, ← hlexeme]
  exact hcut.pieces.exists_lexeme hp

namespace Program

/-- The tokens of a program, a terminator behind each statement. -/
def tokens (p : Program) : List Token :=
  p.nodes.flatMap fun n => n.spelling ++ [Token.stop]

/-- A program that was read is read again from its own tokens. -/
theorem parse_tokens {options : Options} {source : List Token} {p : Program}
    (h : parse options source = .ok p) (again : Options) : parse again p.tokens = .ok p := by
  obtain ⟨-, hspelled⟩ := parse_eq_ok_iff.mp h
  have hspelling := map_spelling hspelled
  have hrun : ∀ n ∈ p.nodes, n.spelling ∈ closedRuns source := by
    intro n hn
    rw [← hspelling]
    exact List.mem_map_of_mem hn
  obtain ⟨hruns, hclosed⟩ := closedRuns_flatMap_concat Node.spelling (fun _ => Token.stop)
    (fun _ _ => rfl) (fun n hn => ne_nil_of_mem_closedRuns (hrun n hn))
    fun n hn _ => isTerminator_of_mem_closedRuns (hrun n hn)
  rw [parse_eq_ok_iff]
  refine ⟨fun _ => hclosed, ?_⟩
  rw [tokens, hruns, hspelling]
  exact hspelled

theorem tokenize_format {table : OperationTable} {p : Program}
    (h : ∀ n ∈ p.nodes, ∀ t ∈ n.spelling, Legible table t) :
    ∃ again, tokenize table p.format = .ok again ∧
      again.map Token.bare = p.tokens.map Token.bare := by
  obtain ⟨again, hagain, hbare⟩ := (pieces_lawful h).exists_tokens p.written_pieces
  refine ⟨again, hagain, ?_⟩
  rw [hbare, tokens, List.map_flatMap, List.map_flatMap]
  apply List.flatMap_congr
  intro n _
  exact n.pieces_bare

end Program

/-- **Reformatting keeps the program.** A program that was compiled, written a statement on
each line with a space between two tokens, compiles under either policy in strict mode.
It is the same program but for the spans, and is written in the same way. -/
theorem compile_format {options : Options} {source : String} {p : Program}
    (h : compile options source = .ok p) :
    ∃ q, (∀ policy, compile ⟨.strict, policy⟩ p.format = .ok q) ∧ q.bare = p.bare ∧
      q.format = p.format := by
  obtain ⟨tokens, htokens, hparse⟩ := compile_eq_ok_iff.mp h
  have hspelling := map_spelling (Program.parse_eq_ok_iff.mp hparse).2
  have hlegible : ∀ n ∈ p.nodes, ∀ t ∈ n.spelling, Legible .standard t := by
    intro n hn t ht
    have hrun : n.spelling ∈ closedRuns tokens := hspelling ▸ List.mem_map_of_mem hn
    refine ⟨?_, exists_lexeme_of_tokenize htokens (mem_of_mem_closedRuns hrun ht)⟩
    intro hkind
    have hopen := isTerminator_of_mem_closedRuns hrun ht
    simp [Token.isTerminator, hkind] at hopen
  obtain ⟨again, hagain, hbare⟩ := Program.tokenize_format hlegible
  have hmoved : Program.parse ⟨.strict, .abort⟩ (again.map Token.bare) = .ok p.bare := by
    rw [hbare]
    exact (Program.parse_move_eq_ok_iff _).mpr ⟨p, Program.parse_tokens hparse _, rfl⟩
  obtain ⟨q, hq, hsame⟩ := (Program.parse_move_eq_ok_iff _).mp hmoved
  refine ⟨q, fun policy => ?_, hsame, ?_⟩
  · rw [compile_of_tokenize hagain]
    exact (Program.parse_eq_ok_iff_of_policy .abort).mpr hq
  · calc q.format = q.bare.format := (q.format_move _).symm
      _ = p.bare.format := congrArg Program.format hsame
      _ = p.format := p.format_move _

/-- Blanks, comments, an empty statement and a tail are left out. -/
theorem compile_format_of_tail :
    let source := " né:0 NOT\tb; x\n;\nOUT\n1; ;\nOUT c"
    let p : Program := ⟨[
      .definition ⟨.identifier "né", ⟨1, 2, 3⟩, "né"⟩ ⟨.definition, ⟨1, 4, 4⟩, ":"⟩
        [⟨.literal false, ⟨1, 5, 5⟩, "0"⟩, ⟨.keyword ⟨"NOT", 1, 0, false⟩, ⟨1, 7, 9⟩, "NOT"⟩,
          ⟨.identifier "b", ⟨1, 11, 11⟩, "b"⟩],
      .operation ⟨"OUT", 1, 0, true⟩ ⟨.keyword ⟨"OUT", 1, 0, true⟩, ⟨3, 1, 3⟩, "OUT"⟩
        [⟨.literal true, ⟨4, 1, 1⟩, "1"⟩]]⟩
    compile ⟨.lenient, .collect⟩ source = .ok p ∧ p.format = "né : 0 NOT b;\nOUT 1;\n" ∧
      ∃ q, (∀ policy, compile ⟨.strict, policy⟩ p.format = .ok q) ∧ q.bare = p.bare ∧
        q.format = p.format := by
  intro source p
  have hcompiled : compile ⟨.lenient, .collect⟩ source = .ok p := by decide +kernel
  exact ⟨hcompiled, by decide, compile_format hcompiled⟩

end CircuitLang
