import CircuitLang.Proofs.Boundary

/-! Texts cut into lexemes and gaps.

A text is cut into blanks, pieces, and a rest: a piece is a lexeme with the gap
behind it, and a rest begins with a character that no lexeme begins with. Every text
has such a cut (`exists_cut`) and no other (`Cut.Lawful.unique`), and reading the
text comes to the tokens of that cut (`scan_eq_of_lawful`). So a text has tokens
exactly when it is cut without a rest (`tokenize_eq_ok_iff_cut`). -/
namespace CircuitLang

/-! ### Cuts -/

/-- A lexeme with its kind, and the gap behind it. -/
@[ext]
structure Piece where
  kind : Kind
  lexeme : List Char
  gap : List Char
  deriving DecidableEq, Repr

/-- The text of pieces, one behind the other. -/
def written (pieces : List Piece) : List Char :=
  pieces.flatMap fun p => p.lexeme ++ p.gap

/-- Pieces that stand in front of a text as the grammar wants it. -/
inductive Pieces (table : OperationTable) (behind : List Char) : List Piece → Prop where
  | nil : Pieces table behind []
  | cons {p : Piece} {more : List Piece}
      (hlexeme : Lexeme table p.kind p.lexeme (p.gap ++ (written more ++ behind)))
      (hgap : Gap p.kind p.gap (written more ++ behind)) (hmore : Pieces table behind more) :
      Pieces table behind (p :: more)

/-- A text in parts: blanks, pieces, and what is not read. -/
@[ext]
structure Cut where
  lead : List Char
  pieces : List Piece
  rest : List Char
  deriving DecidableEq, Repr

namespace Cut

/-- All of the text, with no character lost or used twice. -/
def text (cut : Cut) : List Char :=
  cut.lead ++ (written cut.pieces ++ cut.rest)

/-- What the grammar asks of a cut. Reading ends at the end of the text or at an illegal
character. -/
structure Lawful (table : OperationTable) (cut : Cut) : Prop where
  lead : Blank cut.lead
  pieces : Pieces table cut.rest cut.pieces
  rest : ∀ c ∈ cut.rest.head?, Illegal c

/-- The tokens of pieces that begin at a place. -/
def tokensFrom (place : Place) : List Piece → List Token
  | [] => []
  | p :: more =>
    ⟨p.kind, place.spanOf p.lexeme, String.ofList p.lexeme⟩ ::
      tokensFrom (place.after (p.lexeme ++ p.gap)) more

/-- The tokens of a cut text, the first piece standing behind the blanks in front. -/
def tokens (cut : Cut) : List Token :=
  tokensFrom (Place.start.after cut.lead) cut.pieces

/-- The error of a rest that begins at a place. -/
def errorFrom? (place : Place) : List Char → Option LexError
  | [] => none
  | c :: _ => some ⟨c, place.spanOf [c]⟩

/-- What is read of a cut text that begins at a place: the tokens of the pieces, and then
the error of the rest. -/
def scanFrom (place : Place) (cut : Cut) : Lexer.Scan :=
  ⟨tokensFrom (place.after cut.lead) cut.pieces,
    errorFrom? (place.after (cut.lead ++ written cut.pieces)) cut.rest⟩

end Cut

@[simp] theorem written_nil : written [] = [] := rfl

@[simp] theorem written_cons (p : Piece) (more : List Piece) :
    written (p :: more) = p.lexeme ++ (p.gap ++ written more) := by
  simp [written]

theorem written_append (before after : List Piece) :
    written (before ++ after) = written before ++ written after :=
  List.flatMap_append

theorem length_tokensFrom (place : Place) (pieces : List Piece) :
    (Cut.tokensFrom place pieces).length = pieces.length := by
  induction pieces generalizing place with
  | nil => rfl
  | cons p more ih => rw [Cut.tokensFrom, List.length_cons, List.length_cons, ih]

/-- The token of a piece has the span of its lexeme behind all the text in front of it. -/
theorem getElem?_tokensFrom (place : Place) (pieces : List Piece) (k : Nat) :
    (Cut.tokensFrom place pieces)[k]? = pieces[k]?.map fun p =>
      ⟨p.kind, (place.after (written (pieces.take k))).spanOf p.lexeme, String.ofList p.lexeme⟩ := by
  induction pieces generalizing place k with
  | nil => rfl
  | cons p more ih =>
    cases k with
    | zero => rfl
    | succ k =>
      rw [Cut.tokensFrom, List.getElem?_cons_succ, ih, List.getElem?_cons_succ,
        List.take_succ_cons, written_cons, ← List.append_assoc, Place.after_append _ (_ ++ _)]

/-! ### Pieces -/

theorem Pieces.exists_lexeme {table : OperationTable} {rest : List Char} {pieces : List Piece}
    (h : Pieces table rest pieces) {p : Piece} (hp : p ∈ pieces) :
    ∃ behind, Lexeme table p.kind p.lexeme behind := by
  induction h with
  | nil => cases hp
  | cons hlexeme _ _ ih =>
    rcases List.mem_cons.mp hp with rfl | hp
    · exact ⟨_, hlexeme⟩
    · exact ih hp

theorem Pieces.append {table : OperationTable} {behind : List Char} {before after : List Piece}
    (h : Pieces table (written after ++ behind) before) (h' : Pieces table behind after) :
    Pieces table behind (before ++ after) := by
  induction h with
  | nil => exact h'
  | @cons p more hlexeme hgap hmore ih =>
    have htext : written more ++ (written after ++ behind) = written (more ++ after) ++ behind := by
      rw [written_append, List.append_assoc]
    rw [htext] at hlexeme hgap
    exact .cons hlexeme hgap ih

theorem Pieces.split {table : OperationTable} {behind : List Char} {before after : List Piece}
    (h : Pieces table behind (before ++ after)) :
    Pieces table (written after ++ behind) before ∧ Pieces table behind after := by
  induction before with
  | nil => exact ⟨.nil, h⟩
  | cons p more ih =>
    have htext : written (more ++ after) ++ behind = written more ++ (written after ++ behind) := by
      rw [written_append, List.append_assoc]
    cases h with
    | cons hlexeme hgap hmore =>
      obtain ⟨hbefore, hafter⟩ := ih hmore
      exact ⟨.cons (htext ▸ hlexeme) (htext ▸ hgap) hbefore, hafter⟩

theorem Pieces.eq_nil_of_written {table : OperationTable} {rest : List Char} {pieces : List Piece}
    (h : Pieces table rest pieces) (hnil : written pieces = []) : pieces = [] := by
  cases h with
  | nil => rfl
  | cons hlexeme =>
    obtain ⟨c, tail, hhead, -⟩ := hlexeme.head
    rw [written_cons, hhead] at hnil
    cases hnil

/-- Pieces and an illegal rest begin with no blank. -/
theorem Pieces.dense {table : OperationTable} {rest : List Char} {pieces : List Piece}
    (h : Pieces table rest pieces) (hrest : ∀ c ∈ rest.head?, Illegal c) :
    Dense (written pieces ++ rest) := by
  cases h with
  | nil => exact fun c hc => (hrest c hc).blank
  | @cons p more hlexeme =>
    obtain ⟨c, tail, hhead, hblank⟩ := hlexeme.head
    intro d hd
    rw [written_cons, hhead] at hd
    cases hd
    exact hblank

/-! ### Every text has one cut -/

/-- **Every text can be cut.** -/
theorem exists_cut (table : OperationTable) (text : List Char) :
    ∃ cut : Cut, cut.Lawful table ∧ cut.text = text := by
  induction hn : text.length using Nat.strong_induction_on generalizing text with
  | _ n ih =>
    obtain ⟨lead, body, rfl, hlead, hdense⟩ := exists_stretch Text.isBlank text
    cases body with
    | nil => exact ⟨⟨lead, [], []⟩, ⟨hlead, .nil, by simp⟩, rfl⟩
    | cons c more =>
      by_cases hlegal : Illegal c
      · refine ⟨⟨lead, [], c :: more⟩, ⟨hlead, .nil, ?_⟩, rfl⟩
        intro d hd
        cases hd
        exact hlegal
      · obtain ⟨kind, lexeme, after, htext, hlexeme⟩ :=
          exists_lexeme table more (hdense c rfl) hlegal
        obtain ⟨comment, behind, rfl, hcomment⟩ := exists_comment kind after
        -- The blanks in front of what is cut behind the comment end the gap of this piece.
        have hshorter : behind.length < n := by
          obtain ⟨d, tail, rfl, -⟩ := hlexeme.head
          rw [← hn, htext]
          simp only [List.length_append, List.length_cons]
          omega
        obtain ⟨cut, hcut, rfl⟩ := ih _ hshorter behind rfl
        have hgap := hcomment.gap hcut.lead (hcut.pieces.dense hcut.rest)
        refine ⟨⟨lead, ⟨kind, lexeme, comment ++ cut.lead⟩ :: cut.pieces, cut.rest⟩,
          ⟨hlead, .cons ?_ hgap hcut.pieces, hcut.rest⟩, ?_⟩
        · rwa [List.append_assoc]
        · rw [htext]
          simp [Cut.text]

theorem Pieces.unique {table : OperationTable} {rest rest' : List Char} {pieces pieces' : List Piece}
    (h : Pieces table rest pieces) (h' : Pieces table rest' pieces')
    (hrest : ∀ c ∈ rest.head?, Illegal c) (hrest' : ∀ c ∈ rest'.head?, Illegal c)
    (htext : written pieces ++ rest = written pieces' ++ rest') :
    pieces = pieces' ∧ rest = rest' := by
  induction h generalizing pieces' with
  | nil =>
    cases h' with
    | nil => exact ⟨rfl, htext⟩
    | cons hlexeme =>
      rw [written_cons, List.append_assoc] at htext
      exact absurd htext.symm (hlexeme.append_ne hrest)
  | @cons p more hlexeme hgap hmore ih =>
    cases h' with
    | nil =>
      rw [written_cons, List.append_assoc] at htext
      exact absurd htext (hlexeme.append_ne hrest')
    | @cons p' more' hlexeme' hgap' hmore' =>
      rw [written_cons, written_cons] at htext
      simp only [List.append_assoc] at htext
      obtain ⟨hkind, hsame, hbehind⟩ := hlexeme.unique hlexeme' htext
      rw [← hkind] at hgap'
      obtain ⟨hgaps, hmores⟩ := hgap.unique hgap' (hmore.dense hrest) (hmore'.dense hrest') hbehind
      obtain ⟨rfl, hrests⟩ := ih hmore' hmores
      exact ⟨by rw [show p = p' from Piece.ext hkind hsame hgaps], hrests⟩

/-- **No text can be cut in two ways.** -/
theorem Cut.Lawful.unique {table : OperationTable} {cut cut' : Cut} (h : cut.Lawful table)
    (h' : cut'.Lawful table) (htext : cut.text = cut'.text) : cut = cut' := by
  obtain ⟨hlead, hbody⟩ := append_inj_of_ends h.lead h'.lead (h.pieces.dense h.rest)
    (h'.pieces.dense h'.rest) htext
  obtain ⟨hpieces, hrest⟩ := h.pieces.unique h'.pieces h.rest h'.rest hbody
  exact Cut.ext hlead hpieces hrest

/-! ### Reading follows the cut -/

namespace Lexer

/-- A lexeme and the comment behind it are read as a token and passed. -/
theorem takeToken_of_lexeme (l : Lexer) {kind : Kind} {c : Char} {more comment behind : List Char}
    (hlexeme : Lexeme l.table kind (c :: more) (comment ++ behind))
    (hcomment : Comment kind comment behind) :
    l.takeToken c (more ++ (comment ++ behind)) =
      .read ⟨kind, l.place.spanOf (c :: more), String.ofList (c :: more)⟩
        (l.pass (c :: more ++ comment) behind) := by
  rcases hlexeme.mark_or_name with ⟨d, hd, hmark⟩ | ⟨hname, rfl⟩
  · obtain ⟨rfl, rfl⟩ := List.cons.inj hd
    rcases mark?_eq_some hmark with ⟨rfl, rfl⟩ | ⟨rfl, rfl⟩ | ⟨rfl, rfl⟩ | ⟨rfl, rfl⟩
    · cases hcomment
      rfl
    · cases hcomment with
      | none hkind => exact absurd rfl hkind
      | line hline hends =>
        obtain ⟨htake, hdrop⟩ :=
          takeWhile_append_of_ends (newline_notMem_iff.mp hline) (head?_newline_iff.mp hends)
        show l.takeTerminator (comment ++ behind) = _
        rw [takeTerminator, htake, hdrop]
        rfl
    · cases hcomment
      rfl
    · cases hcomment
      rfl
  · obtain ⟨d, rest, hd, halpha, hmore⟩ := hname.letters
    obtain ⟨rfl, rfl⟩ := List.cons.inj hd
    have hnone : comment = [] := by
      generalize hkind : Kind.ofName l.table (String.ofList (c :: more)) = kind at hcomment
      cases hcomment with
      | none => rfl
      | line => exact absurd hkind (Kind.ofName_ne_terminator _ _)
    subst hnone
    obtain ⟨htake, hdrop⟩ := takeWhile_append_of_ends hmore hname.ends
    have hmarks : c ≠ ':' ∧ c ≠ ';' ∧ c ≠ '0' ∧ c ≠ '1' := by
      refine ⟨?_, ?_, ?_, ?_⟩ <;> (intro hc; subst hc; revert halpha; decide)
    simp only [takeToken, hmarks, halpha, if_false, if_true, takeName, htake, hdrop]
    rw [List.append_nil]
    rfl

theorem takeToken_of_illegal (l : Lexer) {c : Char} (h : Illegal c) (rest : List Char) :
    l.takeToken c rest = .refused ⟨c, l.place.spanOf [c]⟩ := by
  simp [takeToken, h.colon, h.semicolon, h.zero, h.one, h.alphabetic]

theorem stepFrom_of_blank (table : OperationTable) (place : Place) {lead : List Char}
    (hlead : Blank lead) (text : List Char) :
    stepFrom table place (lead ++ text) = stepFrom table (place.after lead) text := by
  induction lead generalizing place with
  | nil => rfl
  | cons c lead ih =>
    rw [List.cons_append, stepFrom, if_pos (hlead c (by simp)),
      ih _ fun d hd => hlead d (by simp [hd])]
    rfl

/-- What is read depends on the first step alone. -/
theorem scan_congr {l m : Lexer} (h : l.step = m.step) : l.scan = m.scan := by
  cases hm : m.step with
  | finished => rw [scan_of_finished hm, scan_of_finished (h.trans hm)]
  | read t after => rw [scan_of_read hm, scan_of_read (h.trans hm)]
  | refused e => rw [scan_of_refused hm, scan_of_refused (h.trans hm)]

theorem scan_of_blank (table : OperationTable) (place : Place) {lead : List Char}
    (hlead : Blank lead) (text : List Char) :
    scan ⟨table, place, lead ++ text⟩ = scan ⟨table, place.after lead, text⟩ :=
  scan_congr (stepFrom_of_blank table place hlead text)

theorem scan_of_lexeme {table : OperationTable} (place : Place) {kind : Kind}
    {lexeme comment behind : List Char} (hlexeme : Lexeme table kind lexeme (comment ++ behind))
    (hcomment : Comment kind comment behind) :
    scan ⟨table, place, lexeme ++ (comment ++ behind)⟩ =
      ⟨⟨kind, place.spanOf lexeme, String.ofList lexeme⟩ ::
          (scan ⟨table, place.after (lexeme ++ comment), behind⟩).tokens,
        (scan ⟨table, place.after (lexeme ++ comment), behind⟩).error?⟩ := by
  obtain ⟨c, more, rfl, hblank⟩ := hlexeme.head
  apply scan_of_read
  rw [step, List.cons_append, stepFrom, hblank, if_neg Bool.false_ne_true]
  exact takeToken_of_lexeme ⟨table, place, _⟩ hlexeme hcomment

/-- Nothing is read in front of an illegal character. -/
theorem scan_of_illegal (table : OperationTable) (place : Place) {rest : List Char}
    (hrest : ∀ c ∈ rest.head?, Illegal c) :
    scan ⟨table, place, rest⟩ = ⟨[], Cut.errorFrom? place rest⟩ := by
  cases rest with
  | nil => exact scan_of_finished rfl
  | cons c rest =>
    have hc := hrest c rfl
    apply scan_of_refused
    rw [step, stepFrom, hc.blank, if_neg Bool.false_ne_true, takeToken_of_illegal _ hc]

end Lexer

/-- Pieces at the end of a text come to their tokens in front of more text as well, if the
text ends at a boundary, and reading goes on behind them. The induction is on the
pieces: the blanks of a gap stand in front of the pieces behind it. -/
theorem Pieces.scan_append {table : OperationTable} {rest : List Char} {pieces : List Piece}
    (h : Pieces table rest pieces) (more : List Char)
    (hends : rest = [] → Boundary (written pieces) more) (place : Place) {lead : List Char}
    (hlead : Blank lead) :
    Lexer.scan ⟨table, place, lead ++ (written pieces ++ (rest ++ more))⟩ =
      ⟨Cut.tokensFrom (place.after lead) pieces ++
          (Lexer.scan ⟨table, place.after (lead ++ written pieces), rest ++ more⟩).tokens,
        (Lexer.scan ⟨table, place.after (lead ++ written pieces), rest ++ more⟩).error?⟩ := by
  induction h generalizing place lead with
  | nil =>
    rw [Lexer.scan_of_blank _ _ hlead, written_nil, List.append_nil]
    rfl
  | @cons p behind hlexeme hgap hmore ih =>
    obtain ⟨comment, blanks, hsplit, hcomment, hblanks⟩ := hgap.split
    rw [written_cons, hsplit] at hends
    -- What ends where the text ends does so with all the pieces in front of that.
    have hlexeme' : Lexeme table p.kind p.lexeme (p.gap ++ (written behind ++ rest) ++ more) :=
      hlexeme.append fun hnil => by
        obtain ⟨hgaps, hnil⟩ := List.append_eq_nil_iff.mp hnil
        obtain ⟨hwritten, hrest⟩ := List.append_eq_nil_iff.mp hnil
        simpa [← hsplit, hgaps, hwritten] using hends hrest
    have hcomment' : Comment p.kind comment (blanks ++ (written behind ++ rest) ++ more) :=
      hcomment.append hlexeme fun hnil => by
        obtain ⟨hblank, hnil⟩ := List.append_eq_nil_iff.mp hnil
        obtain ⟨hwritten, hrest⟩ := List.append_eq_nil_iff.mp hnil
        simpa [hblank, hwritten] using hends hrest
    simp only [hsplit, List.append_assoc] at hlexeme' hcomment'
    have hbehind : rest = [] → Boundary (written behind) more := fun hrest => by
      have hboundary := hends hrest
      rw [← List.append_assoc] at hboundary
      exact hboundary.of_append
    have hwritten : written (p :: behind) ++ (rest ++ more) =
        p.lexeme ++ (comment ++ (blanks ++ (written behind ++ (rest ++ more)))) := by
      simp [hsplit]
    rw [Lexer.scan_of_blank _ _ hlead, hwritten, Lexer.scan_of_lexeme _ hlexeme' hcomment',
      ih hbehind _ hblanks, Cut.tokensFrom, written_cons, hsplit]
    simp only [Place.after_append, List.append_assoc, List.cons_append]

/-- Reading pieces behind blanks comes to their tokens, and then to the error of the
rest. -/
theorem Pieces.scan {table : OperationTable} {rest : List Char} {pieces : List Piece}
    (h : Pieces table rest pieces) (hrest : ∀ c ∈ rest.head?, Illegal c) (place : Place)
    {lead : List Char} (hlead : Blank lead) :
    Lexer.scan ⟨table, place, lead ++ (written pieces ++ rest)⟩ =
      Cut.scanFrom place ⟨lead, pieces, rest⟩ := by
  have happend := h.scan_append [] (fun _ => Boundary.end_of_text _) place hlead
  rw [List.append_nil, Lexer.scan_of_illegal _ _ hrest, List.append_nil] at happend
  exact happend

/-- **Reading a text comes to what its cut says.** -/
theorem scan_eq_of_lawful {l : Lexer} {cut : Cut} (h : cut.Lawful l.table)
    (htext : cut.text = l.rest) : l.scan = cut.scanFrom l.place := by
  obtain ⟨table, place, rest⟩ := l
  cases htext
  exact h.pieces.scan h.rest place h.lead

theorem scan_ofSource {table : OperationTable} {source : String} {cut : Cut}
    (h : cut.Lawful table) (htext : cut.text = source.toList) :
    (Lexer.ofSource table source).scan = cut.scanFrom .start :=
  scan_eq_of_lawful (l := .ofSource table source) h htext

/-- **A text has tokens exactly when it can be cut into lexemes and gaps with no rest**,
and they are the tokens of that cut. There is only one cut. -/
theorem tokenize_eq_ok_iff_cut (table : OperationTable) (source : String) :
    (∀ tokens, tokenize table source = .ok tokens ↔
        ∃ cut : Cut, cut.Lawful table ∧ cut.rest = [] ∧ cut.text = source.toList ∧
          cut.tokens = tokens) ∧
      ∀ cut cut' : Cut, cut.Lawful table → cut'.Lawful table → cut.text = source.toList →
        cut'.text = source.toList → cut = cut' := by
  constructor
  · intro tokens
    constructor
    · intro h
      obtain ⟨cut, hcut, htext⟩ := exists_cut table source.toList
      rw [tokenize, Lexer.tokenize, scan_ofSource hcut htext, Cut.scanFrom] at h
      cases hrest : cut.rest with
      | nil =>
        rw [hrest] at h
        exact ⟨cut, hcut, hrest, htext, Except.ok.inj h⟩
      | cons c rest =>
        rw [hrest] at h
        cases h
    · intro h
      obtain ⟨cut, hcut, hrest, htext, rfl⟩ := h
      rw [tokenize, Lexer.tokenize, scan_ofSource hcut htext, Cut.scanFrom, hrest]
      rfl
  · intro cut cut' hcut hcut' htext htext'
    exact hcut.unique hcut' (htext.trans htext'.symm)

end CircuitLang
