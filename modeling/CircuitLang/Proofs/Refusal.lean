import CircuitLang.Proofs.Restart

/-! Where reading fails.

Whether a character is refused depends on all that was read in front of it: a `2` or a `²` is
legal within a name or a comment, and nowhere else. A character is `Refused` behind a text
that has tokens, is not within a comment, and does not end with a name the character goes
on with. A text fails at the one character that is refused behind the text in front of it,
and nothing behind that is looked at. The main statement is
`tokenize_eq_error_iff_refused`. -/
namespace CircuitLang

/-- The text in front of a character can be read, and the character behind it cannot. -/
structure Refused (table : OperationTable) (before : List Char) (c : Char) : Prop where
  read : ∃ tokens, tokenize table (String.ofList before) = .ok tokens
  comment : ¬ EndsInComment before
  illegal : Illegal c
  name : ¬ (Text.isAlphanumeric c = true ∧ EndsInName before)

/-- A text ends with a name exactly when its last alphanumeric stretch has an alphabetic
character in it. -/
theorem endsInName_iff {text : List Char} :
    EndsInName text ↔ ∃ c ∈ text.rtakeWhile Text.isAlphanumeric, Text.isAlphabetic c = true := by
  constructor
  · intro h
    obtain ⟨before, name, rfl, hname⟩ := h
    have hstretch : ∀ d ∈ name.reverse, Text.isAlphanumeric d = true :=
      fun d hd => hname.mem (List.mem_reverse.mp hd)
    obtain ⟨c, more, rfl, hc, -⟩ := hname.letters
    refine ⟨c, ?_, hc⟩
    rw [List.rtakeWhile, List.reverse_append, List.takeWhile_append_of_pos hstretch]
    simp
  · intro h
    obtain ⟨c, hmem, hc⟩ := h
    obtain ⟨front, more, hstretch⟩ := List.append_of_mem hmem
    have htext : text.rdropWhile Text.isAlphanumeric ++ text.rtakeWhile Text.isAlphanumeric = text :=
      List.rdropWhile_append_rtakeWhile
    refine ⟨text.rdropWhile Text.isAlphanumeric ++ front, c :: more, ?_,
      ⟨⟨c, more, rfl, hc, fun d hd => ?_⟩, by simp⟩⟩
    · rw [List.append_assoc, ← hstretch, htext]
    · apply List.mem_rtakeWhile_imp (l := text)
      rw [hstretch]
      simp [hd]

/-! ### Pieces end at a boundary -/

theorem Pieces.of_append {table : OperationTable} {behind more : List Char} {pieces : List Piece}
    (h : Pieces table (behind ++ more) pieces) : Pieces table behind pieces := by
  induction h with
  | nil => exact .nil
  | @cons p pieces hlexeme hgap _ ih =>
    rw [← List.append_assoc (written pieces)] at hlexeme hgap
    rw [← List.append_assoc p.gap] at hlexeme
    exact .cons hlexeme.of_append hgap.of_append ih

/-- Pieces in front of a text end at a boundary. The induction is on the pieces: the blanks of
a gap stand in front of the pieces behind it. -/
theorem Pieces.boundary {table : OperationTable} {behind : List Char} {pieces : List Piece}
    (h : Pieces table behind pieces) {lead : List Char} (hlead : Blank lead) :
    Boundary (lead ++ written pieces) behind := by
  induction h generalizing lead with
  | nil =>
    rw [written_nil, List.append_nil]
    exact .of_blank hlead behind
  | @cons p pieces hlexeme hgap _ ih =>
    obtain ⟨comment, blanks, hsplit, hcomment, hblanks⟩ := hgap.split
    rw [hsplit, List.append_assoc] at hlexeme
    have hread : Boundary (p.lexeme ++ comment) (blanks ++ written pieces ++ behind) := by
      rw [List.append_assoc]
      exact hlexeme.boundary hcomment
    have hall := (Boundary.of_blank hlead _).append (hread.append (ih hblanks))
    simpa [hsplit] using hall

/-! ### Reading up to a refused character -/

namespace Refused
variable {table : OperationTable} {before before' more behind behind' : List Char} {c c' : Char}

/-- A refused character stands behind a boundary. -/
theorem boundary (h : Refused table before c) (behind : List Char) :
    Boundary before (c :: behind) := by
  constructor
  · intro hname d hd
    cases hd
    cases hletter : Text.isAlphanumeric c
    · rfl
    · exact absurd ⟨hletter, hname⟩ h.name
  · intro hcomment
    exact absurd hcomment h.comment

/-- Reading comes to the tokens in front of a refused character and to its error, whatever
stands behind it. -/
theorem scan (h : Refused table before c) :
    ∃ tokens, tokenize table (String.ofList before) = .ok tokens ∧ ∀ behind,
      Lexer.scan ⟨table, .start, before ++ c :: behind⟩ =
        ⟨tokens, some ⟨c, (Place.start.after before).spanOf [c]⟩⟩ := by
  obtain ⟨tokens, htokens⟩ := h.read
  refine ⟨tokens, htokens, fun behind => ?_⟩
  rw [tokenize_eq_ok_iff, String.toList_ofList] at htokens
  have hillegal : ∀ d ∈ (c :: behind).head?, Illegal d := by
    intro d hd
    cases hd
    exact h.illegal
  rw [scan_append_of_boundary (congrArg Lexer.Scan.error? htokens) (h.boundary behind), htokens,
    Lexer.scan_of_illegal _ _ hillegal, List.append_nil]
  rfl

/-- No character is refused within a text that has tokens. -/
theorem not_read (h : Refused table before c) :
    ¬ ∃ tokens, tokenize table (String.ofList (before ++ c :: behind)) = .ok tokens := by
  intro hread
  obtain ⟨tokens, htokens⟩ := hread
  obtain ⟨read, -, hscan⟩ := h.scan
  rw [tokenize_eq_ok_iff, String.toList_ofList, hscan behind] at htokens
  cases htokens

/-- No character further right is refused as well. -/
theorem unique_of_append (h : Refused table before c) (h' : Refused table (before ++ more) c')
    (htext : c :: behind = more ++ c' :: behind') : more = [] ∧ c = c' ∧ behind = behind' := by
  cases more with
  | nil =>
    obtain ⟨rfl, rfl⟩ := List.cons.inj htext
    exact ⟨rfl, rfl, rfl⟩
  | cons d more =>
    obtain ⟨rfl, -⟩ := List.cons.inj htext
    exact absurd h'.read h.not_read

theorem unique (h : Refused table before c) (h' : Refused table before' c')
    (htext : before ++ c :: behind = before' ++ c' :: behind') :
    before = before' ∧ c = c' ∧ behind = behind' := by
  rcases List.append_eq_append_iff.mp htext with ⟨more, rfl, hmore⟩ | ⟨more, rfl, hmore⟩
  · obtain ⟨rfl, rfl, rfl⟩ := h.unique_of_append h' hmore
    exact ⟨(List.append_nil before).symm, rfl, rfl⟩
  · obtain ⟨rfl, rfl, rfl⟩ := h'.unique_of_append h hmore
    exact ⟨List.append_nil before', rfl, rfl⟩

end Refused

/-! ### Every error is a refusal -/

/-- The rest that a cut leaves begins with a character that is refused behind its
pieces. -/
theorem Cut.Lawful.refused {table : OperationTable} {lead rest : List Char} {pieces : List Piece}
    {c : Char} (h : Cut.Lawful table ⟨lead, pieces, c :: rest⟩) :
    Refused table (lead ++ written pieces) c := by
  have hillegal : Illegal c := h.rest c rfl
  have hboundary : Boundary (lead ++ written pieces) (c :: rest) := h.pieces.boundary h.lead
  have hpieces : Pieces table ([] ++ c :: rest) pieces := h.pieces
  have hfront : Cut.Lawful table ⟨lead, pieces, []⟩ := ⟨h.lead, hpieces.of_append, by simp⟩
  refine ⟨⟨_, tokenize_eq_ok_iff.mpr (scan_ofSource hfront ?_)⟩, ?_, hillegal, ?_⟩
  · simp [Cut.text]
  · intro hcomment
    have hc : c = '\n' := hboundary.comment hcomment c rfl
    exact absurd (by simp [hc]) hillegal.newline_notMem
  · intro hname
    have hc := hboundary.name hname.2 c rfl
    rw [hname.1] at hc
    cases hc

theorem exists_refused {table : OperationTable} {text : List Char} {e : LexError}
    (h : (Lexer.scan ⟨table, .start, text⟩).error? = some e) :
    ∃ before behind, text = before ++ e.character :: behind ∧ Refused table before e.character := by
  obtain ⟨cut, hcut, rfl⟩ := exists_cut table text
  rw [scan_eq_of_lawful (l := ⟨table, .start, cut.text⟩) hcut rfl] at h
  obtain ⟨lead, pieces, rest⟩ := cut
  cases rest with
  | nil => cases h
  | cons c rest =>
    cases h
    exact ⟨lead ++ written pieces, rest, by simp [Cut.text], hcut.refused⟩

/-! ### The refused character -/

/-- **A text fails at the one character that is refused behind the text in front of it.** In
a text of fewer than `2 ^ 32 - 1` characters the error names that character and tells where it
stands, and no other character is refused. Before the error come the tokens of the text
in front of it, one by one, and the error is the same whatever stands behind it. -/
theorem tokenize_eq_error_iff_refused (table : OperationTable) (source : String)
    (hshort : source.length < 2 ^ 32 - 1) :
    (∀ e, tokenize table source = .error e ↔
        ∃ before behind, source.toList = before ++ e.character :: behind ∧
          Refused table before e.character ∧ Exact before [e.character] e.span) ∧
      (∀ before c behind before' c' behind', source.toList = before ++ c :: behind →
        Refused table before c → source.toList = before' ++ c' :: behind' →
          Refused table before' c' → before = before' ∧ c = c' ∧ behind = behind') ∧
        ∀ before c behind, source.toList = before ++ c :: behind → Refused table before c →
          ∃ e tokens after, tokenize table source = .error e ∧
            tokenize table (String.ofList before) = .ok tokens ∧
            (Lexer.ofSource table source).nextN tokens.length =
              (tokens.map fun t => some (.ok t), after) ∧
            after.next.1 = some (.error e) ∧
            ∀ other, tokenize table (String.ofList (before ++ c :: other)) = .error e := by
  have hexact : ∀ {before behind : List Char} {c : Char}, source.toList = before ++ c :: behind →
      Refused table before c → Exact before [c] ((Place.start.after before).spanOf [c]) := by
    intro before behind c hsource h
    have hlength : (before ++ ([c] ++ behind)).length < 2 ^ 32 - 1 := by
      rw [← String.length_toList, hsource] at hshort
      exact hshort
    exact spanOf_exact h.illegal.newline_notMem hlength
  refine ⟨fun e => ⟨fun he => ?_, fun he => ?_⟩, ?_, ?_⟩
  · rw [tokenize_eq_error_iff] at he
    obtain ⟨before, behind, hsource, h⟩ := exists_refused he
    obtain ⟨tokens, -, hscan⟩ := h.scan
    rw [hsource, hscan behind] at he
    have hspan : (Place.start.after before).spanOf [e.character] = e.span :=
      congrArg LexError.span (Option.some.inj he)
    exact ⟨before, behind, hsource, h, hspan ▸ hexact hsource h⟩
  · obtain ⟨before, behind, hsource, h, hspan⟩ := he
    obtain ⟨tokens, -, hscan⟩ := h.scan
    rw [tokenize_eq_error_iff, hsource, hscan behind, ← hspan.unique (hexact hsource h)]
  · intro before c behind before' c' behind' hsource h hsource' h'
    exact h.unique h' (hsource.symm.trans hsource')
  · intro before c behind hsource h
    obtain ⟨tokens, htokens, hscan⟩ := h.scan
    let e : LexError := ⟨c, (Place.start.after before).spanOf [c]⟩
    have hread : (Lexer.ofSource table source).scan = ⟨tokens ++ [], some e⟩ := by
      rw [Lexer.ofSource, hsource, hscan behind, List.append_nil]
    obtain ⟨after, hnext, hafter⟩ := Lexer.nextN_of_scan hread
    refine ⟨e, tokens, after, ?_, htokens, hnext, ?_, fun other => ?_⟩
    · rw [tokenize_eq_error_iff, hsource, hscan behind]
    · rw [Lexer.next_of_scan hafter]
    · rw [tokenize_eq_error_iff, String.toList_ofList, hscan other]

/-- A superscript digit that a name and a comment have, behind a literal. -/
theorem superscript_refused :
    let source := "a²: 1; ²\n1²x"
    let before := "a²: 1; ²\n1".toList
    let e : LexError := ⟨'²', ⟨2, 2, 2⟩⟩
    source.length < 2 ^ 32 - 1 ∧ source.toList = before ++ '²' :: ['x'] ∧
      Refused .standard before '²' ∧ tokenize .standard source = .error e ∧
        ∀ other, tokenize .standard (String.ofList (before ++ '²' :: other)) = .error e := by
  intro source before e
  have hshort : source.length < 2 ^ 32 - 1 := by decide
  have hsource : source.toList = before ++ '²' :: ['x'] := by decide
  let tokens : List Token := [⟨.identifier "a²", ⟨1, 1, 2⟩, "a²"⟩, ⟨.definition, ⟨1, 3, 3⟩, ":"⟩,
    ⟨.literal true, ⟨1, 5, 5⟩, "1"⟩, ⟨.terminator, ⟨1, 6, 6⟩, ";"⟩, ⟨.literal true, ⟨2, 1, 1⟩, "1"⟩]
  have hrefused : Refused .standard before '²' := by
    refine ⟨⟨tokens, by decide +kernel⟩, ?_, ?_, ?_⟩
    · rw [endsInComment_iff]
      decide
    · exact ⟨by decide, by decide, by decide, by decide, by decide, by decide⟩
    · intro h
      obtain ⟨c, hc, hletter⟩ := endsInName_iff.mp h.2
      have hstretch : before.rtakeWhile Text.isAlphanumeric = ['1'] := by decide
      rw [hstretch, List.mem_singleton] at hc
      rw [hc, Text.isAlphabetic_one] at hletter
      cases hletter
  obtain ⟨herror, -, hrefusal⟩ := tokenize_eq_error_iff_refused .standard source hshort
  have he : tokenize .standard source = .error e :=
    (herror e).mpr ⟨before, ['x'], hsource, hrefused, by decide, by decide, by decide⟩
  obtain ⟨e', -, -, he', -, -, -, hsame⟩ := hrefusal before '²' ['x'] hsource hrefused
  obtain rfl : e = e' := Except.error.inj (he.symm.trans he')
  exact ⟨hshort, hsource, hrefused, he, hsame⟩

end CircuitLang
