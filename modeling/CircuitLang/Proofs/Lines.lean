import CircuitLang.Proofs.Joining

/-! Reading line by line.

A line feed ends a name and a comment, and columns are counted anew behind it, so between
two lines a lexer holds nothing but the number of the line. Of a line it reads nothing
behind the first terminator (`scan_visible`). So a text is read by reading the visible part
of each of its lines by itself (`tokenize_eq_readLines`), and descriptions that differ in
comments alone compile alike. The main statement is `reading_is_line_by_line`. -/
namespace CircuitLang

/-! ### Lines by themselves -/

/-- The part of a line that is read: what stands in front of its first terminator, and that. -/
def visible : List Char → List Char
  | [] => []
  | c :: rest => if c = ';' then [c] else c :: visible rest

/-- The span on line number `n`. -/
def Span.onLine (n : Nat) (s : Span) : Span :=
  { s with line := .ofNat n }

/-- Reads the visible part of a line as a text of its own, and puts what it comes to on line
number `n`. -/
def readLine (table : OperationTable) (n : Nat) (line : List Char) : Except LexError (List Token) :=
  match tokenize table (String.ofList (visible line)) with
  | .ok tokens => .ok (tokens.map (Token.move (Span.onLine n)))
  | .error e => .error (e.move (Span.onLine n))

/-- Reads lines one below the other, the first of them being number `n`. A line that is
refused ends the reading. -/
def readLines (table : OperationTable) : Nat → List (List Char) → Except LexError (List Token)
  | _, [] => .ok []
  | n, line :: below => do
    let tokens ← readLine table n line
    let more ← readLines table (n + 1) below
    return tokens ++ more

/-- Two lines that are the same, or the same up to their first terminator. -/
inductive SameCode : List Char → List Char → Prop where
  | same (line : List Char) : SameCode line line
  | comments {code : List Char} (hcode : ';' ∉ code) (comment comment' : List Char) :
      SameCode (code ++ ';' :: comment) (code ++ ';' :: comment')

theorem visible_eq_self {line : List Char} (h : ';' ∉ line) : visible line = line := by
  induction line with
  | nil => rfl
  | cons c rest ih =>
    rw [List.mem_cons, not_or] at h
    rw [visible, if_neg (Ne.symm h.1), ih h.2]

theorem visible_append {code : List Char} (h : ';' ∉ code) (comment : List Char) :
    visible (code ++ ';' :: comment) = code ++ [';'] := by
  induction code with
  | nil => rfl
  | cons c rest ih =>
    rw [List.mem_cons, not_or] at h
    rw [List.cons_append, visible, if_neg (Ne.symm h.1), ih h.2]
    rfl

theorem SameCode.visible_eq {line line' : List Char} (h : SameCode line line') :
    visible line = visible line' := by
  cases h with
  | same => rfl
  | comments hcode => rw [visible_append hcode, visible_append hcode]

/-- Only the visible parts of lines are read. -/
theorem readLines_congr (table : OperationTable) {lines lines' : List (List Char)}
    (h : List.Forall₂ SameCode lines lines') (n : Nat) :
    readLines table n lines = readLines table n lines' := by
  induction h generalizing n with
  | nil => rfl
  | cons hline _ ih => rw [readLines, readLines, ih, readLine, readLine, hline.visible_eq]

/-! ### Places on a line -/

namespace Place

/-- The place on line number `n`. -/
def onLine (n : Nat) (p : Place) : Place :=
  { p with line := .ofNat n }

theorem advance_of_ne (p : Place) {c : Char} (h : c ≠ '\n') :
    p.advance c = ⟨p.line, p.column + 1⟩ := if_neg h

theorem after_onLine (n : Nat) (p : Place) {text : List Char} (h : '\n' ∉ text) :
    (p.onLine n).after text = (p.after text).onLine n := by
  induction text generalizing p with
  | nil => rfl
  | cons c rest ih =>
    rw [List.mem_cons, not_or] at h
    rw [after_cons, after_cons, advance_of_ne _ (Ne.symm h.1), advance_of_ne _ (Ne.symm h.1),
      ← ih _ h.2]
    rfl

theorem line_after (p : Place) {text : List Char} (h : '\n' ∉ text) :
    (p.after text).line = p.line := by
  induction text generalizing p with
  | nil => rfl
  | cons c rest ih =>
    rw [List.mem_cons, not_or] at h
    rw [after_cons, advance_of_ne _ (Ne.symm h.1), ih _ h.2]

theorem after_line_feed (p : Place) {line : List Char} (h : '\n' ∉ line) :
    (p.after line).after ['\n'] = ⟨p.line + 1, 0⟩ := by
  rw [after_cons, after_nil, advance, if_pos rfl, line_after p h]

theorem spanOf_onLine (n : Nat) (p : Place) {lexeme : List Char} (h : '\n' ∉ lexeme) :
    (p.onLine n).spanOf lexeme = (p.spanOf lexeme).onLine n := by
  rw [spanOf, after_onLine n p h]
  rfl

end Place

/-! ### Reading a line -/

theorem tokensFrom_onLine (n : Nat) (p : Place) {pieces : List Piece} (h : '\n' ∉ written pieces) :
    Cut.tokensFrom (p.onLine n) pieces =
      (Cut.tokensFrom p pieces).map (Token.move (Span.onLine n)) := by
  induction pieces generalizing p with
  | nil => rfl
  | cons piece more ih =>
    rw [written_cons, ← List.append_assoc, List.mem_append, not_or] at h
    have hlexeme : '\n' ∉ piece.lexeme := fun hmem => h.1 (List.mem_append_left _ hmem)
    rw [Cut.tokensFrom, Cut.tokensFrom, List.map_cons, Place.spanOf_onLine n p hlexeme,
      Place.after_onLine n p h.1, ih _ h.2]
    rfl

theorem errorFrom?_onLine (n : Nat) (p : Place) {rest : List Char} (h : '\n' ∉ rest) :
    Cut.errorFrom? (p.onLine n) rest =
      (Cut.errorFrom? p rest).map (LexError.move (Span.onLine n)) := by
  cases rest with
  | nil => rfl
  | cons c rest =>
    have hc : '\n' ∉ [c] := fun hmem => h (List.mem_cons.mpr (.inl (List.mem_singleton.mp hmem)))
    rw [Cut.errorFrom?, Place.spanOf_onLine n p hc]
    rfl

/-- What is read of a line does not depend on its number, but for the spans. -/
theorem scan_onLine (table : OperationTable) (n : Nat) (p : Place) {line : List Char}
    (h : '\n' ∉ line) :
    Lexer.scan ⟨table, p.onLine n, line⟩ =
      (Lexer.scan ⟨table, p, line⟩).move (Span.onLine n) := by
  obtain ⟨cut, hcut, rfl⟩ := exists_cut table line
  rw [Cut.text, ← List.append_assoc, List.mem_append, not_or, List.mem_append, not_or] at h
  obtain ⟨⟨hlead, hpieces⟩, hrest⟩ := h
  have hbefore : '\n' ∉ cut.lead ++ written cut.pieces := by
    rw [List.mem_append, not_or]
    exact ⟨hlead, hpieces⟩
  rw [scan_eq_of_lawful (l := ⟨table, p.onLine n, cut.text⟩) hcut rfl,
    scan_eq_of_lawful (l := ⟨table, p, cut.text⟩) hcut rfl, Cut.scanFrom, Cut.scanFrom,
    Place.after_onLine n p hlead, tokensFrom_onLine n _ hpieces, Place.after_onLine n p hbefore,
    errorFrom?_onLine n _ hrest]
  rfl

/-- A text without a terminator can be cut in front of anything that no name goes on with. -/
theorem Boundary.behind_code {code behind : List Char} (h : ';' ∉ code)
    (hends : ∀ c ∈ behind.head?, Text.isAlphanumeric c = false) : Boundary code behind := by
  refine ⟨fun _ => hends, fun hcomment => ?_⟩
  obtain ⟨before, comment, rfl, -⟩ := hcomment
  exact absurd (by simp) h

theorem Boundary.before_terminator {code : List Char} (h : ';' ∉ code) (behind : List Char) :
    Boundary code (';' :: behind) := by
  refine .behind_code h ?_
  intro c hc
  cases hc
  exact Text.isAlphanumeric_semicolon

/-- A terminator that ends a line comes to one token, whatever the comment behind it. -/
theorem scan_terminator (table : OperationTable) (place : Place) {comment : List Char}
    (h : '\n' ∉ comment) :
    Lexer.scan ⟨table, place, ';' :: comment⟩ =
      ⟨[⟨.terminator, place.spanOf [';'], ";"⟩], none⟩ := by
  have hlexeme : Lexeme table .terminator [';'] (comment ++ []) := .terminator
  have hcomment : Comment .terminator comment [] := .line h (by simp)
  have hend (p : Place) : Lexer.scan ⟨table, p, []⟩ = ⟨[], none⟩ := Lexer.scan_of_finished rfl
  have hscan := Lexer.scan_of_lexeme place hlexeme hcomment
  rwa [hend, List.append_nil] at hscan

/-- Nothing behind the first terminator of a line is read. -/
theorem scan_visible (table : OperationTable) (place : Place) {line : List Char}
    (h : '\n' ∉ line) :
    Lexer.scan ⟨table, place, line⟩ = Lexer.scan ⟨table, place, visible line⟩ := by
  by_cases hmem : ';' ∈ line
  · obtain ⟨code, comment, rfl, hcode⟩ := List.eq_append_cons_of_mem hmem
    have hcomment : '\n' ∉ comment := fun hnewline => h (by simp [hnewline])
    rw [visible_append hcode]
    -- Up to the terminator both are the same text, and whether that is refused decides.
    cases herror : (Lexer.scan ⟨table, place, code⟩).error? with
    | some e => rw [scan_append_of_error herror, scan_append_of_error herror]
    | none =>
      rw [scan_append_of_boundary herror (.before_terminator hcode comment),
        scan_append_of_boundary herror (.before_terminator hcode []),
        scan_terminator table _ hcomment, scan_terminator table _ List.not_mem_nil]
  · rw [visible_eq_self hmem]

theorem Lexer.Scan.result_move (g : Span → Span) (s : Lexer.Scan) :
    (s.move g).result =
      match s.result with
      | .ok tokens => .ok (tokens.map (Token.move g))
      | .error e => .error (e.move g) := by
  obtain ⟨tokens, _ | e⟩ := s <;> rfl

theorem readLine_eq (table : OperationTable) (n : Nat) {line : List Char} (h : '\n' ∉ line) :
    readLine table n line = (Lexer.scan ⟨table, ⟨.ofNat n, 0⟩, line⟩).result := by
  have hplace : (⟨.ofNat n, 0⟩ : Place) = Place.start.onLine n := rfl
  rw [hplace, scan_onLine table n .start h, scan_visible table .start h,
    Lexer.Scan.result_move, readLine, tokenize, Lexer.tokenize, Lexer.ofSource,
    String.toList_ofList]

/-! ### Reading lines -/

/-- Behind a line feed reading goes on at the head of the next line, unless the line was
refused. -/
theorem result_line_feed (table : OperationTable) (place : Place) {line : List Char}
    (h : '\n' ∉ line) (below : List Char) :
    (Lexer.scan ⟨table, place, line ++ '\n' :: below⟩).result = do
      let tokens ← (Lexer.scan ⟨table, place, line⟩).result
      let more ← (Lexer.scan ⟨table, ⟨place.line + 1, 0⟩, below⟩).result
      return tokens ++ more := by
  have hbelow : Lexer.scan ⟨table, place.after line, '\n' :: below⟩ =
      Lexer.scan ⟨table, ⟨place.line + 1, 0⟩, below⟩ := by
    rw [← Place.after_line_feed place h]
    exact Lexer.scan_of_blank table _ (.singleton rfl) below
  cases herror : (Lexer.scan ⟨table, place, line⟩).error? with
  | some e =>
    rw [scan_append_of_error herror, Lexer.Scan.result, herror]
    rfl
  | none =>
    rw [scan_append_of_boundary herror (.before_newline line below), hbelow]
    rw [Lexer.Scan.result, Lexer.Scan.result, Lexer.Scan.result, herror]
    cases (Lexer.scan ⟨table, ⟨place.line + 1, 0⟩, below⟩).error? <;> rfl

/-- A text is a single line, or a line above others. -/
@[elab_as_elim]
theorem lines_induction {motive : List Char → Prop}
    (single : ∀ line, '\n' ∉ line → motive line)
    (above : ∀ line below, '\n' ∉ line → motive below → motive (line ++ '\n' :: below))
    (text : List Char) : motive text := by
  induction hlength : text.length using Nat.strong_induction_on generalizing text with
  | _ length ih =>
    by_cases hmem : '\n' ∈ text
    · obtain ⟨line, below, rfl, hline⟩ := List.eq_append_cons_of_mem hmem
      have hshorter : below.length < length := by
        rw [← hlength, List.length_append, List.length_cons]
        omega
      exact above line below hline (ih _ hshorter below rfl)
    · exact single text hmem

/-- From the head of any line on, reading a text is reading its lines. -/
theorem result_eq_readLines (table : OperationTable) (n : Nat) (text : List Char) :
    (Lexer.scan ⟨table, ⟨.ofNat n, 0⟩, text⟩).result = readLines table n (text.splitOn '\n') := by
  induction text using lines_induction generalizing n with
  | single line hline =>
    rw [List.splitOn_eq_singleton hline, readLines, readLine_eq table n hline]
    cases (Lexer.scan ⟨table, ⟨.ofNat n, 0⟩, line⟩).result with
    | error e => rfl
    | ok tokens => simp [readLines, bind, Except.bind, pure, Except.pure]
  | above line below hline ih =>
    have hnext : UInt32.ofNat n + 1 = UInt32.ofNat (n + 1) := (UInt32.ofNat_add n 1).symm
    rw [List.splitOn_append_cons_self_of_not_mem hline, result_line_feed table _ hline, readLines,
      readLine_eq table n hline, hnext, ih]

/-- **A text is read by reading its lines.** -/
theorem tokenize_eq_readLines (table : OperationTable) (source : String) :
    tokenize table source = readLines table 1 (source.toList.splitOn '\n') :=
  result_eq_readLines table 1 source.toList

/-- **Reading is line by line and blind to comments**: a text comes to the tokens of its
lines, each read by itself up to its first terminator and put on its number, or to the error
of the first line that is refused. So descriptions with as many lines, each the same as the
other's up to its first terminator, compile alike. -/
theorem reading_is_line_by_line :
    (∀ table source,
        tokenize table source = readLines table 1 (source.toList.splitOn '\n')) ∧
      ∀ source source' : String,
        List.Forall₂ SameCode (source.toList.splitOn '\n') (source'.toList.splitOn '\n') →
          ∀ options, compile options source = compile options source' := by
  refine ⟨tokenize_eq_readLines, fun source source' hlines options => ?_⟩
  have htokens : tokenize .standard source = tokenize .standard source' := by
    rw [tokenize_eq_readLines, tokenize_eq_readLines, readLines_congr .standard hlines]
  rw [compile, compile, readUnder, readUnder, htokens]

/-- Characters that begin no token are refused in front of a terminator and nowhere else. -/
theorem reading_is_line_by_line_beside_comments :
    let source := "a : 1; one\n\nb; $\nOUT $"
    let source' := "a : 1;\n\nb;: : ;\nOUT $"
    List.Forall₂ SameCode (source.toList.splitOn '\n') (source'.toList.splitOn '\n') ∧
      compile ⟨.strict, .collect⟩ source = .error (.lexical ⟨'$', ⟨4, 5, 5⟩⟩) := by
  intro source source'
  have hsource : source.toList.splitOn '\n' =
      ["a : 1".toList ++ ';' :: " one".toList, [], "b".toList ++ ';' :: " $".toList,
        "OUT $".toList] := by decide
  have hsource' : source'.toList.splitOn '\n' =
      ["a : 1".toList ++ ';' :: [], [], "b".toList ++ ';' :: ": : ;".toList,
        "OUT $".toList] := by decide
  have hlines : List.Forall₂ SameCode (source.toList.splitOn '\n') (source'.toList.splitOn '\n') := by
    rw [hsource, hsource']
    exact .cons (.comments (by decide) _ _) (.cons (.same _) (.cons (.comments (by decide) _ _)
      (.cons (.same _) .nil)))
  refine ⟨hlines, (reading_is_line_by_line.2 source source' hlines _).trans ?_⟩
  decide +kernel

end CircuitLang
