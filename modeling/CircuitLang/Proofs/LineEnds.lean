import CircuitLang.Proofs.Lines

/-! Line ends of two characters.

A line can end with a carriage return in front of its line feed (`withReturns`). That
return is a blank behind all the lexemes of the line, or belongs to its comment, so the
line is read as it is without (`readLine_append_blanks`): nothing on it stands to the right
of the return, and columns are counted anew behind the line feed. The main statement is
`returns_change_nothing`. -/
namespace CircuitLang

/-- The text with a carriage return in front of each line feed. -/
def returned (text : List Char) : List Char :=
  text.flatMap fun c => if c = '\n' then ['\r', '\n'] else [c]

/-- The source with line ends of two characters, wherever it has one. -/
def withReturns (source : String) : String :=
  .ofList (returned source.toList)

theorem returned_eq_self {line : List Char} (h : '\n' ∉ line) : returned line = line := by
  induction line with
  | nil => rfl
  | cons c rest ih =>
    rw [List.mem_cons, not_or] at h
    rw [returned, List.flatMap_cons, if_neg (Ne.symm h.1), ← returned, ih h.2]
    rfl

/-- The return goes to the end of the line above the line feed. -/
theorem returned_above {line : List Char} (h : '\n' ∉ line) (below : List Char) :
    returned (line ++ '\n' :: below) = line ++ ['\r'] ++ '\n' :: returned below := by
  have happend : returned (line ++ '\n' :: below) = returned line ++ ('\r' :: '\n' :: returned below) := by
    simp [returned]
  rw [happend, returned_eq_self h, List.append_assoc]
  rfl

/-! ### Blanks at the end of a line -/

theorem scan_append_blanks (table : OperationTable) (place : Place) {code blanks : List Char}
    (hcode : ';' ∉ code) (hblanks : Blank blanks) :
    Lexer.scan ⟨table, place, code ++ blanks⟩ = Lexer.scan ⟨table, place, code⟩ := by
  cases herror : (Lexer.scan ⟨table, place, code⟩).error? with
  | some e => exact scan_append_of_error herror blanks
  | none =>
    have hboundary : Boundary code blanks := by
      refine .behind_code hcode fun c hc => ?_
      exact Text.isAlphanumeric_eq_false_of_isBlank (hblanks c (List.mem_of_mem_head? hc))
    have hpassed : Lexer.scan ⟨table, place.after code, blanks⟩ = ⟨[], none⟩ := by
      rw [← List.append_nil blanks, Lexer.scan_of_blank table _ hblanks]
      exact Lexer.scan_of_finished rfl
    rw [scan_append_of_boundary herror hboundary, hpassed, List.append_nil, ← herror]

/-- Blanks at the end of a line mean nothing, in its comment or in front of that. -/
theorem readLine_append_blanks (table : OperationTable) (n : Nat) {line blanks : List Char}
    (hline : '\n' ∉ line ++ blanks) (hblanks : Blank blanks) :
    readLine table n (line ++ blanks) = readLine table n line := by
  by_cases hmem : ';' ∈ line
  · obtain ⟨code, comment, rfl, hcode⟩ := List.eq_append_cons_of_mem hmem
    have hsame := (SameCode.comments hcode (comment ++ blanks) comment).visible_eq
    rw [List.append_assoc, List.cons_append, readLine, readLine, hsame]
  · have hfront : '\n' ∉ line := fun h => hline (List.mem_append_left _ h)
    rw [readLine_eq table n hline, readLine_eq table n hfront,
      scan_append_blanks table _ hmem hblanks]

/-! ### Returns -/

theorem readLines_returned (table : OperationTable) (n : Nat) (text : List Char) :
    readLines table n ((returned text).splitOn '\n') = readLines table n (text.splitOn '\n') := by
  induction text using lines_induction generalizing n with
  | single line hline => rw [returned_eq_self hline]
  | above line below hline ih =>
    have hreturn : '\n' ∉ line ++ ['\r'] := by simp [hline]
    rw [returned_above hline, List.splitOn_append_cons_self_of_not_mem hreturn,
      List.splitOn_append_cons_self_of_not_mem hline, readLines, readLines, ih,
      readLine_append_blanks table n hreturn (.singleton rfl)]

/-- **Carriage returns in front of line feeds change nothing**: a source has the same tokens
at the same spans or the same error with them, whatever returns it had before, and
compiles alike. -/
theorem returns_change_nothing :
    (∀ table source, tokenize table (withReturns source) = tokenize table source) ∧
      ∀ options source, compile options (withReturns source) = compile options source := by
  have htokens (table : OperationTable) (source : String) :
      tokenize table (withReturns source) = tokenize table source := by
    rw [tokenize_eq_readLines, tokenize_eq_readLines, withReturns, String.toList_ofList,
      readLines_returned]
  refine ⟨htokens, fun options source => ?_⟩
  rw [compile, compile, readUnder, readUnder, htokens]

end CircuitLang
