import CircuitLang.Proofs.Policies
import CircuitLang.Proofs.Restart

/-! Circuit descriptions one below the other.

Behind tokens that end with a terminator the statements of more tokens come as they are,
with higher numbers, and so do their nodes and errors (`Program.parse_append`,
`Program.errors_append_move`). A line feed behind a text ends whatever the text ends
with, so two texts with a line feed between them are read one after the other. The main
statement is `compile_joined`. -/
namespace CircuitLang

/-! ### Token lists -/

theorem numbered_append_move (g : Span → Span) (above below : List (List Token)) :
    numbered (above ++ below.map (List.map (Token.move g))) =
      numbered above ++ (numbered below).map (Statement.move g above.length) := by
  rw [numbered, numbered, numbered, List.mapIdx_append]
  congr 1
  apply List.ext_getElem
  · simp
  · intro i hi hi'
    simp only [List.getElem_mapIdx, List.getElem_map, Statement.move, Statement.mk.injEq, and_true]
    omega

namespace Segments

/-- The tail of moved tokens behind a closed list has their error, moved as well. -/
theorem tailError?_append_move {g : Span → Span} {lines : UInt32}
    (hlines : ∀ s, (g s).line = s.line + lines) (mode : Mode) {above : List Token}
    (habove : Terminated above) (below : List Token) :
    (split (above ++ below.map (Token.move g))).tailError? mode =
      ((split below).tailError? mode).map (SyntaxError.raise (closedRuns above).length lines) := by
  unfold tailError?
  rw [tailOrdinal_split, tailOrdinal_split, split_tail, split_tail, runs_append_of_terminated habove, runs_move,
    closedRuns_append habove, closedRuns_move, List.length_append, List.length_map]
  cases mode with
  | lenient => rfl
  | strict =>
    cases (runs below).2 with
    | nil => rfl
    | cons first rest =>
      simp only [List.map_cons, List.length_cons, List.length_map, Option.map_some,
        SyntaxError.raise, Token.move, hlines]
      congr 2
      omega

end Segments

namespace Program

theorem parse_append {options : Options} {above below : List Token} {p q : Program}
    (habove : Terminated above) (hp : parse options above = .ok p)
    (hq : parse options below = .ok q) :
    parse options (above ++ below) = .ok ⟨p.nodes ++ q.nodes⟩ := by
  obtain ⟨-, hnodes⟩ := parse_eq_ok_iff.mp hp
  obtain ⟨hmode, hnodes'⟩ := parse_eq_ok_iff.mp hq
  rw [parse_eq_ok_iff, closedRuns_append habove]
  exact ⟨fun hstrict => habove.append (hmode hstrict), List.rel_append hnodes hnodes'⟩

/-- Errors of token lists come one behind the other, the numbers of the second list
raised. -/
theorem errors_append_move {g : Span → Span} {lines : UInt32}
    (hlines : ∀ s, (g s).line = s.line + lines) (mode : Mode) {above : List Token}
    (habove : Terminated above) (below : List Token) :
    errors mode (above ++ below.map (Token.move g)) =
      errors mode above ++
        (errors mode below).map (SyntaxError.raise (closedRuns above).length lines) := by
  have hnone : (Segments.split above).tailError? mode = none :=
    (Segments.tailError?_eq_none_iff mode above).mpr fun _ => habove
  have hstatements : (Segments.split (above ++ below.map (Token.move g))).statements =
      (Segments.split above).statements ++
        (Segments.split below).statements.map (Statement.move g (closedRuns above).length) := by
    rw [Segments.split_statements, Segments.split_statements, Segments.split_statements,
      closedRuns_append habove, closedRuns_move, numbered_append_move]
  rw [errors, errors, errors, hstatements, hnone, Segments.tailError?_append_move hlines mode habove,
    List.filterMap_append, List.filterMap_map, Option.toList_none, List.append_nil, List.map_append,
    List.map_filterMap, List.append_assoc, Option.toList_map]
  congr 2
  apply List.filterMap_congr
  intro s _
  exact Statement.error?_move g _ lines s

end Program

/-! ### Texts -/

/-- The span with a number of lines more above it. -/
def Span.lower (lines : UInt32) (s : Span) : Span :=
  { s with line := s.line + lines }

/-- Behind a line feed a span only goes down. -/
theorem Span.behind_newline (text : List Char) :
    Span.behind (text ++ ['\n']) = Span.lower (.ofNat (1 + text.count '\n')) := by
  funext s
  rw [Span.behind, lastLine_concat_newline, List.count_append, List.count_singleton_self,
    Nat.add_comm]
  simp [Span.lower]

namespace Boundary

theorem before_newline (above below : List Char) : Boundary above ('\n' :: below) := by
  constructor
  · intro _ c hc
    cases hc
    decide
  · intro _ c hc
    cases hc
    rfl

theorem after_newline (above below : List Char) : Boundary (above ++ ['\n']) below := by
  constructor
  · intro h
    obtain ⟨before, name, htext, hname⟩ := h
    have hne : name ≠ [] := by
      obtain ⟨c, more, rfl, -⟩ := hname.letters
      simp
    have hlast : name.getLast? = some '\n' := by
      rw [← List.getLast?_append_of_ne_nil before hne, ← htext, List.getLast?_concat]
    exact absurd (hname.mem (List.mem_of_getLast? hlast)) (by decide)
  · intro h
    rw [endsInComment_iff, lastLine_concat_newline] at h
    exact absurd h List.not_mem_nil

end Boundary

theorem tokenize_newline (table : OperationTable) : tokenize table "\n" = .ok [] := by
  rw [tokenize_eq_ok_iff]
  exact Lexer.scan_of_finished rfl

/-- The tokens of two texts with a line feed between them. -/
theorem tokenize_joined {table : OperationTable} {above below : String} {ts us : List Token}
    (hshort : above.length + below.length < 2 ^ 32 - 2) (hts : tokenize table above = .ok ts)
    (hus : tokenize table below = .ok us) :
    tokenize table (above ++ "\n" ++ below) =
      .ok (ts ++ us.map (Token.move (Span.lower (.ofNat (1 + above.toList.count '\n'))))) := by
  have hclosed : tokenize table (above ++ "\n") = .ok ts := by
    have hline : above.length + "\n".length < 2 ^ 32 - 1 := by
      rw [show "\n".length = 1 from rfl]
      omega
    obtain ⟨happend, -⟩ := tokenize_append_of_boundary hline hts (.before_newline _ [])
    rw [happend [] (tokenize_newline table), List.map_nil, List.append_nil]
  have hlength : (above ++ "\n").length + below.length < 2 ^ 32 - 1 := by
    rw [String.length_append, show "\n".length = 1 from rfl]
    omega
  have hlines : (above ++ "\n").toList = above.toList ++ ['\n'] := String.toList_append
  have hboundary : Boundary (above ++ "\n").toList below.toList := by
    rw [hlines]
    exact .after_newline _ _
  obtain ⟨happend, -⟩ := tokenize_append_of_boundary hlength hclosed hboundary
  rw [happend us hus, hlines, Span.behind_newline]

/-! ### Programs -/

/-- **Two descriptions with a line feed between them are compiled separately**, when the
first ends with a terminator. If both have programs, the nodes of the second come behind
those of the first, further down. If not, the errors of the second come behind those of
the first, with higher numbers and further down. -/
theorem compile_joined (mode : Mode) {above below : String} {ts us : List Token}
    (hshort : above.length + below.length < 2 ^ 32 - 2)
    (hts : tokenize .standard above = .ok ts) (hus : tokenize .standard below = .ok us)
    (hclosed : Terminated ts) :
    let lines : UInt32 := .ofNat (1 + above.toList.count '\n')
    let compiled := compile ⟨mode, .collect⟩
    (∀ p q, compiled above = .ok p → compiled below = .ok q →
        compiled (above ++ "\n" ++ below) =
          .ok ⟨p.nodes ++ (q.move (Span.lower lines)).nodes⟩) ∧
      (¬ (∃ p q, compiled above = .ok p ∧ compiled below = .ok q) →
        ∃ failure, compiled (above ++ "\n" ++ below) = .error failure ∧
          failure.reported = reportedErrors (compiled above) ++
            (reportedErrors (compiled below)).map
              (SyntaxError.raise (closedRuns ts).length lines)) := by
  intro lines compiled
  have habove : compiled above = Program.parse ⟨mode, .collect⟩ ts := compile_of_tokenize hts
  have hbelow : compiled below = Program.parse ⟨mode, .collect⟩ us := compile_of_tokenize hus
  have hjoined : compiled (above ++ "\n" ++ below) =
      Program.parse ⟨mode, .collect⟩ (ts ++ us.map (Token.move (Span.lower lines))) :=
    compile_of_tokenize (tokenize_joined hshort hts hus)
  rw [habove, hbelow, hjoined]
  constructor
  · intro p q hp hq
    exact Program.parse_append hclosed hp ((Program.parse_move_eq_ok_iff _).mpr ⟨q, hq, rfl⟩)
  · intro hfail
    have herrors : Program.errors mode (ts ++ us.map (Token.move (Span.lower lines))) =
        Program.errors mode ts ++ (Program.errors mode us).map
          (SyntaxError.raise (closedRuns ts).length lines) :=
      Program.errors_append_move (fun _ => rfl) mode hclosed us
    have hne : Program.errors mode (ts ++ us.map (Token.move (Span.lower lines))) ≠ [] := by
      intro hnil
      rw [herrors] at hnil
      obtain ⟨hnone, hnone'⟩ := List.append_eq_nil_iff.mp hnil
      obtain ⟨p, hp⟩ := Program.exists_program_of_errors hnone
      obtain ⟨q, hq⟩ := Program.exists_program_of_errors (List.map_eq_nil_iff.mp hnone')
      exact hfail ⟨p, q, hp, hq⟩
    rw [Program.reportedErrors_parse_collect, Program.reportedErrors_parse_collect, ← herrors]
    exact ⟨_, Program.parse_collect_eq_error_iff.mpr ⟨hne, rfl⟩, Failure.reported_ofErrors _⟩

/-- A definition and a statement without a root, with a comment left open, above an unnamed
definition and a tail. -/
theorem compile_joined_behind_comment :
    let above := "a : 1;\nb b; c"
    let below := ": 0;\na"
    let ts : List Token := [⟨.identifier "a", ⟨1, 1, 1⟩, "a"⟩, ⟨.definition, ⟨1, 3, 3⟩, ":"⟩,
      ⟨.literal true, ⟨1, 5, 5⟩, "1"⟩, ⟨.terminator, ⟨1, 6, 6⟩, ";"⟩, ⟨.identifier "b", ⟨2, 1, 1⟩, "b"⟩,
      ⟨.identifier "b", ⟨2, 3, 3⟩, "b"⟩, ⟨.terminator, ⟨2, 4, 4⟩, ";"⟩]
    let us : List Token := [⟨.definition, ⟨1, 1, 1⟩, ":"⟩, ⟨.literal false, ⟨1, 3, 3⟩, "0"⟩,
      ⟨.terminator, ⟨1, 4, 4⟩, ";"⟩, ⟨.identifier "a", ⟨2, 1, 1⟩, "a"⟩]
    above.length + below.length < 2 ^ 32 - 2 ∧ tokenize .standard above = .ok ts ∧
      tokenize .standard below = .ok us ∧ Terminated ts ∧
        ∃ failure, compile ⟨.strict, .collect⟩ (above ++ "\n" ++ below) = .error failure ∧
          failure.reported = [.noRoot 2, .unnamedDefinition 3 1, .unterminated 4 1 4] := by
  intro above below ts us
  have hshort : above.length + below.length < 2 ^ 32 - 2 := by decide
  have hts : tokenize .standard above = .ok ts := by decide +kernel
  have hus : tokenize .standard below = .ok us := by decide +kernel
  have hclosed : Terminated ts := by decide
  have habove : compile ⟨.strict, .collect⟩ above = .error (.grammatical (.noRoot 2)) := by
    rw [compile_of_tokenize hts]
    decide
  have hbelow : compile ⟨.strict, .collect⟩ below =
      .error (.several [.unnamedDefinition 1 1, .unterminated 2 1 2]) := by
    rw [compile_of_tokenize hus]
    decide
  obtain ⟨failure, hfailure, hreported⟩ := (compile_joined .strict hshort hts hus hclosed).2
    fun ⟨p, _, hp, _⟩ => nomatch habove.symm.trans hp
  rw [habove, hbelow] at hreported
  exact ⟨hshort, hts, hus, hclosed, failure, hfailure, hreported.trans (by decide)⟩

end CircuitLang
