import CircuitLang.Proofs.Policies

/-! The two modes side by side.

Reading depends on the statements and on the error of the tail, and on nothing else
(`Program.parse_congr`). The statements of a list are those of its closed part, which has no
tail in either mode; so lenient reading is strict reading of the closed part. Strict
reading of a list with a tail fails with the error of the tail: alone under `abort`,
and under `collect` behind the errors of lenient reading. The main statement is
`Program.modes_agree`. -/
namespace CircuitLang

/-- The error of a tail behind a list: it would be one statement more. -/
def SyntaxError.ofTail (before : List Token) (first : Token) (rest : List Token) : SyntaxError :=
  .unterminated ((Segments.split before).statements.length + 1) (first :: rest).length first.span.line

namespace Segments

theorem split_statements_closedPart (tokens : List Token) :
    (split (closedPart tokens)).statements = (split tokens).statements := by
  rw [split_statements, split_statements, closedRuns_closedPart]

theorem tailError?_closedPart (mode : Mode) (tokens : List Token) :
    (split (closedPart tokens)).tailError? mode = none :=
  (tailError?_eq_none_iff mode _).mpr fun _ => terminated_closedPart tokens

theorem tailError?_lenient (tokens : List Token) :
    (split tokens).tailError? .lenient = none :=
  (tailError?_eq_none_iff .lenient tokens).mpr nofun

/-- A list longer than its closed part has a tail, and strict mode the error of it. -/
theorem exists_tail {tokens : List Token} (h : (closedPart tokens).length < tokens.length) :
    ∃ first rest, tokens = closedPart tokens ++ first :: rest ∧
      (split tokens).tailError? .strict = some (.ofTail (closedPart tokens) first rest) := by
  have happend := closedPart_append_tail tokens
  cases htail : (runs tokens).2 with
  | nil =>
    rw [htail, List.append_nil] at happend
    rw [happend] at h
    exact absurd h (Nat.lt_irrefl _)
  | cons first rest =>
    refine ⟨first, rest, (htail ▸ happend).symm, ?_⟩
    rw [tailError?_eq_some_iff]
    refine ⟨rfl, first, rest, htail, ?_⟩
    rw [SyntaxError.ofTail, split_statements_closedPart, split_statements, numbered,
      List.length_mapIdx, List.length_cons]

end Segments

namespace Program

/-- Reading depends on the statements and on the error of the tail. -/
theorem parse_congr {policy : Policy} {mode mode' : Mode} {tokens tokens' : List Token}
    (hstatements : (Segments.split tokens).statements = (Segments.split tokens').statements)
    (htail : (Segments.split tokens).tailError? mode = (Segments.split tokens').tailError? mode') :
    parse ⟨mode, policy⟩ tokens = parse ⟨mode', policy⟩ tokens' := by
  cases policy with
  | abort =>
    simp only [parse, parseFirst, segment, Segments.check, hstatements, htail]
  | collect =>
    simp only [parse, parseAll, errors, hstatements, htail]

theorem parse_lenient (policy : Policy) (mode : Mode) (tokens : List Token) :
    parse ⟨.lenient, policy⟩ tokens = parse ⟨mode, policy⟩ (closedPart tokens) := by
  apply parse_congr
  · rw [Segments.split_statements_closedPart]
  · rw [Segments.tailError?_closedPart, Segments.tailError?_lenient]

/-- The errors of strict reading are those of lenient reading and that of the tail. -/
theorem errors_strict (tokens : List Token) :
    errors .strict tokens =
      errors .lenient tokens ++ ((Segments.split tokens).tailError? .strict).toList := by
  rw [errors, errors, Segments.tailError?_lenient, Option.toList_none, List.append_nil]

/-- **Lenient reading is strict reading of the part that terminators close.** A list that is
closed altogether is read alike in both modes. Of any other list strict reading fails:
under `abort` with the error of its tail, whatever other errors there are, and under `collect`
with the errors of lenient reading and that error behind them. -/
theorem modes_agree (policy : Policy) (tokens : List Token) :
    parse ⟨.lenient, policy⟩ tokens = parse ⟨.lenient, policy⟩ (closedPart tokens) ∧
      parse ⟨.lenient, policy⟩ tokens = parse ⟨.strict, policy⟩ (closedPart tokens) ∧
      (closedPart tokens = tokens →
        parse ⟨.strict, policy⟩ tokens = parse ⟨.lenient, policy⟩ tokens) ∧
      ((closedPart tokens).length < tokens.length →
        ∃ first rest, tokens = closedPart tokens ++ first :: rest ∧
          parse ⟨.strict, .abort⟩ tokens =
            .error (.grammatical (.ofTail (closedPart tokens) first rest)) ∧
          parse ⟨.strict, .collect⟩ tokens =
            .error (.ofErrors (reportedErrors (parse ⟨.lenient, .collect⟩ tokens) ++
              [.ofTail (closedPart tokens) first rest]))) := by
  refine ⟨parse_lenient policy .lenient tokens, parse_lenient policy .strict tokens,
    fun hclosed => ?_, fun hshorter => ?_⟩
  · rw [parse_lenient policy .strict, hclosed]
  · obtain ⟨first, rest, htokens, htail⟩ := Segments.exists_tail hshorter
    have herrors : errors .strict tokens =
        errors .lenient tokens ++ [.ofTail (closedPart tokens) first rest] := by
      rw [errors_strict, htail, Option.toList_some]
    have hleading : leading? (errors .strict tokens) =
        some (.ofTail (closedPart tokens) first rest) := by
      rw [herrors]
      exact leading?_concat_of_unterminated _ rfl
    refine ⟨first, rest, htokens, ?_, ?_⟩
    · rw [parse, parseFirst_eq_error hleading]
      rfl
    · rw [parse_collect_eq_error_iff, reportedErrors_parse_collect, ← herrors]
      refine ⟨fun hnil => ?_, rfl⟩
      rw [hnil] at hleading
      cases hleading

/-- A statement without a root in front of an empty one, and a tail of two tokens. -/
theorem modes_agree_before_tail :
    let name : Token := ⟨.identifier "a", ⟨1, 1, 1⟩, "a"⟩
    let marker : Token := ⟨.definition, ⟨2, 2, 2⟩, ":"⟩
    let stop : Token := ⟨.terminator, ⟨1, 3, 3⟩, ";"⟩
    let closed := [name, stop, stop]
    let tokens := closed ++ [marker, name]
    closedPart tokens = closed ∧ closed.length < tokens.length ∧
      parse ⟨.lenient, .abort⟩ tokens = parse ⟨.strict, .abort⟩ closed ∧
      parse ⟨.strict, .abort⟩ tokens = .error (.grammatical (.unterminated 2 2 2)) ∧
        parse ⟨.strict, .collect⟩ tokens = .error (.several [.noRoot 1, .unterminated 2 2 2]) := by
  intro name marker stop closed tokens
  have hclosed : closedPart tokens = closed := by decide
  have hshorter : closed.length < tokens.length := by decide
  obtain ⟨-, hstrict, -, hfails⟩ := modes_agree .abort tokens
  rw [hclosed] at hstrict hfails
  obtain ⟨first, rest, htokens, habort, hcollect⟩ := hfails hshorter
  obtain ⟨rfl, rfl⟩ := List.cons.inj (List.append_cancel_left htokens)
  have hlenient : parse ⟨.lenient, .collect⟩ tokens = .error (.grammatical (.noRoot 1)) := by decide
  rw [hlenient] at hcollect
  exact ⟨hclosed, hshorter, hstrict, habort, hcollect⟩

end Program

end CircuitLang
