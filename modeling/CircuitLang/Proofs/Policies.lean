import CircuitLang.Proofs.Grammar

/-! The two policies side by side.

Both accept the same lists with the same programs. Where they fail, `collect` reports
the errors of the failing statements in order (`Faults`), and behind them the error of
the tail. `abort` looks at the tail first and at the statements after it, so it reports
the last of these errors if that is the tail's, and else the first (`leading?`). -/
namespace CircuitLang

/-! ### What is reported -/

/-- The syntax errors a failure reports, a single one as a list of one. -/
def Failure.reported : Failure → List SyntaxError
  | grammatical e => [e]
  | several es => es
  | _ => []

/-- The syntax errors of a result, none if there is a program. -/
def reportedErrors : Except Failure Program → List SyntaxError
  | .ok _ => []
  | .error failure => failure.reported

/-- The failure that reports syntax errors. -/
def Failure.ofErrors : List SyntaxError → Failure
  | [e] => grammatical e
  | es => several es

theorem Failure.reported_ofErrors (errors : List SyntaxError) :
    (ofErrors errors).reported = errors := by
  unfold ofErrors
  split <;> rfl

theorem Failure.ofErrors_eq_several_iff {errors : List SyntaxError} (h : errors ≠ []) :
    ofErrors errors = several errors ↔ 2 ≤ errors.length := by
  rcases errors with _ | ⟨e, _ | ⟨e', es⟩⟩
  · exact absurd rfl h
  · simp [ofErrors]
  · simp [ofErrors]

/-- Whether an error is that of a tail. -/
def SyntaxError.isUnterminated : SyntaxError → Bool
  | unterminated .. => true
  | _ => false

/-- The error that is reported alone: the last one if it is that of a tail, and else the
first. -/
def leading? (errors : List SyntaxError) : Option SyntaxError :=
  match errors.getLast? with
  | some last => if last.isUnterminated then some last else errors.head?
  | none => none

theorem leading?_concat_of_unterminated (errors : List SyntaxError) {last : SyntaxError}
    (h : last.isUnterminated = true) : leading? (errors ++ [last]) = some last := by
  simp [leading?, h]

theorem leading?_of_forall {errors : List SyntaxError}
    (h : ∀ e ∈ errors, e.isUnterminated = false) : leading? errors = errors.head? := by
  unfold leading?
  cases hlast : errors.getLast? with
  | none => rw [List.getLast?_eq_none_iff.mp hlast, List.head?_nil]
  | some last =>
    have hmem : last ∈ errors := List.mem_of_getLast? hlast
    simp [h last hmem]

theorem exists_leading? {errors : List SyntaxError} (h : errors ≠ []) :
    ∃ e, leading? errors = some e := by
  unfold leading?
  rw [List.getLast?_eq_some_getLast h, List.head?_eq_some_head h]
  dsimp only
  split
  · exact ⟨_, rfl⟩
  · exact ⟨_, rfl⟩

/-! ### Errors of statements -/

/-- The errors of statements in order: one for each statement that has no node. -/
inductive Faults : List Statement → List SyntaxError → Prop where
  | nil : Faults [] []
  | sound {s : Statement} {n : Node} {rest : List Statement} {errors : List SyntaxError}
      (hnode : s.node = .ok n) (hrest : Faults rest errors) : Faults (s :: rest) errors
  | faulty {s : Statement} {e : SyntaxError} {rest : List Statement} {errors : List SyntaxError}
      (hnode : s.node = .error e) (hrest : Faults rest errors) : Faults (s :: rest) (e :: errors)

namespace Statement

theorem root_error_isUnterminated {s : Statement} {e : SyntaxError} (h : s.root = .error e) :
    e.isUnterminated = false := by
  unfold Statement.root at h
  split at h <;> cases h <;> rfl

theorem definition_error_isUnterminated {s : Statement} {root : Root} {e : SyntaxError}
    (h : s.definition root = .error e) : e.isUnterminated = false := by
  unfold definition at h
  split at h
  · cases h
    rfl
  split at h
  · cases h
    rfl
  split at h
  · cases h
    rfl
  · cases h

theorem operation_error_isUnterminated {s : Statement} {root : Root} {op : Operation}
    {e : SyntaxError} (h : s.operation root op = .error e) : e.isUnterminated = false := by
  simp only [operation, operationTaking] at h
  split at h
  · cases h
    rfl
  split at h
  · cases h
    rfl
  split at h
  · cases h
    rfl
  · cases h

/-- No statement has the error of a tail. -/
theorem node_error_isUnterminated {s : Statement} {e : SyntaxError} (h : s.node = .error e) :
    e.isUnterminated = false := by
  unfold node at h
  cases hroot : s.root with
  | error e' =>
    rw [hroot] at h
    cases h
    exact root_error_isUnterminated hroot
  | ok root =>
    rw [hroot] at h
    have hbuild : s.build root = .error e := h
    unfold build at hbuild
    split at hbuild
    · exact definition_error_isUnterminated hbuild
    · exact operation_error_isUnterminated hbuild

theorem faults_filterMap (statements : List Statement) :
    Faults statements (statements.filterMap error?) := by
  induction statements with
  | nil => exact .nil
  | cons s rest ih =>
    cases hnode : s.node with
    | ok n =>
      have hnone : s.error? = none := by simp [error?, hnode]
      rw [List.filterMap_cons_none hnone]
      exact .sound hnode ih
    | error e =>
      have hsome : s.error? = some e := by simp [error?, hnode]
      rw [List.filterMap_cons_some hsome]
      exact .faulty hnode ih

end Statement

namespace Faults
variable {statements : List Statement} {errors : List SyntaxError}

theorem isUnterminated_eq_false (h : Faults statements errors) :
    ∀ e ∈ errors, e.isUnterminated = false := by
  induction h with
  | nil => simp
  | sound _ _ ih => exact ih
  | faulty hnode _ ih =>
    rw [List.forall_mem_cons]
    exact ⟨Statement.node_error_isUnterminated hnode, ih⟩

/-- Going through the statements ends at the first fault. -/
theorem mapM_node {e : SyntaxError} (h : Faults statements errors) (hfirst : errors.head? = some e) :
    statements.mapM Statement.node = .error e := by
  induction h with
  | nil => cases hfirst
  | sound hnode _ ih =>
    rw [List.mapM_cons, hnode]
    show (do let more ← List.mapM Statement.node _; _) = _
    rw [ih hfirst]
    rfl
  | faulty hnode _ _ =>
    cases hfirst
    rw [List.mapM_cons, hnode]
    rfl

end Faults

namespace Program

/-! ### Errors of a list -/

/-- The error of a tail comes behind all others. -/
theorem errors_eq_append (mode : Mode) (tokens : List Token) :
    ∃ faults, Faults (numbered (closedRuns tokens)) faults ∧
      errors mode tokens = faults ++ ((Segments.split tokens).tailError? mode).toList := by
  refine ⟨_, Statement.faults_filterMap _, ?_⟩
  rw [errors, Segments.split_statements]

/-- A list that has errors fails under `collect`, and all of them are reported. -/
theorem parse_collect_eq_error_iff {mode : Mode} {tokens : List Token} {failure : Failure} :
    parse ⟨mode, .collect⟩ tokens = .error failure ↔
      errors mode tokens ≠ [] ∧ failure = .ofErrors (errors mode tokens) := by
  show parseAll mode tokens = _ ↔ _
  unfold parseAll
  rcases errors mode tokens with _ | ⟨e, _ | ⟨e', es⟩⟩ <;>
    simp [ofNodes, Failure.ofErrors, eq_comm]

theorem reportedErrors_parse_collect (mode : Mode) (tokens : List Token) :
    reportedErrors (parse ⟨mode, .collect⟩ tokens) = errors mode tokens := by
  show reportedErrors (parseAll mode tokens) = _
  unfold parseAll
  rcases errors mode tokens with _ | ⟨e, _ | ⟨e', es⟩⟩ <;> rfl

theorem exists_program_of_errors {mode : Mode} {tokens : List Token}
    (h : errors mode tokens = []) : ∃ p, parse ⟨mode, .collect⟩ tokens = .ok p := by
  cases hparse : parse ⟨mode, .collect⟩ tokens with
  | ok p => exact ⟨p, rfl⟩
  | error failure => exact absurd h (parse_collect_eq_error_iff.mp hparse).1

/-- Under `abort` the leading error is reported. -/
theorem parseFirst_eq_error {mode : Mode} {tokens : List Token} {e : SyntaxError}
    (h : leading? (errors mode tokens) = some e) : parseFirst mode tokens = .error e := by
  obtain ⟨faults, hfaults, herrors⟩ := errors_eq_append mode tokens
  rw [herrors] at h
  cases htail : (Segments.split tokens).tailError? mode with
  | some last =>
    have hlast : last.isUnterminated = true := by
      obtain ⟨-, first, rest, -, rfl⟩ := Segments.tailError?_eq_some_iff.mp htail
      rfl
    rw [htail, Option.toList_some, leading?_concat_of_unterminated _ hlast] at h
    cases h
    simp [parseFirst, segment, Segments.check, htail, bind, Except.bind]
  | none =>
    rw [htail, Option.toList_none, List.append_nil,
      leading?_of_forall hfaults.isUnterminated_eq_false] at h
    have hnodes := hfaults.mapM_node h
    rw [← Segments.split_statements] at hnodes
    simp [parseFirst, segment, Segments.check, htail, hnodes, bind, Except.bind, pure, Except.pure]

/-- The tail has an error exactly when the mode is strict and the last token is no
terminator. -/
theorem tailError?_toList (mode : Mode) (tokens : List Token) :
    if mode = .strict ∧ ¬ Terminated tokens then
      ∃ index line, ((Segments.split tokens).tailError? mode).toList =
        [.unterminated ((closedRuns tokens).length + 1) index line]
    else ((Segments.split tokens).tailError? mode).toList = [] := by
  have hnone := Segments.tailError?_eq_none_iff mode tokens
  split
  · rename_i hopen
    cases htail : (Segments.split tokens).tailError? mode with
    | none => exact absurd (hnone.mp htail hopen.1) hopen.2
    | some e =>
      obtain ⟨-, first, rest, -, rfl⟩ := Segments.tailError?_eq_some_iff.mp htail
      exact ⟨_, _, rfl⟩
  · rename_i hclosed
    rw [hnone.mpr fun hmode => not_not.mp fun h => hclosed ⟨hmode, h⟩, Option.toList_none]

/-- **The policies agree**: they accept the same lists with the same programs. Where they
fail, `collect` reports the errors of all failing statements in order, and behind them
that of the tail if the mode is strict and the last token is no terminator. It reports
several errors only if there are at least two, and `abort` reports the leading one. -/
theorem policies_agree (mode : Mode) (tokens : List Token) :
    (∀ p, parse ⟨mode, .abort⟩ tokens = .ok p ↔ parse ⟨mode, .collect⟩ tokens = .ok p) ∧
      ∀ failure, parse ⟨mode, .collect⟩ tokens = .error failure →
        (∃ faults tail, Faults (numbered (closedRuns tokens)) faults ∧
            failure.reported = faults ++ tail ∧
            if mode = .strict ∧ ¬ Terminated tokens then
              ∃ index line, tail = [.unterminated ((closedRuns tokens).length + 1) index line]
            else tail = []) ∧
          (failure = .several failure.reported ↔ 2 ≤ failure.reported.length) ∧
          ∃ e, leading? failure.reported = some e ∧
            parse ⟨mode, .abort⟩ tokens = .error (.grammatical e) := by
  refine ⟨fun p => parse_eq_ok_iff_of_policy .collect, fun failure hfailure => ?_⟩
  obtain ⟨hne, rfl⟩ := parse_collect_eq_error_iff.mp hfailure
  rw [Failure.reported_ofErrors]
  refine ⟨?_, Failure.ofErrors_eq_several_iff hne, ?_⟩
  · obtain ⟨faults, hfaults, herrors⟩ := errors_eq_append mode tokens
    exact ⟨faults, _, hfaults, herrors, tailError?_toList mode tokens⟩
  · obtain ⟨e, he⟩ := exists_leading? hne
    exact ⟨e, he, by rw [parse, parseFirst_eq_error he]; rfl⟩

/-- A statement without a root between two that have a node, an unnamed definition, and a
tail. -/
theorem policies_agree_before_tail :
    let name : Token := ⟨.identifier "a", ⟨1, 1, 1⟩, "a"⟩
    let marker : Token := ⟨.definition, ⟨1, 2, 2⟩, ":"⟩
    let stop : Token := ⟨.terminator, ⟨1, 3, 3⟩, ";"⟩
    let tokens := [name, marker, stop, name, stop, stop, name, marker, name, stop, marker, stop, name]
    let failure : Failure :=
      .several [.noRoot 2, .unnamedDefinition 4 1, .unterminated 5 1 1]
    parse ⟨.strict, .collect⟩ tokens = .error failure ∧
      ∃ e, leading? failure.reported = some e ∧
        parse ⟨.strict, .abort⟩ tokens = .error (.grammatical e) := by
  intro name marker stop tokens failure
  have hfailure : parse ⟨.strict, .collect⟩ tokens = .error failure := by decide
  exact ⟨hfailure, ((policies_agree .strict tokens).2 failure hfailure).2.2⟩

end Program

end CircuitLang
