import CircuitLang.Proofs.Joining
import CircuitLang.Proofs.Reformatting

/-! Reading is blind to spans.

Two token lists of the same kinds and lexemes are the same list once the spans are left out,
and leaving them out commutes with reading: a program loses its spans, and an error at most
the line that it tells of a tail (`Program.errors_move`). So both lists come to programs
that are the same but for the spans, or both fail alike. Only the error of a tail looks at a
span at all. The main statement is `Program.parse_blind_to_spans`. -/
namespace CircuitLang

/-! ### The same but for the spans -/

/-- Tokens of one kind and one lexeme, wherever they stand. -/
structure Token.Alike (t t' : Token) : Prop where
  kind : t'.kind = t.kind
  lexeme : t'.lexeme = t.lexeme

/-- Nodes of one form whose tokens are alike, each at its place in the node. -/
structure Node.Alike (n n' : Node) : Prop where
  production : n'.production = n.production
  root : n.root.Alike n'.root
  target : Option.Rel Token.Alike n.target? n'.target?
  arguments : List.Forall₂ Token.Alike n.arguments n'.arguments
  value : List.Forall₂ Token.Alike n.value n'.value

/-- The error without the line that it tells of a tail. -/
def SyntaxError.lineless : SyntaxError → SyntaxError
  | unterminated s i _ => unterminated s i 0
  | e => e

/-- The failure with none of its errors telling the line of a tail. -/
def Failure.lineless : Failure → Failure
  | grammatical e => grammatical e.lineless
  | several es => several (es.map SyntaxError.lineless)
  | failure => failure

namespace Token

theorem alike_iff_bare {t t' : Token} : t.Alike t' ↔ t.bare = t'.bare := by
  constructor
  · intro h
    obtain ⟨hkind, hlexeme⟩ := h
    simp [bare, move, hkind, hlexeme]
  · intro h
    obtain ⟨hkind, -, hlexeme⟩ := Token.mk.inj h
    exact ⟨hkind.symm, hlexeme.symm⟩

theorem forall₂_alike_iff_bare {tokens tokens' : List Token} :
    List.Forall₂ Alike tokens tokens' ↔ tokens.map bare = tokens'.map bare := by
  rw [← List.forall₂_eq_eq_eq, List.forall₂_map_left_iff, List.forall₂_map_right_iff]
  exact ⟨fun h => h.imp fun _ _ => alike_iff_bare.mp, fun h => h.imp fun _ _ => alike_iff_bare.mpr⟩

theorem rel_alike_of_bare {t? t'? : Option Token} (h : t?.map bare = t'?.map bare) :
    Option.Rel Alike t? t'? := by
  cases t? <;> cases t'?
  · exact .none
  · cases h
  · cases h
  · exact .some (alike_iff_bare.mpr (Option.some.inj h))

end Token

namespace Node

theorem render_move (g : Span → Span) (n : Node) : (n.move g).render = n.render := by
  cases n with
  | definition name marker value =>
    rw [move, render, render, ← List.map_cons, List.map_map]
    rfl
  | operation op keyword arguments =>
    rw [move, render, render, List.map_map]
    rfl

/-- The node without its spans. -/
def bare : Node → Node :=
  move fun _ => ⟨0, 0, 0⟩

theorem alike_of_bare {n n' : Node} (h : n.bare = n'.bare) : n.Alike n' where
  production := by
    have hproduction := congrArg production h
    rw [bare, production_move, production_move] at hproduction
    exact hproduction.symm
  root := by
    have hroot := congrArg root h
    rw [bare, root_move, root_move] at hroot
    exact Token.alike_iff_bare.mpr hroot
  target := by
    have htarget := congrArg target? h
    rw [bare, target?_move, target?_move] at htarget
    exact Token.rel_alike_of_bare htarget
  arguments := by
    have harguments := congrArg arguments h
    rw [bare, arguments_move, arguments_move] at harguments
    exact Token.forall₂_alike_iff_bare.mpr harguments
  value := by
    have hvalue := congrArg value h
    rw [bare, value_move, value_move] at hvalue
    exact Token.forall₂_alike_iff_bare.mpr hvalue

end Node

namespace Program

theorem map_render_move (g : Span → Span) (p : Program) :
    (p.move g).nodes.map Node.render = p.nodes.map Node.render := by
  rw [move, List.map_map]
  apply List.map_congr_left
  intro n _
  rw [Function.comp_apply, Node.render_move]

theorem alike_of_bare {p p' : Program} (h : p.bare = p'.bare) :
    List.Forall₂ Node.Alike p.nodes p'.nodes ∧
      p'.nodes.map Node.render = p.nodes.map Node.render := by
  constructor
  · have hnodes : p.nodes.map Node.bare = p'.nodes.map Node.bare := congrArg Program.nodes h
    rw [← List.forall₂_eq_eq_eq, List.forall₂_map_left_iff, List.forall₂_map_right_iff] at hnodes
    exact hnodes.imp fun n n' => Node.alike_of_bare
  · calc p'.nodes.map Node.render = p'.bare.nodes.map Node.render := (p'.map_render_move _).symm
      _ = p.bare.nodes.map Node.render := by rw [h]
      _ = p.nodes.map Node.render := p.map_render_move _

theorem render_congr {p p' : Program}
    (h : p'.nodes.map Node.render = p.nodes.map Node.render) : p'.render = p.render := by
  have hlines (q : Program) :
      q.render = String.join ((q.nodes.map Node.render).map fun text => text ++ "\n") := by
    rw [render, List.map_map]
    rfl
  rw [hlines, hlines, h]

end Program

/-! ### Errors without lines -/

namespace SyntaxError

theorem raise_zero (e : SyntaxError) : e.raise 0 0 = e := by
  cases e <;> simp [raise]

theorem isUnterminated_lineless (e : SyntaxError) : e.lineless.isUnterminated = e.isUnterminated := by
  cases e <;> rfl

end SyntaxError

/-- The line of a tail does not decide which error leads. -/
theorem leading?_map_lineless (errors : List SyntaxError) :
    leading? (errors.map SyntaxError.lineless) = (leading? errors).map SyntaxError.lineless := by
  unfold leading?
  rw [List.getLast?_map, List.head?_map]
  cases errors.getLast? with
  | none => rfl
  | some last =>
    simp only [Option.map_some, SyntaxError.isUnterminated_lineless]
    cases last.isUnterminated <;> rfl

theorem Failure.ofErrors_lineless (errors : List SyntaxError) :
    (ofErrors errors).lineless = ofErrors (errors.map SyntaxError.lineless) := by
  rcases errors with _ | ⟨e, _ | ⟨e', es⟩⟩ <;> rfl

/-! ### Reading without spans -/

theorem Segments.tailError?_move (g : Span → Span) (mode : Mode) (tokens : List Token) :
    ((split (tokens.map (Token.move g))).tailError? mode).map SyntaxError.lineless =
      ((split tokens).tailError? mode).map SyntaxError.lineless := by
  unfold tailError?
  rw [tailOrdinal_split, tailOrdinal_split, split_tail, split_tail, runs_move, closedRuns_move,
    List.length_map]
  cases mode with
  | lenient => rfl
  | strict =>
    cases (runs tokens).2 with
    | nil => rfl
    | cons first rest => simp [SyntaxError.lineless]

namespace Program

/-- **Moved tokens have the same errors, but for the line of a tail.** -/
theorem errors_move (g : Span → Span) (mode : Mode) (tokens : List Token) :
    (errors mode (tokens.map (Token.move g))).map SyntaxError.lineless =
      (errors mode tokens).map SyntaxError.lineless := by
  have hstatements : (Segments.split (tokens.map (Token.move g))).statements =
      (Segments.split tokens).statements.map (Statement.move g 0) := by
    rw [Segments.split_statements, Segments.split_statements, closedRuns_move]
    exact numbered_append_move g [] (closedRuns tokens)
  have herror : Statement.error? ∘ Statement.move g 0 = Statement.error? := by
    funext s
    show (s.move g 0).error? = s.error?
    rw [Statement.error?_move g 0 0]
    cases s.error? with
    | none => rfl
    | some e => rw [Option.map_some, SyntaxError.raise_zero]
  rw [errors, errors, hstatements, List.filterMap_map, herror, List.map_append, List.map_append,
    ← Option.toList_map, ← Option.toList_map, Segments.tailError?_move]

/-- A list that has errors fails under either policy with what they come to. -/
theorem exists_failure_of_errors {mode : Mode} {tokens : List Token}
    (h : errors mode tokens ≠ []) :
    (∃ e, leading? (errors mode tokens) = some e ∧
        parse ⟨mode, .abort⟩ tokens = .error (.grammatical e)) ∧
      parse ⟨mode, .collect⟩ tokens = .error (.ofErrors (errors mode tokens)) := by
  obtain ⟨e, he⟩ := exists_leading? h
  refine ⟨⟨e, he, ?_⟩, parse_collect_eq_error_iff.mpr ⟨h, rfl⟩⟩
  rw [parse, parseFirst_eq_error he]
  rfl

/-- Lists whose errors are the same but for lines fail alike. -/
theorem failures_alike {mode : Mode} {tokens tokens' : List Token}
    (h : (errors mode tokens).map SyntaxError.lineless =
      (errors mode tokens').map SyntaxError.lineless)
    (hne : errors mode tokens ≠ []) (policy : Policy) :
    ∃ failure failure', parse ⟨mode, policy⟩ tokens = .error failure ∧
      parse ⟨mode, policy⟩ tokens' = .error failure' ∧ failure'.lineless = failure.lineless := by
  have hne' : errors mode tokens' ≠ [] := by
    intro hnil
    rw [hnil, List.map_nil, List.map_eq_nil_iff] at h
    exact hne h
  obtain ⟨⟨e, he, habort⟩, hcollect⟩ := exists_failure_of_errors hne
  obtain ⟨⟨e', he', habort'⟩, hcollect'⟩ := exists_failure_of_errors hne'
  cases policy with
  | abort =>
    refine ⟨_, _, habort, habort', ?_⟩
    have hsame : some e'.lineless = some e.lineless := by
      rw [← Option.map_some, ← Option.map_some, ← he, ← he', ← leading?_map_lineless,
        ← leading?_map_lineless, h]
    exact congrArg Failure.grammatical (Option.some.inj hsame)
  | collect =>
    refine ⟨_, _, hcollect, hcollect', ?_⟩
    rw [Failure.ofErrors_lineless, Failure.ofErrors_lineless, h]

/-- **Reading is blind to spans.** Token lists of the same kinds and lexemes come to programs
whose nodes are alike one by one, and which are listed alike; or both fail, with the same
error or the same errors in the same order, but for the line that is told of a tail. -/
theorem parse_blind_to_spans {tokens tokens' : List Token}
    (h : List.Forall₂ Token.Alike tokens tokens') (options : Options) :
    (∃ p p', parse options tokens = .ok p ∧ parse options tokens' = .ok p' ∧
        List.Forall₂ Node.Alike p.nodes p'.nodes ∧
          p'.nodes.map Node.render = p.nodes.map Node.render ∧ p'.render = p.render) ∨
      ∃ failure failure', parse options tokens = .error failure ∧
        parse options tokens' = .error failure' ∧ failure'.lineless = failure.lineless := by
  obtain ⟨mode, policy⟩ := options
  rw [Token.forall₂_alike_iff_bare] at h
  have herrors : (errors mode tokens).map SyntaxError.lineless =
      (errors mode tokens').map SyntaxError.lineless := by
    rw [← errors_move (fun _ => ⟨0, 0, 0⟩), ← errors_move (fun _ => ⟨0, 0, 0⟩) mode tokens']
    exact congrArg (fun bare => (errors mode bare).map SyntaxError.lineless) h
  by_cases hne : errors mode tokens = []
  · obtain ⟨p, hcollect⟩ := exists_program_of_errors hne
    have hp : parse ⟨mode, policy⟩ tokens = .ok p := (parse_eq_ok_iff_of_policy .collect).mpr hcollect
    have hbare : parse ⟨mode, policy⟩ (tokens'.map Token.bare) = .ok p.bare := by
      rw [← h]
      exact (parse_move_eq_ok_iff _).mpr ⟨p, hp, rfl⟩
    obtain ⟨p', hp', hsame⟩ := (parse_move_eq_ok_iff _).mp hbare
    obtain ⟨hnodes, hrender⟩ := alike_of_bare hsame.symm
    exact .inl ⟨p, p', hp, hp', hnodes, hrender, render_congr hrender⟩
  · exact .inr (failures_alike herrors hne policy)

/-- A keyword with the lexeme of a name and a terminator with that of a marker, at spans of
their own, in front of a tail. -/
theorem blind_to_spans_before_tail :
    let gate : Operation := ⟨"AND", 1, 0, true⟩
    let tokens : List Token := [⟨.keyword gate, ⟨1, 1, 3⟩, "x"⟩, ⟨.literal true, ⟨1, 5, 5⟩, "1"⟩,
      ⟨.literal true, ⟨1, 6, 6⟩, "1"⟩, ⟨.terminator, ⟨1, 7, 7⟩, ":"⟩, ⟨.definition, ⟨2, 1, 1⟩, ":"⟩]
    let tokens' : List Token := [⟨.keyword gate, ⟨9, 4, 4⟩, "x"⟩, ⟨.literal true, ⟨9, 4, 4⟩, "1"⟩,
      ⟨.literal true, ⟨0, 0, 0⟩, "1"⟩, ⟨.terminator, ⟨3, 2, 1⟩, ":"⟩, ⟨.definition, ⟨5, 1, 1⟩, ":"⟩]
    let failure (line : UInt32) : Failure :=
      .several [.arityMismatch 1 1 "AND" 1 2, .unterminated 2 1 line]
    List.Forall₂ Token.Alike tokens tokens' ∧
      parse ⟨.strict, .collect⟩ tokens = .error (failure 2) ∧
        parse ⟨.strict, .collect⟩ tokens' = .error (failure 5) ∧
          (failure 5).lineless = (failure 2).lineless := by
  intro gate tokens tokens' failure
  have halike : List.Forall₂ Token.Alike tokens tokens' :=
    Token.forall₂_alike_iff_bare.mpr (by decide)
  have hfailure : parse ⟨.strict, .collect⟩ tokens = .error (failure 2) := by decide
  have hfailure' : parse ⟨.strict, .collect⟩ tokens' = .error (failure 5) := by decide
  rcases parse_blind_to_spans halike ⟨.strict, .collect⟩ with
    ⟨p, _, hp, -⟩ | ⟨e, e', he, he', hsame⟩
  · rw [hfailure] at hp
    cases hp
  · rw [hfailure] at he
    rw [hfailure'] at he'
    cases he
    cases he'
    exact ⟨halike, hfailure, hfailure', hsame⟩

end Program

end CircuitLang
