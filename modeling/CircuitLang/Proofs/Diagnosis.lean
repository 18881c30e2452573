import CircuitLang.Proofs.Policies

/-! What syntax errors point at.

An error names a statement and, unless the statement has no root at all, one of its tokens.
`Culprit` says for each error what is wrong with that token, given the tokens before it and
those behind it, and `Statement.node_eq_error` that a statement has no other errors. Errors
are reported in the order of their statements, each statement has one at most, and the
tail comes last (`Program.errors_ascending`). The main statement is
`compile_errors_located`. -/
namespace CircuitLang

/-! ### Errors and their culprits -/

namespace SyntaxError

/-- The number of the statement an error is about. -/
def ordinal : SyntaxError → Nat
  | noRoot s => s
  | multipleRoots s _ => s
  | unnamedDefinition s _ => s
  | arityMismatch s .. => s
  | unfitArgument s .. => s
  | strayToken s _ => s
  | unterminated s .. => s

/-- The place of the token an error points at, counted from one. -/
def index? : SyntaxError → Option Nat
  | noRoot _ => none
  | multipleRoots _ i => some i
  | unnamedDefinition _ i => some i
  | arityMismatch _ i .. => some i
  | unfitArgument _ i .. => some i
  | strayToken _ i => some i
  | unterminated _ i _ => some i

end SyntaxError

/-- The token governs a statement. -/
def Token.Governs (t : Token) : Prop :=
  ∃ p, t.production? = some p

/-- What is wrong with a token of statement number `n`, between the tokens before it and the
tokens behind it. The error has the place of that token. -/
inductive Culprit (n : Nat) : List Token → Token → List Token → SyntaxError → Prop where
  /-- It is the second token that governs. -/
  | secondRoot {before between after : List Token} {first t : Token} (hbefore : Rootless before)
      (hfirst : first.Governs) (hbetween : Rootless between) (ht : t.Governs) :
      Culprit n (before ++ first :: between) t after
        (.multipleRoots n ((before ++ first :: between).length + 1))
  /-- It is the only definition marker, and no identifier stands right before it. -/
  | unnamed {before after : List Token} {t : Token} (ht : t.kind = .definition)
      (hbefore : Rootless before) (hafter : Rootless after)
      (hname : ∀ last ∈ before.getLast?, last.isIdentifier = false) :
      Culprit n before t after (.unnamedDefinition n (before.length + 1))
  /-- It is a keyword with too few or too many tokens behind it. -/
  | wrongCount {op : Operation} {arguments : List Token} {t : Token} (ht : t.kind = .keyword op)
      (hgoverns : op.governs = true) (hrootless : Rootless arguments)
      (hcount : arguments.length ≠ op.arity.toNat) :
      Culprit n [] t arguments (.arityMismatch n 1 op.name op.arity.toNat arguments.length)
  /-- It is the first argument that is not acceptable at its place. -/
  | unfit {op : Operation} {keyword t : Token} {accepted after : List Token}
      (hkeyword : keyword.kind = .keyword op) (hgoverns : op.governs = true)
      (hcount : (accepted ++ t :: after).length = op.arity.toNat)
      (haccepted : ∀ (i : Nat) (hi : i < accepted.length), op.accepts i accepted[i] = true)
      (ht : op.accepts accepted.length t = false) :
      Culprit n (keyword :: accepted) t after
        (.unfitArgument n ((keyword :: accepted).length + 1) op.name (op.expected accepted.length))
  /-- It is the first token, the root stands behind it, and between it and a definition marker
  there is something else. -/
  | stray {between after : List Token} {t root : Token} (hbefore : Rootless (t :: between))
      (hroot : root.Governs) (hafter : Rootless after)
      (hdefinition : root.kind = .definition → between ≠ []) :
      Culprit n [] t (between ++ root :: after) (.strayToken n 1)
  /-- It is the last token, and no terminator stands behind it. -/
  | last {before : List Token} {t first : Token} (hfirst : (before ++ [t]).head? = some first) :
      Culprit n before t [] (.unterminated n (before.length + 1) first.span.line)

/-- An error of a statement: the statement has no root, or a token of it is to blame. -/
inductive Diagnosed (s : Statement) : SyntaxError → Prop where
  | rootless (h : Rootless s.tokens) : Diagnosed s (.noRoot s.ordinal)
  | blamed {before after : List Token} {t : Token} {e : SyntaxError}
      (htokens : s.tokens = before ++ t :: after) (h : Culprit s.ordinal before t after e) :
      Diagnosed s e

theorem Culprit.ordinal {n : Nat} {before after : List Token} {t : Token} {e : SyntaxError}
    (h : Culprit n before t after e) : e.ordinal = n := by
  cases h <;> rfl

theorem Culprit.index? {n : Nat} {before after : List Token} {t : Token} {e : SyntaxError}
    (h : Culprit n before t after e) : e.index? = some (before.length + 1) := by
  cases h <;> rfl

/-- An error that names its statement, points into it, and says what is wrong there. -/
structure Located (s : Statement) (e : SyntaxError) : Prop where
  ordinal : e.ordinal = s.ordinal
  index : ∀ i ∈ e.index?, 1 ≤ i ∧ i ≤ s.tokens.length
  diagnosed : Diagnosed s e

theorem Diagnosed.located {s : Statement} {e : SyntaxError} (h : Diagnosed s e) : Located s e := by
  cases h with
  | rootless hrootless => exact ⟨rfl, by simp [SyntaxError.index?], .rootless hrootless⟩
  | blamed htokens hculprit =>
    refine ⟨hculprit.ordinal, ?_, .blamed htokens hculprit⟩
    intro i hi
    rw [hculprit.index?, Option.mem_some_iff] at hi
    rw [htokens, List.length_append, List.length_cons]
    omega

/-! ### The errors of a statement -/

theorem Operation.refused?_eq_some_iff {op : Operation} {arguments : List Token} {k : Nat} :
    op.refused? arguments = some k ↔
      ∃ accepted t after, arguments = accepted ++ t :: after ∧ k = accepted.length ∧
        (∀ (i : Nat) (hi : i < accepted.length), op.accepts i accepted[i] = true) ∧
          op.accepts accepted.length t = false := by
  rw [refused?, List.findIdx?_eq_some_iff_getElem]
  simp only [List.length_zipIdx, List.getElem_zipIdx, Nat.zero_add, Bool.not_eq_true',
    Bool.not_eq_false]
  constructor
  · intro h
    obtain ⟨hk, hrefused, hbefore⟩ := h
    have hlength : (arguments.take k).length = k := List.length_take_of_le hk.le
    refine ⟨arguments.take k, arguments[k], arguments.drop (k + 1), ?_, hlength.symm, ?_, ?_⟩
    · rw [← List.drop_eq_getElem_cons hk, List.take_append_drop]
    · intro i hi
      rw [List.getElem_take]
      exact hbefore i (by omega)
    · rwa [hlength]
  · intro h
    obtain ⟨accepted, t, after, rfl, rfl, haccepted, ht⟩ := h
    refine ⟨by simp, by simpa using ht, fun i hi => ?_⟩
    rw [List.getElem_append_left hi]
    exact haccepted i hi

namespace Statement

theorem root_eq_error {s : Statement} {e : SyntaxError} (h : s.root = .error e) :
    Diagnosed s e := by
  unfold root at h
  split at h
  · rename_i hroots
    cases h
    exact .rootless (rootsFrom_eq_nil_iff.mp hroots)
  · cases h
  · rename_i first second others hroots
    cases h
    -- The tokens are cut at the first root, and those behind it at the second one.
    obtain ⟨before, rest, htokens, hbefore, hfirst, hindex, hrest⟩ :=
      rootsFrom_eq_cons_iff.mp hroots
    obtain ⟨between, after, rfl, hbetween, hsecond, hindex', -⟩ := rootsFrom_eq_cons_iff.mp hrest
    have hplace : second.index = (before ++ first.token :: between).length := by
      rw [hindex', hindex, List.length_append, List.length_cons]
      omega
    have haround : s.tokens = (before ++ first.token :: between) ++ second.token :: after := by
      rw [htokens, List.append_assoc]
      rfl
    rw [hplace]
    exact .blamed haround (.secondRoot hbefore ⟨_, hfirst⟩ hbetween ⟨_, hsecond⟩)

/-- A definition cannot be built when no identifier stands before the marker, or when
something stands before the identifier. -/
theorem definition_eq_error {s : Statement} {root : Root} {before after : List Token}
    {e : SyntaxError} (htokens : s.tokens = before ++ root.token :: after)
    (hindex : root.index = before.length) (h : s.definition root = .error e) :
    (e = .unnamedDefinition s.ordinal (before.length + 1) ∧
        ∀ last ∈ before.getLast?, last.isIdentifier = false) ∨
      e = .strayToken s.ordinal 1 ∧ 1 < before.length := by
  have htake : s.tokens.take root.index = before := by simp [htokens, hindex]
  rw [definition, htake, hindex] at h
  cases hlast : before.getLast? with
  | none =>
    rw [hlast] at h
    cases h
    exact .inl ⟨rfl, by simp⟩
  | some name =>
    rw [hlast] at h
    dsimp only at h
    split at h
    · rename_i hname
      cases h
      exact .inl ⟨rfl, by simpa using hname⟩
    split at h
    · rename_i hlong
      cases h
      exact .inr ⟨rfl, hlong⟩
    · cases h

/-- An operation cannot be built when something stands before the keyword, when the arguments
are not as many as its arity, or when one of them is not acceptable. -/
theorem operation_eq_error {s : Statement} {root : Root} {op : Operation}
    {before after : List Token} {e : SyntaxError}
    (htokens : s.tokens = before ++ root.token :: after) (hindex : root.index = before.length)
    (h : s.operation root op = .error e) :
    (e = .strayToken s.ordinal 1 ∧ before ≠ []) ∨
      before = [] ∧
        ((e = .arityMismatch s.ordinal 1 op.name op.arity.toNat after.length ∧
            after.length ≠ op.arity.toNat) ∨
          after.length = op.arity.toNat ∧ ∃ k, op.refused? after = some k ∧
            e = .unfitArgument s.ordinal (k + 2) op.name (op.expected k)) := by
  have hdrop : s.tokens.drop (root.index + 1) = after := by simp [htokens, hindex]
  simp only [operation, operationTaking, hdrop] at h
  rw [hindex] at h
  split at h
  · rename_i hbefore
    cases h
    exact .inl ⟨rfl, List.length_pos_iff.mp hbefore⟩
  rename_i hbefore
  obtain rfl : before = [] := by simpa using hbefore
  refine .inr ⟨rfl, ?_⟩
  split at h
  · rename_i hcount
    cases h
    exact .inl ⟨rfl, hcount⟩
  rename_i hcount
  rw [ne_eq, not_not] at hcount
  split at h
  · rename_i k hrefused
    cases h
    refine .inr ⟨hcount, k, hrefused, ?_⟩
    rw [List.length_nil, Nat.zero_add]
  · cases h

/-- **A statement without a node has no root, or a token of it is to blame.** -/
theorem node_eq_error {s : Statement} {e : SyntaxError} (h : s.node = .error e) :
    Diagnosed s e := by
  unfold node at h
  cases hroot : s.root with
  | error e' =>
    rw [hroot] at h
    cases h
    exact root_eq_error hroot
  | ok root =>
    rw [hroot] at h
    -- With a single root it is the builder of its production that fails.
    have hbuild : s.build root = .error e := h
    obtain ⟨before, after, htokens, hbefore, hgoverns, hindex, hafter⟩ := root_eq_ok_iff.mp hroot
    unfold build at hbuild
    split at hbuild
    · rename_i hproduction
      have hkind : root.token.kind = .definition :=
        production?_eq_definition_iff.mp (hproduction ▸ hgoverns)
      rcases definition_eq_error htokens hindex hbuild with ⟨rfl, hname⟩ | ⟨rfl, hlong⟩
      · exact .blamed htokens (.unnamed hkind hbefore hafter hname)
      · obtain _ | ⟨t, between⟩ := before
        · cases hlong
        · have hfirst : s.tokens = [] ++ t :: (between ++ root.token :: after) := htokens
          refine .blamed hfirst (.stray hbefore ⟨_, hgoverns⟩ hafter fun _ hnil => ?_)
          subst hnil
          exact absurd hlong (by simp)
    · rename_i op hproduction
      obtain ⟨hkind, hop⟩ := production?_eq_operation_iff.mp (hproduction ▸ hgoverns)
      rcases operation_eq_error htokens hindex hbuild with
        ⟨rfl, hfilled⟩ | ⟨rfl, ⟨rfl, hcount⟩ | ⟨hcount, k, hrefused, rfl⟩⟩
      · obtain _ | ⟨t, between⟩ := before
        · exact absurd rfl hfilled
        · have hfirst : s.tokens = [] ++ t :: (between ++ root.token :: after) := htokens
          refine .blamed hfirst (.stray hbefore ⟨_, hgoverns⟩ hafter fun hdefinition => ?_)
          rw [hkind] at hdefinition
          cases hdefinition
      · exact .blamed htokens (.wrongCount hkind hop hafter hcount)
      · obtain ⟨accepted, t, behind, rfl, rfl, haccepted, ht⟩ :=
          Operation.refused?_eq_some_iff.mp hrefused
        have haround : s.tokens = (root.token :: accepted) ++ t :: behind := htokens
        exact .blamed haround (.unfit hkind hop hcount haccepted ht)

theorem error?_eq_some_iff {s : Statement} {e : SyntaxError} :
    s.error? = some e ↔ s.node = .error e := by
  unfold error?
  cases s.node <;> simp

theorem ordinal_of_error? {s : Statement} {e : SyntaxError} (h : s.error? = some e) :
    e.ordinal = s.ordinal :=
  (node_eq_error (error?_eq_some_iff.mp h)).located.ordinal

end Statement

/-! ### The errors of a list -/

/-- Statements are numbered in order, each below the number of what comes behind them. -/
theorem numbered_ascending (tokenRuns : List (List Token)) :
    (numbered tokenRuns).Pairwise (fun s r => s.ordinal < r.ordinal) ∧
      ∀ s ∈ numbered tokenRuns, s.ordinal < tokenRuns.length + 1 := by
  constructor
  · rw [List.pairwise_iff_getElem]
    intro i j hi hj hij
    simpa [numbered] using hij
  · intro s hs
    obtain ⟨i, hi, rfl⟩ := List.mem_iff_getElem.mp hs
    simpa [numbered] using hi

theorem Segments.tailError?_diagnosed {mode : Mode} {tokens : List Token} {e : SyntaxError}
    (h : (split tokens).tailError? mode = some e) :
    e.isUnterminated = true ∧
      ∃ s, (split tokens).unterminated? = some s ∧ Diagnosed s e := by
  obtain ⟨-, first, rest, htail, rfl⟩ := tailError?_eq_some_iff.mp h
  refine ⟨rfl, ⟨(closedRuns tokens).length + 1, first :: rest⟩, ?_, ?_⟩
  · rw [unterminated?, split_tail, htail, tailOrdinal_split]
    rfl
  · -- The error has the line of the first token and the place of the last one, so the tail is
    -- taken apart at its other end.
    obtain ⟨before, last, hlast⟩ : ∃ before last, first :: rest = before ++ [last] :=
      ⟨_, _, (List.dropLast_append_getLast (List.cons_ne_nil first rest)).symm⟩
    have hlength : rest.length = before.length := by
      simpa using congrArg List.length hlast
    rw [hlength]
    exact .blamed hlast (.last (by rw [← hlast]; rfl))

theorem mem_of_leading? {es : List SyntaxError} {e : SyntaxError} (h : leading? es = some e) :
    e ∈ es := by
  unfold leading? at h
  split at h
  · rename_i last hlast
    split at h
    · cases h
      exact List.mem_of_getLast? hlast
    · exact List.mem_of_head? h
  · cases h

namespace Program

/-- Where an error of a list belongs: to one of its statements, or to its tail if it is the
error of an open statement. -/
def Belongs (tokens : List Token) (e : SyntaxError) (s : Statement) : Prop :=
  if e.isUnterminated then (Segments.split tokens).unterminated? = some s
  else s ∈ (Segments.split tokens).statements

/-- Every error of a list is an error of a statement or of the tail. -/
theorem errors_located {mode : Mode} {tokens : List Token} {e : SyntaxError}
    (h : e ∈ errors mode tokens) : ∃ s, Belongs tokens e s ∧ Located s e := by
  rw [errors, List.mem_append] at h
  rcases h with h | h
  · obtain ⟨s, hs, herror⟩ := List.mem_filterMap.mp h
    have hnode := Statement.error?_eq_some_iff.mp herror
    have hopen := Statement.node_error_isUnterminated hnode
    refine ⟨s, ?_, (Statement.node_eq_error hnode).located⟩
    rwa [Belongs, hopen, if_neg Bool.false_ne_true]
  · rw [Option.mem_toList] at h
    obtain ⟨hopen, s, hs, hdiagnosed⟩ := Segments.tailError?_diagnosed h
    refine ⟨s, ?_, hdiagnosed.located⟩
    rwa [Belongs, hopen, if_pos rfl]

/-- **Errors come in the order of their statements**, no two of one statement, and the error
of the tail is the last. -/
theorem errors_ascending (mode : Mode) (tokens : List Token) :
    (errors mode tokens).Pairwise fun e f => e.ordinal < f.ordinal := by
  obtain ⟨hordered, hbelow⟩ := numbered_ascending (closedRuns tokens)
  rw [errors, Segments.split_statements, List.pairwise_append]
  refine ⟨?_, ?_, ?_⟩
  · refine hordered.filterMap _ fun s r hsr e he f hf => ?_
    rw [Statement.ordinal_of_error? he, Statement.ordinal_of_error? hf]
    exact hsr
  · cases (Segments.split tokens).tailError? mode with
    | none => exact .nil
    | some e => exact List.pairwise_singleton _ e
  · intro e he f hf
    obtain ⟨s, hs, herror⟩ := List.mem_filterMap.mp he
    obtain ⟨-, first, rest, -, rfl⟩ :=
      Segments.tailError?_eq_some_iff.mp (Option.mem_toList.mp hf)
    rw [Statement.ordinal_of_error? herror]
    exact hbelow s hs

/-- A failure reports errors of the list in their order, one at least, and several of them only
if there are two or more and all are asked for. -/
theorem reported_of_parse {options : Options} {tokens : List Token} {failure : Failure}
    (h : parse options tokens = .error failure) :
    failure.reported.Sublist (errors options.mode tokens) ∧ failure.reported ≠ [] ∧
      ∀ es, failure = .several es → options.policy = .collect ∧ 2 ≤ es.length := by
  obtain ⟨mode, policy⟩ := options
  cases policy with
  | collect =>
    obtain ⟨hne, rfl⟩ := parse_collect_eq_error_iff.mp h
    rw [Failure.reported_ofErrors]
    refine ⟨List.Sublist.refl _, hne, fun es hes => ⟨rfl, ?_⟩⟩
    have hsame : errors mode tokens = es := by
      rw [← Failure.reported_ofErrors (errors mode tokens), hes]
      rfl
    rw [hsame] at hes hne
    exact (Failure.ofErrors_eq_several_iff hne).mp hes
  | abort =>
    have hne : errors mode tokens ≠ [] := by
      intro hnil
      obtain ⟨p, hp⟩ := exists_program_of_errors hnil
      rw [(parse_eq_ok_iff_of_policy .collect).mpr hp] at h
      cases h
    obtain ⟨e, he⟩ := exists_leading? hne
    have hparse : parse ⟨mode, .abort⟩ tokens = .error (.grammatical e) := by
      rw [parse, parseFirst_eq_error he]
      rfl
    rw [hparse] at h
    cases h
    refine ⟨?_, List.cons_ne_nil e [], fun es hes => Failure.noConfusion hes⟩
    rw [Failure.reported, List.singleton_sublist]
    exact mem_of_leading? he

end Program

/-- **Syntax errors point at what is wrong, in the order of the source.** Whenever the tokens
of a description can be read and it fails to compile, there are errors, and each of them
names a statement that the tokens are cut into, or the open one behind them if it is the
error of such a one. The place it carries lies within that statement, and the token there is
to blame. Of several errors, which are at least two, each names a later statement than those
before it. -/
theorem compile_errors_located {options : Options} {source : String} {failure : Failure}
    (h : compile options source = .error failure) (hsyntactic : ∀ e, failure ≠ .lexical e) :
    ∃ tokens, tokenize .standard source = .ok tokens ∧ failure.reported ≠ [] ∧
      (∀ e ∈ failure.reported, ∃ s, Program.Belongs tokens e s ∧ Located s e) ∧
        (failure.reported.Pairwise fun e f => e.ordinal < f.ordinal) ∧
          ∀ es, failure = .several es → options.policy = .collect ∧ 2 ≤ es.length := by
  cases htokens : tokenize .standard source with
  | error e =>
    rw [compile_of_tokenize_error htokens] at h
    cases h
    exact absurd rfl (hsyntactic e)
  | ok tokens =>
    rw [compile_of_tokenize htokens] at h
    obtain ⟨hsublist, hreported, hseveral⟩ := Program.reported_of_parse h
    refine ⟨tokens, rfl, hreported, fun e he => ?_, ?_, hseveral⟩
    · exact Program.errors_located (hsublist.subset he)
    · exact (Program.errors_ascending options.mode tokens).sublist hsublist

/-- Every kind of error, an empty statement between two of them, and a tail. -/
theorem compile_errors_located_of_all_kinds :
    let source := "a b;\nc : d : 1;\n;\n: 0;\na OUT 1;\nOUT;\nOUT NOT;\nx y : 1;\nz : 0;\nOUT\nx"
    let failure : Failure := .several [.noRoot 1, .multipleRoots 2 4, .unnamedDefinition 3 1,
      .strayToken 4 1, .arityMismatch 5 1 "OUT" 1 0,
      .unfitArgument 6 2 "OUT" "an identifier or literal", .strayToken 7 1, .unterminated 9 2 10]
    compile ⟨.strict, .collect⟩ source = .error failure ∧ (∀ e, failure ≠ .lexical e) ∧
      ∃ tokens, tokenize .standard source = .ok tokens ∧ failure.reported ≠ [] ∧
        (∀ e ∈ failure.reported, ∃ s, Program.Belongs tokens e s ∧ Located s e) ∧
          (failure.reported.Pairwise fun e f => e.ordinal < f.ordinal) ∧
            2 ≤ failure.reported.length := by
  intro source failure
  have hfailure : compile ⟨.strict, .collect⟩ source = .error failure := by decide +kernel
  have hsyntactic : ∀ e, failure ≠ .lexical e := fun e h => Failure.noConfusion h
  obtain ⟨tokens, htokens, hreported, hlocated, hascending, hseveral⟩ :=
    compile_errors_located hfailure hsyntactic
  exact ⟨hfailure, hsyntactic, tokens, htokens, hreported, hlocated, hascending,
    (hseveral _ rfl).2⟩

end CircuitLang
