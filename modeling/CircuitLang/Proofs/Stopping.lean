import CircuitLang.Program.Checked
import CircuitLang.Program.Trace
import CircuitLang.Proofs.Listing
import CircuitLang.Proofs.Verdict

/-! Where reading stops.

In checked arithmetic a statement stops the program when its only root is a keyword in front
whose operands and flags do not fit into a word together (`Statement.Stops`). At any other
statement both arithmetics come to the same. From one statement that goes on to lists: reading
stops where one of the statements that are looked at does (`Program.parseIn_eq_none_iff`), and
otherwise comes to what it comes to when carries are lost (`Program.parseIn_of_not_stops`).

So nothing stops in wrapping arithmetic, and nothing under a table whose sums all fit into a
word, as those of the standard table do (`readIn_standard`). -/
namespace CircuitLang

variable {arithmetic : Arithmetic}

/-! ### The sum -/

namespace Operation
variable {op : Operation}

theorem Exact.arityIn_eq (h : op.Exact) (arithmetic : Arithmetic) :
    op.arityIn arithmetic = some op.arity := by
  cases arithmetic with
  | wrapping => rfl
  | checked => exact if_neg (Nat.not_le.mpr h)

theorem arityIn_checked_of_not_exact (h : ¬ op.Exact) : op.arityIn .checked = none :=
  if_pos (Nat.not_lt.mp h)

end Operation

/-! ### Statements -/

namespace Statement
variable {s : Statement}

/-- The program stops at the statement: its arguments are to be counted, and what they are
held against does not fit into a word. -/
def Stops (arithmetic : Arithmetic) (s : Statement) : Prop :=
  arithmetic = .checked ∧
    ∃ keyword op, s.SoleRoot 0 keyword ∧ keyword.kind = .keyword op ∧ ¬ op.Exact

theorem not_stops_wrapping (s : Statement) : ¬ s.Stops .wrapping :=
  fun h => Arithmetic.noConfusion h.1

/-- Behind a stray token the sum is not looked at. -/
theorem operationIn_eq {root : Root} {op : Operation}
    (h : 0 < root.index ∨ op.arityIn arithmetic = some op.arity) :
    s.operationIn arithmetic root op = some (s.operation root op) := by
  rw [operationIn, operation]
  by_cases hstray : 0 < root.index
  · simp [operationTaking, hstray]
  · rw [if_neg hstray, h.resolve_left hstray]
    rfl

theorem Stops.nodeIn_eq (h : s.Stops arithmetic) : s.nodeIn arithmetic = none := by
  obtain ⟨rfl, keyword, op, hroot, hkind, hexact⟩ := h
  rw [nodeIn, hroot.root_eq (hroot.production_of_keyword hkind)]
  show s.operationIn .checked ⟨keyword, .operation op, 0⟩ op = none
  rw [operationIn, Operation.arityIn_checked_of_not_exact hexact]
  rfl

theorem nodeIn_of_not_stops (h : ¬ s.Stops arithmetic) : s.nodeIn arithmetic = some s.node := by
  rw [nodeIn, node]
  cases hroot : s.root with
  | error e => rfl
  | ok root =>
    show s.buildIn arithmetic root = some (s.build root)
    rw [buildIn, build]
    cases hproduction : root.production with
    | definition => rfl
    | operation op =>
      obtain ⟨hsole, hgoverns⟩ := soleRoot_of_root hroot
      rw [hproduction, production?_eq_operation_iff] at hgoverns
      apply operationIn_eq
      by_cases hstray : 0 < root.index
      · exact .inl hstray
      by_cases hexact : op.Exact
      · exact .inr (hexact.arityIn_eq arithmetic)
      cases arithmetic with
      | wrapping => exact .inr rfl
      | checked =>
        rw [Nat.eq_zero_of_not_pos hstray] at hsole
        exact absurd ⟨rfl, root.token, op, hsole, hgoverns.1, hexact⟩ h

/-- **A statement has a node or an error unless the program stops at it.** -/
theorem nodeIn_eq_none_iff : s.nodeIn arithmetic = none ↔ s.Stops arithmetic := by
  by_cases h : s.Stops arithmetic
  · simp [h, h.nodeIn_eq]
  · simp [h, nodeIn_of_not_stops h]

/-! ### Going through statements -/

/-- The statements up to the first failing one are looked at, and one of them stops. -/
theorem nodesIn_of_stops {statements : List Statement}
    (h : ∃ s ∈ Program.throughFailure statements, s.Stops arithmetic) :
    nodesIn arithmetic statements = none := by
  induction statements with
  | nil =>
    obtain ⟨s, hs, -⟩ := h
    cases hs
  | cons s rest ih =>
    by_cases hstops : s.Stops arithmetic
    · rw [nodesIn, hstops.nodeIn_eq]
      rfl
    · rw [nodesIn, nodeIn_of_not_stops hstops, Option.bind_some]
      obtain ⟨t, ht, hlater⟩ := h
      rcases List.mem_cons.mp ht with rfl | ht
      · exact absurd hlater hstops
      rw [error?] at ht
      cases hnode : s.node with
      | error e => simp [hnode] at ht
      | ok n =>
        rw [hnode] at ht
        show (nodesIn arithmetic rest).map _ = none
        rw [ih ⟨t, ht, hlater⟩]
        rfl

theorem nodesIn_of_not_stops {statements : List Statement}
    (h : ∀ s ∈ Program.throughFailure statements, ¬ s.Stops arithmetic) :
    nodesIn arithmetic statements = some (statements.mapM node) := by
  induction statements with
  | nil => rfl
  | cons s rest ih =>
    rw [Program.throughFailure, List.forall_mem_cons, error?] at h
    rw [nodesIn, nodeIn_of_not_stops h.1, Option.bind_some, List.mapM_cons]
    cases hnode : s.node with
    | error e => rfl
    | ok n =>
      rw [hnode] at h
      show (nodesIn arithmetic rest).map _ = _
      rw [ih h.2]
      cases rest.mapM node <;> rfl

theorem mapM_nodeIn_of_stops {statements : List Statement}
    (h : ∃ s ∈ statements, s.Stops arithmetic) :
    statements.mapM (nodeIn arithmetic) = none := by
  induction statements with
  | nil =>
    obtain ⟨s, hs, -⟩ := h
    cases hs
  | cons s rest ih =>
    rw [List.mapM_cons]
    by_cases hstops : s.Stops arithmetic
    · rw [hstops.nodeIn_eq]
      rfl
    · obtain ⟨t, ht, hlater⟩ := h
      rcases List.mem_cons.mp ht with rfl | ht
      · exact absurd hlater hstops
      rw [nodeIn_of_not_stops hstops, ih ⟨t, ht, hlater⟩]
      rfl

theorem mapM_nodeIn_of_not_stops {statements : List Statement}
    (h : ∀ s ∈ statements, ¬ s.Stops arithmetic) :
    statements.mapM (nodeIn arithmetic) = some (statements.map node) := by
  induction statements with
  | nil => rfl
  | cons s rest ih =>
    rw [List.forall_mem_cons] at h
    rw [List.mapM_cons, nodeIn_of_not_stops h.1, ih h.2]
    rfl

end Statement

/-! ### Programs -/

namespace Program
variable {options : Options} {tokens : List Token}

/-- The statements that are looked at: all of them if all errors are to be reported, and
otherwise those up to the first failing one, unless the tail fails before them. -/
def reached (options : Options) (tokens : List Token) : List Statement :=
  let segments := Segments.split tokens
  match options.policy, segments.tailError? options.mode with
  | .collect, _ => segments.statements
  | .abort, some _ => []
  | .abort, none => throughFailure segments.statements

theorem parseAllIn_of_not_stops {mode : Mode}
    (h : ∀ s ∈ (Segments.split tokens).statements, ¬ s.Stops arithmetic) :
    parseAllIn arithmetic mode tokens = some (parseAll mode tokens) := by
  rw [parseAllIn, Statement.mapM_nodeIn_of_not_stops h, Option.map_some, parseAll, errors,
    List.filterMap_map, List.filterMap_map]
  rfl

theorem parseIn_of_stops (h : ∃ s ∈ reached options tokens, s.Stops arithmetic) :
    parseIn arithmetic options tokens = none := by
  obtain ⟨mode, policy⟩ := options
  cases policy with
  | collect =>
    have hnodes : (Segments.split tokens).statements.mapM (Statement.nodeIn arithmetic) = none :=
      Statement.mapM_nodeIn_of_stops h
    show parseAllIn arithmetic mode tokens = none
    rw [parseAllIn, hnodes]
    rfl
  | abort =>
    show (parseFirstIn arithmetic mode tokens).map _ = none
    rw [parseFirstIn, segment, Segments.check]
    cases htail : (Segments.split tokens).tailError? mode with
    | some e => simp [reached, htail] at h
    | none =>
      simp only [reached, htail] at h
      show ((Statement.nodesIn arithmetic (Segments.split tokens).statements).map _).map _ = none
      rw [Statement.nodesIn_of_stops h]
      rfl

/-- Reading that does not stop comes to what it comes to where carries are lost. -/
theorem parseIn_of_not_stops (h : ∀ s ∈ reached options tokens, ¬ s.Stops arithmetic) :
    parseIn arithmetic options tokens = some (parse options tokens) := by
  obtain ⟨mode, policy⟩ := options
  cases policy with
  | collect => exact parseAllIn_of_not_stops h
  | abort =>
    show (parseFirstIn arithmetic mode tokens).map _ =
      some ((parseFirst mode tokens).mapError Failure.grammatical)
    rw [parseFirstIn, parseFirst, segment, Segments.check]
    cases htail : (Segments.split tokens).tailError? mode with
    | some e => rfl
    | none =>
      simp only [reached, htail] at h
      show ((Statement.nodesIn arithmetic (Segments.split tokens).statements).map _).map _ = _
      rw [Statement.nodesIn_of_not_stops h]
      show _ = some (((Segments.split tokens).statements.mapM Statement.node >>= _).mapError _)
      cases (Segments.split tokens).statements.mapM Statement.node <;> rfl

/-- **Reading stops where one of the statements that are looked at does, and nowhere else.** -/
theorem parseIn_eq_none_iff :
    parseIn arithmetic options tokens = none ↔
      ∃ s ∈ reached options tokens, s.Stops arithmetic := by
  by_cases h : ∃ s ∈ reached options tokens, s.Stops arithmetic
  · simp only [parseIn_of_stops h, h]
  · have hreached : ∀ s ∈ reached options tokens, ¬ s.Stops arithmetic :=
      fun s hs hstops => h ⟨s, hs, hstops⟩
    simp only [parseIn_of_not_stops hreached, h, reduceCtorEq]

-- Behind a failing statement no sum is looked at, unless all errors are asked for.
example :
    let op : Operation := ⟨"NOP", 18446744073709551615, 1, true⟩
    let stop : Token := ⟨.terminator, ⟨1, 2, 2⟩, ";"⟩
    let tokens : List Token :=
      [⟨.literal true, ⟨1, 1, 1⟩, "1"⟩, stop, ⟨.keyword op, ⟨2, 1, 3⟩, "NOP"⟩, stop]
    parseIn .checked ⟨.strict, .abort⟩ tokens = some (.error (.grammatical (.noRoot 1))) ∧
      parseIn .checked ⟨.strict, .collect⟩ tokens = none := by
  decide

/-- Nothing stops where carries are lost. -/
theorem parseIn_wrapping (options : Options) (tokens : List Token) :
    parseIn .wrapping options tokens = some (parse options tokens) :=
  parseIn_of_not_stops fun s _ => s.not_stops_wrapping

theorem throughFailure_subset (statements : List Statement) :
    throughFailure statements ⊆ statements := by
  induction statements with
  | nil => exact List.Subset.refl []
  | cons s rest ih =>
    rw [throughFailure]
    apply List.cons_subset_cons
    split
    · exact ih
    · exact List.nil_subset rest

theorem reached_subset (options : Options) (tokens : List Token) :
    reached options tokens ⊆ (Segments.split tokens).statements := by
  simp only [reached]
  split
  · exact List.Subset.refl _
  · exact List.nil_subset _
  · exact throughFailure_subset _

/-- Nothing stops at operations whose operands and flags fit into a word together. -/
theorem parseIn_of_exact (hexact : ∀ t ∈ tokens, ∀ op ∈ t.operation?, op.Exact) :
    parseIn arithmetic options tokens = some (parse options tokens) := by
  apply parseIn_of_not_stops
  intro s hs hstops
  obtain ⟨-, keyword, op, hroot, hkind, hnot⟩ := hstops
  have hrun : s.tokens ∈ closedRuns tokens := by
    rw [← numbered_tokens (closedRuns tokens), ← Segments.split_statements]
    exact List.mem_map_of_mem (reached_subset options tokens hs)
  have hkeyword := mem_of_mem_closedRuns hrun (List.mem_of_getElem? hroot.token)
  exact hnot (hexact keyword hkeyword op (Token.mem_operation?_iff.mpr hkind))

end Program

/-! ### Texts -/

/-- Operands and flags of every operation fit into a word together. -/
def OperationTable.Exact (table : OperationTable) : Prop :=
  ∀ entry ∈ table.entries, entry.2.Exact

theorem OperationTable.exact_standard : standard.Exact := by
  unfold Exact
  decide

theorem readIn_of_exact {table : OperationTable} (htable : table.Exact) (options : Options)
    (source : String) :
    readIn arithmetic table options source = some (readUnder table options source) := by
  rw [readIn]
  cases htokens : tokenize table source with
  | error e => rw [readUnder_of_tokenize_error htokens]
  | ok tokens =>
    rw [readUnder_of_tokenize htokens]
    apply Program.parseIn_of_exact
    intro t ht op hop
    exact htable _
      ((readable_of_tokenize htokens ht).mem_entries (Token.mem_operation?_iff.mp hop))

/-- **Compiling never stops**, whatever is described and however sums are taken. -/
theorem readIn_standard (arithmetic : Arithmetic) (options : Options) (source : String) :
    readIn arithmetic .standard options source = some (compile options source) :=
  readIn_of_exact OperationTable.exact_standard options source

end CircuitLang
