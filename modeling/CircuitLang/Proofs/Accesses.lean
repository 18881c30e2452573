import CircuitLang.Proofs.ByteOffsets
import CircuitLang.Proofs.Grammar

/-! Reading by index.

Statements can be cut out of the token list between two places, and nodes be built by looking
up a place of the statement, with a node that is a record of fields. Then an access can miss:
the place may be behind the end, the two places may be in the wrong order, a tail may be
empty, and a definition may come without a name. Here reading is done in this way, and every
access that misses ends it with nothing.

No access misses, and reading comes to the same. Cutting goes through the tokens and keeps
where the open run begins, which is the end of the closed part (`statementsFrom?_eq`). A node
is built around any place of a statement, whatever form is asked for there (`build?_eq`), and
has a name if it is a definition (`Node.render?_fields`). The main statement is
`every_access_in_range`. -/
namespace CircuitLang

/-! ### Stretches of a list -/

/-- The items from a place of a list up to another. -/
def slice? {α : Type} (items : List α) (start stop : Nat) : Option (List α) :=
  if start ≤ stop ∧ stop ≤ items.length then some ((items.take stop).drop start) else none

section
variable {α : Type}

theorem slice?_middle (before middle after : List α) :
    slice? (before ++ middle ++ after) before.length (before ++ middle).length = some middle := by
  rw [slice?, if_pos, List.take_left, List.drop_left]
  simp only [List.length_append]
  omega

theorem slice?_rest {items : List α} {start : Nat} (h : start ≤ items.length) :
    slice? items start items.length = some (items.drop start) := by
  rw [slice?, if_pos ⟨h, Nat.le_refl _⟩, List.take_length]

end

/-! ### Cutting at terminators -/

/-- Statements, and one more that no terminator closes. -/
structure SegmentFields where
  statements : List Statement
  unterminated? : Option Statement

def Segments.fields (s : Segments) : SegmentFields :=
  ⟨s.statements, s.unterminated?⟩

/-- Goes through tokens that come with their places in the list, behind the statements that
were found so far and from where the open run begins. -/
def statementsFrom? (tokens : List Token) (found : List Statement) (start : Nat) :
    List (Token × Nat) → Option (List Statement × Nat)
  | [] => some (found, start)
  | (t, i) :: rest =>
    if t.isTerminator then
      if start < i then
        (slice? tokens start i).bind fun run =>
          statementsFrom? tokens (found ++ [⟨found.length + 1, run⟩]) (i + 1) rest
      else statementsFrom? tokens found (i + 1) rest
    else statementsFrom? tokens found start rest

/-- Cuts a token list at its terminators. -/
def split? (tokens : List Token) : Option SegmentFields :=
  (statementsFrom? tokens [] 0 tokens.zipIdx).bind fun (found, start) =>
    if start < tokens.length then
      (slice? tokens start tokens.length).map fun run =>
        ⟨found, some ⟨found.length + 1, run⟩⟩
    else some ⟨found, none⟩

/-- Whether a tail is acceptable. Its first token is looked at in either mode. -/
def SegmentFields.check? (s : SegmentFields) (mode : Mode) : Option (Except SyntaxError Unit) :=
  match s.unterminated? with
  | none => some (.ok ())
  | some tail =>
    tail.tokens[0]?.map fun first =>
      match mode with
      | .strict => .error (.unterminated tail.ordinal tail.tokens.length first.span.line)
      | .lenient => .ok ()

/-- **Going through the tokens keeps the statements and where the open run begins**, and the
stretch between the two places of a run is always there. -/
theorem statementsFrom?_eq (before rest : List Token) :
    statementsFrom? (before ++ rest) (numbered (closedRuns before)) (closedPart before).length
        (rest.zipIdx before.length) =
      some (numbered (closedRuns (before ++ rest)), (closedPart (before ++ rest)).length) := by
  induction rest generalizing before with
  | nil =>
    rw [List.append_nil]
    rfl
  | cons t rest ih =>
    have hnext := ih (before ++ [t])
    rw [← List.append_cons, List.length_append, List.length_singleton] at hnext
    rw [List.zipIdx_cons, statementsFrom?]
    cases ht : t.isTerminator with
    | false =>
      rw [closedRuns_concat_of_open before ht, closedPart_concat_of_open before ht] at hnext
      rw [if_neg Bool.false_ne_true]
      exact hnext
    | true =>
      rw [closedRuns_concat_of_terminator before ht, closedPart_concat_of_terminator before ht,
        List.length_append, List.length_singleton] at hnext
      rw [if_pos rfl]
      by_cases hopen : (runs before).2 = []
      · rw [if_neg (by rw [length_closedPart_lt_iff, not_not]; exact hopen)]
        simpa [hopen] using hnext
      · have hslice : slice? (before ++ t :: rest) (closedPart before).length before.length =
            some (runs before).2 := by
          have hmiddle := slice?_middle (closedPart before) (runs before).2 (t :: rest)
          rwa [closedPart_append_tail] at hmiddle
        have hfilled : ([(runs before).2].filter fun run => !run.isEmpty) = [(runs before).2] := by
          simp [hopen]
        rw [hfilled, numbered_concat] at hnext
        rw [if_pos ((length_closedPart_lt_iff before).mpr hopen), hslice, Option.bind_some]
        exact hnext

theorem split?_eq (tokens : List Token) : split? tokens = some (Segments.split tokens).fields := by
  have hloop : statementsFrom? tokens [] 0 tokens.zipIdx =
      some (numbered (closedRuns tokens), (closedPart tokens).length) :=
    statementsFrom?_eq [] tokens
  rw [split?, hloop, Option.bind_some, Segments.fields, Segments.unterminated?,
    Segments.split_statements, Segments.split_tail, Segments.tailOrdinal_split]
  have hlength : (numbered (closedRuns tokens)).length = (closedRuns tokens).length := by
    rw [numbered, List.length_mapIdx]
  by_cases hopen : (runs tokens).2 = []
  · have hend : ¬ (closedPart tokens).length < tokens.length := by
      rw [length_closedPart_lt_iff, not_not]
      exact hopen
    simp only [hend, hopen, if_false]
    rfl
  · have hstart := (length_closedPart_lt_iff tokens).mpr hopen
    have htail : tokens.drop (closedPart tokens).length = (runs tokens).2 := by
      have hdrop := congrArg (List.drop (closedPart tokens).length) (closedPart_append_tail tokens)
      rw [List.drop_left] at hdrop
      exact hdrop.symm
    simp only [hstart, if_true, slice?_rest hstart.le, htail, Option.map_some, hlength,
      List.isEmpty_iff, hopen, if_false]

theorem check?_eq (s : Segments) (mode : Mode) : s.fields.check? mode = some (s.check mode) := by
  obtain ⟨statements, tail⟩ := s
  cases tail with
  | nil => cases mode <;> rfl
  | cons first rest => cases mode <;> rfl

/-! ### Building nodes -/

/-- A node by its fields. A definition need not have an argument here. -/
structure NodeFields where
  production : Production
  root : Token
  target? : Option Token
  arguments : List Token
  value : List Token
  deriving DecidableEq, Repr

def Node.fields (n : Node) : NodeFields :=
  ⟨n.production, n.root, n.target?, n.arguments, n.value⟩

def Program.fields (p : Program) : List NodeFields :=
  p.nodes.map Node.fields

/-- A node as it is listed. The name of a definition is its first argument. -/
def NodeFields.render? (n : NodeFields) : Option String :=
  match n.production with
  | .definition =>
    n.arguments[0]?.map fun name =>
      "Def(" ++ " ".intercalate ((name :: n.value).map Token.lexeme) ++ ")"
  | .operation op => some (op.name ++ "(" ++ ", ".intercalate (n.arguments.map Token.lexeme) ++ ")")

theorem Node.render?_fields (n : Node) : n.fields.render? = some n.render := by
  cases n <;> rfl

namespace Statement

def definition? (s : Statement) (root : Root) : Option (Except SyntaxError NodeFields) :=
  match root.index with
  | 0 => some (.error (.unnamedDefinition s.ordinal (root.index + 1)))
  | before + 1 =>
    s.tokens[before]?.bind fun name =>
      if !name.isIdentifier then some (.error (.unnamedDefinition s.ordinal (root.index + 1)))
      else if 1 < root.index then some (.error (.strayToken s.ordinal 1))
      else
        (slice? s.tokens (root.index + 1) s.tokens.length).map fun value =>
          .ok ⟨.definition, root.token, some name, [name], value⟩

def operation? (s : Statement) (root : Root) (op : Operation) :
    Option (Except SyntaxError NodeFields) :=
  if 0 < root.index then some (.error (.strayToken s.ordinal 1))
  else
    (slice? s.tokens (root.index + 1) s.tokens.length).map fun arguments =>
      if arguments.length ≠ op.arity.toNat then
        .error (.arityMismatch s.ordinal (root.index + 1) op.name op.arity.toNat arguments.length)
      else
        match op.refused? arguments with
        | some i => .error (.unfitArgument s.ordinal (root.index + i + 2) op.name (op.expected i))
        | none =>
          .ok ⟨.operation op, root.token,
            (arguments.take op.positional.toNat).find? Token.isIdentifier, arguments, []⟩

def build? (s : Statement) (root : Root) : Option (Except SyntaxError NodeFields) :=
  match root.production with
  | .definition => s.definition? root
  | .operation op => s.operation? root op

def node? (s : Statement) : Option (Except SyntaxError NodeFields) :=
  match s.root with
  | .error e => some (.error e)
  | .ok root => s.build? root

variable {s : Statement} {root : Root}

theorem definition?_eq (h : root.index < s.tokens.length) :
    s.definition? root = some ((s.definition root).map Node.fields) := by
  unfold definition? definition
  cases hindex : root.index with
  | zero => rfl
  | succ before =>
    have hbefore : s.tokens[before]? = some s.tokens[before] := List.getElem?_eq_getElem (by omega)
    have hlast : (s.tokens.take (before + 1)).getLast? = some s.tokens[before] := by
      rw [List.getLast?_take, if_neg (Nat.succ_ne_zero before), Nat.add_sub_cancel, hbefore]
      rfl
    simp only [hbefore, hlast, Option.bind_some]
    cases s.tokens[before].isIdentifier with
    | false => rfl
    | true =>
      by_cases hstray : 1 < before + 1
      · simp only [hstray, Bool.not_true, if_true]
        rfl
      · simp only [hstray, Bool.not_true, if_false,
          slice?_rest (by omega : before + 1 + 1 ≤ s.tokens.length)]
        rfl

theorem operation?_eq (h : root.index < s.tokens.length) (op : Operation) :
    s.operation? root op = some ((s.operation root op).map Node.fields) := by
  unfold operation? operation operationTaking
  by_cases hstray : 0 < root.index
  · simp only [hstray, if_true]
    rfl
  · rw [slice?_rest (by omega : root.index + 1 ≤ s.tokens.length)]
    generalize s.tokens.drop (root.index + 1) = arguments
    simp only [hstray, if_false, Option.map_some]
    by_cases hcount : arguments.length = op.arity.toNat
    · simp only [hcount, ne_eq, not_true, if_false]
      cases op.refused? arguments <;> rfl
    · simp only [hcount, ne_eq, not_false_eq_true, if_true]
      rfl

/-- **A node is built around any place of a statement**, whatever form is asked for and
whatever token is taken for the root. -/
theorem build?_eq (h : root.index < s.tokens.length) :
    s.build? root = some ((s.build root).map Node.fields) := by
  unfold build? build
  cases root.production with
  | definition => exact definition?_eq h
  | operation op => exact operation?_eq h op

-- Behind the end of a statement there is nothing to build around.
example : build? ⟨1, []⟩ ⟨⟨.definition, ⟨1, 1, 1⟩, ":"⟩, .definition, 1⟩ = none := by decide

/-- The root of a statement is in one of its places. -/
theorem node?_eq (s : Statement) : s.node? = some (s.node.map Node.fields) := by
  unfold node? node
  cases hroot : s.root with
  | error e => rfl
  | ok root =>
    obtain ⟨before, after, htokens, -, -, hindex, -⟩ := root_eq_ok_iff.mp hroot
    apply build?_eq
    rw [hindex, htokens, List.length_append, List.length_cons]
    omega

/-- The nodes of statements up to the first one that has none. -/
def nodes? : List Statement → Option (Except SyntaxError (List NodeFields))
  | [] => some (.ok [])
  | s :: rest =>
    s.node?.bind fun
      | .error e => some (.error e)
      | .ok n => (nodes? rest).map (Except.map (n :: ·))

theorem nodes?_eq (statements : List Statement) :
    nodes? statements = some ((statements.mapM node).map (List.map Node.fields)) := by
  induction statements with
  | nil => rfl
  | cons s rest ih =>
    rw [nodes?, node?_eq, ih, List.mapM_cons]
    cases s.node with
    | error e => rfl
    | ok n =>
      cases rest.mapM node <;> rfl

end Statement

/-! ### Programs -/

namespace Program

def parseFirst? (mode : Mode) (tokens : List Token) : Option (Except SyntaxError (List NodeFields)) :=
  (split? tokens).bind fun segments =>
    (segments.check? mode).bind fun
      | .error e => some (.error e)
      | .ok () => Statement.nodes? segments.statements

def parseAll? (mode : Mode) (tokens : List Token) : Option (Except Failure (List NodeFields)) :=
  (split? tokens).bind fun segments =>
    (segments.statements.mapM Statement.node?).bind fun results =>
      (segments.check? mode).map fun tail =>
        let errors := results.filterMap (fun | .error e => some e | .ok _ => none) ++
          match tail with | .error e => [e] | .ok () => []
        match errors with
        | [] => .ok (results.filterMap Except.toOption)
        | [e] => .error (.grammatical e)
        | es => .error (.several es)

def parse? (options : Options) (tokens : List Token) : Option (Except Failure (List NodeFields)) :=
  match options.policy with
  | .abort => (parseFirst? options.mode tokens).map (Except.mapError .grammatical)
  | .collect => parseAll? options.mode tokens

theorem parseFirst?_eq (mode : Mode) (tokens : List Token) :
    parseFirst? mode tokens = some ((parseFirst mode tokens).map fields) := by
  have hnodes := Statement.nodes?_eq (Segments.split tokens).statements
  rw [parseFirst?, split?_eq, Option.bind_some, check?_eq, Option.bind_some, parseFirst, segment]
  cases (Segments.split tokens).check mode with
  | error e => rfl
  | ok =>
    show Statement.nodes? (Segments.split tokens).statements = _
    rw [hnodes]
    show _ = some (Except.map fields (((Segments.split tokens).statements.mapM Statement.node) >>= _))
    cases (Segments.split tokens).statements.mapM Statement.node <;> rfl

theorem mapM_node? (statements : List Statement) :
    statements.mapM Statement.node? = some (statements.map fun s => s.node.map Node.fields) := by
  induction statements with
  | nil => rfl
  | cons s rest ih =>
    rw [List.mapM_cons, Statement.node?_eq, ih]
    rfl

theorem parseAll?_eq (mode : Mode) (tokens : List Token) :
    parseAll? mode tokens = some ((parseAll mode tokens).map fields) := by
  rw [parseAll?, split?_eq, Option.bind_some, check?_eq, parseAll]
  show ((Segments.split tokens).statements.mapM Statement.node?).bind _ = _
  rw [mapM_node?, Option.bind_some, Option.map_some]
  have herrors : (((Segments.split tokens).statements.map fun s => s.node.map Node.fields).filterMap
      (fun | .error e => some e | .ok _ => none)) ++
        (match (Segments.split tokens).check mode with | .error e => [e] | .ok () => []) =
      errors mode tokens := by
    rw [errors, List.filterMap_map, Segments.check]
    congr 1
    · apply List.filterMap_congr
      intro s _
      rw [Statement.error?, Function.comp_apply]
      cases s.node <;> rfl
    · cases (Segments.split tokens).tailError? mode <;> rfl
  have hnodes : (((Segments.split tokens).statements.map fun s => s.node.map Node.fields).filterMap
      Except.toOption) =
      ((Segments.split tokens).statements.filterMap fun s => s.node.toOption).map Node.fields := by
    rw [List.filterMap_map, List.map_filterMap]
    apply List.filterMap_congr
    intro s _
    rw [Function.comp_apply]
    cases s.node <;> rfl
  simp only [herrors, hnodes]
  rcases errors mode tokens with _ | ⟨e, _ | ⟨e', es⟩⟩ <;> rfl

theorem parse?_eq (options : Options) (tokens : List Token) :
    parse? options tokens = some ((parse options tokens).map fields) := by
  obtain ⟨mode, policy⟩ := options
  cases policy with
  | abort =>
    show (parseFirst? mode tokens).map _ = some (((parseFirst mode tokens).mapError _).map _)
    rw [parseFirst?_eq]
    cases parseFirst mode tokens <;> rfl
  | collect => exact parseAll?_eq mode tokens

end Program

/-- Reads the program of a circuit description by byte offsets and by index. -/
def read? (table : OperationTable) (options : Options) (source : String) :
    Option (Except Failure (List NodeFields)) :=
  (ByteLexer.tokenize? table source).bind fun
    | .error e => some (.error (.lexical e))
    | .ok tokens => Program.parse? options tokens

theorem read?_eq (table : OperationTable) (options : Options) (source : String) :
    read? table options source = some ((readUnder table options source).map Program.fields) := by
  rw [read?, ByteLexer.tokenize?_eq, Option.bind_some]
  cases h : tokenize table source with
  | error e =>
    rw [readUnder_of_tokenize_error h]
    rfl
  | ok tokens =>
    rw [readUnder_of_tokenize h]
    exact Program.parse?_eq options tokens

/-- **No access is out of range.** Cutting lexemes out of a text between byte offsets, cutting
a token list between two places, looking at the first token of its tail, building a node
around any place of a statement and listing it: each of them has what it looks for, and comes
to what reading without indices comes to. So does reading a list and a whole text. -/
theorem every_access_in_range :
    (∀ table source, ByteLexer.tokenize? table source = some (tokenize table source)) ∧
      (∀ tokens, split? tokens = some (Segments.split tokens).fields ∧
        ∀ mode, (Segments.split tokens).fields.check? mode =
          some ((Segments.split tokens).check mode)) ∧
      (∀ (s : Statement) (root : Root), root.index < s.tokens.length →
        s.build? root = some ((s.build root).map Node.fields) ∧
          ∀ n, s.build root = .ok n → n.fields.render? = some n.render) ∧
      ∀ options,
        (∀ tokens, Program.parse? options tokens =
          some ((Program.parse options tokens).map Program.fields)) ∧
        ∀ table source, read? table options source =
          some ((readUnder table options source).map Program.fields) :=
  ⟨ByteLexer.tokenize?_eq, fun tokens => ⟨split?_eq tokens, check?_eq _⟩,
    fun _ _ h => ⟨Statement.build?_eq h, fun n _ => n.render?_fields⟩,
    fun options => ⟨Program.parse?_eq options, fun table => read?_eq table options⟩⟩

/-- A definition around a terminator, which is no marker. -/
theorem every_access_in_range_around_terminator :
    let name : Token := ⟨.identifier "né", ⟨1, 1, 2⟩, "né"⟩
    let stop : Token := ⟨.terminator, ⟨1, 3, 3⟩, ";"⟩
    let s : Statement := ⟨2, [name, stop, stop]⟩
    let root : Root := ⟨stop, .definition, 1⟩
    root.index < s.tokens.length ∧
      s.build? root = some (.ok ⟨.definition, stop, some name, [name], [stop]⟩) ∧
        NodeFields.render? ⟨.definition, stop, some name, [name], [stop]⟩ = some "Def(né ;)" := by
  intro name stop s root
  have hindex : root.index < s.tokens.length := by decide
  have hbuild : s.build root = .ok (.definition name stop [stop]) := by decide
  obtain ⟨-, -, hplaces, -⟩ := every_access_in_range
  obtain ⟨hbuilt, hlisted⟩ := hplaces s root hindex
  rw [hbuild] at hbuilt
  exact ⟨hindex, hbuilt, hlisted _ hbuild⟩

end CircuitLang
