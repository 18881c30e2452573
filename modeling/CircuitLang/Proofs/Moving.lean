import CircuitLang.Proofs.Grammar

/-! Reading does not depend on spans and numbers.

Tokens can be moved, that is, given other spans, and a statement can be moved behind
other statements, which raises its number. A moved statement has the moved node, or its
error with the number raised (`Statement.node_move`), and so a moved list spells the
moved program (`Program.parse_move_eq_ok_iff`). -/
namespace CircuitLang

/-! ### Moving -/

/-- The token at another place. -/
def Token.move (g : Span → Span) (t : Token) : Token :=
  { t with span := g t.span }

def Root.move (g : Span → Span) (root : Root) : Root :=
  { root with token := root.token.move g }

/-- The statement with its tokens at other places, and `k` more statements before it. -/
def Statement.move (g : Span → Span) (k : Nat) (s : Statement) : Statement :=
  ⟨s.ordinal + k, s.tokens.map (Token.move g)⟩

/-- The error with `k` more statements and a number of lines more before its statement. -/
def SyntaxError.raise (k : Nat) (lines : UInt32) : SyntaxError → SyntaxError
  | noRoot s => noRoot (s + k)
  | multipleRoots s i => multipleRoots (s + k) i
  | unnamedDefinition s i => unnamedDefinition (s + k) i
  | arityMismatch s i op expected found => arityMismatch (s + k) i op expected found
  | unfitArgument s i op expected => unfitArgument (s + k) i op expected
  | strayToken s i => strayToken (s + k) i
  | unterminated s i line => unterminated (s + k) i (line + lines)

/-- The node with each of its tokens at another place. -/
def Node.move (g : Span → Span) : Node → Node
  | definition name marker value =>
    definition (name.move g) (marker.move g) (value.map (Token.move g))
  | operation op keyword arguments =>
    operation op (keyword.move g) (arguments.map (Token.move g))

def Program.move (g : Span → Span) (p : Program) : Program :=
  ⟨p.nodes.map (Node.move g)⟩

namespace Token
variable (g : Span → Span) (t : Token)

@[simp] theorem isIdentifier_move : (t.move g).isIdentifier = t.isIdentifier := rfl

@[simp] theorem production?_move : (t.move g).production? = t.production? := rfl

end Token

namespace Node
variable (g : Span → Span) (n : Node)

@[simp] theorem production_move : (n.move g).production = n.production := by
  cases n <;> rfl

@[simp] theorem root_move : (n.move g).root = n.root.move g := by
  cases n <;> rfl

@[simp] theorem target?_move : (n.move g).target? = n.target?.map (Token.move g) := by
  cases n with
  | definition => rfl
  | operation op keyword arguments =>
    rw [move, target?, target?, ← List.map_take, List.find?_map]
    rfl

@[simp] theorem arguments_move : (n.move g).arguments = n.arguments.map (Token.move g) := by
  cases n <;> rfl

@[simp] theorem value_move : (n.move g).value = n.value.map (Token.move g) := by
  cases n <;> rfl

theorem spelling_move : (n.move g).spelling = n.spelling.map (Token.move g) := by
  unfold spelling
  rw [production_move]
  cases n.production <;> simp [Option.toList_map]

end Node

/-! ### Moved runs -/

section
variable (g : Span → Span) (tokens : List Token)

theorem runs_move :
    runs (tokens.map (Token.move g)) =
      ((runs tokens).1.map (List.map (Token.move g)), (runs tokens).2.map (Token.move g)) := by
  induction tokens with
  | nil => rfl
  | cons t rest ih =>
    rw [List.map_cons]
    cases ht : t.isTerminator
    · have ht' : (t.move g).isTerminator = false := ht
      rcases hrest : runs rest with ⟨_ | ⟨run, more⟩, tail⟩
      · rw [runs_cons_of_open ht hrest, runs_cons_of_open ht' (by rw [ih, hrest]; rfl)]
        rfl
      · rw [runs_cons_of_closed ht hrest, runs_cons_of_closed ht' (by rw [ih, hrest]; rfl)]
        rfl
    · have ht' : (t.move g).isTerminator = true := ht
      rw [runs_cons_of_terminator ht, runs_cons_of_terminator ht', ih]
      rfl

theorem closedRuns_move :
    closedRuns (tokens.map (Token.move g)) = (closedRuns tokens).map (List.map (Token.move g)) := by
  rw [← filter_runs, ← filter_runs, runs_move, List.filter_map]
  congr 1
  apply List.filter_congr
  intro run _
  simp

theorem terminated_move : Terminated (tokens.map (Token.move g)) ↔ Terminated tokens := by
  rw [← tail_eq_nil_iff, ← tail_eq_nil_iff, runs_move, List.map_eq_nil_iff]

end

/-! ### Moved statements -/

namespace Operation

theorem refused?_move (g : Span → Span) (op : Operation) (arguments : List Token) :
    op.refused? (arguments.map (Token.move g)) = op.refused? arguments := by
  rw [refused?, refused?, List.zipIdx_map, List.findIdx?_map]
  rfl

end Operation

namespace Statement
variable (g : Span → Span) (k : Nat) (lines : UInt32) (s : Statement)

theorem root_move :
    (s.move g k).root = (s.root.map (Root.move g)).mapError (SyntaxError.raise k lines) := by
  have hroots : (s.move g k).roots = s.roots.map (Root.move g) := by
    rw [roots, roots, List.map_filterMap, move, List.zipIdx_map, List.filterMap_map]
    apply List.filterMap_congr
    intro pair _
    simp [Function.comp_def, Root.move]
  rw [root, root, hroots]
  rcases s.roots with _ | ⟨first, _ | ⟨second, more⟩⟩ <;> rfl

theorem definition_move (root : Root) :
    (s.move g k).definition (root.move g) =
      ((s.definition root).map (Node.move g)).mapError (SyntaxError.raise k lines) := by
  have hindex : (root.move g).index = root.index := rfl
  have hlast : ((s.move g k).tokens.take root.index).getLast? =
      (s.tokens.take root.index).getLast?.map (Token.move g) := by
    rw [move, ← List.map_take, List.getLast?_map]
  have hvalue : (s.move g k).tokens.drop (root.index + 1) =
      (s.tokens.drop (root.index + 1)).map (Token.move g) := List.map_drop.symm
  rw [definition, definition, hindex, hlast, hvalue]
  cases (s.tokens.take root.index).getLast? with
  | none => rfl
  | some name =>
    simp only [Option.map_some, Token.isIdentifier_move]
    by_cases hname : name.isIdentifier = true
    · by_cases hlong : 1 < root.index
      · simp only [hname, hlong, if_true]
        rfl
      · simp only [hname, hlong, if_false]
        rfl
    · simp only [hname]
      rfl

theorem operation_move (root : Root) (op : Operation) :
    (s.move g k).operation (root.move g) op =
      ((s.operation root op).map (Node.move g)).mapError (SyntaxError.raise k lines) := by
  have hindex : (root.move g).index = root.index := rfl
  have harguments : (s.move g k).tokens.drop (root.index + 1) =
      (s.tokens.drop (root.index + 1)).map (Token.move g) := List.map_drop.symm
  rw [operation, operation, operationTaking, operationTaking, hindex, harguments, List.length_map,
    Operation.refused?_move]
  generalize s.tokens.drop (root.index + 1) = arguments
  by_cases hfirst : 0 < root.index
  · simp only [hfirst, if_true]
    rfl
  · by_cases hcount : arguments.length = op.arity.toNat
    · simp only [hfirst, hcount, if_false, ne_eq, not_true]
      cases op.refused? arguments <;> rfl
    · simp only [hfirst, hcount, if_false, ne_eq, not_false_eq_true, if_true]
      rfl

/-- **A moved statement has the moved node, or its error with the number raised.** -/
theorem node_move :
    (s.move g k).node = (s.node.map (Node.move g)).mapError (SyntaxError.raise k lines) := by
  unfold node
  rw [root_move g k lines]
  cases s.root with
  | error e => rfl
  | ok root =>
    show (s.move g k).build (root.move g) = ((s.build root).map _).mapError _
    unfold build
    cases hproduction : root.production with
    | definition =>
      rw [show (root.move g).production = .definition from hproduction]
      exact definition_move g k lines s root
    | operation op =>
      rw [show (root.move g).production = .operation op from hproduction]
      exact operation_move g k lines s root op

theorem error?_move : (s.move g k).error? = s.error?.map (SyntaxError.raise k lines) := by
  unfold error?
  rw [node_move g k lines]
  cases s.node <;> rfl

end Statement

/-! ### Moved programs -/

theorem spelled_move_iff (g : Span → Span) {tokens : List Token} {m : Node} :
    Spelled (tokens.map (Token.move g)) m ↔ ∃ n, Spelled tokens n ∧ n.move g = m := by
  have hplain (n : Node) : Spelled tokens n ↔ (⟨0, tokens⟩ : Statement).node = .ok n :=
    (Statement.node_eq_ok_iff (s := ⟨0, tokens⟩)).symm
  have hmoved : Spelled (tokens.map (Token.move g)) m ↔
      (Statement.move g 0 ⟨0, tokens⟩).node = .ok m :=
    (Statement.node_eq_ok_iff (s := Statement.move g 0 ⟨0, tokens⟩)).symm
  simp only [hmoved, hplain, Statement.node_move g 0 0, mapError_eq_ok_iff]
  cases (⟨0, tokens⟩ : Statement).node <;> simp [Except.map]

/-- What is related to images is related to items, image by image. -/
theorem forall₂_exists_map_iff {α β γ : Type} {r : α → β → Prop} {f : β → γ} {xs : List α}
    {zs : List γ} :
    List.Forall₂ (fun x z => ∃ y, r x y ∧ f y = z) xs zs ↔
      ∃ ys, List.Forall₂ r xs ys ∧ ys.map f = zs := by
  constructor
  · intro h
    induction h with
    | nil => exact ⟨[], .nil, rfl⟩
    | cons hx _ ih =>
      obtain ⟨y, hy, rfl⟩ := hx
      obtain ⟨ys, hys, rfl⟩ := ih
      exact ⟨y :: ys, .cons hy hys, rfl⟩
  · intro h
    obtain ⟨ys, hys, rfl⟩ := h
    rw [List.forall₂_map_right_iff]
    exact hys.imp fun x y hxy => ⟨y, hxy, rfl⟩

namespace Program

/-- **A moved list spells the moved program**, and no other list of its kinds and lexemes
spells another. -/
theorem parse_move_eq_ok_iff (g : Span → Span) {options : Options} {tokens : List Token}
    {q : Program} :
    parse options (tokens.map (Token.move g)) = .ok q ↔
      ∃ p, parse options tokens = .ok p ∧ p.move g = q := by
  simp only [parse_eq_ok_iff, terminated_move, closedRuns_move, List.forall₂_map_left_iff,
    spelled_move_iff, forall₂_exists_map_iff]
  constructor
  · intro h
    obtain ⟨hmode, nodes, hnodes, hq⟩ := h
    exact ⟨⟨nodes⟩, ⟨hmode, hnodes⟩, congrArg Program.mk hq⟩
  · intro h
    obtain ⟨p, ⟨hmode, hnodes⟩, rfl⟩ := h
    exact ⟨hmode, p.nodes, hnodes, rfl⟩

end Program

end CircuitLang
