import CircuitLang.Program
import CircuitLang.Proofs.Forms
import CircuitLang.Proofs.Runs
import Mathlib.Algebra.Group.Nat.Defs
import Mathlib.Data.List.Forall2

/-! The programs that token lists spell.

Both policies accept the same lists with the same programs (`parse_eq_ok_iff`): in
strict mode a list needs a terminator behind everything, and each closed run has to
spell its node. As long as operands and flags are counted together without wrapping
around, that is the grammar of two productions (`Grammatical`), and so reading
succeeds on the lists of that grammar and on no others
(`parse_succeeds_iff_grammatical`). Writing the nodes of a program out again gives
the tokens it was read from (`spelling_of_parse`), whatever the arities. -/
namespace CircuitLang

/-! ### The grammar -/

/-- Operands and flags fit into one word together. -/
def Operation.Exact (op : Operation) : Prop :=
  op.positional.toNat + op.flags.toNat < 2 ^ 64

instance (op : Operation) : Decidable op.Exact :=
  inferInstanceAs (Decidable (op.positional.toNat + op.flags.toNat < 2 ^ 64))

theorem Operation.Exact.arity_toNat {op : Operation} (h : op.Exact) :
    op.arity.toNat = op.positional.toNat + op.flags.toNat := by
  rw [Operation.arity, UInt64.toNat_add, Nat.mod_eq_of_lt h]

/-- The operation of a keyword. -/
def Token.operation? (t : Token) : Option Operation :=
  match t.kind with
  | .keyword op => some op
  | _ => none

theorem Token.mem_operation?_iff {t : Token} {op : Operation} :
    op ∈ t.operation? ↔ t.kind = .keyword op := by
  unfold operation?
  cases t.kind <;> simp

/-- The two productions of the language, each with the node it stands for. -/
inductive Grammatical : List Token → Node → Prop where
  /-- An identifier, the definition marker, and anything that governs nothing. -/
  | definition {name marker : Token} {value : List Token} (hname : name.isIdentifier = true)
      (hmarker : marker.kind = .definition) (hvalue : ∀ t ∈ value, t.production? = none) :
      Grammatical (name :: marker :: value) (.definition name marker value)
  /-- A governing keyword, its operands, and its flags. -/
  | operation {op : Operation} {keyword : Token} {operands flags : List Token}
      (hkeyword : keyword.kind = .keyword op) (hgoverns : op.governs = true)
      (hoperands : operands.length = op.positional.toNat)
      (hoperand : ∀ t ∈ operands, t.isOperand = true) (hflags : flags.length = op.flags.toNat)
      (hflag : ∀ t ∈ flags, t.isLiteral = true) :
      Grammatical (keyword :: (operands ++ flags)) (.operation op keyword (operands ++ flags))

/-- What a node says of the run it is for. -/
structure Node.Describes (n : Node) (run : List Token) : Prop where
  /-- The root is a governing token, and the form is the one it asks for. -/
  root : n.root.production? = some n.production
  /-- The name of a definition is its only argument, and all behind the marker its value. -/
  definition : n.production = .definition →
    ∃ name, run = name :: n.root :: n.value ∧ n.arguments = [name] ∧ n.target? = some name
  /-- All behind the keyword of an operation are its arguments, and it has no value. -/
  operation : ∀ op, n.production = .operation op → run = n.root :: n.arguments ∧ n.value = []

theorem Grammatical.describes {run : List Token} {n : Node} (h : Grammatical run n) :
    n.Describes run := by
  cases h with
  | definition _ hmarker _ =>
    exact ⟨production?_eq_definition_iff.mpr hmarker, fun _ => ⟨_, rfl, rfl, rfl⟩, nofun⟩
  | operation hkeyword hgoverns =>
    exact ⟨production?_eq_operation_iff.mpr ⟨hkeyword, hgoverns⟩, nofun, fun _ _ => ⟨rfl, rfl⟩⟩

theorem Spelled.grammatical {tokens : List Token} {n : Node}
    (hexact : ∀ t ∈ tokens, ∀ op ∈ t.operation?, op.Exact) (h : Spelled tokens n) :
    Grammatical tokens n := by
  cases h with
  | definition hname hmarker hvalue =>
    exact .definition hname (production?_eq_definition_iff.mp hmarker) hvalue
  | @operation op keyword arguments hkeyword hcount haccepted =>
    obtain ⟨hkind, hgoverns⟩ := production?_eq_operation_iff.mp hkeyword
    have hop : op.Exact := hexact keyword (by simp) op (Token.mem_operation?_iff.mpr hkind)
    rw [hop.arity_toNat] at hcount
    obtain ⟨hoperand, hflag⟩ := Operation.refused?_eq_none_iff_take_drop.mp haccepted
    have hform := Grammatical.operation hkind hgoverns
      (by rw [List.length_take]; omega : (arguments.take op.positional.toNat).length = _) hoperand
      (by rw [List.length_drop]; omega : (arguments.drop op.positional.toNat).length = _) hflag
    rwa [List.take_append_drop] at hform

theorem Grammatical.spelled {tokens : List Token} {n : Node}
    (hexact : ∀ t ∈ tokens, ∀ op ∈ t.operation?, op.Exact) (h : Grammatical tokens n) :
    Spelled tokens n := by
  cases h with
  | definition hname hmarker hvalue =>
    exact .definition hname (production?_eq_definition_iff.mpr hmarker) hvalue
  | @operation op keyword operands flags hkind hgoverns hoperands hoperand hflags hflag =>
    have hop : op.Exact := hexact keyword (by simp) op (Token.mem_operation?_iff.mpr hkind)
    refine .operation (production?_eq_operation_iff.mpr ⟨hkind, hgoverns⟩) ?_ ?_
    · rw [hop.arity_toNat, List.length_append, hoperands, hflags]
    · apply Operation.refused?_eq_none_iff_take_drop.mpr
      rw [← hoperands, List.take_left, List.drop_left]
      exact ⟨hoperand, hflag⟩

/-! ### Reading statement by statement -/

theorem mapError_eq_ok_iff {ε ε' α : Type} {x : Except ε α} {f : ε → ε'} {a : α} :
    x.mapError f = .ok a ↔ x = .ok a := by
  constructor
  · intro h
    cases x with
    | error e => cases h
    | ok b =>
      cases h
      rfl
  · intro h
    rw [h]
    rfl

/-- Going through a list succeeds when every item does. -/
theorem mapM_eq_ok_iff {ε α β : Type} {f : α → Except ε β} {items : List α} {results : List β} :
    items.mapM f = .ok results ↔ List.Forall₂ (fun item b => f item = .ok b) items results := by
  induction items generalizing results with
  | nil =>
    rw [List.mapM_nil, List.forall₂_nil_left_iff]
    exact ⟨fun h => (Except.ok.inj h).symm, fun h => h ▸ rfl⟩
  | cons item rest ih =>
    rw [List.mapM_cons, List.forall₂_cons_left_iff]
    cases hitem : f item with
    | error e => simp [bind, Except.bind]
    | ok b =>
      have hbind : (Except.ok b >>= fun b => do return b :: (← rest.mapM f)) = .ok results ↔
          ∃ more, rest.mapM f = .ok more ∧ results = b :: more := by
        cases rest.mapM f <;> simp [bind, Except.bind, pure, Except.pure, eq_comm]
      rw [hbind]
      simp only [ih, Except.ok.injEq]
      exact ⟨fun ⟨more, hmore, h⟩ => ⟨b, more, rfl, hmore, h⟩,
        fun ⟨_, more, hb, hmore, h⟩ => ⟨more, hmore, hb ▸ h⟩⟩

theorem exists_forall₂_iff {α β : Type} {r : α → β → Prop} {xs : List α} :
    (∃ ys, List.Forall₂ r xs ys) ↔ ∀ x ∈ xs, ∃ y, r x y := by
  induction xs with
  | nil => simp
  | cons x xs ih =>
    rw [List.forall_mem_cons, ← ih]
    constructor
    · intro h
      obtain ⟨_, _ | ⟨hy, hys⟩⟩ := h
      exact ⟨⟨_, hy⟩, _, hys⟩
    · intro h
      obtain ⟨⟨y, hy⟩, ys, hys⟩ := h
      exact ⟨y :: ys, .cons hy hys⟩

namespace Statement

/-- Statements without an error all have a node, and picking the nodes keeps them all. -/
theorem forall_error?_eq_none_iff {statements : List Statement} {nodes : List Node} :
    ((∀ s ∈ statements, s.error? = none) ∧
        (statements.filterMap fun s => s.node.toOption) = nodes) ↔
      List.Forall₂ (fun s n => s.node = .ok n) statements nodes := by
  induction statements generalizing nodes with
  | nil => simp [eq_comm]
  | cons s rest ih =>
    rw [List.forall₂_cons_left_iff, List.forall_mem_cons, error?]
    cases hs : s.node with
    | error e => simp
    | ok n =>
      simp only [List.filterMap_cons, hs, Except.toOption, Except.ok.injEq, true_and]
      constructor
      · intro h
        obtain ⟨hrest, rfl⟩ := h
        exact ⟨n, _, rfl, ih.mp ⟨hrest, rfl⟩, rfl⟩
      · intro h
        obtain ⟨n', nodes', rfl, hnodes, rfl⟩ := h
        obtain ⟨hrest, hpicked⟩ := ih.mpr hnodes
        exact ⟨hrest, by rw [← hpicked]; rfl⟩

theorem forall₂_numbered_iff {tokenRuns : List (List Token)} {nodes : List Node} :
    List.Forall₂ (fun s n => s.node = .ok n) (numbered tokenRuns) nodes ↔
      List.Forall₂ Spelled tokenRuns nodes := by
  have hmap := List.forall₂_map_left_iff (R := Spelled) (f := Statement.tokens)
    (l := numbered tokenRuns) (u := nodes)
  rw [numbered_tokens] at hmap
  rw [hmap]
  simp only [node_eq_ok_iff]

end Statement

namespace Program

theorem parseFirst_eq_ok_iff {mode : Mode} {tokens : List Token} {p : Program} :
    parseFirst mode tokens = .ok p ↔
      (Segments.split tokens).tailError? mode = none ∧
        List.Forall₂ (fun s n => s.node = .ok n) (Segments.split tokens).statements p.nodes := by
  rw [← mapM_eq_ok_iff]
  cases htail : (Segments.split tokens).tailError? mode with
  | some e => simp [parseFirst, segment, Segments.check, htail, bind, Except.bind]
  | none =>
    have hfirst : parseFirst mode tokens =
        ((Segments.split tokens).statements.mapM Statement.node).map Program.mk := by
      simp only [parseFirst, segment, Segments.check, htail, bind, Except.bind, pure, Except.pure]
      rfl
    rw [hfirst]
    cases p
    cases (Segments.split tokens).statements.mapM Statement.node <;> simp [Except.map]

theorem parseAll_eq_ok_iff {mode : Mode} {tokens : List Token} {p : Program} :
    parseAll mode tokens = .ok p ↔
      (Segments.split tokens).tailError? mode = none ∧
        List.Forall₂ (fun s n => s.node = .ok n) (Segments.split tokens).statements p.nodes := by
  have herrors : errors mode tokens = [] ↔
      (∀ s ∈ (Segments.split tokens).statements, s.error? = none) ∧
        (Segments.split tokens).tailError? mode = none := by
    simp [errors]
  rw [← Statement.forall_error?_eq_none_iff, and_left_comm, ← and_assoc, ← herrors]
  unfold parseAll
  rcases errors mode tokens with _ | ⟨e, _ | ⟨e', es⟩⟩
  · cases p
    simp [ofNodes]
  · simp [ofNodes]
  · simp [ofNodes]

/-- **Reading succeeds under either policy when the tail is acceptable and every closed
run spells a node**, and the program is made of those nodes. -/
theorem parse_eq_ok_iff {options : Options} {tokens : List Token} {p : Program} :
    parse options tokens = .ok p ↔
      (options.mode = .strict → Terminated tokens) ∧
        List.Forall₂ Spelled (closedRuns tokens) p.nodes := by
  rw [← Segments.tailError?_eq_none_iff, ← Statement.forall₂_numbered_iff,
    ← Segments.split_statements]
  unfold parse
  cases options.policy with
  | abort =>
    rw [← parseFirst_eq_ok_iff]
    exact mapError_eq_ok_iff
  | collect => exact parseAll_eq_ok_iff

theorem parse_eq_ok_iff_of_policy {mode : Mode} {policy : Policy} (other : Policy)
    {tokens : List Token} {p : Program} :
    parse ⟨mode, policy⟩ tokens = .ok p ↔ parse ⟨mode, other⟩ tokens = .ok p := by
  rw [parse_eq_ok_iff, parse_eq_ok_iff]

/-- **Reading succeeds on the lists of the grammar and on no others**: in strict mode a
terminator stands behind everything, and each closed run is of one of the two
productions. The nodes of the program are those of the closed runs, in order, each with
the form, the root, the arguments and the value of its run. -/
theorem parse_succeeds_iff_grammatical (options : Options) (tokens : List Token)
    (hexact : ∀ t ∈ tokens, ∀ op ∈ t.operation?, op.Exact) :
    ((∃ p, parse options tokens = .ok p) ↔
        (options.mode = .strict → Terminated tokens) ∧
          ∀ run ∈ closedRuns tokens, ∃ n, Grammatical run n) ∧
      ∀ p, parse options tokens = .ok p →
        List.Forall₂ (fun run n => Grammatical run n ∧ n.Describes run)
          (closedRuns tokens) p.nodes := by
  have hruns : ∀ run ∈ closedRuns tokens, ∀ t ∈ run, ∀ op ∈ t.operation?, op.Exact :=
    fun run hrun t ht => hexact t (mem_of_mem_closedRuns hrun ht)
  constructor
  · constructor
    · intro h
      obtain ⟨p, hp⟩ := h
      obtain ⟨hmode, hspelled⟩ := parse_eq_ok_iff.mp hp
      refine ⟨hmode, fun run hrun => ?_⟩
      obtain ⟨n, hn⟩ := exists_forall₂_iff.mp ⟨p.nodes, hspelled⟩ run hrun
      exact ⟨n, hn.grammatical (hruns run hrun)⟩
    · intro h
      obtain ⟨hmode, hgrammatical⟩ := h
      have hspelled : ∀ run ∈ closedRuns tokens, ∃ n, Spelled run n := fun run hrun =>
        (hgrammatical run hrun).imp fun n hn => hn.spelled (hruns run hrun)
      obtain ⟨nodes, hnodes⟩ := exists_forall₂_iff.mpr hspelled
      exact ⟨⟨nodes⟩, parse_eq_ok_iff.mpr ⟨hmode, hnodes⟩⟩
  · intro p hp
    have hspelled := (List.forall₂_and_left _ _).mpr ⟨hruns, (parse_eq_ok_iff.mp hp).2⟩
    refine hspelled.imp fun run n h => ?_
    have hform := h.2.grammatical h.1
    exact ⟨hform, hform.describes⟩

/-- A gate with two operands and a flag, between empty statements. -/
theorem parse_succeeds_on_multiplexer :
    let op : Operation := ⟨"MUX", 2, 1, true⟩
    let operands : List Token := [⟨.identifier "a", ⟨1, 6, 6⟩, "a"⟩, ⟨.literal false, ⟨1, 8, 8⟩, "0"⟩]
    let flags : List Token := [⟨.literal true, ⟨1, 10, 10⟩, "1"⟩]
    let tokens : List Token :=
      ⟨.terminator, ⟨1, 1, 1⟩, ";"⟩ :: ⟨.keyword op, ⟨1, 2, 4⟩, "MUX"⟩ :: (operands ++ flags ++
        [⟨.terminator, ⟨1, 11, 11⟩, ";"⟩, ⟨.terminator, ⟨2, 1, 1⟩, ";"⟩])
    (∀ t ∈ tokens, ∀ op ∈ t.operation?, op.Exact) ∧
      ∃ p n, parse ⟨.strict, .collect⟩ tokens = .ok p ∧ p.nodes = [n] ∧
        n.Describes (⟨.keyword op, ⟨1, 2, 4⟩, "MUX"⟩ :: (operands ++ flags)) := by
  intro op operands flags tokens
  have hexact : ∀ t ∈ tokens, ∀ op ∈ t.operation?, op.Exact := by decide
  have hruns : closedRuns tokens = [⟨.keyword op, ⟨1, 2, 4⟩, "MUX"⟩ :: (operands ++ flags)] := by
    decide
  obtain ⟨hsucceeds, hnodes⟩ := parse_succeeds_iff_grammatical ⟨.strict, .collect⟩ tokens hexact
  rw [hruns, List.forall_mem_singleton] at hsucceeds
  obtain ⟨p, hp⟩ := hsucceeds.mpr
    ⟨by decide, _, .operation rfl rfl rfl (by decide) rfl (by decide)⟩
  have hdescribed := hnodes p hp
  rw [hruns, List.forall₂_cons_left_iff] at hdescribed
  obtain ⟨n, more, ⟨-, hn⟩, hmore, hp'⟩ := hdescribed
  cases hmore
  exact ⟨hexact, p, n, hp, hp', hn⟩

/-! ### Writing a program out again -/

end Program

/-- The tokens of a node in the order of its statement: a definition has its target
and its root before the value, an operation its root before the arguments. -/
def Node.spelling (n : Node) : List Token :=
  match n.production with
  | .definition => n.target?.toList ++ n.root :: n.value
  | .operation _ => n.root :: n.arguments

theorem Spelled.spelling {tokens : List Token} {n : Node} (h : Spelled tokens n) :
    n.spelling = tokens := by
  cases h <;> rfl

theorem map_spelling {tokenRuns : List (List Token)} {nodes : List Node}
    (h : List.Forall₂ Spelled tokenRuns nodes) : nodes.map Node.spelling = tokenRuns := by
  induction h with
  | nil => rfl
  | cons hn _ ih => rw [List.map_cons, hn.spelling, ih]

/-- Nodes read from runs are written out as those runs, one behind the other. -/
theorem flatMap_spelling {tokenRuns : List (List Token)} {nodes : List Node}
    (h : List.Forall₂ Spelled tokenRuns nodes) :
    nodes.flatMap Node.spelling = tokenRuns.flatten := by
  rw [List.flatMap_def, map_spelling h]

/-- The tokens that count in a mode: all of them, or those up to the last terminator. -/
def Mode.part : Mode → List Token → List Token
  | .strict, tokens => tokens
  | .lenient, tokens => closedPart tokens

namespace Program

/-- **Reading loses, adds and moves no token**: the nodes of a program, written out one
behind the other, are the tokens it was read from without the terminators, and there
are as many nodes as closed runs that are not empty. -/
theorem spelling_of_parse {options : Options} {tokens : List Token} {p : Program}
    (h : parse options tokens = .ok p) :
    p.nodes.flatMap Node.spelling =
        ((options.mode.part tokens).filter fun t => !t.isTerminator) ∧
      p.size = (closedRuns tokens).length := by
  obtain ⟨hmode, hspelled⟩ := parse_eq_ok_iff.mp h
  have hpart : options.mode.part tokens = closedPart tokens := by
    cases hm : options.mode with
    | strict => exact (closedPart_eq_self (hmode hm)).symm
    | lenient => rfl
  rw [hpart, flatMap_spelling hspelled, flatten_closedRuns]
  exact ⟨rfl, hspelled.length_eq.symm⟩

/-- Two nodes among empty statements, and a tail that is dropped. -/
theorem spelling_before_tail :
    let out : Token := ⟨.keyword ⟨"OUT", 1, 0, true⟩, ⟨2, 1, 3⟩, "OUT"⟩
    let name : Token := ⟨.identifier "a", ⟨1, 1, 1⟩, "a"⟩
    let marker : Token := ⟨.definition, ⟨1, 2, 2⟩, ":"⟩
    let value : Token := ⟨.literal true, ⟨1, 3, 3⟩, "1"⟩
    let stop : Token := ⟨.terminator, ⟨1, 4, 4⟩, ";"⟩
    let tokens := [stop, name, marker, value, stop, stop, out, name, stop, name, name]
    let p : Program := ⟨[.definition name marker [value], .operation ⟨"OUT", 1, 0, true⟩ out [name]]⟩
    parse ⟨.lenient, .abort⟩ tokens = .ok p ∧
      p.nodes.flatMap Node.spelling = [name, marker, value, out, name] := by
  intro out name marker value stop tokens p
  have hparse : parse ⟨.lenient, .abort⟩ tokens = .ok p := by decide
  exact ⟨hparse, (spelling_of_parse hparse).1.trans (by decide)⟩

end Program

end CircuitLang
