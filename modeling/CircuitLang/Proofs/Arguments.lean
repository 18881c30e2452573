import CircuitLang.Proofs.Stopping

/-! What an operation makes of its arguments.

The arguments behind a keyword are held against the sum of operands and flags. Where carries
are lost that is the sum modulo `2 ^ 64`, and so the sum itself exactly as long as it fits
into a word; any other operation has a node with fewer arguments than it takes. Where sums are
checked it is always the sum itself, and with any other operation the program stops
(`counted_exactly_iff`).

The target of a node is the first name among its operands, however many literals stand in
front of it (`target_is_first_name`). It is a matter of the first operand alone unless a
name stands behind a literal. -/
namespace CircuitLang

/-! ### How many arguments there are -/

/-- The statement has a node only with `k` tokens behind the first one, and where it has none
for their number, `k` is told to be the right one. -/
structure Statement.Counted (arithmetic : Arithmetic) (s : Statement) (k : Nat) : Prop where
  accepted : ∀ n, s.nodeIn arithmetic = some (.ok n) → s.tokens.tail.length = k
  told : ∀ ordinal index name expected found,
    s.nodeIn arithmetic = some (.error (.arityMismatch ordinal index name expected found)) →
      expected = k

namespace Operation
variable (op : Operation)

theorem arity_toNat : op.arity.toNat = (op.positional.toNat + op.flags.toNat) % 2 ^ 64 := by
  rw [arity, UInt64.toNat_add]

theorem refused?_replicate {t : Token} (ht : t.isLiteral = true) (k : Nat) :
    op.refused? (List.replicate k t) = none := by
  rw [refused?_eq_none_iff]
  intro i _
  rw [List.getElem_replicate, accepts]
  split
  · rw [Token.isOperand, ht, Bool.or_true]
  · exact ht

end Operation

namespace Statement
variable {s : Statement} {op : Operation} {keyword : Token}

theorem SoleRoot.tokens_eq (h : s.SoleRoot 0 keyword) : s.tokens = keyword :: s.tokens.tail := by
  have hfirst := h.token
  rw [← List.head?_eq_getElem?] at hfirst
  exact List.eq_cons_of_mem_head? hfirst

theorem soleRoot_of_spelled {arguments : List Token}
    (h : Spelled s.tokens (.operation op keyword arguments)) : s.SoleRoot 0 keyword := by
  generalize htokens : s.tokens = tokens at h
  cases h with
  | operation hkeyword _ haccepted =>
    have hroot : s.root = .ok ⟨keyword, .operation op, 0⟩ :=
      root_eq_ok_iff.mpr ⟨[], arguments, htokens, by simp [Rootless], hkeyword, rfl,
        Operation.rootless_of_refused? haccepted⟩
    exact (soleRoot_of_root hroot).1

theorem SoleRoot.stops_iff (h : s.SoleRoot 0 keyword) (hkind : keyword.kind = .keyword op) :
    s.Stops .checked ↔ ¬ op.Exact := by
  constructor
  · intro hstops
    obtain ⟨-, keyword', op', hroot, hkind', hexact⟩ := hstops
    have hsame : keyword' = keyword := Option.some.inj (hroot.token.symm.trans h.token)
    rw [hsame, hkind] at hkind'
    cases hkind'
    exact hexact
  · exact fun hexact => ⟨rfl, keyword, op, h, hkind, hexact⟩

theorem SoleRoot.counted_modulo (h : s.SoleRoot 0 keyword) (hkind : keyword.kind = .keyword op) :
    s.Counted .wrapping ((op.positional.toNat + op.flags.toNat) % 2 ^ 64) := by
  let root : Root := ⟨keyword, .operation op, 0⟩
  have haround : s.tokens = [] ++ root.token :: s.tokens.tail := h.tokens_eq
  have hnode : s.nodeIn .wrapping = some (s.operation root op) := by
    rw [nodeIn_of_not_stops s.not_stops_wrapping, h.node_of_keyword hkind]
  rw [← op.arity_toNat]
  constructor
  · intro n hn
    rw [hnode, Option.some_inj, operation_eq_ok_iff root haround rfl] at hn
    exact hn.2.1
  · intro ordinal index name expected found herror
    rw [hnode, Option.some_inj] at herror
    rcases operation_eq_error haround rfl herror with
      ⟨hstray, -⟩ | ⟨-, ⟨hmismatch, -⟩ | ⟨-, k, -, hunfit⟩⟩
    · cases hstray
    · cases hmismatch
      rfl
    · cases hunfit

/-- Where sums are checked, arguments are held against the sum itself, or not at all. -/
theorem SoleRoot.counted_checked (h : s.SoleRoot 0 keyword) (hkind : keyword.kind = .keyword op) :
    s.Counted .checked (op.positional.toNat + op.flags.toNat) := by
  by_cases hexact : op.Exact
  · have hsame : s.nodeIn .checked = s.nodeIn .wrapping := by
      rw [nodeIn_of_not_stops s.not_stops_wrapping,
        nodeIn_of_not_stops fun hstops => (h.stops_iff hkind).mp hstops hexact]
    have hcounted := h.counted_modulo hkind
    rw [Nat.mod_eq_of_lt hexact] at hcounted
    constructor
    · rw [hsame]
      exact hcounted.accepted
    · rw [hsame]
      exact hcounted.told
  · have hnone := ((h.stops_iff hkind).mpr hexact).nodeIn_eq
    constructor <;> simp [hnone]

end Statement

/-- **Arguments are counted exactly as long as their sum fits into a word.** Let the keyword of
an operation be the only root of a statement and its first token. Where carries are lost, the
tokens behind it are held against the sum of operands and flags modulo `2 ^ 64`, and that this
is the sum itself for all such statements is true of the operations whose sum is below
`2 ^ 64`, and of no others. Where sums are checked, they are held against the sum itself, and
with any of those other operations the program stops. -/
theorem counted_exactly_iff {op : Operation} (hgoverns : op.governs = true) :
    (∀ (s : Statement) (keyword : Token), s.SoleRoot 0 keyword → keyword.kind = .keyword op →
        s.nodeIn .wrapping = some s.node ∧
          s.Counted .wrapping ((op.positional.toNat + op.flags.toNat) % 2 ^ 64)) ∧
      ((∀ (s : Statement) (keyword : Token), s.SoleRoot 0 keyword → keyword.kind = .keyword op →
          s.Counted .wrapping (op.positional.toNat + op.flags.toNat)) ↔
        op.Exact) ∧
        ∀ (s : Statement) (keyword : Token), s.SoleRoot 0 keyword → keyword.kind = .keyword op →
          s.Counted .checked (op.positional.toNat + op.flags.toNat) ∧
            (s.nodeIn .checked = none ↔ ¬ op.Exact) := by
  refine ⟨fun s keyword hroot hkind => ⟨Statement.nodeIn_of_not_stops s.not_stops_wrapping,
    hroot.counted_modulo hkind⟩, ⟨?_, ?_⟩, fun s keyword hroot hkind =>
      ⟨hroot.counted_checked hkind, Statement.nodeIn_eq_none_iff.trans (hroot.stops_iff hkind)⟩⟩
  · intro hcounted
    -- As many literals as the word says are acceptable behind the keyword.
    let keyword : Token := ⟨.keyword op, ⟨1, 1, 1⟩, op.name⟩
    let arguments : List Token := .replicate op.arity.toNat ⟨.literal true, ⟨1, 1, 1⟩, "1"⟩
    let s : Statement := ⟨1, keyword :: arguments⟩
    have hspelled : Spelled s.tokens (.operation op keyword arguments) :=
      .operation (production?_eq_operation_iff.mpr ⟨rfl, hgoverns⟩) List.length_replicate
        (op.refused?_replicate rfl _)
    have hnode : s.nodeIn .wrapping = some (.ok (.operation op keyword arguments)) := by
      rw [Statement.nodeIn_of_not_stops s.not_stops_wrapping,
        Statement.node_eq_ok_iff.mpr hspelled]
    have hcount := (hcounted s keyword (Statement.soleRoot_of_spelled hspelled) rfl).accepted _ hnode
    have hlength : s.tokens.tail.length = op.arity.toNat := List.length_replicate
    rw [Operation.Exact, ← hcount, hlength]
    exact op.arity.toNat_lt
  · intro hexact s keyword hroot hkind
    have hcounted := hroot.counted_modulo hkind
    rwa [Nat.mod_eq_of_lt hexact] at hcounted

/-- A keyword alone, whose operands and flags together are one more than a word holds. -/
theorem counted_of_full_word :
    let op : Operation := ⟨"NOP", 18446744073709551615, 1, true⟩
    let s : Statement := ⟨1, [⟨.keyword op, ⟨1, 1, 3⟩, "NOP"⟩]⟩
    op.governs = true ∧ (∃ n, s.nodeIn .wrapping = some (.ok n)) ∧ s.Counted .wrapping 0 ∧
      (¬ ∀ (s : Statement) (keyword : Token), s.SoleRoot 0 keyword → keyword.kind = .keyword op →
        s.Counted .wrapping (op.positional.toNat + op.flags.toNat)) ∧
        s.nodeIn .checked = none := by
  intro op s
  have hroot : s.SoleRoot 0 ⟨.keyword op, ⟨1, 1, 3⟩, "NOP"⟩ := ⟨by decide, rfl⟩
  have hgoverns : op.governs = true := rfl
  have hexact : ¬ op.Exact := by decide
  obtain ⟨hmodulo, hexactly, hchecked⟩ := counted_exactly_iff hgoverns
  have hsum : (op.positional.toNat + op.flags.toNat) % 2 ^ 64 = 0 := by decide
  rw [hsum] at hmodulo
  refine ⟨hgoverns, ⟨.operation op ⟨.keyword op, ⟨1, 1, 3⟩, "NOP"⟩ [], by decide⟩,
    (hmodulo s _ hroot rfl).2, ?_, (hchecked s _ hroot rfl).2.mpr hexact⟩
  rwa [hexactly]

/-- Where carries are lost, an operation can be accepted with fewer arguments than it takes, and
the program stops at that statement where sums are checked. -/
theorem fewer_arguments_accepted :
    let op : Operation := ⟨"NOP", 18446744073709551615, 1, true⟩
    let keyword : Token := ⟨.keyword op, ⟨1, 1, 3⟩, "NOP"⟩
    let s : Statement := ⟨1, [keyword]⟩
    s.SoleRoot 0 keyword ∧ s.nodeIn .wrapping = some (.ok (.operation op keyword [])) ∧
      s.nodeIn .checked = none ∧
        ¬ ∀ (op : Operation) (s : Statement) (keyword : Token), s.SoleRoot 0 keyword →
          keyword.kind = .keyword op →
            s.Counted .wrapping (op.positional.toNat + op.flags.toNat) := by
  intro op keyword s
  have hroot : s.SoleRoot 0 keyword := ⟨by decide, rfl⟩
  have hnode : s.nodeIn .wrapping = some (.ok (.operation op keyword [])) := by decide
  refine ⟨hroot, hnode, by decide, fun h => ?_⟩
  exact absurd ((h op s keyword hroot rfl).accepted _ hnode) (by decide)

/-! ### The target -/

namespace Node

/-- The arguments in front of the flags. -/
def operands : Node → List Token
  | definition .. => []
  | operation op _ arguments => arguments.take op.positional.toNat

/-- The first operand, if it is a name. -/
def leadingName? (n : Node) : Option Token :=
  n.operands.head?.filter Token.isIdentifier

end Node

theorem Token.isLiteral_eq_not_isIdentifier {t : Token} (h : t.isOperand = true) :
    t.isLiteral = !t.isIdentifier := by
  unfold isOperand isIdentifier isLiteral at h
  unfold isIdentifier isLiteral
  cases hkind : t.kind <;> simp_all

theorem Spelled.isOperand_of_mem_operands {tokens : List Token} {n : Node} (h : Spelled tokens n) :
    ∀ t ∈ n.operands, t.isOperand = true := by
  cases h with
  | definition => simp [Node.operands]
  | operation _ _ haccepted => exact (Operation.refused?_eq_none_iff_take_drop.mp haccepted).1

theorem Node.target?_of_operation {n : Node} {op : Operation} (h : n.production = .operation op) :
    n.target? = n.operands.find? Token.isIdentifier := by
  cases n with
  | definition => cases h
  | operation => rfl

section
variable {operands : List Token}

/-- No name is found among operands that are literals, and only among those. -/
theorem find?_isIdentifier_eq_none_iff (h : ∀ t ∈ operands, t.isOperand = true) :
    operands.find? Token.isIdentifier = none ↔ ∀ t ∈ operands, t.isLiteral = true := by
  rw [List.find?_eq_none]
  refine forall₂_congr fun t ht => ?_
  rw [Token.isLiteral_eq_not_isIdentifier (h t ht), Bool.not_eq_true, Bool.not_eq_true']

/-- The name that is found stands behind literals. -/
theorem find?_isIdentifier_eq_some_iff (h : ∀ t ∈ operands, t.isOperand = true) {t : Token} :
    operands.find? Token.isIdentifier = some t ↔
      t.isIdentifier = true ∧ ∃ before after, operands = before ++ t :: after ∧
        ∀ u ∈ before, u.isLiteral = true := by
  rw [List.find?_eq_some_iff_append]
  refine and_congr_right fun _ => exists₂_congr fun before after => ?_
  refine and_congr_right fun hoperands => forall₂_congr fun u hu => ?_
  rw [Token.isLiteral_eq_not_isIdentifier (h u (by simp [hoperands, hu]))]

/-- Looking further than the first operand makes a difference where that is a literal and a
name stands behind it. -/
theorem find?_isIdentifier_eq_filter_head?_iff (h : ∀ t ∈ operands, t.isOperand = true) :
    operands.find? Token.isIdentifier = operands.head?.filter Token.isIdentifier ↔
      (∃ t, operands.head? = some t ∧ t.isIdentifier = true) ∨
        ∀ t ∈ operands, t.isLiteral = true := by
  rw [← find?_isIdentifier_eq_none_iff h]
  cases operands with
  | nil => simp
  | cons first rest =>
    rw [List.head?_cons]
    cases hfirst : first.isIdentifier
    · rw [Option.filter_some_neg hfirst]
      simp [hfirst]
    · rw [List.find?_cons_of_pos hfirst, Option.filter_some_pos hfirst]
      simp [hfirst]

end

/-- **The target of an operation is the first name among its operands**: it stands behind
literals only, and there is none if all operands are literals. It is a matter of the first
operand alone, and none if that is no name, exactly as long as the first operand is a name
or no operand is. -/
theorem target_is_first_name {s : Statement} {n : Node} {op : Operation} (h : s.node = .ok n)
    (hop : n.production = .operation op) :
    (∀ t, n.target? = some t ↔
        t.isIdentifier = true ∧ ∃ before after, n.operands = before ++ t :: after ∧
          ∀ u ∈ before, u.isLiteral = true) ∧
      (n.target? = none ↔ ∀ t ∈ n.operands, t.isLiteral = true) ∧
        (n.target? = n.leadingName? ↔
          (∃ t, n.operands.head? = some t ∧ t.isIdentifier = true) ∨
            ∀ t ∈ n.operands, t.isLiteral = true) := by
  have hoperand := (Statement.node_eq_ok_iff.mp h).isOperand_of_mem_operands
  rw [Node.target?_of_operation hop]
  exact ⟨fun t => find?_isIdentifier_eq_some_iff hoperand, find?_isIdentifier_eq_none_iff hoperand,
    find?_isIdentifier_eq_filter_head?_iff hoperand⟩

/-- A name behind a literal, in front of a flag. -/
theorem target_behind_literal :
    let op : Operation := ⟨"MUX", 2, 1, true⟩
    let name : Token := ⟨.identifier "a", ⟨1, 7, 7⟩, "a"⟩
    let arguments : List Token :=
      [⟨.literal true, ⟨1, 5, 5⟩, "1"⟩, name, ⟨.literal false, ⟨1, 9, 9⟩, "0"⟩]
    let n : Node := .operation op ⟨.keyword op, ⟨1, 1, 3⟩, "MUX"⟩ arguments
    (⟨1, ⟨.keyword op, ⟨1, 1, 3⟩, "MUX"⟩ :: arguments⟩ : Statement).node = .ok n ∧
      n.target? = some name ∧ n.target? ≠ n.leadingName? := by
  intro op name arguments n
  have hnode : (⟨1, ⟨.keyword op, ⟨1, 1, 3⟩, "MUX"⟩ :: arguments⟩ : Statement).node = .ok n := by
    decide
  refine ⟨hnode, ((target_is_first_name hnode rfl).1 name).mpr ⟨rfl, [arguments[0]], [], rfl, ?_⟩,
    by decide⟩
  simp [arguments, Token.isLiteral]

/-- A node can have a target though its first operand is a literal. -/
theorem later_operand_is_target :
    ¬ ∀ (s : Statement) (n : Node) (op : Operation), s.node = .ok n →
      n.production = .operation op → n.target? = n.leadingName? := by
  intro h
  let op : Operation := ⟨"MUX", 2, 0, true⟩
  let keyword : Token := ⟨.keyword op, ⟨1, 1, 3⟩, "MUX"⟩
  let arguments : List Token := [⟨.literal true, ⟨1, 5, 5⟩, "1"⟩, ⟨.identifier "a", ⟨1, 7, 7⟩, "a"⟩]
  have hnode : (⟨1, keyword :: arguments⟩ : Statement).node =
      .ok (.operation op keyword arguments) := by
    decide
  exact absurd (h _ _ op hnode rfl) (by decide)

end CircuitLang
