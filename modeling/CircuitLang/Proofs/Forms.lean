import CircuitLang.Node

/-! Which statements have a node.

A statement has one exactly when a single token governs it and what stands around
that token is what its production asks for: an identifier alone before a definition
marker, nothing before a keyword and acceptable arguments behind it. `Spelled` says
this of the tokens of a statement, and `node_eq_ok_iff` that reading a statement
comes to a node in no other case. The number of arguments is the operation's arity
as the program counts it, in a word. -/
namespace CircuitLang

/-- No token of the list governs a statement. -/
def Rootless (tokens : List Token) : Prop :=
  ∀ t ∈ tokens, t.production? = none

/-- The tokens of a statement, and the node that is read from them. -/
inductive Spelled : List Token → Node → Prop where
  | definition {name marker : Token} {value : List Token} (hname : name.isIdentifier = true)
      (hmarker : marker.production? = some .definition) (hvalue : Rootless value) :
      Spelled (name :: marker :: value) (.definition name marker value)
  | operation {op : Operation} {keyword : Token} {arguments : List Token}
      (hkeyword : keyword.production? = some (.operation op))
      (hcount : arguments.length = op.arity.toNat) (haccepted : op.refused? arguments = none) :
      Spelled (keyword :: arguments) (.operation op keyword arguments)

/-! ### Tokens that govern nothing -/

theorem production?_of_isIdentifier {t : Token} (h : t.isIdentifier = true) :
    t.production? = none := by
  unfold Token.isIdentifier at h
  unfold Token.production?
  cases hkind : t.kind <;> simp_all

theorem production?_of_isLiteral {t : Token} (h : t.isLiteral = true) : t.production? = none := by
  unfold Token.isLiteral at h
  unfold Token.production?
  cases hkind : t.kind <;> simp_all

theorem production?_of_isOperand {t : Token} (h : t.isOperand = true) : t.production? = none := by
  rcases Bool.or_eq_true_iff.mp h with h | h
  · exact production?_of_isIdentifier h
  · exact production?_of_isLiteral h

theorem production?_of_accepts {op : Operation} {i : Nat} {t : Token} (h : op.accepts i t = true) :
    t.production? = none := by
  unfold Operation.accepts at h
  split at h
  · exact production?_of_isOperand h
  · exact production?_of_isLiteral h

theorem production?_eq_definition_iff {t : Token} :
    t.production? = some .definition ↔ t.kind = .definition := by
  unfold Token.production?
  cases t.kind <;> simp

theorem production?_eq_operation_iff {t : Token} {op : Operation} :
    t.production? = some (.operation op) ↔ t.kind = .keyword op ∧ op.governs = true := by
  unfold Token.production?
  cases t.kind with
  | keyword op' =>
    simp only [Option.ite_none_right_eq_some, Option.some.injEq, Production.operation.injEq,
      Kind.keyword.injEq]
    constructor
    · intro h
      obtain ⟨hgoverns, rfl⟩ := h
      exact ⟨rfl, hgoverns⟩
    · intro h
      obtain ⟨rfl, hgoverns⟩ := h
      exact ⟨hgoverns, rfl⟩
  | _ => simp

/-! ### Arguments -/

namespace Operation

theorem refused?_eq_none_iff {op : Operation} {arguments : List Token} :
    op.refused? arguments = none ↔
      ∀ (i : Nat) (hi : i < arguments.length), op.accepts i arguments[i] = true := by
  simp only [refused?, List.findIdx?_eq_none_iff, List.forall_mem_iff_forall_getElem]
  simp

/-- Acceptable arguments are operands as far as the operation takes any, and literals
behind them. -/
theorem refused?_eq_none_iff_take_drop {op : Operation} {arguments : List Token} :
    op.refused? arguments = none ↔
      (∀ t ∈ arguments.take op.positional.toNat, t.isOperand = true) ∧
        ∀ t ∈ arguments.drop op.positional.toNat, t.isLiteral = true := by
  rw [refused?_eq_none_iff]
  constructor
  · intro h
    constructor
    · intro t ht
      obtain ⟨i, hi, rfl⟩ := List.mem_take_iff_getElem.mp ht
      have haccepts := h i (by omega)
      rwa [accepts, if_pos (by omega)] at haccepts
    · intro t ht
      obtain ⟨i, hi, rfl⟩ := List.mem_drop_iff_getElem.mp ht
      have haccepts := h (op.positional.toNat + i) (by omega)
      rwa [accepts, if_neg (by omega)] at haccepts
  · intro h i hi
    obtain ⟨hoperands, hliterals⟩ := h
    unfold accepts
    by_cases hlt : i < op.positional.toNat
    · rw [if_pos hlt]
      exact hoperands _ (List.mem_take_iff_getElem.mpr ⟨i, by omega, rfl⟩)
    · have hsame : op.positional.toNat + (i - op.positional.toNat) = i := by omega
      rw [if_neg hlt]
      apply hliterals
      apply List.mem_drop_iff_getElem.mpr
      exact ⟨i - op.positional.toNat, by omega, by simp only [hsame]⟩

theorem rootless_of_refused? {op : Operation} {arguments : List Token}
    (h : op.refused? arguments = none) : Rootless arguments := by
  intro t ht
  obtain ⟨i, hi, rfl⟩ := List.mem_iff_getElem.mp ht
  exact production?_of_accepts (refused?_eq_none_iff.mp h i hi)

end Operation

namespace Statement

/-! ### Roots -/

/-- The governing tokens of a list whose first token is number `start`. -/
def rootsFrom (start : Nat) (tokens : List Token) : List Root :=
  (tokens.zipIdx start).filterMap fun (t, i) => t.production?.map fun p => ⟨t, p, i⟩

theorem roots_eq_rootsFrom (s : Statement) : s.roots = rootsFrom 0 s.tokens := rfl

theorem rootsFrom_cons_of_none {t : Token} (h : t.production? = none) (start : Nat)
    (rest : List Token) : rootsFrom start (t :: rest) = rootsFrom (start + 1) rest := by
  simp [rootsFrom, h]

theorem rootsFrom_cons_of_some {t : Token} {p : Production} (h : t.production? = some p)
    (start : Nat) (rest : List Token) :
    rootsFrom start (t :: rest) = ⟨t, p, start⟩ :: rootsFrom (start + 1) rest := by
  simp [rootsFrom, h]

theorem rootsFrom_eq_nil_iff {start : Nat} {tokens : List Token} :
    rootsFrom start tokens = [] ↔ Rootless tokens := by
  induction tokens generalizing start with
  | nil => simp [rootsFrom, Rootless]
  | cons t rest ih =>
    cases hp : t.production? with
    | none => simp [rootsFrom_cons_of_none hp, ih, Rootless, hp]
    | some p => simp [rootsFrom_cons_of_some hp, Rootless, hp]

/-- The first governing token stands behind tokens that govern nothing, and the others
stand behind it. -/
theorem rootsFrom_eq_cons_iff {start : Nat} {tokens : List Token} {root : Root}
    {others : List Root} :
    rootsFrom start tokens = root :: others ↔
      ∃ before after, tokens = before ++ root.token :: after ∧ Rootless before ∧
        root.token.production? = some root.production ∧ root.index = start + before.length ∧
        rootsFrom (root.index + 1) after = others := by
  induction tokens generalizing start with
  | nil => simp [rootsFrom]
  | cons t rest ih =>
    cases hp : t.production? with
    | none =>
      rw [rootsFrom_cons_of_none hp, ih]
      constructor
      · intro h
        obtain ⟨before, after, rfl, hbefore, hroot, hindex, hothers⟩ := h
        refine ⟨t :: before, after, rfl, ?_, hroot, ?_, hothers⟩
        · simpa [Rootless, hp] using hbefore
        · rw [hindex, List.length_cons]
          omega
      · intro h
        obtain ⟨_ | ⟨t', before⟩, after, htokens, hbefore, hroot, hindex, hothers⟩ := h
        · cases htokens
          rw [hp] at hroot
          cases hroot
        · cases htokens
          refine ⟨before, after, rfl, fun u hu => hbefore u (by simp [hu]), hroot, ?_, hothers⟩
          rw [hindex, List.length_cons]
          omega
    | some p =>
      rw [rootsFrom_cons_of_some hp]
      constructor
      · intro h
        obtain ⟨rfl, rfl⟩ := List.cons.inj h
        exact ⟨[], rest, rfl, by simp [Rootless], hp, rfl, rfl⟩
      · intro h
        obtain ⟨_ | ⟨t', before⟩, after, htokens, hbefore, hroot, hindex, hothers⟩ := h
        · cases htokens
          obtain ⟨token, production, index⟩ := root
          rw [hp] at hroot
          cases hroot
          cases hindex
          rw [← hothers]
        · cases htokens
          have hnone := hbefore t (by simp)
          rw [hp] at hnone
          cases hnone

/-- A statement has a root when exactly one of its tokens governs. -/
theorem root_eq_ok_iff {s : Statement} {root : Root} :
    s.root = .ok root ↔
      ∃ before after, s.tokens = before ++ root.token :: after ∧ Rootless before ∧
        root.token.production? = some root.production ∧ root.index = before.length ∧
        Rootless after := by
  have hsingle : s.root = .ok root ↔ s.roots = [root] := by
    unfold Statement.root
    rcases s.roots with _ | ⟨first, _ | ⟨second, more⟩⟩ <;> simp
  rw [hsingle, roots_eq_rootsFrom, rootsFrom_eq_cons_iff]
  simp only [Nat.zero_add, rootsFrom_eq_nil_iff]

/-! ### Building around a root -/

/-- A definition is built around a marker when just an identifier stands before it. -/
theorem definition_eq_ok_iff {s : Statement} (root : Root) {before after : List Token} {n : Node}
    (htokens : s.tokens = before ++ root.token :: after) (hindex : root.index = before.length) :
    s.definition root = .ok n ↔
      ∃ name, before = [name] ∧ name.isIdentifier = true ∧
        n = .definition name root.token after := by
  have htake : s.tokens.take root.index = before := by simp [htokens, hindex]
  have hdrop : s.tokens.drop (root.index + 1) = after := by simp [htokens, hindex]
  rw [definition, htake, hdrop]
  cases hlast : before.getLast? with
  | none =>
    rw [List.getLast?_eq_none_iff.mp hlast]
    simp
  | some name =>
    cases hname : name.isIdentifier
    · simp only [hname, Bool.not_false, if_true, reduceCtorEq, false_iff]
      intro h
      obtain ⟨other, rfl, hother, -⟩ := h
      have hsame : other = name := by simpa using hlast
      rw [hsame, hname] at hother
      cases hother
    · by_cases hlong : 1 < root.index
      · simp only [hname, Bool.not_true, Bool.false_eq_true, if_false, if_pos hlong, reduceCtorEq,
          false_iff]
        intro h
        obtain ⟨other, rfl, -⟩ := h
        rw [hindex] at hlong
        exact absurd hlong (by simp)
      · have hsingle : before = [name] := by
          obtain ⟨front, rfl⟩ := List.getLast?_eq_some_iff.mp hlast
          rw [hindex, List.length_append, List.length_singleton] at hlong
          rw [List.eq_nil_of_length_eq_zero (by omega : front.length = 0)]
          rfl
        simp [hsingle, hname, hlong, eq_comm (a := n)]

/-- An operation is built behind a keyword when nothing stands before it and the
arguments behind it are as many as its arity and acceptable. -/
theorem operation_eq_ok_iff {s : Statement} (root : Root) {op : Operation}
    {before after : List Token} {n : Node} (htokens : s.tokens = before ++ root.token :: after)
    (hindex : root.index = before.length) :
    s.operation root op = .ok n ↔
      before = [] ∧ after.length = op.arity.toNat ∧ op.refused? after = none ∧
        n = .operation op root.token after := by
  have hdrop : s.tokens.drop (root.index + 1) = after := by simp [htokens, hindex]
  have hbefore : 0 < root.index ↔ before ≠ [] := by rw [hindex, List.length_pos_iff]
  rw [operation, operationTaking, hdrop]
  by_cases hempty : before = []
  · by_cases hcount : after.length = op.arity.toNat
    · cases hrefused : op.refused? after with
      | none => simp [hbefore, hempty, hcount, eq_comm]
      | some i => simp [hbefore, hempty, hcount]
    · simp [hbefore, hempty, hcount]
  · simp [hbefore, hempty]

/-- **A statement has a node exactly when its tokens spell that node.** -/
theorem node_eq_ok_iff {s : Statement} {n : Node} : s.node = .ok n ↔ Spelled s.tokens n := by
  have hbind : s.node = .ok n ↔ ∃ root, s.root = .ok root ∧ s.build root = .ok n := by
    unfold node
    cases s.root <;> simp [bind, Except.bind]
  rw [hbind]
  constructor
  · intro h
    obtain ⟨root, hroot, hbuild⟩ := h
    obtain ⟨before, after, htokens, -, hgoverns, hindex, hafter⟩ := root_eq_ok_iff.mp hroot
    rw [htokens]
    unfold build at hbuild
    cases hp : root.production with
    | definition =>
      rw [hp] at hbuild hgoverns
      obtain ⟨name, rfl, hname, rfl⟩ := (definition_eq_ok_iff root htokens hindex).mp hbuild
      exact .definition hname hgoverns hafter
    | operation op =>
      rw [hp] at hbuild hgoverns
      obtain ⟨rfl, hcount, haccepted, rfl⟩ := (operation_eq_ok_iff root htokens hindex).mp hbuild
      exact .operation hgoverns hcount haccepted
  · intro h
    generalize htokens : s.tokens = tokens at h
    cases h with
    | @definition name marker value hname hmarker hvalue =>
      let root : Root := ⟨marker, .definition, 1⟩
      have haround : s.tokens = [name] ++ root.token :: value := htokens
      have hbefore : Rootless [name] := by
        simpa [Rootless] using production?_of_isIdentifier hname
      exact ⟨root, root_eq_ok_iff.mpr ⟨[name], value, haround, hbefore, hmarker, rfl, hvalue⟩,
        (definition_eq_ok_iff root haround rfl).mpr ⟨name, rfl, hname, rfl⟩⟩
    | @operation op keyword arguments hkeyword hcount haccepted =>
      let root : Root := ⟨keyword, .operation op, 0⟩
      have haround : s.tokens = [] ++ root.token :: arguments := htokens
      exact ⟨root, root_eq_ok_iff.mpr ⟨[], arguments, haround, by simp [Rootless], hkeyword, rfl,
        Operation.rootless_of_refused? haccepted⟩,
        (operation_eq_ok_iff root haround rfl).mpr ⟨rfl, hcount, haccepted, rfl⟩⟩

end Statement

end CircuitLang
