import CircuitLang.Proofs.Diagnosis

/-! The verdict on a single statement.

A statement can break several rules at once, and only one of them is reported. Which one
depends on the places of its governing tokens first: with none, or with a second one, nothing
else counts. Around a single root the form that it asks for is looked at from the left.

`Verdict` says by places alone when a statement comes to which error, and when to a node. The
cases leave no statement out (`exists_verdict`), and each of them is what reading comes to
(`Verdict.node_eq`). So reading a statement has the result of its verdict and no other
(`node_eq_iff_verdict`). -/
namespace CircuitLang

namespace Statement

/-- The places of the governing tokens, counted from zero. -/
def rootPlaces (s : Statement) : List Nat :=
  s.tokens.findIdxs fun t => t.production?.isSome

/-- The token in place `r` governs the statement, and no other one does. -/
structure SoleRoot (s : Statement) (r : Nat) (t : Token) : Prop where
  places : s.rootPlaces = [r]
  token : s.tokens[r]? = some t

/-- An identifier stands right before place `r`. -/
def Named (s : Statement) (r : Nat) : Prop :=
  0 < r ∧ ∃ name, s.tokens[r - 1]? = some name ∧ name.isIdentifier = true

end Statement

/-- There is an argument in place `j`, and it is what is asked for there: an operand as far as
the operation takes any, and a literal behind them. -/
def Operation.Suits (op : Operation) (arguments : List Token) (j : Nat) : Prop :=
  ∃ t, arguments[j]? = some t ∧
    if j < op.positional.toNat then t.isOperand = true else t.isLiteral = true

/-- What a statement comes to. Errors name tokens by places counted from one. -/
inductive Verdict (s : Statement) : Except SyntaxError Node → Prop where
  | noRoot (hplaces : s.rootPlaces = []) : Verdict s (.error (.noRoot s.ordinal))
  /-- Whatever else there is, a second root is reported. -/
  | secondRoot {first second : Nat} {others : List Nat}
      (hplaces : s.rootPlaces = first :: second :: others) :
      Verdict s (.error (.multipleRoots s.ordinal (second + 1)))
  /-- A name that is missing comes before anything further left. -/
  | unnamed {r : Nat} {marker : Token} (hroot : s.SoleRoot r marker)
      (hkind : marker.kind = .definition) (hname : ¬ s.Named r) :
      Verdict s (.error (.unnamedDefinition s.ordinal (r + 1)))
  | strayBeforeName {r : Nat} {marker : Token} (hroot : s.SoleRoot r marker)
      (hkind : marker.kind = .definition) (hname : s.Named r) (hstray : 1 < r) :
      Verdict s (.error (.strayToken s.ordinal 1))
  | definition {marker name : Token} (hroot : s.SoleRoot 1 marker)
      (hkind : marker.kind = .definition) (hfirst : s.tokens[0]? = some name)
      (hname : name.isIdentifier = true) :
      Verdict s (.ok (.definition name marker (s.tokens.drop 2)))
  | strayBeforeKeyword {r : Nat} {keyword : Token} {op : Operation} (hroot : s.SoleRoot r keyword)
      (hkind : keyword.kind = .keyword op) (hstray : 0 < r) :
      Verdict s (.error (.strayToken s.ordinal 1))
  /-- The arguments are counted before any of them is looked at. -/
  | wrongCount {keyword : Token} {op : Operation} (hroot : s.SoleRoot 0 keyword)
      (hkind : keyword.kind = .keyword op)
      (hcount : s.tokens.tail.length ≠ op.positional.toNat + op.flags.toNat) :
      Verdict s (.error (.arityMismatch s.ordinal 1 op.name (op.positional.toNat + op.flags.toNat)
        s.tokens.tail.length))
  /-- Of several arguments that do not suit, the first is reported. -/
  | unfit {keyword : Token} {op : Operation} {j : Nat} (hroot : s.SoleRoot 0 keyword)
      (hkind : keyword.kind = .keyword op)
      (hcount : s.tokens.tail.length = op.positional.toNat + op.flags.toNat)
      (hbefore : ∀ i < j, op.Suits s.tokens.tail i) (hj : j < s.tokens.tail.length)
      (hunfit : ¬ op.Suits s.tokens.tail j) :
      Verdict s (.error (.unfitArgument s.ordinal (j + 2) op.name
        (if j < op.positional.toNat then "an identifier or literal" else "a boolean flag")))
  | operation {keyword : Token} {op : Operation} (hroot : s.SoleRoot 0 keyword)
      (hkind : keyword.kind = .keyword op)
      (hcount : s.tokens.tail.length = op.positional.toNat + op.flags.toNat)
      (hsuits : ∀ j < s.tokens.tail.length, op.Suits s.tokens.tail j) :
      Verdict s (.ok (.operation op keyword s.tokens.tail))

namespace Operation
variable {op : Operation} {arguments : List Token} {j : Nat} {t : Token}

theorem suits_iff_accepts (ht : arguments[j]? = some t) :
    op.Suits arguments j ↔ op.accepts j t = true := by
  unfold Suits accepts
  rw [ht]
  by_cases hj : j < op.positional.toNat <;> simp [hj]

theorem refused?_of_suits (h : ∀ j < arguments.length, op.Suits arguments j) :
    op.refused? arguments = none := by
  apply refused?_eq_none_iff.mpr
  intro i hi
  exact (suits_iff_accepts (List.getElem?_eq_getElem hi)).mp (h i hi)

theorem refused?_of_not_suits (hbefore : ∀ i < j, op.Suits arguments i) (hj : j < arguments.length)
    (hunfit : ¬ op.Suits arguments j) : op.refused? arguments = some j := by
  have hlength : (arguments.take j).length = j := List.length_take_of_le hj.le
  refine refused?_eq_some_iff.mpr
    ⟨arguments.take j, arguments[j], arguments.drop (j + 1), ?_, hlength.symm, ?_, ?_⟩
  · rw [← List.drop_eq_getElem_cons hj, List.take_append_drop]
  · intro i hi
    rw [List.getElem_take]
    exact (suits_iff_accepts (List.getElem?_eq_getElem (by omega))).mp (hbefore i (by omega))
  · rw [hlength]
    rwa [suits_iff_accepts (List.getElem?_eq_getElem hj), Bool.not_eq_true] at hunfit

/-- All arguments suit, or one of them is the first that does not. -/
theorem suits_or_exists_first (op : Operation) (arguments : List Token) :
    (∀ j < arguments.length, op.Suits arguments j) ∨
      ∃ j < arguments.length, (∀ i < j, op.Suits arguments i) ∧ ¬ op.Suits arguments j := by
  by_cases h : ∀ j < arguments.length, op.Suits arguments j
  · exact .inl h
  · right
    simp only [not_forall] at h
    obtain ⟨j, hj, hunfit⟩ := h
    induction j using Nat.strong_induction_on with
    | _ j ih =>
      by_cases hbefore : ∀ i < j, op.Suits arguments i
      · exact ⟨j, hj, hbefore, hunfit⟩
      · simp only [not_forall] at hbefore
        obtain ⟨i, hi, hunfit'⟩ := hbefore
        exact ih i hi (by omega) hunfit'

end Operation

namespace Statement
variable {s : Statement} {r : Nat} {t : Token}

/-! ### Roots and their places -/

theorem index_roots (s : Statement) : s.roots.map Root.index = s.rootPlaces := by
  rw [roots, rootPlaces, List.findIdxs_eq_filterMap_zipIdx, List.map_filterMap]
  apply List.filterMap_congr
  intro pair _
  obtain ⟨t, i⟩ := pair
  cases ht : t.production? <;> simp [ht]

/-- A root is a token of the statement, with its production and its place. -/
theorem token_of_mem_roots {root : Root} (h : root ∈ s.roots) :
    s.tokens[root.index]? = some root.token ∧ root.token.production? = some root.production := by
  obtain ⟨⟨t, i⟩, hmem, hroot⟩ := List.mem_filterMap.mp h
  obtain ⟨p, hp, rfl⟩ := Option.map_eq_some_iff.mp hroot
  exact ⟨List.mem_zipIdx_iff_getElem?.mp hmem, hp⟩

theorem root_of_places_eq_nil (h : s.rootPlaces = []) : s.root = .error (.noRoot s.ordinal) := by
  rw [← index_roots, List.map_eq_nil_iff] at h
  rw [root, h]

theorem root_of_second_place {first second : Nat} {others : List Nat}
    (h : s.rootPlaces = first :: second :: others) :
    s.root = .error (.multipleRoots s.ordinal (second + 1)) := by
  rw [← index_roots] at h
  obtain ⟨a, more, hroots, -, hmore⟩ := List.map_eq_cons_iff.mp h
  obtain ⟨b, rest, rfl, rfl, -⟩ := List.map_eq_cons_iff.mp hmore
  rw [root, hroots]

theorem SoleRoot.root_eq {p : Production} (h : s.SoleRoot r t) (hp : t.production? = some p) :
    s.root = .ok ⟨t, p, r⟩ := by
  have hplaces := h.places
  rw [← index_roots] at hplaces
  obtain ⟨root, hroots, hindex⟩ := List.map_eq_singleton_iff.mp hplaces
  obtain ⟨htoken, hproduction⟩ := token_of_mem_roots (by simp [hroots] : root ∈ s.roots)
  obtain ⟨token, production, index⟩ := root
  cases hindex
  rw [h.token] at htoken
  cases htoken
  rw [hp] at hproduction
  cases hproduction
  rw [Statement.root, hroots]

theorem soleRoot_of_root {root : Root} (h : s.root = .ok root) :
    s.SoleRoot root.index root.token ∧ root.token.production? = some root.production := by
  obtain ⟨before, after, htokens, hbefore, hproduction, hindex, hafter⟩ := root_eq_ok_iff.mp h
  have hroots : s.roots = [root] := by
    rw [roots_eq_rootsFrom, rootsFrom_eq_cons_iff]
    exact ⟨before, after, htokens, hbefore, hproduction, by omega, rootsFrom_eq_nil_iff.mpr hafter⟩
  refine ⟨⟨?_, (token_of_mem_roots (by simp [hroots] : root ∈ s.roots)).1⟩, hproduction⟩
  rw [← index_roots, hroots]
  rfl

theorem SoleRoot.lt_length (h : s.SoleRoot r t) : r < s.tokens.length :=
  (List.getElem?_eq_some_iff.mp h.token).1

/-- The token in the only place governs. -/
theorem exists_soleRoot (h : s.rootPlaces = [r]) :
    ∃ t p, s.SoleRoot r t ∧ t.production? = some p := by
  have hmem : r ∈ s.rootPlaces := by simp [h]
  obtain ⟨hr, hgoverns⟩ := List.mem_findIdxs_iff_exists_getElem_pos.mp hmem
  obtain ⟨p, hp⟩ := Option.isSome_iff_exists.mp hgoverns
  exact ⟨s.tokens[r], p, ⟨h, List.getElem?_eq_getElem hr⟩, hp⟩

/-- A keyword that is the root governs by its operation. -/
theorem SoleRoot.production_of_keyword {op : Operation} (h : s.SoleRoot r t)
    (hkind : t.kind = .keyword op) : t.production? = some (.operation op) := by
  obtain ⟨u, p, hroot, hp⟩ := exists_soleRoot h.places
  have hsame : u = t := Option.some.inj (hroot.token.symm.trans h.token)
  subst hsame
  cases p with
  | definition =>
    rw [production?_eq_definition_iff, hkind] at hp
    cases hp
  | operation op' =>
    obtain ⟨hkind', -⟩ := production?_eq_operation_iff.mp hp
    rw [hkind] at hkind'
    cases hkind'
    exact hp

theorem SoleRoot.node_eq {p : Production} (h : s.SoleRoot r t) (hp : t.production? = some p) :
    s.node = s.build ⟨t, p, r⟩ := by
  rw [node, h.root_eq hp]
  rfl

theorem SoleRoot.node_of_definition (h : s.SoleRoot r t) (hkind : t.kind = .definition) :
    s.node = s.definition ⟨t, .definition, r⟩ :=
  h.node_eq (production?_eq_definition_iff.mpr hkind)

theorem SoleRoot.node_of_keyword {op : Operation} (h : s.SoleRoot r t)
    (hkind : t.kind = .keyword op) : s.node = s.operation ⟨t, .operation op, r⟩ op :=
  h.node_eq (h.production_of_keyword hkind)

/-! ### Definitions -/

/-- The name of a definition is the last of the tokens before its marker. -/
theorem named_iff (hr : r < s.tokens.length) :
    s.Named r ↔ ∃ name, (s.tokens.take r).getLast? = some name ∧ name.isIdentifier = true := by
  rw [Named, List.getLast?_take]
  by_cases hzero : r = 0
  · simp [hzero]
  · have hbefore : s.tokens[r - 1]? = some s.tokens[r - 1] := List.getElem?_eq_getElem (by omega)
    simp [hzero, hbefore, Nat.pos_of_ne_zero hzero]

theorem definition_of_not_named {root : Root} (hr : root.index < s.tokens.length)
    (h : ¬ s.Named root.index) :
    s.definition root = .error (.unnamedDefinition s.ordinal (root.index + 1)) := by
  rw [named_iff hr] at h
  rw [definition]
  cases hlast : (s.tokens.take root.index).getLast? with
  | none => rfl
  | some name =>
    have hname : name.isIdentifier = false := by
      cases hname : name.isIdentifier
      · rfl
      · exact absurd ⟨name, hlast, hname⟩ h
    simp [hname]

theorem definition_of_named {root : Root} (hr : root.index < s.tokens.length)
    (h : s.Named root.index) (hstray : 1 < root.index) :
    s.definition root = .error (.strayToken s.ordinal 1) := by
  obtain ⟨name, hlast, hname⟩ := (named_iff hr).mp h
  simp [definition, hlast, hname, hstray]

theorem definition_of_first {marker name : Token} (hfirst : s.tokens[0]? = some name)
    (hname : name.isIdentifier = true) :
    s.definition ⟨marker, .definition, 1⟩ = .ok (.definition name marker (s.tokens.drop 2)) := by
  have hlast : (s.tokens.take 1).getLast? = some name := by
    rw [List.getLast?_take, hfirst]
    rfl
  simp [definition, hlast, hname]

end Statement

/-! ### Verdicts -/

/-- **A statement comes to its verdict.** -/
theorem Verdict.node_eq {s : Statement} {result : Except SyntaxError Node}
    (hexact : ∀ t ∈ s.tokens, ∀ op ∈ t.operation?, op.Exact) (h : Verdict s result) :
    s.node = result := by
  have hop {r : Nat} {t : Token} {op : Operation} (hroot : s.SoleRoot r t)
      (hkind : t.kind = .keyword op) : op.Exact :=
    hexact t (List.mem_of_getElem? hroot.token) op (Token.mem_operation?_iff.mpr hkind)
  cases h with
  | noRoot hplaces => rw [Statement.node, Statement.root_of_places_eq_nil hplaces]; rfl
  | secondRoot hplaces => rw [Statement.node, Statement.root_of_second_place hplaces]; rfl
  | unnamed hroot hkind hname =>
    rw [hroot.node_of_definition hkind]
    exact Statement.definition_of_not_named hroot.lt_length hname
  | strayBeforeName hroot hkind hname hstray =>
    rw [hroot.node_of_definition hkind]
    exact Statement.definition_of_named hroot.lt_length hname hstray
  | definition hroot hkind hfirst hname =>
    rw [hroot.node_of_definition hkind]
    exact Statement.definition_of_first hfirst hname
  | strayBeforeKeyword hroot hkind hstray =>
    rw [hroot.node_of_keyword hkind]
    simp [Statement.operation, Statement.operationTaking, hstray]
  | wrongCount hroot hkind hcount =>
    rw [hroot.node_of_keyword hkind]
    rw [← (hop hroot hkind).arity_toNat] at hcount ⊢
    simp [Statement.operation, Statement.operationTaking, -List.length_tail, hcount]
  | unfit hroot hkind hcount hbefore hj hunfit =>
    rw [hroot.node_of_keyword hkind]
    rw [← (hop hroot hkind).arity_toNat] at hcount
    simp [Statement.operation, Statement.operationTaking, -List.length_tail, hcount,
      Operation.refused?_of_not_suits hbefore hj hunfit, Operation.expected]
  | operation hroot hkind hcount hsuits =>
    rw [hroot.node_of_keyword hkind]
    rw [← (hop hroot hkind).arity_toNat] at hcount
    simp [Statement.operation, Statement.operationTaking, -List.length_tail, hcount,
      Operation.refused?_of_suits hsuits]

/-- **Every statement has a verdict.** -/
theorem exists_verdict (s : Statement) : ∃ result, Verdict s result := by
  rcases hplaces : s.rootPlaces with _ | ⟨r, _ | ⟨second, others⟩⟩
  · exact ⟨_, .noRoot hplaces⟩
  · obtain ⟨t, p, hroot, hp⟩ := Statement.exists_soleRoot hplaces
    cases p with
    | definition =>
      have hkind := production?_eq_definition_iff.mp hp
      by_cases hname : s.Named r
      · by_cases hstray : 1 < r
        · exact ⟨_, .strayBeforeName hroot hkind hname hstray⟩
        · obtain ⟨hpos, name, hfirst, hidentifier⟩ := hname
          obtain rfl : r = 1 := by omega
          exact ⟨_, .definition hroot hkind hfirst hidentifier⟩
      · exact ⟨_, .unnamed hroot hkind hname⟩
    | operation op =>
      obtain ⟨hkind, -⟩ := production?_eq_operation_iff.mp hp
      by_cases hstray : 0 < r
      · exact ⟨_, .strayBeforeKeyword hroot hkind hstray⟩
      obtain rfl : r = 0 := by omega
      by_cases hcount : s.tokens.tail.length = op.positional.toNat + op.flags.toNat
      · rcases op.suits_or_exists_first s.tokens.tail with hsuits | ⟨j, hj, hbefore, hunfit⟩
        · exact ⟨_, .operation hroot hkind hcount hsuits⟩
        · exact ⟨_, .unfit hroot hkind hcount hbefore hj hunfit⟩
      · exact ⟨_, .wrongCount hroot hkind hcount⟩
  · exact ⟨_, .secondRoot hplaces⟩

/-- **The diagnosis of a statement is complete and has a fixed precedence**: as long as
operands and flags of its keywords are counted together without wrapping around, a statement
comes to a result exactly when that is its verdict. -/
theorem node_eq_iff_verdict (s : Statement)
    (hexact : ∀ t ∈ s.tokens, ∀ op ∈ t.operation?, op.Exact) (result : Except SyntaxError Node) :
    s.node = result ↔ Verdict s result := by
  constructor
  · intro h
    obtain ⟨verdict, hverdict⟩ := exists_verdict s
    rwa [← h, hverdict.node_eq hexact]
  · exact Verdict.node_eq hexact

/-- A flag that is none, behind operands that are. -/
theorem verdict_on_multiplexer :
    let op : Operation := ⟨"MUX", 2, 1, true⟩
    let s : Statement := ⟨7, [⟨.keyword op, ⟨1, 1, 3⟩, "MUX"⟩, ⟨.identifier "a", ⟨1, 5, 5⟩, "a"⟩,
      ⟨.literal false, ⟨1, 7, 7⟩, "0"⟩, ⟨.identifier "b", ⟨1, 9, 9⟩, "b"⟩]⟩
    (∀ t ∈ s.tokens, ∀ op ∈ t.operation?, op.Exact) ∧
      Verdict s (.error (.unfitArgument 7 4 "MUX" "a boolean flag")) := by
  intro op s
  have hexact : ∀ t ∈ s.tokens, ∀ op ∈ t.operation?, op.Exact := by decide
  exact ⟨hexact, (node_eq_iff_verdict s hexact _).mp (by decide)⟩

end CircuitLang
