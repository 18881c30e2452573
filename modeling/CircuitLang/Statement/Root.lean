import CircuitLang.Statement

/-! The root of a statement: the one token that governs it. A statement without
one, or with a second one, has no form. -/
namespace CircuitLang

/-- A governing token, the form it asks for, and how many tokens stand before it. -/
structure Root where
  token : Token
  production : Production
  index : Nat
  deriving DecidableEq, Repr

namespace Statement

/-- All governing tokens of a statement, in order. -/
def roots (s : Statement) : List Root :=
  s.tokens.zipIdx.filterMap fun (t, i) => t.production?.map fun p => ⟨t, p, i⟩

/-- The only governing token of a statement. -/
def root (s : Statement) : Except SyntaxError Root :=
  match s.roots with
  | [] => .error (.noRoot s.ordinal)
  | [root] => .ok root
  | _ :: second :: _ => .error (.multipleRoots s.ordinal (second.index + 1))

end Statement

end CircuitLang
