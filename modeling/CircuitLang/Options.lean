/-! How a program is read: what becomes of an open last statement, and how many
errors are reported. -/
namespace CircuitLang

/-- What to do with tokens behind the last terminator. -/
inductive Mode where
  /-- They are an error. -/
  | strict
  /-- They are dropped. -/
  | lenient
  deriving DecidableEq, Repr

/-- How many errors to report. -/
inductive Policy where
  /-- Only the first one. -/
  | abort
  /-- All of them. -/
  | collect
  deriving DecidableEq, Repr

structure Options where
  mode : Mode := .strict
  policy : Policy := .abort
  deriving DecidableEq, Repr

end CircuitLang
