import CircuitLang.Text.Alphabetic
import CircuitLang.Text.Numeric

/-! The characters a name is made of: it begins with an alphabetic character and
goes on with alphanumeric ones. Every alphabetic character is alphanumeric, and
no blank and no punctuation of the language is either, so a name ends where a
blank or a mark begins. -/
namespace CircuitLang.Text

/-- A character a name may begin with. -/
def isAlphabetic (c : Char) : Bool :=
  alphabetic.contains c

/-- A character a name may go on with. -/
def isAlphanumeric (c : Char) : Bool :=
  alphabetic.contains c || numeric.contains c

/-- Letters begin with the capital `A`. -/
theorem le_of_isAlphabetic {c : Char} (h : isAlphabetic c = true) : 0x41 ≤ c.toNat :=
  alphabetic.le_of_contains (by decide +kernel) h

/-- Below the letters there are only digits, the first of them the zero. -/
theorem le_of_isAlphanumeric {c : Char} (h : isAlphanumeric c = true) : 0x30 ≤ c.toNat := by
  rcases Bool.or_eq_true_iff.mp h with halphabetic | hnumeric
  · exact Nat.le_trans (by decide) (le_of_isAlphabetic halphabetic)
  · exact CharClass.le_of_contains (by decide +kernel) hnumeric

theorem isAlphanumeric_of_isAlphabetic {c : Char} (h : isAlphabetic c = true) :
    isAlphanumeric c = true := by
  simp only [isAlphabetic] at h
  simp [isAlphanumeric, h]

/-- A blank between tokens: a space, a tabulator, a carriage return or a line feed. -/
def isBlank (c : Char) : Bool :=
  c == ' ' || c == '\t' || c == '\r' || c == '\n'

theorem isAlphanumeric_eq_false_of_isBlank {c : Char} (h : isBlank c = true) :
    isAlphanumeric c = false := by
  have hlow : c.toNat < 0x30 := by
    simp only [isBlank, Bool.or_eq_true, beq_iff_eq] at h
    obtain ((rfl | rfl) | rfl) | rfl := h <;> decide
  exact Bool.eq_false_iff.mpr fun hletter => Nat.not_le.mpr hlow (le_of_isAlphanumeric hletter)

theorem isAlphanumeric_semicolon : isAlphanumeric ';' = false := by decide

theorem isAlphabetic_one : isAlphabetic '1' = false :=
  Bool.eq_false_iff.mpr fun h => absurd (le_of_isAlphabetic h) (by decide)

end CircuitLang.Text
