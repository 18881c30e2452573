/-! Classes of characters given by ranges of code points.

A class is a list of closed ranges, each above the one before it. Looking a
character up walks the list and stops at the first range that begins above it, so
a character of the basic Latin block is settled after a range or two. Because the
ranges increase nothing is missed by stopping: a character belongs to the class
exactly when it lies in one of the ranges (`contains_iff`). The tables beside this
module follow version 17.0 of the Unicode standard. -/
namespace CircuitLang.Text

/-- The code points from `first` to `last`, both included. -/
structure CharRange where
  first : Nat
  last : Nat
  deriving DecidableEq, Repr

/-- Whether ranges are proper, begin no lower than `bound`, and lie each above the
one before it. -/
def increasing (bound : Nat) : List CharRange → Bool
  | [] => true
  | r :: rest => bound ≤ r.first && r.first ≤ r.last && increasing (r.last + 1) rest

/-- A set of characters, as increasing ranges of code points. -/
structure CharClass where
  ranges : List CharRange
  ordered : increasing 0 ranges = true := by decide +kernel

namespace CharClass

/-- Whether a code point lies in one of the ranges, which are increasing. -/
def search (code : Nat) : List CharRange → Bool
  | [] => false
  | r :: rest => if code < r.first then false else code ≤ r.last || search code rest

/-- Whether a character belongs to the class. -/
def contains (k : CharClass) (c : Char) : Bool :=
  search c.toNat k.ranges

/-! ### Membership -/

theorem exists_range_of_search {code : Nat} {ranges : List CharRange}
    (h : search code ranges = true) : ∃ r ∈ ranges, r.first ≤ code ∧ code ≤ r.last := by
  induction ranges with
  | nil => simp [search] at h
  | cons r rest ih =>
    simp only [search] at h
    split at h
    · simp at h
    · rename_i hlow
      rcases Bool.or_eq_true_iff.mp h with hlast | hrest
      · exact ⟨r, by simp, by omega, of_decide_eq_true hlast⟩
      · obtain ⟨q, hq, hin⟩ := ih hrest
        exact ⟨q, by simp [hq], hin⟩

theorem bound_le_first {bound : Nat} {ranges : List CharRange} {r : CharRange}
    (h : increasing bound ranges = true) (hr : r ∈ ranges) : bound ≤ r.first := by
  induction ranges generalizing bound with
  | nil => simp at hr
  | cons q rest ih =>
    simp only [increasing, Bool.and_eq_true, decide_eq_true_eq] at h
    obtain ⟨⟨hbound, hproper⟩, hrest⟩ := h
    rcases List.mem_cons.mp hr with rfl | hr
    · exact hbound
    · have := ih hrest hr
      omega

theorem search_of_mem {code bound : Nat} {ranges : List CharRange} {r : CharRange}
    (h : increasing bound ranges = true) (hr : r ∈ ranges) (hfirst : r.first ≤ code)
    (hlast : code ≤ r.last) : search code ranges = true := by
  induction ranges generalizing bound with
  | nil => simp at hr
  | cons q rest ih =>
    simp only [increasing, Bool.and_eq_true, decide_eq_true_eq] at h
    obtain ⟨⟨_, hproper⟩, hrest⟩ := h
    rcases List.mem_cons.mp hr with rfl | hr
    · simp [search, Nat.not_lt.mpr hfirst, hlast]
    · have habove := bound_le_first hrest hr
      simp [search, show ¬ code < q.first by omega, ih hrest hr]

/-- A character belongs to a class exactly when it lies in one of its ranges. -/
theorem contains_iff (k : CharClass) (c : Char) :
    k.contains c = true ↔ ∃ r ∈ k.ranges, r.first ≤ c.toNat ∧ c.toNat ≤ r.last :=
  ⟨exists_range_of_search, fun ⟨_, hr, hfirst, hlast⟩ => search_of_mem k.ordered hr hfirst hlast⟩

/-- A class has no character below its first range. -/
theorem le_of_contains {k : CharClass} {c : Char} {bound : Nat}
    (hbound : increasing bound k.ranges = true) (h : k.contains c = true) : bound ≤ c.toNat := by
  obtain ⟨r, hr, hfirst, -⟩ := (k.contains_iff c).mp h
  exact Nat.le_trans (bound_le_first hbound hr) hfirst

end CharClass

end CircuitLang.Text
