import Mathlib.Data.List.Basic

/-! Texts put together with separators.

Where a character occurs in no item of a list, a text that puts it between the items or
behind each of them comes apart into these items again. So the text determines the
list, and what the items determine. -/
namespace CircuitLang

/-- Lists that one function does not tell apart are not told apart by another, if their
elements are not. -/
theorem map_eq_of_mem {α β γ : Type} {f : α → β} {g : α → γ} {xs ys : List α}
    (h : xs.map f = ys.map f) (himp : ∀ x ∈ xs, ∀ y ∈ ys, f x = f y → g x = g y) :
    xs.map g = ys.map g := by
  induction xs generalizing ys with
  | nil =>
    obtain rfl : ys = [] := List.map_eq_nil_iff.mp h.symm
    rfl
  | cons x xs ih =>
    obtain ⟨y, ys, rfl, hxy, hrest⟩ := List.map_eq_cons_iff.mp h.symm
    rw [List.map_cons, List.map_cons, himp x List.mem_cons_self y List.mem_cons_self hxy.symm]
    exact congrArg _ (ih hrest.symm fun x hx y hy =>
      himp x (List.mem_cons_of_mem _ hx) y (List.mem_cons_of_mem _ hy))

variable {α : Type}

theorem intercalate_eq_nil_iff {separator : List α} {items : List (List α)}
    (hitems : ∀ item ∈ items, item ≠ []) : separator.intercalate items = [] ↔ items = [] := by
  rcases items with _ | ⟨first, _ | ⟨second, rest⟩⟩
  · simp
  · simpa using hitems
  · simp [List.intercalate_cons_cons, hitems first (by simp)]

theorem notMem_intercalate {separator : List α} {items : List (List α)} {c : α}
    (hseparator : c ∉ separator) (hitems : ∀ item ∈ items, c ∉ item) :
    c ∉ separator.intercalate items := by
  induction items with
  | nil => simp
  | cons first rest ih =>
    rw [List.forall_mem_cons] at hitems
    cases rest with
    | nil => simpa using hitems.1
    | cons second rest =>
      rw [List.intercalate_cons_cons, List.mem_append, List.mem_append, not_or, not_or]
      exact ⟨⟨hitems.1, hseparator⟩, ih hitems.2⟩

variable [DecidableEq α] {c : α}

/-- The first separator of a text ends the same item on both sides. -/
theorem append_separator_inj {a a' b b' : List α} (ha : c ∉ a) (ha' : c ∉ a')
    (h : a ++ c :: b = a' ++ c :: b') : a = a' ∧ b = b' := by
  have hsplit := congrArg (List.splitOn c) h
  rw [List.splitOn_append_cons_self_of_not_mem ha, List.splitOn_append_cons_self_of_not_mem ha']
    at hsplit
  obtain ⟨rfl, -⟩ := List.cons.inj hsplit
  obtain ⟨-, rfl⟩ := List.cons.inj (List.append_cancel_left h)
  exact ⟨rfl, rfl⟩

/-- Items with a separator between two come apart at its first character. What else the
separator has goes to the item behind it. -/
theorem splitOn_intercalate_cons {more first : List α} {rest : List (List α)} (hmore : c ∉ more)
    (hfirst : c ∉ first) (hrest : ∀ item ∈ rest, c ∉ item) :
    ((c :: more).intercalate (first :: rest)).splitOn c = first :: rest.map (more ++ ·) := by
  induction rest generalizing first with
  | nil =>
    have hwhole : ([c].intercalate [first]).splitOn c = [first] :=
      List.splitOn_intercalate c (by simpa using hfirst) (List.cons_ne_nil first [])
    rw [List.intercalate_singleton] at hwhole ⊢
    exact hwhole
  | cons second rest ih =>
    rw [List.forall_mem_cons] at hrest
    have hsecond : c ∉ more ++ second := by simp [hmore, hrest.1]
    have hjoined : more ++ (c :: more).intercalate (second :: rest) =
        (c :: more).intercalate ((more ++ second) :: rest) := by
      cases rest <;> simp [List.intercalate_cons_cons]
    rw [List.intercalate_cons_cons, List.append_assoc, List.cons_append,
      List.splitOn_append_cons_self_of_not_mem hfirst, hjoined, ih hsecond hrest.2]
    rfl

theorem intercalate_inj_of_ne_nil {more : List α} {items items' : List (List α)} (hmore : c ∉ more)
    (hitems : ∀ item ∈ items, c ∉ item) (hitems' : ∀ item ∈ items', c ∉ item) (hne : items ≠ [])
    (hne' : items' ≠ []) (h : (c :: more).intercalate items = (c :: more).intercalate items') :
    items = items' := by
  obtain ⟨first, rest, rfl⟩ := List.exists_cons_of_ne_nil hne
  obtain ⟨first', rest', rfl⟩ := List.exists_cons_of_ne_nil hne'
  rw [List.forall_mem_cons] at hitems hitems'
  have hsplit := congrArg (List.splitOn c) h
  rw [splitOn_intercalate_cons hmore hitems.1 hitems.2,
    splitOn_intercalate_cons hmore hitems'.1 hitems'.2] at hsplit
  obtain ⟨rfl, hrest⟩ := List.cons.inj hsplit
  rw [List.map_injective_iff.mpr (List.append_right_injective more) hrest]

/-- Lists of items with something in them are the same if they are with a separator between
their items. -/
theorem intercalate_inj {more : List α} {items items' : List (List α)} (hmore : c ∉ more)
    (hitems : ∀ item ∈ items, item ≠ [] ∧ c ∉ item)
    (hitems' : ∀ item ∈ items', item ≠ [] ∧ c ∉ item)
    (h : (c :: more).intercalate items = (c :: more).intercalate items') : items = items' := by
  have hnil : (c :: more).intercalate items = [] ↔ items = [] :=
    intercalate_eq_nil_iff fun item hitem => (hitems item hitem).1
  have hnil' : (c :: more).intercalate items' = [] ↔ items' = [] :=
    intercalate_eq_nil_iff fun item hitem => (hitems' item hitem).1
  by_cases hne : items = []
  · rw [hne, eq_comm, ← hnil', ← h, hnil, hne]
  · refine intercalate_inj_of_ne_nil hmore (fun item hitem => (hitems item hitem).2)
      (fun item hitem => (hitems' item hitem).2) hne ?_ h
    rwa [ne_eq, ← hnil', ← h, hnil]

theorem splitOn_flatMap_concat {items : List (List α)} (hitems : ∀ item ∈ items, c ∉ item) :
    (items.flatMap (· ++ [c])).splitOn c = items ++ [[]] := by
  induction items with
  | nil => rfl
  | cons first rest ih =>
    rw [List.forall_mem_cons] at hitems
    rw [List.flatMap_cons, List.append_assoc, List.singleton_append,
      List.splitOn_append_cons_self_of_not_mem hitems.1, ih hitems.2]
    rfl

end CircuitLang
