import CircuitLang.Statement
import Mathlib.Data.List.DropRight

/-! The runs of a token list.

Cutting a list at its terminators is splitting it there (`runs_eq_splitOnP`): the
last piece is the tail, and the pieces before it are the closed runs. A list is its
part up to the last terminator followed by the tail (`closedPart_append_tail`), and
the closed runs are that part without its terminators (`flatten_closedRuns`), so
cutting loses no other token and moves none. -/
namespace CircuitLang

/-- The list is empty, or its last token is a terminator. -/
def Terminated (tokens : List Token) : Prop :=
  ∀ last ∈ tokens.getLast?, last.isTerminator = true

instance (tokens : List Token) : Decidable (Terminated tokens) :=
  inferInstanceAs (Decidable (∀ last ∈ tokens.getLast?, last.isTerminator = true))

/-- The tokens up to the last terminator, with it. -/
def closedPart (tokens : List Token) : List Token :=
  tokens.rdropWhile fun t => !t.isTerminator

/-- The runs that a terminator closes, without the empty ones. -/
def closedRuns (tokens : List Token) : List (List Token) :=
  (tokens.splitOnP Token.isTerminator).dropLast.filter fun run => !run.isEmpty

/-! ### Runs are what splitting at the terminators leaves -/

/-- The closed runs and the tail are the pieces between the terminators. -/
theorem runs_eq_splitOnP (tokens : List Token) :
    (runs tokens).1 ++ [(runs tokens).2] = tokens.splitOnP Token.isTerminator := by
  induction tokens with
  | nil => rfl
  | cons t rest ih =>
    rw [List.splitOnP_cons_eq_if_modifyHead, ← ih]
    cases ht : t.isTerminator
    · rcases hrest : runs rest with ⟨_ | ⟨run, more⟩, tail⟩
      · rw [runs_cons_of_open ht hrest]
        rfl
      · rw [runs_cons_of_closed ht hrest]
        rfl
    · rw [runs_cons_of_terminator ht]
      rfl

theorem filter_runs (tokens : List Token) :
    ((runs tokens).1.filter fun run => !run.isEmpty) = closedRuns tokens := by
  rw [closedRuns, ← runs_eq_splitOnP, List.dropLast_concat]

/-- At a terminator the runs of both sides come one behind the other. -/
theorem runs_append_terminator {t : Token} (ht : t.isTerminator = true) (before after : List Token) :
    runs (before ++ t :: after) =
      ((runs before).1 ++ (runs before).2 :: (runs after).1, (runs after).2) := by
  have hsplit : (runs (before ++ t :: after)).1 ++ [(runs (before ++ t :: after)).2] =
      ((runs before).1 ++ (runs before).2 :: (runs after).1) ++ [(runs after).2] := by
    rw [runs_eq_splitOnP, List.splitOnP_append_cons before after ht, ← runs_eq_splitOnP,
      ← runs_eq_splitOnP]
    simp
  obtain ⟨hclosed, htail⟩ := List.append_inj' hsplit rfl
  exact Prod.ext hclosed (List.singleton_inj.mp htail)

theorem runs_concat_of_terminator {t : Token} (ht : t.isTerminator = true) (tokens : List Token) :
    runs (tokens ++ [t]) = ((runs tokens).1 ++ [(runs tokens).2], []) :=
  runs_append_terminator ht tokens []

theorem runs_concat_of_open {t : Token} (ht : t.isTerminator = false) (tokens : List Token) :
    runs (tokens ++ [t]) = ((runs tokens).1, (runs tokens).2 ++ [t]) := by
  induction tokens with
  | nil => simp [runs, ht]
  | cons first rest ih =>
    rw [List.cons_append]
    cases hfirst : first.isTerminator
    · rcases hrest : runs rest with ⟨_ | ⟨run, more⟩, tail⟩
      · rw [runs_cons_of_open hfirst hrest, runs_cons_of_open hfirst (by rw [ih, hrest])]
        rfl
      · rw [runs_cons_of_closed hfirst hrest, runs_cons_of_closed hfirst (by rw [ih, hrest])]
    · rw [runs_cons_of_terminator hfirst, runs_cons_of_terminator hfirst, ih]

/-! ### The tail -/

/-- The tail is what stands behind the last terminator. -/
theorem runs_tail (tokens : List Token) :
    (runs tokens).2 = tokens.rtakeWhile fun t => !t.isTerminator := by
  induction tokens using List.reverseRecOn with
  | nil => rfl
  | append_singleton tokens t ih =>
    cases ht : t.isTerminator
    · rw [runs_concat_of_open ht, List.rtakeWhile_concat_pos _ _ _ (by simp [ht]), ih]
    · rw [runs_concat_of_terminator ht, List.rtakeWhile_concat_neg _ _ _ (by simp [ht])]

theorem closedPart_append_tail (tokens : List Token) :
    closedPart tokens ++ (runs tokens).2 = tokens := by
  rw [runs_tail]
  exact List.rdropWhile_append_rtakeWhile

theorem isTerminator_of_mem_tail {tokens : List Token} {t : Token} (ht : t ∈ (runs tokens).2) :
    t.isTerminator = false := by
  rw [runs_tail] at ht
  simpa using List.mem_rtakeWhile_imp ht

theorem tail_eq_nil_iff (tokens : List Token) : (runs tokens).2 = [] ↔ Terminated tokens := by
  induction tokens using List.reverseRecOn with
  | nil => simp [runs, Terminated]
  | append_singleton tokens t ih =>
    cases ht : t.isTerminator
    · simp [runs_concat_of_open ht, Terminated, ht]
    · simp [runs_concat_of_terminator ht, Terminated, ht]

theorem closedPart_eq_self {tokens : List Token} (h : Terminated tokens) :
    closedPart tokens = tokens := by
  have happend := closedPart_append_tail tokens
  rwa [(tail_eq_nil_iff tokens).mpr h, List.append_nil] at happend

/-- There is a tail when the closed part is not everything. -/
theorem length_closedPart_lt_iff (tokens : List Token) :
    (closedPart tokens).length < tokens.length ↔ (runs tokens).2 ≠ [] := by
  have hlength := congrArg List.length (closedPart_append_tail tokens)
  rw [List.length_append] at hlength
  rw [← List.length_pos_iff]
  omega

section
variable {t : Token} (before : List Token)

/-- A terminator closes the open run, which is a closed run unless it is empty. -/
theorem closedRuns_concat_of_terminator (ht : t.isTerminator = true) :
    closedRuns (before ++ [t]) =
      closedRuns before ++ [(runs before).2].filter fun run => !run.isEmpty := by
  rw [← filter_runs, ← filter_runs, runs_concat_of_terminator ht, List.filter_append]

theorem closedRuns_concat_of_open (ht : t.isTerminator = false) :
    closedRuns (before ++ [t]) = closedRuns before := by
  rw [← filter_runs, ← filter_runs, runs_concat_of_open ht]

theorem closedPart_concat_of_terminator (ht : t.isTerminator = true) :
    closedPart (before ++ [t]) = before ++ [t] :=
  closedPart_eq_self (by simp [Terminated, ht])

theorem closedPart_concat_of_open (ht : t.isTerminator = false) :
    closedPart (before ++ [t]) = closedPart before :=
  List.rdropWhile_concat_pos _ _ _ (by simp [ht])

end

/-- Behind a closed list the runs of more tokens come as they are. -/
theorem runs_append_of_terminated {before : List Token} (h : Terminated before)
    (after : List Token) :
    runs (before ++ after) = ((runs before).1 ++ (runs after).1, (runs after).2) := by
  rcases List.eq_nil_or_concat before with rfl | ⟨front, t, rfl⟩
  · rfl
  · have ht : t.isTerminator = true := h t (by simp)
    rw [List.concat_eq_append, List.append_assoc, List.singleton_append,
      runs_append_terminator ht, runs_concat_of_terminator ht, List.append_assoc]
    rfl

theorem closedRuns_append {before : List Token} (h : Terminated before) (after : List Token) :
    closedRuns (before ++ after) = closedRuns before ++ closedRuns after := by
  rw [← filter_runs, ← filter_runs, ← filter_runs, runs_append_of_terminated h,
    List.filter_append]

theorem Terminated.append {before after : List Token} (h : Terminated before)
    (h' : Terminated after) : Terminated (before ++ after) := by
  rw [← tail_eq_nil_iff, runs_append_of_terminated h, tail_eq_nil_iff]
  exact h'

/-! ### Nothing but terminators is lost -/

theorem flatten_filter_nonempty {α : Type} (lists : List (List α)) :
    (lists.filter fun list => !list.isEmpty).flatten = lists.flatten := by
  induction lists with
  | nil => rfl
  | cons list rest ih => cases list <;> simp [ih]

theorem flatten_runs (tokens : List Token) :
    (runs tokens).1.flatten ++ (runs tokens).2 = tokens.filter fun t => !t.isTerminator := by
  induction tokens using List.reverseRecOn with
  | nil => rfl
  | append_singleton tokens t ih =>
    rw [List.filter_append, ← ih]
    cases ht : t.isTerminator
    · simp [runs_concat_of_open ht, ht]
    · simp [runs_concat_of_terminator ht, ht]

/-- The closed runs together are the closed part without its terminators. -/
theorem flatten_closedRuns (tokens : List Token) :
    (closedRuns tokens).flatten = (closedPart tokens).filter fun t => !t.isTerminator := by
  have htail : ((runs tokens).2.filter fun t => !t.isTerminator) = (runs tokens).2 := by
    apply List.filter_eq_self.mpr
    intro t ht
    simp [isTerminator_of_mem_tail ht]
  have hall := flatten_runs tokens
  conv at hall =>
    rhs
    rw [← closedPart_append_tail tokens, List.filter_append, htail]
  rw [← filter_runs, flatten_filter_nonempty]
  exact List.append_cancel_right hall

theorem mem_of_mem_closedRuns {tokens run : List Token} {t : Token} (hrun : run ∈ closedRuns tokens)
    (ht : t ∈ run) : t ∈ tokens := by
  have hflat : t ∈ (closedRuns tokens).flatten := List.mem_flatten.mpr ⟨run, hrun, ht⟩
  rw [flatten_closedRuns] at hflat
  exact (List.rdropWhile_prefix _ _).subset (List.mem_of_mem_filter hflat)

theorem isTerminator_of_mem_closedRuns {tokens run : List Token} {t : Token}
    (hrun : run ∈ closedRuns tokens) (ht : t ∈ run) : t.isTerminator = false := by
  have hflat : t ∈ (closedRuns tokens).flatten := List.mem_flatten.mpr ⟨run, hrun, ht⟩
  rw [flatten_closedRuns] at hflat
  simpa using (List.mem_filter.mp hflat).2

theorem ne_nil_of_mem_closedRuns {tokens run : List Token} (hrun : run ∈ closedRuns tokens) :
    run ≠ [] := by
  have hfilled := (List.mem_filter.mp hrun).2
  simpa using hfilled

/-! ### Runs with terminators behind them -/

theorem runs_of_forall {tokens : List Token} (h : ∀ t ∈ tokens, t.isTerminator = false) :
    runs tokens = ([], tokens) := by
  induction tokens with
  | nil => rfl
  | cons t rest ih =>
    rw [List.forall_mem_cons] at h
    exact runs_cons_of_open h.1 (ih h.2)

/-- The tail by itself is a tail. -/
theorem runs_of_tail (tokens : List Token) : runs (runs tokens).2 = ([], (runs tokens).2) :=
  runs_of_forall fun _ => isTerminator_of_mem_tail

theorem closedRuns_of_tail (tokens : List Token) : closedRuns (runs tokens).2 = [] := by
  rw [← filter_runs, runs_of_tail, List.filter_nil]

theorem terminated_closedPart (tokens : List Token) : Terminated (closedPart tokens) := by
  intro last hlast
  have hne : closedPart tokens ≠ [] := by
    intro hnil
    rw [hnil] at hlast
    cases hlast
  rw [List.getLast?_eq_some_getLast hne, Option.mem_some_iff] at hlast
  have hstop : ¬ (!((closedPart tokens).getLast hne).isTerminator) = true :=
    List.rdropWhile_last_not _ tokens hne
  rw [← hlast]
  simpa using hstop

theorem closedRuns_closedPart (tokens : List Token) :
    closedRuns (closedPart tokens) = closedRuns tokens := by
  conv_rhs =>
    rw [← closedPart_append_tail tokens, closedRuns_append (terminated_closedPart tokens),
      closedRuns_of_tail, List.append_nil]

/-- **Runs with a terminator behind each are the closed runs again**, and nothing stands
behind them. -/
theorem closedRuns_flatMap_concat {α : Type} (run : α → List Token) (stop : α → Token)
    {items : List α} (hstop : ∀ a ∈ items, (stop a).isTerminator = true)
    (hne : ∀ a ∈ items, run a ≠ []) (hopen : ∀ a ∈ items, ∀ t ∈ run a, t.isTerminator = false) :
    closedRuns (items.flatMap fun a => run a ++ [stop a]) = items.map run ∧
      Terminated (items.flatMap fun a => run a ++ [stop a]) := by
  induction items with
  | nil => exact ⟨rfl, by simp [Terminated]⟩
  | cons a rest ih =>
    rw [List.forall_mem_cons] at hstop hne hopen
    obtain ⟨hruns, hclosed⟩ := ih hstop.2 hne.2 hopen.2
    have hend : Terminated (run a ++ [stop a]) := by simp [Terminated, hstop.1]
    have hfirst : closedRuns (run a ++ [stop a]) = [run a] := by
      rw [← filter_runs, runs_concat_of_terminator hstop.1, runs_of_forall hopen.1]
      simp [hne.1]
    rw [List.flatMap_cons, closedRuns_append hend, hfirst, hruns]
    exact ⟨rfl, hend.append hclosed⟩

/-! ### Statements -/

theorem numbered_tokens (tokenRuns : List (List Token)) :
    (numbered tokenRuns).map Statement.tokens = tokenRuns := by
  apply List.ext_getElem
  · simp [numbered]
  · intro i hi hi'
    simp [numbered]

/-- One run more has the next number. -/
theorem numbered_concat (above : List (List Token)) (run : List Token) :
    numbered (above ++ [run]) = numbered above ++ [⟨(numbered above).length + 1, run⟩] := by
  simp [numbered, List.mapIdx_append]

namespace Segments

/-- The statements are the closed runs, numbered in order. -/
theorem split_statements (tokens : List Token) :
    (split tokens).statements = numbered (closedRuns tokens) := by
  rw [← filter_runs]
  rfl

theorem tailOrdinal_split (tokens : List Token) :
    (split tokens).tailOrdinal = (closedRuns tokens).length + 1 := by
  rw [tailOrdinal, split_statements, numbered, List.length_mapIdx]

theorem split_tail (tokens : List Token) : (split tokens).tail = (runs tokens).2 := rfl

/-- The error of a tail tells its number, its length, and the line it begins on. -/
theorem tailError?_eq_some_iff {mode : Mode} {tokens : List Token} {e : SyntaxError} :
    (split tokens).tailError? mode = some e ↔
      mode = .strict ∧ ∃ first rest, (runs tokens).2 = first :: rest ∧
        e = .unterminated ((closedRuns tokens).length + 1) (rest.length + 1) first.span.line := by
  unfold tailError?
  rw [tailOrdinal_split, split_tail]
  cases mode <;> cases (runs tokens).2 <;> simp [eq_comm]

/-- Only a tail in strict mode is an error. -/
theorem tailError?_eq_none_iff (mode : Mode) (tokens : List Token) :
    (split tokens).tailError? mode = none ↔ (mode = .strict → Terminated tokens) := by
  rw [← tail_eq_nil_iff, ← split_tail]
  cases mode <;> cases htail : (split tokens).tail <;> simp [tailError?, htail]

end Segments

end CircuitLang
