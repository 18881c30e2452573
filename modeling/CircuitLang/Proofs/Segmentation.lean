import CircuitLang.Proofs.Runs

/-! Segments are pieces of the token list.

A token list falls into pieces at its terminators. The pieces with something in them are
the statements, numbered without gaps, and the last piece is kept as the tail
(`Segments.OfPieces`). So nothing but terminators is lost, and writing the segments out
with one terminator behind each statement is undone by cutting again. The main statement
is `Segments.split_eq_pieces`. -/
namespace CircuitLang

theorem length_runs (tokens : List Token) :
    (runs tokens).1.length = tokens.countP Token.isTerminator := by
  induction tokens using List.reverseRecOn with
  | nil => rfl
  | append_singleton tokens t ih =>
    rw [List.countP_append, ← ih]
    cases ht : t.isTerminator
    · simp [runs_concat_of_open ht, ht]
    · simp [runs_concat_of_terminator ht, ht]

theorem numbered_ordinals (tokenRuns : List (List Token)) :
    (numbered tokenRuns).map Statement.ordinal = List.range' 1 tokenRuns.length := by
  apply List.ext_getElem
  · simp [numbered]
  · intro i hi hi'
    simp [numbered, Nat.add_comm]

namespace Segments

/-- The statements, and the tail as one more. -/
def parts (s : Segments) : List Statement :=
  s.statements ++ s.unterminated?.toList

/-- The tokens of segments, with a terminator behind each statement and none behind the
tail. -/
def joined (s : Segments) (stop : Statement → Token) : List Token :=
  (s.statements.flatMap fun statement => statement.tokens ++ [stop statement]) ++
    s.unterminated?.toList.flatMap Statement.tokens

/-- Segments made of pieces: the statements are the pieces in front of the last that have
something in them, numbered from one, and the last piece comes behind them. -/
structure OfPieces (pieces : List (List Token)) (s : Segments) : Prop where
  statements : s.statements.map Statement.tokens =
    pieces.dropLast.filter fun piece => !piece.isEmpty
  ordinals : s.statements.map Statement.ordinal = List.range' 1 s.statements.length
  tail : ∃ last, pieces.getLast? = some last ∧ s.unterminated? =
    if last.isEmpty then none else some ⟨s.statements.length + 1, last⟩

/-- Whether there is a tail or not, its tokens are those of its statement. -/
theorem flatMap_unterminated? (s : Segments) :
    s.unterminated?.toList.flatMap Statement.tokens = s.tail := by
  cases htail : s.tail <;> simp [unterminated?, htail]

theorem map_tokens_split (tokens : List Token) :
    (split tokens).statements.map Statement.tokens = closedRuns tokens := by
  rw [split_statements, numbered_tokens]

theorem split_ofPieces (tokens : List Token) :
    OfPieces (tokens.splitOnP Token.isTerminator) (split tokens) where
  statements := map_tokens_split tokens
  ordinals := by
    rw [split_statements, numbered_ordinals, numbered, List.length_mapIdx]
  tail := by
    rw [← runs_eq_splitOnP]
    exact ⟨_, List.getLast?_concat, rfl⟩

/-- A part is never empty, and no terminator stands in it. -/
theorem part_of_split {tokens : List Token} {s : Statement} (hs : s ∈ (split tokens).parts) :
    s.tokens ≠ [] ∧ ∀ t ∈ s.tokens, t.isTerminator = false := by
  rcases List.mem_append.mp hs with hs | hs
  · have hrun : s.tokens ∈ closedRuns tokens := by
      rw [← map_tokens_split]
      exact List.mem_map_of_mem hs
    exact ⟨ne_nil_of_mem_closedRuns hrun, fun _ => isTerminator_of_mem_closedRuns hrun⟩
  · rw [Option.mem_toList, unterminated?] at hs
    split at hs
    · cases hs
    · rename_i hne
      cases hs
      exact ⟨fun hnil => hne (List.isEmpty_iff.mpr hnil), fun _ => isTerminator_of_mem_tail⟩

theorem flatMap_parts (tokens : List Token) :
    (split tokens).parts.flatMap Statement.tokens = tokens.filter fun t => !t.isTerminator := by
  rw [parts, List.flatMap_append, flatMap_unterminated?, split_tail, List.flatMap_def,
    map_tokens_split, ← filter_runs, flatten_filter_nonempty, flatten_runs]

/-- Cutting undoes joining. -/
theorem split_joined (tokens : List Token) {stop : Statement → Token}
    (hstop : ∀ s, (stop s).isTerminator = true) :
    split ((split tokens).joined stop) = split tokens := by
  have hpart : ∀ s ∈ (split tokens).statements,
      s.tokens ≠ [] ∧ ∀ t ∈ s.tokens, t.isTerminator = false :=
    fun s hs => part_of_split (List.mem_append_left _ hs)
  obtain ⟨hruns, hclosed⟩ := closedRuns_flatMap_concat Statement.tokens stop
    (fun s _ => hstop s) (fun s hs => (hpart s hs).1) fun s hs => (hpart s hs).2
  have hstatements : (split ((split tokens).joined stop)).statements = (split tokens).statements := by
    rw [split_statements, joined, closedRuns_append hclosed, hruns, flatMap_unterminated?, split_tail,
      closedRuns_of_tail, List.append_nil, map_tokens_split, ← split_statements]
  have hbehind : (split ((split tokens).joined stop)).tail = (split tokens).tail := by
    rw [split_tail, joined, runs_append_of_terminated hclosed, flatMap_unterminated?, split_tail,
      runs_of_tail]
  exact congrArg₂ Segments.mk hstatements hbehind

/-- **Cutting a token list into statements is splitting it at its terminators.** There is
one piece more than terminators; the pieces that a terminator closes, without the empty
ones, are the statements, and the last piece is the tail. Nothing but terminators is
lost, and cutting undoes writing the segments out. -/
theorem split_eq_pieces (tokens : List Token) :
    (tokens.splitOnP Token.isTerminator).length = tokens.countP Token.isTerminator + 1 ∧
      OfPieces (tokens.splitOnP Token.isTerminator) (split tokens) ∧
      (∀ s ∈ (split tokens).parts, s.tokens ≠ [] ∧ ∀ t ∈ s.tokens, t.isTerminator = false) ∧
      ((split tokens).parts.flatMap Statement.tokens =
        tokens.filter fun t => !t.isTerminator) ∧
      ∀ stop : Statement → Token, (∀ s, (stop s).isTerminator = true) →
        split ((split tokens).joined stop) = split tokens := by
  refine ⟨?_, split_ofPieces tokens, fun _ => part_of_split, flatMap_parts tokens,
    fun _ => split_joined tokens⟩
  rw [← runs_eq_splitOnP, List.length_append, length_runs, List.length_singleton]

/-- A terminator in front, two in a row, and a tail. -/
theorem split_joined_of_empty_pieces :
    let name : Token := ⟨.identifier "a", ⟨1, 1, 1⟩, "a"⟩
    let marker : Token := ⟨.definition, ⟨1, 2, 2⟩, ":"⟩
    let stop : Token := ⟨.terminator, ⟨1, 3, 3⟩, ";"⟩
    let tokens := [stop, name, marker, stop, stop, marker, stop, name]
    (∀ _ : Statement, stop.isTerminator = true) ∧
      split tokens = ⟨[⟨1, [name, marker]⟩, ⟨2, [marker]⟩], [name]⟩ ∧
      (split tokens).joined (fun _ => stop) = [name, marker, stop, marker, stop, name] ∧
        split [name, marker, stop, marker, stop, name] = split tokens := by
  intro name marker stop tokens
  have hstop : ∀ _ : Statement, stop.isTerminator = true := fun _ => rfl
  have hjoined : (split tokens).joined (fun _ => stop) = [name, marker, stop, marker, stop, name] := by
    decide
  obtain ⟨-, -, -, -, hagain⟩ := split_eq_pieces tokens
  refine ⟨hstop, by decide, hjoined, ?_⟩
  rw [← hjoined]
  exact hagain (fun _ => stop) hstop

end Segments

end CircuitLang
