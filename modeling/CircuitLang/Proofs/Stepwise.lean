import CircuitLang.Proofs.Refusal

/-! Reading token by token.

A lexer can be asked for tokens one by one and read to the end at any time. Whatever it was
asked before, it goes on with what is left: `n` answers are the first `n` of what reading
at once comes to, and the rest of that is read behind them (`nextN_of_le`). Behind the end
every answer is nothing, and so is every answer behind an error, which is given once
(`nextN_of_finished`, `nextN_of_refused`). The main statement is
`stepwise_agrees_with_at_once`. -/
namespace CircuitLang

namespace Lexer

theorem scan_spent (l : Lexer) : l.spent.scan = ⟨[], none⟩ :=
  scan_of_finished rfl

variable {l : Lexer} {tokens : List Token} {error? : Option LexError} {e : LexError}

theorem tokenize_of_scan {s : Scan} (h : l.scan = s) : l.tokenize = s.result := by
  rw [tokenize, h]

theorem nextN_of_finished (h : l.scan = ⟨[], none⟩) (n : Nat) :
    (l.nextN n).1 = List.replicate n none ∧ (l.nextN n).2.scan = ⟨[], none⟩ := by
  induction n generalizing l with
  | zero => exact ⟨rfl, h⟩
  | succ n ih =>
    obtain ⟨hanswers, hbehind⟩ := ih l.scan_spent
    rw [nextN_succ, next_of_finished h, List.replicate_succ, ← hanswers]
    exact ⟨rfl, hbehind⟩

/-- A lexer in front of a refused character answers with the error, and with nothing
behind that. -/
theorem nextN_of_refused (h : l.scan = ⟨[], some e⟩) (n : Nat) :
    (l.nextN (n + 1)).1 = some (.error e) :: List.replicate n none ∧
      (l.nextN (n + 1)).2.scan = ⟨[], none⟩ := by
  obtain ⟨hanswers, hbehind⟩ := nextN_of_finished l.scan_spent n
  rw [nextN_succ, next_of_scan h, ← hanswers]
  exact ⟨rfl, hbehind⟩

/-- Up to the last token answers are tokens, and the rest is left. -/
theorem nextN_of_le (h : l.scan = ⟨tokens, error?⟩) {n : Nat} (hn : n ≤ tokens.length) :
    (l.nextN n).1 = (tokens.take n).map (fun t => some (.ok t)) ∧
      (l.nextN n).2.scan = ⟨tokens.drop n, error?⟩ := by
  rw [← List.take_append_drop n tokens] at h
  obtain ⟨after, hnext, hafter⟩ := nextN_of_scan h
  rw [List.length_take_of_le hn] at hnext
  rw [hnext]
  exact ⟨rfl, hafter⟩

/-- Behind the last token answers are those of a lexer without tokens. -/
theorem nextN_behind (h : l.scan = ⟨tokens, error?⟩) (n : Nat) :
    ∃ after : Lexer, after.scan = ⟨[], error?⟩ ∧
      l.nextN (tokens.length + n) =
        (tokens.map (fun t => some (.ok t)) ++ (after.nextN n).1, (after.nextN n).2) := by
  rw [← List.append_nil tokens] at h
  obtain ⟨after, hnext, hafter⟩ := nextN_of_scan h
  refine ⟨after, hafter, ?_⟩
  rw [nextN_add, hnext]

/-- The answers of a lexer that comes to its end. -/
theorem nextN_of_tokens (h : l.scan = ⟨tokens, none⟩) (n : Nat) :
    (l.nextN n).1 =
        (tokens.take n).map (fun t => some (.ok t)) ++ List.replicate (n - tokens.length) none ∧
      (l.nextN n).2.scan = ⟨tokens.drop n, none⟩ := by
  rcases Nat.le_total n tokens.length with hn | hn
  · rw [Nat.sub_eq_zero_of_le hn, List.replicate_zero, List.append_nil]
    exact nextN_of_le h hn
  · obtain ⟨m, rfl⟩ := Nat.exists_eq_add_of_le hn
    obtain ⟨after, hafter, hnext⟩ := nextN_behind h m
    obtain ⟨hanswers, hbehind⟩ := nextN_of_finished hafter m
    rw [hnext, hanswers, Nat.add_sub_cancel_left, List.take_of_length_le hn,
      List.drop_of_length_le hn]
    exact ⟨rfl, hbehind⟩

/-- The answers of a lexer behind the error it comes to. -/
theorem nextN_of_error (h : l.scan = ⟨tokens, some e⟩) {n : Nat} (hn : tokens.length < n) :
    (l.nextN n).1 =
        tokens.map (fun t => some (.ok t)) ++
          some (.error e) :: List.replicate (n - tokens.length - 1) none ∧
      (l.nextN n).2.scan = ⟨[], none⟩ := by
  obtain ⟨m, rfl⟩ := Nat.exists_eq_add_of_lt hn
  obtain ⟨after, hafter, hnext⟩ := nextN_behind h (m + 1)
  obtain ⟨hanswers, hbehind⟩ := nextN_of_refused hafter m
  rw [Nat.add_assoc, hnext, hanswers, Nat.add_sub_cancel_left, Nat.add_sub_cancel]
  exact ⟨rfl, hbehind⟩

end Lexer

/-- The tokens in front of an error are those of the text in front of the refused
character. -/
theorem exists_text_before_error {table : OperationTable} {source : String} {e : LexError}
    (h : (Lexer.ofSource table source).scan.error? = some e) :
    ∃ before behind, source.toList = before ++ e.character :: behind ∧
      tokenize table (String.ofList before) = .ok (Lexer.ofSource table source).scan.tokens := by
  obtain ⟨before, behind, hsource, hrefused⟩ := exists_refused h
  obtain ⟨tokens, htokens, hscan⟩ := hrefused.scan
  refine ⟨before, behind, hsource, ?_⟩
  rw [htokens, Lexer.ofSource, hsource, hscan behind]

/-- **Reading token by token agrees with reading at once.** If a text has tokens, `n`
answers are the first `n` of them and nothing behind the last one, and reading the rest at
once gives the others, at their own spans. If a character is refused, answers are first the
tokens of the text in front of it, then its error once, and nothing behind that; reading the
rest at once fails with the error as long as that was not given, and comes to no tokens
behind it. -/
theorem stepwise_agrees_with_at_once (table : OperationTable) (source : String) :
    let l := Lexer.ofSource table source
    (∀ tokens, tokenize table source = .ok tokens → ∀ n,
        (l.nextN n).1 =
            (tokens.take n).map (fun t => some (.ok t)) ++
              List.replicate (n - tokens.length) none ∧
          (l.nextN n).2.tokenize = .ok (tokens.drop n)) ∧
      ∀ e, tokenize table source = .error e →
        let tokens := l.scan.tokens
        (∃ before behind, source.toList = before ++ e.character :: behind ∧
            tokenize table (String.ofList before) = .ok tokens) ∧
          ∀ n,
            (n ≤ tokens.length →
                (l.nextN n).1 = (tokens.take n).map (fun t => some (.ok t)) ∧
                  (l.nextN n).2.tokenize = .error e) ∧
              (tokens.length < n →
                (l.nextN n).1 =
                    tokens.map (fun t => some (.ok t)) ++
                      some (.error e) :: List.replicate (n - tokens.length - 1) none ∧
                  (l.nextN n).2.tokenize = .ok []) := by
  intro l
  constructor
  · intro tokens htokens n
    have hscan : l.scan = ⟨tokens, none⟩ := tokenize_eq_ok_iff.mp htokens
    obtain ⟨hanswers, hbehind⟩ := Lexer.nextN_of_tokens hscan n
    exact ⟨hanswers, Lexer.tokenize_of_scan hbehind⟩
  · intro e he tokens
    have herror : l.scan.error? = some e := tokenize_eq_error_iff.mp he
    have hscan : l.scan = ⟨tokens, some e⟩ := by rw [← herror]
    refine ⟨exists_text_before_error herror, fun n => ⟨fun hn => ?_, fun hn => ?_⟩⟩
    · obtain ⟨hanswers, hbehind⟩ := Lexer.nextN_of_le hscan hn
      exact ⟨hanswers, Lexer.tokenize_of_scan hbehind⟩
    · obtain ⟨hanswers, hbehind⟩ := Lexer.nextN_of_error hscan hn
      exact ⟨hanswers, Lexer.tokenize_of_scan hbehind⟩

/-- A name and a literal in front of a refused character, and a comment behind it. -/
theorem stepwise_up_to_superscript :
    let source := "né\n1²; x"
    let l := Lexer.ofSource .standard source
    let name : Token := ⟨.identifier "né", ⟨1, 1, 2⟩, "né"⟩
    let literal : Token := ⟨.literal true, ⟨2, 1, 1⟩, "1"⟩
    let e : LexError := ⟨'²', ⟨2, 2, 2⟩⟩
    tokenize .standard source = .error e ∧
      (l.nextN 1).1 = [some (.ok name)] ∧ (l.nextN 1).2.tokenize = .error e ∧
        (l.nextN 4).1 = [some (.ok name), some (.ok literal), some (.error e), none] ∧
          (l.nextN 4).2.tokenize = .ok [] := by
  intro source l name literal e
  have he : tokenize .standard source = .error e := by decide +kernel
  have htokens : l.scan.tokens = [name, literal] := by decide +kernel
  obtain ⟨-, hanswers⟩ := (stepwise_agrees_with_at_once .standard source).2 e he
  obtain ⟨hone, hone'⟩ := (hanswers 1).1 (by rw [htokens]; decide)
  obtain ⟨hfour, hfour'⟩ := (hanswers 4).2 (by rw [htokens]; decide)
  rw [htokens] at hone hfour
  exact ⟨he, hone, hone', hfour, hfour'⟩

end CircuitLang
