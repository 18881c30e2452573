import CircuitLang.Proofs.Diagnosis
import CircuitLang.Proofs.Listing
import CircuitLang.Proofs.Refusal
import CircuitLang.Proofs.Segmentation
import CircuitLang.Proofs.Separators
import Mathlib

/-! What the message of a failure tells.

The message of a single error is made of words with spaces between them (`Told`). The third
word is the same for all errors of a kind and for no others, and the words that are not the
same for all of them are the fields of the error. No word has a blank in it, as long as the
table gives no operation a name with one, so the message comes apart into its words. Several
errors are told on a line each, and they are at least two, so they are never told like a
single one. The main statement is `message_determines_failure`. -/
namespace CircuitLang

/-! ### Words -/

/-- A text without blanks. -/
def Word (text : String) : Prop :=
  ∀ c ∈ text.toList, Text.isBlank c = false

instance (text : String) : Decidable (Word text) :=
  List.decidableBAll (fun c => Text.isBlank c = false) text.toList

/-- Two numbers as they stand at the end of a message. -/
def pair (a b : Nat) : String :=
  "(" ++ toString a ++ ":" ++ toString b ++ ")"

theorem isDigit_of_mem_repr {n : Nat} {c : Char} (h : c ∈ n.repr.toList) : c.isDigit = true := by
  rw [Nat.toList_repr] at h
  exact Nat.isDigit_of_mem_toDigits (by decide) (by decide) h

namespace Word

theorem append {a b : String} (ha : Word a) (hb : Word b) : Word (a ++ b) := by
  intro c hc
  rw [String.toList_append, List.mem_append] at hc
  exact hc.elim (ha c) (hb c)

theorem number (n : Nat) : Word n.repr := by
  intro c hc
  have hdigit := isDigit_of_mem_repr hc
  cases hblank : Text.isBlank c
  · rfl
  · simp only [Text.isBlank, Bool.or_eq_true, beq_iff_eq] at hblank
    rcases hblank with ((rfl | rfl) | rfl) | rfl <;> cases hdigit

theorem pair (a b : Nat) : Word (pair a b) := by
  unfold CircuitLang.pair
  exact (((append (by decide) (number a)).append (by decide)).append (number b)).append (by decide)

theorem quoted {c : Char} (h : Text.isBlank c = false) : Word ("'" ++ c.toString ++ "'") := by
  refine append (append (by decide) fun d hd => ?_) (by decide)
  rw [Char.toString, String.toList_singleton, List.mem_singleton] at hd
  rwa [hd]

theorem space_notMem {text : String} (h : Word text) : ' ' ∉ text.toList :=
  fun hmem => absurd (h _ hmem) (by decide)

theorem newline_notMem {text : String} (h : Word text) : '\n' ∉ text.toList :=
  fun hmem => absurd (h _ hmem) (by decide)

end Word

theorem pair_inj {a b a' b' : Nat} : pair a b = pair a' b' ↔ a = a' ∧ b = b' := by
  constructor
  · intro h
    have hcolon (n : Nat) : ':' ∉ n.repr.toList :=
      fun hmem => absurd (isDigit_of_mem_repr hmem) (by decide)
    have htext : a.repr.toList ++ ':' :: (b.repr.toList ++ [')']) =
        a'.repr.toList ++ ':' :: (b'.repr.toList ++ [')']) := by
      simpa [pair] using congrArg String.toList h
    obtain ⟨ha, hb⟩ := append_separator_inj (hcolon a) (hcolon a') htext
    rw [List.append_left_inj, String.toList_inj, Nat.repr_inj] at hb
    rw [String.toList_inj, Nat.repr_inj] at ha
    exact ⟨ha, hb⟩
  · intro h
    obtain ⟨rfl, rfl⟩ := h
    rfl

/-! ### Single errors -/

/-- The words by which a single error is told. -/
inductive Told : Failure → List String → Prop where
  | lexical {c : Char} {line column : UInt32} (hc : Text.isBlank c = false) :
      Told (.lexical ⟨c, .single line column⟩) ["ERROR:", "unrecognized", "character",
        "'" ++ c.toString ++ "'", pair line.toNat column.toNat]
  | noRoot {s : Nat} :
      Told (.grammatical (.noRoot s)) ["ERROR:", "no", "root", "in", "statement", toString s]
  | multipleRoots {s i : Nat} :
      Told (.grammatical (.multipleRoots s i))
        ["ERROR:", "multiple", "roots", "in", "same", "statement", pair s i]
  | unnamedDefinition {s i : Nat} :
      Told (.grammatical (.unnamedDefinition s i))
        ["ERROR:", "expected", "name", "before", "definition", pair s i]
  | arityMismatch {s i expected found : Nat} {op : String} (hop : Word op) :
      Told (.grammatical (.arityMismatch s i op expected found))
        ["ERROR:", op, "expects", toString expected, "argument(s),", "found", toString found,
          pair s i]
  | unfitOperand {s i : Nat} {op : String} (hop : Word op) :
      Told (.grammatical (.unfitArgument s i op "an identifier or literal"))
        ["ERROR:", "expected", "an", "identifier", "or", "literal", "as", "argument", "of", op,
          pair s i]
  | unfitFlag {s i : Nat} {op : String} (hop : Word op) :
      Told (.grammatical (.unfitArgument s i op "a boolean flag"))
        ["ERROR:", "expected", "a", "boolean", "flag", "as", "argument", "of", op, pair s i]
  | strayToken {s i : Nat} :
      Told (.grammatical (.strayToken s i))
        ["ERROR:", "unexpected", "token", "before", "root", pair s i]
  | unterminated {s i : Nat} {line : UInt32} :
      Told (.grammatical (.unterminated s i line)) ["ERROR:", "missing", "';'", "after",
        "statement", toString s, "on", "line", toString line.toNat, pair s i]

namespace Told
variable {failure failure' : Failure} {words words' : List String}

/-- A message is made of the words with spaces between them. -/
theorem message_eq (h : Told failure words) : failure.message = " ".intercalate words := by
  apply String.toList_inj.mp
  -- `delta`, because the equations of these functions compare texts for long when they are made.
  cases h <;>
    delta Failure.message LexError.message SyntaxError.message SyntaxError.location pair <;>
    dsimp only <;> simp [Span.render, Span.single]

theorem word_of_mem (h : Told failure words) : ∀ word ∈ words, Word word := by
  cases h <;>
    simp only [List.forall_mem_cons, Nat.toString_eq_repr, Word.number, Word.pair, Word.quoted,
      true_and, *] <;>
    decide

theorem ne_nil (h : Told failure words) : words ≠ [] := by
  cases h <;> exact List.cons_ne_nil _ _

/-- **The words tell the error.** -/
theorem failure_eq (h : Told failure words) (h' : Told failure' words') (hwords : words = words') :
    failure = failure' := by
  -- Errors of two kinds differ in the third word, and errors of one kind in their fields.
  cases h <;> cases h' <;> simp_all [pair_inj, UInt32.toNat_inj]

theorem failure_eq_of_message (h : Told failure words) (h' : Told failure' words')
    (hmessage : failure.message = failure'.message) : failure = failure' := by
  have hspace {words : List String} {failure : Failure} (h : Told failure words) :
      ∀ word ∈ words.map String.toList, ' ' ∉ word :=
    List.forall_mem_map.mpr fun word hword => (h.word_of_mem word hword).space_notMem
  have htext := congrArg String.toList hmessage
  rw [h.message_eq, h'.message_eq, String.toList_intercalate, String.toList_intercalate] at htext
  have hwords := intercalate_inj_of_ne_nil (List.not_mem_nil) (hspace h) (hspace h')
    (List.map_eq_nil_iff.not.mpr h.ne_nil) (List.map_eq_nil_iff.not.mpr h'.ne_nil) htext
  exact h.failure_eq h' (List.map_injective_iff.mpr (fun _ _ => String.toList_injective) hwords)

theorem newline_notMem_message (h : Told failure words) : '\n' ∉ failure.message.toList := by
  rw [h.message_eq, String.toList_intercalate]
  exact notMem_intercalate (by decide)
    (List.forall_mem_map.mpr fun word hword => (h.word_of_mem word hword).newline_notMem)

end Told

/-! ### Failures -/

namespace Failure

/-- The errors of a failure, each as a failure of its own. -/
def parts : Failure → List Failure
  | several es => es.map grammatical
  | failure => [failure]

/-- A failure whose errors can be told, and which has several only if it has two at least. -/
structure Tellable (failure : Failure) : Prop where
  told : ∀ part ∈ failure.parts, ∃ words, Told part words
  several : ∀ es, failure = several es → 2 ≤ es.length

/-- A failure reports several errors, or is its only part. -/
theorem eq_several_or_parts_eq (failure : Failure) :
    (∃ es, failure = several es) ∨ failure.parts = [failure] := by
  cases failure with
  | several es => exact .inl ⟨es, rfl⟩
  | _ => exact .inr rfl

/-- Every error is told on a line. -/
theorem toList_message (failure : Failure) :
    failure.message.toList =
      ['\n'].intercalate (failure.parts.map fun part => part.message.toList) := by
  rcases failure.eq_several_or_parts_eq with ⟨es, rfl⟩ | hparts
  · rw [parts, List.map_map]
    show ("\n".intercalate (es.map SyntaxError.message)).toList = _
    rw [String.toList_intercalate, List.map_map]
    rfl
  · rw [hparts, List.map_singleton, List.intercalate_singleton]

namespace Tellable
variable {failure failure' : Failure}

/-- A failure with one part is that part. -/
theorem parts_eq_or_two_le (h : failure.Tellable) :
    failure.parts = [failure] ∨ ∃ es, failure = .several es ∧ 2 ≤ failure.parts.length := by
  rcases failure.eq_several_or_parts_eq with ⟨es, rfl⟩ | hsingle
  · exact .inr ⟨es, rfl, by simpa [parts] using h.several es rfl⟩
  · exact .inl hsingle

theorem parts_ne_nil (h : failure.Tellable) : failure.parts ≠ [] := by
  rcases h.parts_eq_or_two_le with hsingle | ⟨-, -, hlength⟩
  · simp [hsingle]
  · exact List.ne_nil_of_length_pos (by omega)

theorem splitOn_message (h : failure.Tellable) :
    failure.message.toList.splitOn '\n' = failure.parts.map fun part => part.message.toList := by
  rw [toList_message]
  refine List.splitOn_intercalate '\n' (List.forall_mem_map.mpr fun part hpart => ?_)
    (List.map_eq_nil_iff.not.mpr h.parts_ne_nil)
  obtain ⟨words, htold⟩ := h.told part hpart
  exact htold.newline_notMem_message

theorem eq_of_parts (h : failure.Tellable) (h' : failure'.Tellable)
    (hparts : failure.parts = failure'.parts) : failure = failure' := by
  have hlength := congrArg List.length hparts
  rcases h.parts_eq_or_two_le with hsingle | ⟨es, rfl, htwo⟩ <;>
    rcases h'.parts_eq_or_two_le with hsingle' | ⟨es', rfl, htwo'⟩
  · rw [hsingle, hsingle'] at hparts
    exact List.head_eq_of_cons_eq hparts
  · rw [hsingle, List.length_singleton] at hlength
    omega
  · rw [hsingle', List.length_singleton] at hlength
    omega
  · exact congrArg Failure.several (List.map_injective_iff.mpr (fun _ _ => grammatical.inj) hparts)

/-- **The message of a failure tells the failure.** -/
theorem eq_of_message (h : failure.Tellable) (h' : failure'.Tellable)
    (hmessage : failure.message = failure'.message) : failure = failure' := by
  have hlines : failure.message.toList.splitOn '\n' = failure'.message.toList.splitOn '\n' := by
    rw [hmessage]
  rw [h.splitOn_message, h'.splitOn_message] at hlines
  have hparts : failure.parts.map id = failure'.parts.map id :=
    map_eq_of_mem hlines fun part hpart part' hpart' htext => by
      obtain ⟨words, htold⟩ := h.told part hpart
      obtain ⟨words', htold'⟩ := h'.told part' hpart'
      exact htold.failure_eq_of_message htold' (String.toList_inj.mp htext)
  rw [List.map_id, List.map_id] at hparts
  exact h.eq_of_parts h' hparts

end Tellable

end Failure

/-! ### Runs that fail -/

/-- A name that is alphanumeric throughout. -/
def Operation.AlphanumericName (op : Operation) : Prop :=
  ∀ c ∈ op.name.toList, Text.isAlphanumeric c = true

instance (op : Operation) : Decidable op.AlphanumericName :=
  List.decidableBAll (fun c => Text.isAlphanumeric c = true) op.name.toList

/-- The operations of a table have alphanumeric names. -/
def OperationTable.AlphanumericNames (table : OperationTable) : Prop :=
  ∀ entry ∈ table.entries, entry.2.AlphanumericName

instance (table : OperationTable) : Decidable table.AlphanumericNames :=
  List.decidableBAll (fun entry : String × Operation => entry.2.AlphanumericName) table.entries

theorem OperationTable.AlphanumericNames.word {table : OperationTable}
    (htable : table.AlphanumericNames) {t : Token} (h : t.Readable table) {op : Operation}
    (hkind : t.kind = .keyword op) : Word op.name :=
  fun c hc => isBlank_eq_false_of_isAlphanumeric (htable _ (h.mem_entries hkind) c hc)

/-- An error of a statement can be told if the operations of the statement have names without
blanks. -/
theorem Diagnosed.told {s : Statement} {e : SyntaxError} (h : Diagnosed s e)
    (hnames : ∀ t ∈ s.tokens, ∀ op, t.kind = .keyword op → Word op.name) :
    ∃ words, Told (.grammatical e) words := by
  cases h with
  | rootless => exact ⟨_, .noRoot⟩
  | blamed htokens hculprit =>
    rw [htokens] at hnames
    cases hculprit with
    | secondRoot => exact ⟨_, .multipleRoots⟩
    | unnamed => exact ⟨_, .unnamedDefinition⟩
    | wrongCount hkind => exact ⟨_, .arityMismatch (hnames _ (by simp) _ hkind)⟩
    | @unfit op keyword t accepted after hkeyword =>
      have hname : Word op.name := hnames keyword (by simp) op hkeyword
      unfold Operation.expected
      split
      · exact ⟨_, .unfitOperand hname⟩
      · exact ⟨_, .unfitFlag hname⟩
    | stray => exact ⟨_, .strayToken⟩
    | last => exact ⟨_, .unterminated⟩

theorem Program.Belongs.mem {tokens : List Token} {e : SyntaxError} {s : Statement}
    (h : Belongs tokens e s) {t : Token} (ht : t ∈ s.tokens) : t ∈ tokens := by
  have hpart : s ∈ (Segments.split tokens).parts := by
    rw [Belongs] at h
    split at h
    · exact List.mem_append_right _ (Option.mem_toList.mpr h)
    · exact List.mem_append_left _ h
  have hmem : t ∈ (Segments.split tokens).parts.flatMap Statement.tokens :=
    List.mem_flatMap.mpr ⟨s, hpart, ht⟩
  rw [Segments.flatMap_parts] at hmem
  exact List.mem_of_mem_filter hmem

theorem Failure.parts_eq_reported {failure : Failure} (h : failure.reported ≠ []) :
    failure.parts = failure.reported.map grammatical := by
  cases failure with
  | grammatical => rfl
  | several => rfl
  | _ => exact absurd rfl h

theorem Program.tellable_of_parse {options : Options} {tokens : List Token} {failure : Failure}
    (h : parse options tokens = .error failure)
    (hnames : ∀ t ∈ tokens, ∀ op, t.kind = .keyword op → Word op.name) : failure.Tellable := by
  obtain ⟨hsublist, hreported, hseveral⟩ := reported_of_parse h
  refine ⟨?_, fun es hes => (hseveral es hes).2⟩
  rw [Failure.parts_eq_reported hreported, List.forall_mem_map]
  intro e he
  obtain ⟨s, hbelongs, hlocated⟩ := errors_located (hsublist.subset he)
  exact hlocated.diagnosed.told fun t ht => hnames t (hbelongs.mem ht)

theorem Place.spanOf_singleton (p : Place) {c : Char} (hc : c ≠ '\n') :
    p.spanOf [c] = .single p.line (p.column + 1) := by
  rw [spanOf, after_cons, after_nil, advance, if_neg hc, Span.single]

/-- An error of reading can be told: its character is no blank, and so it stands on a single
column. -/
theorem LexError.told {table : OperationTable} {source : String} {e : LexError}
    (h : tokenize table source = .error e) : ∃ words, Told (.lexical e) words := by
  rw [tokenize_eq_error_iff] at h
  obtain ⟨before, behind, htext, hrefused⟩ := exists_refused h
  obtain ⟨tokens, -, hscan⟩ := hrefused.scan
  rw [htext, hscan] at h
  have hnewline : e.character ≠ '\n' := by
    intro hc
    exact hrefused.illegal.newline_notMem (by simp [hc])
  have he : (⟨e.character, (Place.start.after before).spanOf [e.character]⟩ : LexError) = e :=
    Option.some.inj h
  rw [← he, Place.spanOf_singleton _ hnewline]
  exact ⟨_, .lexical hrefused.illegal.blank⟩

/-- Whatever fails to be read fails in a way that can be told. -/
theorem tellable_of_readUnder {table : OperationTable} {options : Options} {source : String}
    {failure : Failure} (htable : table.AlphanumericNames)
    (h : readUnder table options source = .error failure) : failure.Tellable := by
  cases htokens : tokenize table source with
  | error e =>
    rw [readUnder_of_tokenize_error htokens] at h
    cases h
    refine ⟨fun part hpart => ?_, fun es hes => Failure.noConfusion hes⟩
    rw [List.mem_singleton.mp hpart]
    exact LexError.told htokens
  | ok tokens =>
    rw [readUnder_of_tokenize htokens] at h
    exact Program.tellable_of_parse h fun t ht op hkind =>
      htable.word (readable_of_tokenize htokens ht) hkind

/-- **The message of a failure tells the failure.** Whatever two texts fail to be read under
whatever tables and options, as long as the operations of the tables have alphanumeric names:
if the messages are the same then so are the failures, with all their errors in order and all
that those say. The lines of the message of several errors are the messages of the errors. -/
theorem message_determines_failure {table table' : OperationTable} {options options' : Options}
    {source source' : String} {failure failure' : Failure} (htable : table.AlphanumericNames)
    (htable' : table'.AlphanumericNames) (h : readUnder table options source = .error failure)
    (h' : readUnder table' options' source' = .error failure') :
    (failure.message = failure'.message → failure = failure') ∧
      ∀ es, failure = .several es →
        failure.message.toList.splitOn '\n' = es.map fun e => e.message.toList := by
  have htellable := tellable_of_readUnder htable h
  constructor
  · exact htellable.eq_of_message (tellable_of_readUnder htable' h')
  · intro es hes
    rw [htellable.splitOn_message, hes, Failure.parts, List.map_map]
    rfl

/-- Two texts under two tables, with an operation that is named like a word of messages. -/
theorem message_determines_failure_of_expected :
    let op : Operation := ⟨"expected", 1, 1, true⟩
    let table : OperationTable := ⟨[("E", op)], by decide⟩
    let table' : OperationTable := ⟨[("no", .gate "no"), ("né", op)], by decide⟩
    let failure : Failure := .several [.noRoot 1, .arityMismatch 2 1 "expected" 2 0,
      .unfitArgument 3 3 "expected" "a boolean flag"]
    table.AlphanumericNames ∧ table'.AlphanumericNames ∧
      readUnder table ⟨.strict, .collect⟩ "0;\nE;\nE 1 a;" = .error failure ∧
        (∃ failure', readUnder table' ⟨.lenient, .collect⟩ "no ;\n né ; x\nné b c ;1\n0" =
            .error failure' ∧ failure.message = failure'.message ∧ failure = failure') ∧
        failure.message.toList.splitOn '\n' = ["ERROR: no root in statement 1".toList,
          "ERROR: expected expects 2 argument(s), found 0 (2:1)".toList,
          "ERROR: expected a boolean flag as argument of expected (3:3)".toList] := by
  intro op table table' failure
  have htable : table.AlphanumericNames := by decide
  have htable' : table'.AlphanumericNames := by decide
  have hrun : readUnder table ⟨.strict, .collect⟩ "0;\nE;\nE 1 a;" = .error failure := by
    decide +kernel
  have hrun' : readUnder table' ⟨.lenient, .collect⟩ "no ;\n né ; x\nné b c ;1\n0" =
      .error failure := by
    decide +kernel
  obtain ⟨hsame, hlines⟩ := message_determines_failure htable htable' hrun hrun'
  refine ⟨htable, htable', hrun, ⟨failure, hrun', rfl, hsame rfl⟩, ?_⟩
  rw [hlines _ rfl]
  decide +kernel

end CircuitLang
