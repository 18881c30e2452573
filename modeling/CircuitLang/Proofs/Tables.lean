import CircuitLang.Proofs.Refusal
import CircuitLang.Proofs.Reformatting

/-! What the table decides.

Where a token begins and ends, what is a comment and which character is refused does not
depend on the table: a step under another table is the same step, and only the kind of a
name is looked up anew (`step_under`). So a text is read alike under two tables but for the
kinds of its names (`scan_under`), and those are the names that stand in it outside comments
(`hasName_iff`). The main statement is `tables_only_classify`. -/
namespace CircuitLang

/-! ### Kinds under another table -/

/-- Names are what a table tells apart. -/
def Kind.isName : Kind → Bool
  | identifier _ | keyword _ => true
  | _ => false

/-- The kind that a lexeme has under another table. -/
def Kind.under (table : OperationTable) (lexeme : String) (kind : Kind) : Kind :=
  if kind.isName then ofName table lexeme else kind

def Token.under (table : OperationTable) (t : Token) : Token :=
  { t with kind := t.kind.under table t.lexeme }

theorem Kind.isName_ofName (table : OperationTable) (name : String) :
    (ofName table name).isName = true := by
  unfold ofName
  cases table.get? name <;> rfl

theorem isName_eq_false_of_mark? {c : Char} {kind : Kind} (h : mark? c = some kind) :
    kind.isName = false := by
  rcases mark?_eq_some h with ⟨-, rfl⟩ | ⟨-, rfl⟩ | ⟨-, rfl⟩ | ⟨-, rfl⟩ <;> rfl

theorem Kind.under_of_isName {table : OperationTable} {lexeme : String} {kind : Kind}
    (h : kind.isName = true) : kind.under table lexeme = ofName table lexeme := if_pos h

theorem Kind.under_of_other {table : OperationTable} {lexeme : String} {kind : Kind}
    (h : kind.isName = false) : kind.under table lexeme = kind := by
  rw [Kind.under, h, if_neg Bool.false_ne_true]

namespace Lexer

/-- The lexer at the same place with another table. -/
def under (table : OperationTable) (l : Lexer) : Lexer :=
  { l with table }

def Step.under (table : OperationTable) : Step → Step
  | finished => finished
  | read t after => read (t.under table) (after.under table)
  | refused e => refused e

def Scan.under (table : OperationTable) (s : Scan) : Scan :=
  ⟨s.tokens.map (Token.under table), s.error?⟩

theorem takeName_under (table : OperationTable) (l : Lexer) (c : Char) (rest : List Char) :
    (l.under table).takeName c rest = (l.takeName c rest).under table := by
  simp only [takeName, take, Step.under, Token.under, Kind.under_of_isName (Kind.isName_ofName _ _)]
  rfl

theorem takeToken_under (table : OperationTable) (l : Lexer) (c : Char) (rest : List Char) :
    (l.under table).takeToken c rest = (l.takeToken c rest).under table := by
  unfold takeToken
  split
  · rfl
  split
  · rfl
  split
  · rfl
  split
  · rfl
  split
  · exact l.takeName_under table c rest
  · rfl

theorem stepFrom_under (table table' : OperationTable) (place : Place) (text : List Char) :
    stepFrom table' place text = (stepFrom table place text).under table' := by
  induction text generalizing place with
  | nil => rfl
  | cons c rest ih =>
    rw [stepFrom, stepFrom]
    split
    · exact ih _
    · exact takeToken_under table' ⟨table, place, c :: rest⟩ c rest

/-- A step under another table is the same step but for the kind of a name. -/
theorem step_under (table : OperationTable) (l : Lexer) :
    (l.under table).step = l.step.under table :=
  stepFrom_under l.table table l.place l.rest

/-- What is read under another table is the same but for the kinds of names. -/
theorem scan_under (table : OperationTable) (l : Lexer) :
    (l.under table).scan = l.scan.under table := by
  induction l using scan.induct with
  | case1 l hstep =>
    have hunder := l.step_under table
    rw [hstep] at hunder
    rw [scan_of_finished hstep, scan_of_finished hunder]
    rfl
  | case2 l t after hstep ih =>
    have hunder := l.step_under table
    rw [hstep] at hunder
    rw [scan_of_read hstep, scan_of_read hunder, ih]
    rfl
  | case3 l e hstep =>
    have hunder := l.step_under table
    rw [hstep] at hunder
    rw [scan_of_refused hstep, scan_of_refused hunder]
    rfl

theorem Scan.result_under (table : OperationTable) (s : Scan) :
    (s.under table).result = s.result.map (List.map (Token.under table)) := by
  obtain ⟨tokens, _ | e⟩ := s <;> rfl

end Lexer

/-- Tokens that are the same under two tables, but for what each table says of a name. -/
structure SameLexeme (table table' : OperationTable) (t t' : Token) : Prop where
  lexeme : t'.lexeme = t.lexeme
  span : t'.span = t.span
  /-- A name is a keyword under a table that has it, and an identifier under any other. -/
  name : t.kind.isName = true →
    t.kind = .ofName table t.lexeme ∧ t'.kind = .ofName table' t.lexeme
  other : t.kind.isName = false → t'.kind = t.kind

theorem SameLexeme.eq_of_get? {table table' : OperationTable} {t t' : Token}
    (h : SameLexeme table table' t t')
    (hget : t.kind.isName = true → table.get? t.lexeme = table'.get? t.lexeme) : t' = t := by
  have hkind : t'.kind = t.kind := by
    cases hname : t.kind.isName with
    | false => exact h.other hname
    | true =>
      obtain ⟨hkind, hkind'⟩ := h.name hname
      rw [hkind', hkind, Kind.ofName, Kind.ofName, hget hname]
  obtain ⟨kind, span, lexeme⟩ := t
  obtain ⟨kind', span', lexeme'⟩ := t'
  obtain rfl : kind' = kind := hkind
  obtain rfl : span' = span := h.span
  obtain rfl : lexeme' = lexeme := h.lexeme
  rfl

/-- A text comes to the same tokens or the same error under another table, but for the kinds
of names. -/
theorem tokenize_under (table table' : OperationTable) (source : String) :
    tokenize table' source = (tokenize table source).map (List.map (Token.under table')) := by
  have hscan : (Lexer.ofSource table' source).scan = (Lexer.ofSource table source).scan.under table' :=
    (Lexer.ofSource table source).scan_under table'
  rw [tokenize, tokenize, Lexer.tokenize, Lexer.tokenize, hscan]
  exact Lexer.Scan.result_under table' _

theorem sameLexeme_under {table : OperationTable} {source : String} {tokens : List Token}
    (h : tokenize table source = .ok tokens) {t : Token} (ht : t ∈ tokens)
    (table' : OperationTable) : SameLexeme table table' t (t.under table') := by
  have hsame : tokens = tokens.map (Token.under table) := by
    have hunder := tokenize_under table table source
    rw [h] at hunder
    exact Except.ok.inj hunder
  have hkept : t.under table = id t := by
    apply List.map_inj_left.mp _ t ht
    rw [List.map_id, ← hsame]
  refine ⟨rfl, rfl, fun hname => ⟨?_, Kind.under_of_isName hname⟩, Kind.under_of_other⟩
  have hkind : t.kind.under table t.lexeme = t.kind := congrArg Token.kind hkept
  exact hkind.symm.trans (Kind.under_of_isName hname)

/-! ### The names of a text -/

/-- A text has a name outside comments: a whole one, with nothing before it or behind it that
it goes on with. -/
def HasName (text name : List Char) : Prop :=
  ∃ before behind, text = before ++ (name ++ behind) ∧ Name name behind ∧
    ¬ EndsInName before ∧ ¬ EndsInComment before

/-- A name behind a boundary is a whole name outside comments. -/
theorem Name.hasName {before name behind : List Char} (h : Name name behind)
    (hboundary : Boundary before (name ++ behind)) : HasName (before ++ (name ++ behind)) name := by
  obtain ⟨c, more, rfl, hc, -⟩ := h.letters
  refine ⟨before, behind, rfl, h, fun hname => ?_, fun hcomment => ?_⟩
  · have hend := hboundary.name hname c rfl
    rw [Text.isAlphanumeric_of_isAlphabetic hc] at hend
    cases hend
  · have hend : c = '\n' := hboundary.comment hcomment c rfl
    rw [hend] at hc
    exact absurd hc (by decide)

/-- A whole name in front of a text comes to a token. -/
theorem exists_token_of_name (table : OperationTable) (place : Place) {name behind : List Char}
    (h : Name name behind) :
    ∃ t ∈ (Lexer.scan ⟨table, place, name ++ behind⟩).tokens,
      t.kind.isName = true ∧ t.lexeme = String.ofList name := by
  have hlexeme : Lexeme table (.ofName table (String.ofList name)) name ([] ++ behind) := .of_name h
  have hscan := Lexer.scan_of_lexeme place hlexeme (.none (Kind.ofName_ne_terminator _ _))
  rw [List.nil_append] at hscan
  rw [hscan]
  exact ⟨_, List.mem_cons_self .., Kind.isName_ofName table _, rfl⟩

theorem HasName.exists_token {table : OperationTable} {source : String} {tokens : List Token}
    {name : List Char} (hname : HasName source.toList name)
    (h : tokenize table source = .ok tokens) :
    ∃ t ∈ tokens, t.kind.isName = true ∧ t.lexeme = String.ofList name := by
  obtain ⟨before, behind, hsource, hname, hbefore, hcode⟩ := hname
  have hscan := tokenize_eq_ok_iff.mp h
  rw [hsource] at hscan
  have hboundary : Boundary before (name ++ behind) :=
    ⟨fun hends => absurd hends hbefore, fun hends => absurd hends hcode⟩
  -- The text in front of the name is read, or nothing behind it would be.
  have herror : (Lexer.scan ⟨table, .start, before⟩).error? = none := by
    cases herror : (Lexer.scan ⟨table, .start, before⟩).error? with
    | none => rfl
    | some e =>
      rw [scan_append_of_error herror] at hscan
      rw [hscan] at herror
      cases herror
  rw [scan_append_of_boundary herror hboundary] at hscan
  obtain ⟨t, ht, hread⟩ := exists_token_of_name table (Place.start.after before) hname
  refine ⟨t, ?_, hread⟩
  rw [← (Lexer.Scan.mk.inj hscan).1]
  exact List.mem_append_right _ ht

/-- A piece that is a name stands in the text as one. -/
theorem Cut.Lawful.hasName {table : OperationTable} {cut : Cut} (h : cut.Lawful table) {p : Piece}
    (hp : p ∈ cut.pieces) (hname : p.kind.isName = true) : HasName cut.text p.lexeme := by
  obtain ⟨front, back, hpieces⟩ := List.append_of_mem hp
  have hparts := h.pieces
  rw [hpieces] at hparts
  obtain ⟨hfront, hback⟩ := hparts.split
  have hboundary := hfront.boundary h.lead
  have htext : cut.text =
      cut.lead ++ written front ++ (p.lexeme ++ (p.gap ++ (written back ++ cut.rest))) := by
    simp [Cut.text, hpieces, written_append]
  rw [written_cons, List.append_assoc, List.append_assoc] at hboundary
  cases hback with
  | cons hlexeme =>
    rcases hlexeme.mark_or_name with ⟨c, -, hmark⟩ | ⟨hwhole, -⟩
    · rw [isName_eq_false_of_mark? hmark] at hname
      cases hname
    · rw [htext]
      exact hwhole.hasName hboundary

/-- **The names that a text has outside comments are the names that are read.** -/
theorem hasName_iff {table : OperationTable} {source : String} {tokens : List Token}
    (h : tokenize table source = .ok tokens) {name : String} :
    HasName source.toList name.toList ↔ ∃ t ∈ tokens, t.kind.isName = true ∧ t.lexeme = name := by
  constructor
  · intro hname
    have hread := hname.exists_token h
    rwa [String.ofList_toList] at hread
  · intro hread
    obtain ⟨t, ht, hname, rfl⟩ := hread
    obtain ⟨cut, hcut, htext, p, hp, hkind, hlexeme⟩ := exists_piece_of_tokenize h ht
    rw [← htext, ← hlexeme]
    exact hcut.hasName hp (hkind ▸ hname)

/-! ### Two tables -/

/-- **The table only classifies names.** Under two tables a text is refused the same character
at the same place, or has as many tokens, each the same as its counterpart but for the kind
of a name, which is what each table says. So tables that say the same of every name that
stands in the text outside comments come to the same tokens and programs, whatever else
they hold. -/
theorem tables_only_classify (table table' : OperationTable) (source : String) :
    ((∃ e, tokenize table source = .error e ∧ tokenize table' source = .error e) ∨
        ∃ tokens tokens', tokenize table source = .ok tokens ∧
          tokenize table' source = .ok tokens' ∧
            List.Forall₂ (SameLexeme table table') tokens tokens') ∧
      ((∀ name : String, HasName source.toList name.toList → table.get? name = table'.get? name) →
        tokenize table source = tokenize table' source ∧
          ∀ options, readUnder table options source = readUnder table' options source) := by
  have hunder := tokenize_under table table' source
  cases h : tokenize table source with
  | error e =>
    rw [h] at hunder
    refine ⟨.inl ⟨e, rfl, hunder⟩, fun _ => ⟨hunder.symm, fun options => ?_⟩⟩
    rw [readUnder_of_tokenize_error h, readUnder_of_tokenize_error hunder]
  | ok tokens =>
    rw [h] at hunder
    have hsame (t : Token) (ht : t ∈ tokens) : SameLexeme table table' t (t.under table') :=
      sameLexeme_under h ht table'
    refine ⟨.inr ⟨tokens, _, rfl, hunder, ?_⟩, fun hnames => ?_⟩
    · rw [List.forall₂_map_right_iff, List.forall₂_same]
      exact hsame
    · have hkept (t : Token) (ht : t ∈ tokens) : t.under table' = t :=
        (hsame t ht).eq_of_get? fun hname =>
          hnames t.lexeme ((hasName_iff h).mpr ⟨t, ht, hname, rfl⟩)
      have htokens : tokenize table' source = .ok tokens := by
        rw [hunder]
        exact congrArg Except.ok ((List.map_congr_left hkept).trans (List.map_id tokens))
      refine ⟨htokens.symm, fun options => ?_⟩
      rw [readUnder_of_tokenize h, readUnder_of_tokenize htokens]

/-- Two tables that differ in a keyword within a comment, and in one that no text spells. -/
theorem tables_only_classify_beside_comment :
    let source := "né : OUT2; AND\nOUT né;"
    let other : OperationTable :=
      ⟨[("AND", .gate "OR"), ("a b", ⟨"né", 3, 0, true⟩), ("OUT", ⟨"OUT", 1, 0, true⟩)], by decide⟩
    (∀ name : String, HasName source.toList name.toList →
        OperationTable.standard.get? name = other.get? name) ∧
      OperationTable.standard.get? "AND" ≠ other.get? "AND" ∧
        tokenize .standard source = tokenize other source ∧
          ∀ options, readUnder .standard options source = readUnder other options source := by
  intro source other
  let tokens : List Token := [⟨.identifier "né", ⟨1, 1, 2⟩, "né"⟩, ⟨.definition, ⟨1, 4, 4⟩, ":"⟩,
    ⟨.identifier "OUT2", ⟨1, 6, 9⟩, "OUT2"⟩, ⟨.terminator, ⟨1, 10, 10⟩, ";"⟩,
    ⟨.keyword ⟨"OUT", 1, 0, true⟩, ⟨2, 1, 3⟩, "OUT"⟩, ⟨.identifier "né", ⟨2, 5, 6⟩, "né"⟩,
    ⟨.terminator, ⟨2, 7, 7⟩, ";"⟩]
  have htokens : tokenize .standard source = .ok tokens := by decide +kernel
  have hread : ∀ t ∈ tokens, t.kind.isName = true →
      OperationTable.standard.get? t.lexeme = other.get? t.lexeme := by decide
  have hnames : ∀ name : String, HasName source.toList name.toList →
      OperationTable.standard.get? name = other.get? name := by
    intro name hhas
    obtain ⟨t, ht, hname, rfl⟩ := (hasName_iff htokens).mp hhas
    exact hread t ht hname
  exact ⟨hnames, by decide, (tables_only_classify .standard other source).2 hnames⟩

end CircuitLang
