import CircuitLang.Proofs.Reformatting

/-! Listing tokens and reading them again.

Tokens are written one behind the other with a separator behind each: a line feed behind
a terminator, a space behind any other token (`listing`). No name goes on behind a
separator, and the line feed ends the comment that a terminator opens, so the pieces of
the text are the tokens with their separators (`pieces_listed`). The main statement is
`readable_iff_read_again`. -/
namespace CircuitLang

/-! ### The written form -/

/-- What is written behind a token of a kind. -/
def Kind.separator : Kind → Char
  | terminator => '\n'
  | _ => ' '

/-- Tokens one behind the other, each with its separator. -/
def listing (tokens : List Token) : String :=
  String.join (tokens.map fun t => t.lexeme ++ t.kind.separator.toString)

/-- A token that can be read, at some place in some text: its lexeme is one of its kind. -/
def Token.Readable (table : OperationTable) (t : Token) : Prop :=
  Lexeme table t.kind t.lexeme.toList []

theorem Token.readable_bare {table : OperationTable} (t : Token) :
    t.bare.Readable table ↔ t.Readable table := Iff.rfl

namespace Token.Readable
variable {table : OperationTable} {t t' : Token}

theorem kind_eq (h : t.Readable table) (h' : t'.Readable table) (hlexeme : t'.lexeme = t.lexeme) :
    t'.kind = t.kind := by
  have htext : t.lexeme.toList ++ [] = t'.lexeme.toList ++ [] := by rw [hlexeme]
  exact (h.unique h' htext).1.symm

theorem lexeme_ne_nil (h : t.Readable table) : t.lexeme.toList ≠ [] := by
  obtain ⟨c, more, hlexeme, -⟩ := h.head
  rw [hlexeme]
  exact List.cons_ne_nil c more

/-- A character that is no mark stands in a lexeme only if it is alphanumeric. -/
theorem notMem (h : t.Readable table) {c : Char} (hmark : mark? c = none)
    (hletter : Text.isAlphanumeric c = false) : c ∉ t.lexeme.toList := by
  intro hc
  rcases h.mark_or_name with ⟨d, hlexeme, hd⟩ | ⟨hname, -⟩
  · rw [hlexeme, List.mem_singleton] at hc
    rw [hc, hd] at hmark
    cases hmark
  · rw [hname.mem hc] at hletter
    cases hletter

theorem lexeme_of_definition (h : t.Readable table) (hkind : t.kind = .definition) :
    t.lexeme = ":" := by
  rw [Token.Readable, hkind] at h
  generalize hlexeme : t.lexeme.toList = lexeme at h
  cases h
  exact String.toList_inj.mp hlexeme

/-- A keyword has the operation that the table has for its lexeme. -/
theorem mem_entries (h : t.Readable table) {op : Operation} (hkind : t.kind = .keyword op) :
    (t.lexeme, op) ∈ table.entries := by
  rw [Token.Readable, hkind] at h
  cases h with
  | keyword _ hop =>
    rw [String.ofList_toList] at hop
    obtain ⟨before, after, hentries, -⟩ := List.lookup_eq_some_iff.mp hop
    rw [hentries]
    exact List.mem_append_right before List.mem_cons_self

end Token.Readable

/-- The piece of a token in a listing. -/
def Token.listed (t : Token) : Piece :=
  t.piece [t.kind.separator]

namespace Kind
variable (kind : Kind)

theorem isBlank_separator : Text.isBlank kind.separator = true := by
  cases kind <;> rfl

/-- Nothing is read of a separator, whatever stands behind it. -/
theorem gap_separator (behind : List Char) : Gap kind [kind.separator] behind := by
  by_cases hkind : kind = .terminator
  · have hline : Gap .terminator ([] ++ ['\n']) behind := .line (by simp) (by simp [Blank])
    rw [hkind]
    exact hline
  · exact .blanks hkind (.singleton kind.isBlank_separator)

end Kind

/-! ### Reading a listing -/

theorem written_listed (tokens : List Token) :
    written (tokens.map Token.listed) = (listing tokens).toList := by
  rw [listing, String.toList_join, List.flatMap_map, written, List.flatMap_map]
  apply List.flatMap_congr
  intro t _
  simp [Token.listed, Token.piece]

theorem listed_bare (tokens : List Token) :
    (tokens.map Token.listed).map Piece.bare = tokens.map Token.bare := by
  rw [List.map_map]
  apply List.map_congr_left
  intro t _
  exact t.piece_bare _

theorem pieces_listed {table : OperationTable} {tokens : List Token}
    (h : ∀ t ∈ tokens, t.Readable table) : Pieces table [] (tokens.map Token.listed) := by
  induction tokens with
  | nil => exact .nil
  | cons t more ih =>
    rw [List.forall_mem_cons] at h
    refine .cons (h.1.exchange ?_) (t.kind.gap_separator _) (ih h.2)
    intro c hc
    cases hc
    exact Text.isAlphanumeric_eq_false_of_isBlank t.kind.isBlank_separator

/-- Whatever was read is readable. -/
theorem readable_of_tokenize {table : OperationTable} {source : String} {tokens : List Token}
    (h : tokenize table source = .ok tokens) {t : Token} (ht : t ∈ tokens) : t.Readable table := by
  obtain ⟨behind, hlexeme⟩ := exists_lexeme_of_tokenize h ht
  have hfront : Lexeme table t.kind t.lexeme.toList ([] ++ behind) := hlexeme
  exact hfront.of_append

/-- **Listing tokens and reading the text gives the tokens back**, kinds and lexemes in their
order, if each of them can be read under the table, and only then. -/
theorem readable_iff_read_again (table : OperationTable) (tokens : List Token) :
    (∀ t ∈ tokens, t.Readable table) ↔
      ∃ again, tokenize table (listing tokens) = .ok again ∧
        again.map Token.bare = tokens.map Token.bare := by
  constructor
  · intro h
    obtain ⟨again, hagain, hbare⟩ := (pieces_listed h).exists_tokens (written_listed tokens)
    exact ⟨again, hagain, hbare.trans (listed_bare tokens)⟩
  · intro h t ht
    obtain ⟨again, hagain, hbare⟩ := h
    have hmem : t.bare ∈ again.map Token.bare := by
      rw [hbare]
      exact List.mem_map_of_mem ht
    obtain ⟨u, hu, hsame⟩ := List.mem_map.mp hmem
    have hreadable := readable_of_tokenize hagain hu
    rwa [← u.readable_bare, hsame, t.readable_bare] at hreadable

/-- A keyword that is not the name of its operation, two literals side by side, a comment, and
the name of the operation, which is no keyword. -/
theorem keyword_read_again :
    let table : OperationTable := ⟨[("né²", .gate "AND")], by decide⟩
    let tokens : List Token := [⟨.keyword (.gate "AND"), ⟨1, 1, 3⟩, "né²"⟩,
      ⟨.definition, ⟨1, 4, 4⟩, ":"⟩, ⟨.literal true, ⟨1, 5, 5⟩, "1"⟩, ⟨.literal false, ⟨1, 6, 6⟩, "0"⟩,
      ⟨.terminator, ⟨1, 7, 7⟩, ";"⟩, ⟨.identifier "AND", ⟨2, 1, 3⟩, "AND"⟩]
    (∀ t ∈ tokens, t.Readable table) ∧ listing tokens = "né² : 1 0 ;\nAND " ∧
      ∃ again, tokenize table (listing tokens) = .ok again ∧
        again.map Token.bare = tokens.map Token.bare := by
  intro table tokens
  have htokens : tokenize table "né²:10; c\nAND" = .ok tokens := by decide +kernel
  have hreadable : ∀ t ∈ tokens, t.Readable table := fun t ht => readable_of_tokenize htokens ht
  exact ⟨hreadable, by decide, (readable_iff_read_again table tokens).mp hreadable⟩

end CircuitLang
