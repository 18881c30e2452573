import CircuitLang.Proofs.Blindness
import CircuitLang.Proofs.Listing
import CircuitLang.Proofs.Separators

/-! What a listed program tells.

A program is listed with a node on each line: what heads the node, and between brackets the
lexemes of its items. No lexeme that was read has a separator, a bracket or a line feed in
it, so the lines come apart into heads and lexemes, and under one table a lexeme has one
kind. What heads a node tells its form if keywords are the names of their operations and
none of them is what heads a definition (`OperationTable.Faithful`). Of the nodes nothing is
lost but the spans. The main statement is `render_determines_nodes`. -/
namespace CircuitLang

/-! ### Tables -/

/-- Keywords are the names of their operations, and no keyword is what heads a definition. -/
structure OperationTable.Faithful (table : OperationTable) : Prop where
  named : ∀ entry ∈ table.entries, entry.2.name = entry.1
  definition : ∀ entry ∈ table.entries, entry.1 ≠ "Def"

theorem OperationTable.faithful_standard : standard.Faithful :=
  ⟨by decide, by decide⟩

/-- The operation of a keyword that was read is named as the keyword is spelled. -/
theorem OperationTable.Faithful.name_eq {table : OperationTable} (htable : table.Faithful)
    {t : Token} (h : t.Readable table) {op : Operation} (hkind : t.kind = .keyword op) :
    op.name = t.lexeme ∧ op.name ≠ "Def" := by
  have hentry := h.mem_entries hkind
  have hname : op.name = t.lexeme := htable.named _ hentry
  exact ⟨hname, hname ▸ htable.definition _ hentry⟩

/-! ### Lexemes -/

theorem lexemes_eq_of_alike {tokens tokens' : List Token}
    (h : List.Forall₂ Token.Alike tokens tokens') :
    tokens.map (fun t => t.lexeme.toList) = tokens'.map fun t => t.lexeme.toList := by
  rw [← List.forall₂_eq_eq_eq, List.forall₂_map_left_iff, List.forall₂_map_right_iff]
  exact h.imp fun t t' halike => congrArg String.toList halike.lexeme.symm

section
variable {table : OperationTable} {tokens tokens' : List Token}

/-- Readable tokens of the same lexemes are the same but for the spans. -/
theorem bare_eq_of_lexemes (h : ∀ t ∈ tokens, t.Readable table)
    (h' : ∀ t ∈ tokens', t.Readable table)
    (hlexemes : tokens.map (fun t => t.lexeme.toList) = tokens'.map fun t => t.lexeme.toList) :
    tokens.map Token.bare = tokens'.map Token.bare := by
  refine map_eq_of_mem hlexemes fun t ht t' ht' htext => Token.alike_iff_bare.mp ?_
  have hlexeme : t'.lexeme = t.lexeme := String.toList_inj.mp htext.symm
  exact ⟨(h t ht).kind_eq (h' t' ht') hlexeme, hlexeme⟩

/-- So are readable tokens whose lexemes are the same text with a separator between them that
begins with a character of no lexeme. -/
theorem bare_eq_of_intercalate {c : Char} {more : List Char} (h : ∀ t ∈ tokens, t.Readable table)
    (h' : ∀ t ∈ tokens', t.Readable table) (hmark : mark? c = none)
    (hletter : Text.isAlphanumeric c = false) (hmore : c ∉ more)
    (htext : (c :: more).intercalate (tokens.map fun t => t.lexeme.toList) =
      (c :: more).intercalate (tokens'.map fun t => t.lexeme.toList)) :
    tokens.map Token.bare = tokens'.map Token.bare := by
  have hlexeme {t : Token} (ht : t.Readable table) : t.lexeme.toList ≠ [] ∧ c ∉ t.lexeme.toList :=
    ⟨ht.lexeme_ne_nil, ht.notMem hmark hletter⟩
  exact bare_eq_of_lexemes h h' (intercalate_inj hmore
    (List.forall_mem_map.mpr fun t ht => hlexeme (h t ht))
    (List.forall_mem_map.mpr fun t ht => hlexeme (h' t ht)) htext)

end

/-! ### Nodes -/

namespace Production

/-- What stands in front of the bracket. -/
def head : Production → String
  | definition => "Def"
  | operation op => op.name

/-- What stands between two items. -/
def separator : Production → List Char
  | definition => [' ']
  | operation _ => [',', ' ']

theorem newline_notMem_separator (p : Production) : '\n' ∉ p.separator := by
  cases p <;> simp [separator]

end Production

namespace Node

/-- What stands between the brackets. -/
def items : Node → List Token
  | definition name _ value => name :: value
  | operation _ _ arguments => arguments

theorem items_eq (n : Node) : n.items = n.arguments ++ n.value := by
  cases n with
  | definition => rfl
  | operation => exact (List.append_nil _).symm

theorem toList_render (n : Node) :
    n.render.toList = n.production.head.toList ++ '(' ::
      (n.production.separator.intercalate (n.items.map fun t => t.lexeme.toList) ++ [')']) := by
  cases n <;> simp [render, production, Production.head, Production.separator, items,
    Function.comp_def]

theorem Alike.render_eq {n n' : Node} (h : n.Alike n') : n.render = n'.render := by
  have hitems : List.Forall₂ Token.Alike n.items n'.items := by
    rw [items_eq, items_eq]
    exact List.rel_append h.arguments h.value
  apply String.toList_inj.mp
  rw [toList_render, toList_render, lexemes_eq_of_alike hitems, h.production]

theorem bare_definition (name marker : Token) (value : List Token) :
    (definition name marker value).bare =
      definition name.bare marker.bare (value.map Token.bare) := rfl

theorem bare_operation (op : Operation) (keyword : Token) (arguments : List Token) :
    (operation op keyword arguments).bare =
      operation op keyword.bare (arguments.map Token.bare) := rfl

/-- A node that was read under a table: its root is of its form, and all its tokens are
readable. -/
inductive Read (table : OperationTable) : Node → Prop where
  | definition {name marker : Token} {value : List Token} (hkind : marker.kind = .definition)
      (hroot : marker.Readable table) (hitems : ∀ t ∈ name :: value, t.Readable table) :
      Read table (.definition name marker value)
  | operation {op : Operation} {keyword : Token} {arguments : List Token}
      (hkind : keyword.kind = .keyword op) (hroot : keyword.Readable table)
      (hitems : ∀ t ∈ arguments, t.Readable table) : Read table (.operation op keyword arguments)

end Node

theorem Spelled.read {table : OperationTable} {tokens : List Token} {n : Node}
    (h : Spelled tokens n) (hreadable : ∀ t ∈ tokens, t.Readable table) : n.Read table := by
  cases h with
  | definition _ hmarker =>
    simp only [List.forall_mem_cons] at hreadable
    obtain ⟨hname, hroot, hvalue⟩ := hreadable
    exact .definition (production?_eq_definition_iff.mp hmarker) hroot
      (List.forall_mem_cons.mpr ⟨hname, hvalue⟩)
  | operation hkeyword =>
    rw [List.forall_mem_cons] at hreadable
    exact .operation (production?_eq_operation_iff.mp hkeyword).1 hreadable.1 hreadable.2

namespace Node.Read
variable {table : OperationTable} {n n' : Node}

/-- What is in no lexeme and does not head a definition is nowhere in front of the bracket. -/
theorem notMem_head (h : n.Read table) (htable : table.Faithful) {c : Char} (hmark : mark? c = none)
    (hletter : Text.isAlphanumeric c = false) (hdefinition : c ∉ "Def".toList) :
    c ∉ n.production.head.toList := by
  cases h with
  | definition => exact hdefinition
  | operation hkind hroot =>
    rw [production, Production.head, (htable.name_eq hroot hkind).1]
    exact hroot.notMem hmark hletter

theorem readable_items (h : n.Read table) : ∀ t ∈ n.items, t.Readable table := by
  cases h with
  | definition _ _ hitems => exact hitems
  | operation _ _ hitems => exact hitems

theorem newline_notMem_render (h : n.Read table) (htable : table.Faithful) :
    '\n' ∉ n.render.toList := by
  have hhead : '\n' ∉ n.production.head.toList :=
    h.notMem_head htable (by decide) (by decide) (by decide)
  have hitems : ∀ item ∈ n.items.map fun t => t.lexeme.toList, '\n' ∉ item := by
    rw [List.forall_mem_map]
    exact fun t ht => (h.readable_items t ht).notMem (by decide) (by decide)
  have hbody := notMem_intercalate n.production.newline_notMem_separator hitems
  simp [toList_render, hhead, hbody]

/-- Nodes that are listed alike have the same head, and the same text between the brackets. -/
theorem head_eq_of_render (h : n.Read table) (h' : n'.Read table) (htable : table.Faithful)
    (hrender : n.render = n'.render) :
    n.production.head = n'.production.head ∧
      n.production.separator.intercalate (n.items.map fun t => t.lexeme.toList) =
        n'.production.separator.intercalate (n'.items.map fun t => t.lexeme.toList) := by
  have htext := congrArg String.toList hrender
  rw [toList_render, toList_render] at htext
  obtain ⟨hhead, hbody⟩ := append_separator_inj
    (h.notMem_head htable (by decide) (by decide) (by decide))
    (h'.notMem_head htable (by decide) (by decide) (by decide)) htext
  exact ⟨String.toList_inj.mp hhead, List.append_cancel_right hbody⟩

/-- **Nodes that are listed alike are the same but for the spans.** Their heads tell that they
are of one form, and their operation if they have one. -/
theorem bare_eq_of_render (h : n.Read table) (h' : n'.Read table) (htable : table.Faithful)
    (hrender : n.render = n'.render) : n.bare = n'.bare := by
  obtain ⟨hhead, hbody⟩ := h.head_eq_of_render h' htable hrender
  cases h with
  | definition hkind hroot hitems =>
    cases h' with
    | definition hkind' hroot' hitems' =>
      have hbare := bare_eq_of_intercalate hitems hitems' (by decide) (by decide) (by decide) hbody
      have hlexeme :=
        (hroot'.lexeme_of_definition hkind').trans (hroot.lexeme_of_definition hkind).symm
      have hmarker := Token.alike_iff_bare.mp ⟨hkind'.trans hkind.symm, hlexeme⟩
      obtain ⟨hname, hvalue⟩ := List.cons.inj hbare
      rw [bare_definition, bare_definition, hname, hmarker, hvalue]
    | operation hkind' hroot' => exact absurd hhead.symm (htable.name_eq hroot' hkind').2
  | operation hkind hroot hitems =>
    obtain ⟨hname, hne⟩ := htable.name_eq hroot hkind
    cases h' with
    | definition => exact absurd hhead hne
    | operation hkind' hroot' hitems' =>
      have hbare := bare_eq_of_intercalate hitems hitems' (by decide) (by decide) (by decide) hbody
      -- The heads are the lexemes of the keywords, which have one kind under the table.
      have hlexeme := hname.symm.trans (hhead.trans (htable.name_eq hroot' hkind').1)
      have hkinds := hroot.kind_eq hroot' hlexeme.symm
      have hkeyword := Token.alike_iff_bare.mp ⟨hkinds, hlexeme.symm⟩
      rw [hkind, hkind', Kind.keyword.injEq] at hkinds
      obtain rfl := hkinds
      rw [bare_operation, bare_operation, hkeyword, hbare]

end Node.Read

/-- An operation that is named like the head of a definition can be listed like one. -/
example :
    let name : Token := ⟨.identifier "a", ⟨1, 1, 1⟩, "a"⟩
    let op : Operation := ⟨"Def", 1, 0, true⟩
    (Node.definition name ⟨.definition, ⟨1, 2, 2⟩, ":"⟩ []).render =
      (Node.operation op ⟨.keyword op, ⟨1, 1, 3⟩, "Def"⟩ [name]).render := by
  decide

/-! ### Programs -/

namespace Program

theorem toList_render (p : Program) :
    p.render.toList = (p.nodes.map fun n => n.render.toList).flatMap (· ++ ['\n']) := by
  simp [render, String.toList_join, List.flatMap_map]

theorem splitOn_render {table : OperationTable} {p : Program} (h : ∀ n ∈ p.nodes, n.Read table)
    (htable : table.Faithful) :
    p.render.toList.splitOn '\n' = (p.nodes.map fun n => n.render.toList) ++ [[]] := by
  rw [toList_render]
  exact splitOn_flatMap_concat
    (List.forall_mem_map.mpr fun n hn => (h n hn).newline_notMem_render htable)

/-- Whatever was read into a program was read under its table. -/
theorem read_of_parse {table : OperationTable} {source : String} {tokens : List Token}
    {options : Options} {p : Program} (htokens : tokenize table source = .ok tokens)
    (h : parse options tokens = .ok p) : ∀ n ∈ p.nodes, n.Read table := by
  obtain ⟨-, hspelled⟩ := parse_eq_ok_iff.mp h
  have hruns := map_spelling hspelled
  rw [← hruns, List.forall₂_map_left_iff, List.forall₂_same] at hspelled
  intro n hn
  have hrun : n.spelling ∈ closedRuns tokens := hruns ▸ List.mem_map_of_mem hn
  exact (hspelled n hn).read fun t ht =>
    readable_of_tokenize htokens (mem_of_mem_closedRuns hrun ht)

/-- **Under a faithful table programs that are listed alike are the same but for the spans.** -/
theorem bare_eq_of_render {table : OperationTable} {p p' : Program}
    (h : ∀ n ∈ p.nodes, n.Read table) (h' : ∀ n ∈ p'.nodes, n.Read table)
    (htable : table.Faithful) (hrender : p.render = p'.render) : p.bare = p'.bare := by
  have hlines : p.render.toList.splitOn '\n' = p'.render.toList.splitOn '\n' := by rw [hrender]
  rw [splitOn_render h htable, splitOn_render h' htable] at hlines
  have hbare : p.nodes.map Node.bare = p'.nodes.map Node.bare :=
    map_eq_of_mem (List.append_cancel_right hlines) fun n hn n' hn' htext =>
      (h n hn).bare_eq_of_render (h' n' hn') htable (String.toList_inj.mp htext)
  exact congrArg Program.mk hbare

theorem render_eq_of_alike {p p' : Program} (h : List.Forall₂ Node.Alike p.nodes p'.nodes) :
    p.render = p'.render := by
  apply render_congr
  rw [← List.forall₂_eq_eq_eq, List.forall₂_map_left_iff, List.forall₂_map_right_iff]
  exact h.imp fun n n' halike => halike.render_eq

end Program

/-- **A listed program tells all of the program but the spans.** Two descriptions that compile
under any options are listed alike exactly when they have as many nodes, each with the form,
the root, the target, the arguments and the value of its counterpart, the tokens being of
the same kinds and lexemes. -/
theorem render_determines_nodes {options options' : Options} {source source' : String}
    {p p' : Program} (h : compile options source = .ok p) (h' : compile options' source' = .ok p') :
    p.render = p'.render ↔ List.Forall₂ Node.Alike p.nodes p'.nodes := by
  obtain ⟨tokens, htokens, hparse⟩ := compile_eq_ok_iff.mp h
  obtain ⟨tokens', htokens', hparse'⟩ := compile_eq_ok_iff.mp h'
  constructor
  · intro hrender
    exact (Program.alike_of_bare (Program.bare_eq_of_render (Program.read_of_parse htokens hparse)
      (Program.read_of_parse htokens' hparse') OperationTable.faithful_standard hrender)).1
  · exact Program.render_eq_of_alike

/-- Two literals side by side and with a space between them, and a tail that is dropped. -/
theorem render_determines_nodes_of_layouts :
    let gate : Operation := ⟨"OUT", 1, 0, true⟩
    let p : Program := ⟨[.definition ⟨.identifier "a", ⟨1, 1, 1⟩, "a"⟩ ⟨.definition, ⟨1, 2, 2⟩, ":"⟩
        [⟨.literal true, ⟨1, 3, 3⟩, "1"⟩, ⟨.literal false, ⟨1, 4, 4⟩, "0"⟩],
      .operation gate ⟨.keyword gate, ⟨2, 1, 3⟩, "OUT"⟩ [⟨.identifier "a", ⟨2, 5, 5⟩, "a"⟩]]⟩
    let p' : Program := ⟨[.definition ⟨.identifier "a", ⟨2, 1, 1⟩, "a"⟩
        ⟨.definition, ⟨2, 3, 3⟩, ":"⟩
        [⟨.literal true, ⟨2, 5, 5⟩, "1"⟩, ⟨.literal false, ⟨2, 7, 7⟩, "0"⟩],
      .operation gate ⟨.keyword gate, ⟨4, 1, 3⟩, "OUT"⟩ [⟨.identifier "a", ⟨4, 5, 5⟩, "a"⟩]]⟩
    compile ⟨.strict, .abort⟩ "a:10;\nOUT a;" = .ok p ∧
      compile ⟨.lenient, .collect⟩ "\na : 1 0 ; x\n\nOUT a; \n 1 AND" = .ok p' ∧
        p.render = "Def(a 1 0)\nOUT(a)\n" ∧ p'.render = p.render ∧
          List.Forall₂ Node.Alike p.nodes p'.nodes := by
  intro gate p p'
  have hp : compile ⟨.strict, .abort⟩ "a:10;\nOUT a;" = .ok p := by decide +kernel
  have hp' : compile ⟨.lenient, .collect⟩ "\na : 1 0 ; x\n\nOUT a; \n 1 AND" = .ok p' := by
    decide +kernel
  have hrender : p.render = p'.render := by decide
  exact ⟨hp, hp', by decide, hrender.symm, (render_determines_nodes hp hp').mp hrender⟩

end CircuitLang
