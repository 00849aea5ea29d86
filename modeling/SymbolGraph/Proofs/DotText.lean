import Mathlib.Data.List.Basic
import SymbolGraph.Graph.Dot
import SymbolGraph.Proofs.Selections
import SymbolGraph.Proofs.SymbolIds

/-! # Reading graphs in the DOT language

    The text of a graph is read back by a reader that knows the language and not the writer. It
    takes a text apart into words, quoted texts and marks (`Dot.tokens?`), and these into
    statements (`Dot.statements?`).

    A quoted text ends where it was meant to end, whatever it is about (`quoted?_written`), so each
    line of a graph is read as one statement (`States`), and the whole as the statements of its
    lines (`read?_lines`). What is read tells the selection and the labels (`eq_of_drawing`). The
    main result is `render_read`.
-/

namespace SymbolGraph.Dot

/-! ## The reader -/

/-- What a text of the language is made of. A quoted text has parts, which are separated by the
    escape for a line break. -/
inductive Token where
  | word (w : String)
  | quoted (parts : List String)
  | arrow
  | mark (c : Char)
deriving DecidableEq, Inhabited, Repr

/-- The parts of a quoted text whose opening quote has been read, and what follows the closing
    quote. A backslash stands before a quote or another backslash, which are then characters of
    the text, or before the letter that separates two parts. -/
def quoted? : List Char → Option (List (List Char) × List Char)
  | [] => none
  | '"' :: rest => some ([[]], rest)
  | '\\' :: c :: rest =>
    if c = 'n' then (quoted? rest).map fun r => ([] :: r.1, r.2)
    else if c = '\\' ∨ c = '"' then (quoted? rest).map fun r => (r.1.modifyHead (c :: ·), r.2)
    else none
  | c :: rest => (quoted? rest).map fun r => (r.1.modifyHead (c :: ·), r.2)

/-- What follows a quoted text is shorter. -/
theorem length_of_quoted? {cs rest : List Char} {parts : List (List Char)}
    (h : quoted? cs = some (parts, rest)) : rest.length < cs.length := by
  fun_induction quoted? cs generalizing parts rest with
  | case1 => cases h
  | case2 more =>
    cases h
    exact Nat.lt_succ_self _
  | case3 more ih | case4 c more _ _ ih | case6 c more _ _ ih =>
    obtain ⟨r, hr, heq⟩ := Option.map_eq_some_iff.mp h
    cases heq
    have := ih hr
    simp only [List.length_cons]
    omega
  | case5 => cases h

/-- The characters of words. -/
def isWordChar (c : Char) : Bool :=
  c.isAlphanum || c == '_'

/-- The marks between words and quoted texts. -/
def marks : List Char :=
  ['\x7b', '\x7d', '[', ']', '=', ',', ';']

/-- A text taken apart. Blanks separate; everything that is no word, quoted text, arrow or mark
    is refused. -/
def tokens? (cs : List Char) : Option (List Token) :=
  match cs with
  | [] => some []
  | '"' :: rest =>
    match _h : quoted? rest with
    | some (parts, more) => (tokens? more).map (.quoted (parts.map String.ofList) :: ·)
    | none => none
  | '-' :: '>' :: rest => (tokens? rest).map (.arrow :: ·)
  | c :: rest =>
    if c.isWhitespace then tokens? rest
    else if isWordChar c then
      (tokens? (rest.dropWhile isWordChar)).map
        (.word (String.ofList (c :: rest.takeWhile isWordChar)) :: ·)
    else if c ∈ marks then (tokens? rest).map (.mark c :: ·)
    else none
termination_by cs.length
decreasing_by
  · have := length_of_quoted? _h
    simp only [List.length_cons]
    omega
  · simp only [List.length_cons]
    omega
  · simp
  · have := (List.dropWhile_sublist (p := isWordChar) (l := rest)).length_le
    simp only [List.length_cons]
    omega
  · simp

/-- What a statement says. An attribute has a word or a quoted text as its value. -/
inductive Statement where
  | setting (name value : String)
  | node (id : String) (attributes : List (String × List String))
  | edge (src dst : String) (attributes : List (String × List String))
deriving DecidableEq, Inhabited, Repr

/-- The value that a token is. -/
def value? : Token → Option (List String)
  | .word w => some [w]
  | .quoted parts => some parts
  | _ => none

/-- The attributes after an opening bracket, up to the closing one. -/
def attributes? : List Token → Option (List (String × List String))
  | [.word name, .mark '=', v, .mark ']'] => (value? v).map fun v => [(name, v)]
  | .word name :: .mark '=' :: v :: .mark ',' :: rest => do
    let v ← value? v
    let more ← attributes? rest
    return (name, v) :: more
  | _ => none

/-- The statement that some tokens are. -/
def statement? : List Token → Option Statement
  | [.word name, .mark '=', .word v] => some (.setting name v)
  | .quoted [id] :: .mark '[' :: rest => (attributes? rest).map (.node id)
  | .quoted [src] :: .arrow :: .quoted [dst] :: .mark '[' :: rest =>
    (attributes? rest).map (.edge src dst)
  | _ => none

/-- The statements of a graph, each of which ends with a semicolon, up to the closing brace at the
    end. The tokens of the statement that is being read come first, the last one first. -/
def statements? (before : List Token) : List Token → Option (List Statement)
  | [] => none
  | t :: rest =>
    if t = .mark ';' then do
      let first ← statement? before.reverse
      let more ← statements? [] rest
      return first :: more
    else if t = .mark '\x7d' then
      if before.isEmpty && rest.isEmpty then some [] else none
    else statements? (t :: before) rest

/-- The statements of a graph that is given as a text. -/
def read? (text : String) : Option (List Statement) := do
  match ← tokens? text.toList with
  | .word "digraph" :: .word _ :: .mark '\x7b' :: rest => statements? [] rest
  | _ => none

/-! ## Quoted texts -/

/-- A quoted text with some parts, without the quotes. -/
def written (parts : List (List Char)) : List Char :=
  ['\\', 'n'].intercalate (parts.map fun part => part.flatMap escapeChar)

/-- A character is read as itself. -/
theorem quoted?_escapeChar (c : Char) (rest : List Char) :
    quoted? (escapeChar c ++ rest)
      = (quoted? rest).map fun r => (r.1.modifyHead (c :: ·), r.2) := by
  unfold escapeChar
  by_cases h : c = '\\' ∨ c = '"'
  · rw [if_pos h]
    rcases h with rfl | rfl <;> rfl
  · rw [if_neg h]
    obtain ⟨hbackslash, hquote⟩ := not_or.mp h
    rw [List.singleton_append, quoted?]
    · exact hquote
    · intro _ _ heq
      exact absurd heq hbackslash

/-- The characters of a part are read one after another. -/
theorem quoted?_part (part rest : List Char) :
    quoted? (part.flatMap escapeChar ++ rest)
      = (quoted? rest).map fun r => (r.1.modifyHead (part ++ ·), r.2) := by
  induction part with
  | nil =>
    show quoted? rest = (quoted? rest).map fun r => (r.1.modifyHead id, r.2)
    rw [List.modifyHead_id]
    exact Option.map_id'.symm
  | cons c part ih =>
    rw [List.flatMap_cons, List.append_assoc, quoted?_escapeChar, ih, Option.map_map]
    congr 1
    funext r
    show (List.modifyHead _ (List.modifyHead _ r.1), r.2) = _
    rw [List.modifyHead_modifyHead]
    rfl

/-- A quoted text is read as the parts that were written, and ends where it ends. -/
theorem quoted?_written (part : List Char) (parts : List (List Char)) (rest : List Char) :
    quoted? (written (part :: parts) ++ '"' :: rest) = some (part :: parts, rest) := by
  induction parts generalizing part with
  | nil =>
    have hwritten : written [part] = part.flatMap escapeChar := by simp [written]
    rw [hwritten, quoted?_part]
    show some (([[]] : List (List Char)).modifyHead (part ++ ·), rest) = _
    rw [List.modifyHead_cons, List.append_nil]
  | cons next parts ih =>
    have hwritten : written (part :: next :: parts) ++ '"' :: rest
        = part.flatMap escapeChar ++ '\\' :: 'n' :: (written (next :: parts) ++ '"' :: rest) := by
      unfold written
      simp [List.intercalate_cons_cons]
    rw [hwritten, quoted?_part]
    show ((quoted? (written (next :: parts) ++ '"' :: rest)).map fun r => ([] :: r.1, r.2)).map _ = _
    rw [ih, Option.map_some, Option.map_some, List.modifyHead_cons, List.append_nil]

/-! ## Tokens -/

/-- What is read from a character that starts neither a quoted text nor an arrow. -/
theorem tokens?_cons {c : Char} (hquote : c ≠ '"') (hdash : c ≠ '-') (rest : List Char) :
    tokens? (c :: rest) = if c.isWhitespace then tokens? rest
      else if isWordChar c then
        (tokens? (rest.dropWhile isWordChar)).map
          (.word (String.ofList (c :: rest.takeWhile isWordChar)) :: ·)
      else if c ∈ marks then (tokens? rest).map (.mark c :: ·)
      else none := by
  rw [tokens?]
  · exact hquote
  · intro _ heq
    exact absurd heq hdash

theorem reads_blank {c : Char} (hc : c ∈ [' ', '\n']) : Reads tokens? [c] [] := by
  intro rest
  have hother : c.isWhitespace = true ∧ c ≠ '"' ∧ c ≠ '-' := by
    simp only [List.mem_cons, List.not_mem_nil, or_false] at hc
    rcases hc with rfl | rfl <;> decide
  obtain ⟨hblank, hquote, hdash⟩ := hother
  rw [List.singleton_append, tokens?_cons hquote hdash, if_pos hblank]
  exact Option.map_id'.symm

theorem reads_mark {c : Char} (hc : c ∈ marks) : Reads tokens? [c] [.mark c] := by
  intro rest
  have hother : c.isWhitespace = false ∧ isWordChar c = false ∧ c ≠ '"' ∧ c ≠ '-' := by
    simp only [marks, List.mem_cons, List.not_mem_nil, or_false] at hc
    rcases hc with rfl | rfl | rfl | rfl | rfl | rfl | rfl <;> decide
  obtain ⟨hblank, hword, hquote, hdash⟩ := hother
  rw [List.singleton_append, tokens?_cons hquote hdash, hblank, hword, if_neg Bool.false_ne_true,
    if_neg Bool.false_ne_true, if_pos hc]
  rfl

theorem reads_arrow : Reads tokens? ['-', '>'] [.arrow] := by
  intro rest
  show tokens? ('-' :: '>' :: rest) = _
  rw [tokens?]
  rfl

theorem reads_quoted (part : List Char) (parts : List (List Char)) :
    Reads tokens? ('"' :: (written (part :: parts) ++ ['"']))
      [.quoted ((part :: parts).map String.ofList)] := by
  intro rest
  have hquoted := quoted?_written part parts rest
  rw [List.cons_append, List.append_assoc, List.singleton_append, tokens?, hquoted]
  rfl

/-- A character of words is no blank and starts neither a quoted text nor an arrow. -/
theorem other_of_isWordChar {c : Char} (h : isWordChar c = true) :
    c.isWhitespace = false ∧ c ≠ '"' ∧ c ≠ '-' := by
  refine ⟨?_, ?_, ?_⟩
  · rw [Bool.eq_false_iff]
    intro hblank
    simp only [Char.isWhitespace, Bool.or_eq_true, decide_eq_true_eq] at hblank
    rcases hblank with ((rfl | rfl) | rfl) | rfl <;> exact absurd h (by decide)
  · rintro rfl
    exact absurd h (by decide)
  · rintro rfl
    exact absurd h (by decide)

/-- A word ends where a character follows that is not for words. -/
theorem reads_word {w : List Char} (hne : w ≠ []) (hw : w.all isWordChar = true) {c : Char}
    (hc : isWordChar c = false) {cs : List Char} {ts : List Token} (h : Reads tokens? (c :: cs) ts) :
    Reads tokens? (w ++ c :: cs) (.word (String.ofList w) :: ts) := by
  intro rest
  obtain ⟨a, w, rfl⟩ := List.exists_cons_of_ne_nil hne
  rw [List.all_cons, Bool.and_eq_true] at hw
  obtain ⟨ha, hw⟩ := hw
  obtain ⟨hblank, hquote, hdash⟩ := other_of_isWordChar ha
  have hall : ∀ b ∈ w, isWordChar b = true := List.all_eq_true.mp hw
  -- the character after the word stops it, whatever comes later
  have htake : (w ++ c :: (cs ++ rest)).takeWhile isWordChar = w := by
    rw [List.takeWhile_append_of_pos hall, List.takeWhile_cons, hc]
    exact List.append_nil w
  have hdrop : (w ++ c :: (cs ++ rest)).dropWhile isWordChar = c :: cs ++ rest := by
    rw [List.dropWhile_append_of_pos hall, List.dropWhile_cons, hc]
    rfl
  rw [List.append_assoc, List.cons_append, List.cons_append, tokens?_cons hquote hdash, hblank, ha,
    if_neg Bool.false_ne_true, if_pos rfl, htake, hdrop, h, Option.map_map]
  rfl

/-! ## Statements -/

/-- Tokens that stand inside one statement. -/
def Inside (ts : List Token) : Prop :=
  ∀ t ∈ ts, t ≠ .mark ';' ∧ t ≠ .mark '\x7d'

/-- The tokens of a statement are collected up to its end. -/
theorem statements?_inside {ts : List Token} (h : Inside ts) (before rest : List Token) :
    statements? before (ts ++ rest) = statements? (ts.reverse ++ before) rest := by
  induction ts generalizing before with
  | nil => rfl
  | cons t ts ih =>
    obtain ⟨⟨hend, hclose⟩, hts⟩ := List.forall_mem_cons.mp h
    rw [List.cons_append, statements?, if_neg hend, if_neg hclose, ih hts, List.reverse_cons,
      List.append_assoc]
    rfl

/-- A line is one statement, whatever follows it. -/
structure States (line : String) (st : Statement) : Prop where
  reads : ∃ ts, Inside ts ∧ statement? ts = some st ∧ Reads tokens? line.toList (ts ++ [.mark ';'])

/-- Lines are read as their statements, one after another. -/
theorem exists_reads_lines {lines : List String} {sts : List Statement}
    (h : List.Forall₂ States lines sts) :
    ∃ ts, Reads tokens? (lines.flatMap fun line => line.toList ++ ['\n']) ts ∧
      ∀ rest, statements? [] (ts ++ rest) = (statements? [] rest).map (sts ++ ·) := by
  induction h with
  | nil => exact ⟨[], Reads.nil, fun rest => Option.map_id'.symm⟩
  | @cons line st lines sts hline _ ih =>
    obtain ⟨ts, hreads, hstatements⟩ := ih
    obtain ⟨own, hinside, hown, hfirst⟩ := hline.reads
    refine ⟨own ++ [.mark ';'] ++ ts, ?_, ?_⟩
    · rw [List.flatMap_cons]
      have hbreak := hfirst.append (reads_blank (c := '\n') (by decide))
      rw [List.append_nil] at hbreak
      exact hbreak.append hreads
    · intro rest
      -- the semicolon ends the statement whose tokens have been collected
      rw [List.append_assoc, List.append_assoc, statements?_inside hinside, List.append_nil,
        List.singleton_append, statements?, if_pos rfl, List.reverse_reverse, hown, hstatements]
      cases statements? [] rest <;> rfl

/-- The characters of some lines, each of which but the last ends with a line break. -/
theorem toList_intercalate_lines (lines : List String) (last : String) :
    (String.intercalate "\n" (lines ++ [last])).toList
      = lines.flatMap (fun line => line.toList ++ ['\n']) ++ last.toList := by
  induction lines with
  | nil => rw [List.nil_append, String.intercalate_singleton, List.flatMap_nil, List.nil_append]
  | cons line lines ih =>
    have hne : lines ++ [last] ≠ [] := List.append_ne_nil_of_right_ne_nil _ (List.cons_ne_nil _ _)
    rw [List.cons_append, String.intercalate_cons_of_ne_nil hne, String.toList_append, ih,
      String.toList_append, List.flatMap_cons]
    simp only [String.reduceToList, List.append_assoc]

/-- A text with a statement on each line between the braces is read as these statements. -/
theorem read?_lines {lines : List String} {sts : List Statement}
    (h : List.Forall₂ States lines sts) :
    read? (String.intercalate "\n" ("digraph CodeGraph \x7b" :: lines ++ ["\x7d"])) = some sts := by
  obtain ⟨ts, hreads, hstatements⟩ := exists_reads_lines h
  -- the first line and the last one are no statements, so they are read by themselves
  have hname : Reads tokens? ("CodeGraph".toList ++ ' ' :: ['\x7b'])
      [.word "CodeGraph", .mark '\x7b'] :=
    reads_word (by decide) (by decide) (by decide)
      ((reads_blank (by decide)).append (reads_mark (by decide)))
  have hhead : Reads tokens? ("digraph".toList ++ ' ' :: ("CodeGraph".toList ++ ' ' :: ['\x7b']))
      [.word "digraph", .word "CodeGraph", .mark '\x7b'] :=
    reads_word (by decide) (by decide) (by decide) ((reads_blank (by decide)).append hname)
  have hlast : Reads tokens? "\x7d".toList [.mark '\x7d'] := reads_mark (by decide)
  have htokens := (((hhead.append (reads_blank (c := '\n') (by decide))).append hreads).append
    hlast) []
  have htext : (String.intercalate "\n" ("digraph CodeGraph \x7b" :: lines ++ ["\x7d"])).toList
      = "digraph".toList ++ ' ' :: ("CodeGraph".toList ++ ' ' :: ['\x7b']) ++ ['\n']
        ++ lines.flatMap (fun line => line.toList ++ ['\n']) ++ "\x7d".toList ++ [] := by
    rw [toList_intercalate_lines, List.flatMap_cons, List.append_nil]
    rfl
  unfold read?
  rw [htext, htokens]
  have hempty : tokens? [] = some [] := by rw [tokens?]
  rw [hempty]
  show statements? [] (ts ++ [.mark '\x7d'] ++ []) = _
  rw [List.append_nil, hstatements]
  show (some []).map (sts ++ ·) = _
  rw [Option.map_some, List.append_nil]

/-! ## The lines of a graph -/

theorem toList_escape (s : String) : (escape s).toList = written [s.toList] := by
  simp [escape_eq, written]

/-- Quoted texts with one part, such as ids. -/
theorem reads_text (s : String) : Reads tokens? ("\"" ++ escape s ++ "\"").toList [.quoted [s]] := by
  have h := reads_quoted s.toList []
  rw [List.map_singleton, String.ofList_toList, ← toList_escape] at h
  simpa using h

/-- Quoted texts with three parts, as the labels of symbols are. -/
theorem reads_parts (a b c : String) :
    Reads tokens? ("\"" ++ (escape a ++ "\\n" ++ escape b ++ "\\n" ++ escape c) ++ "\"").toList
      [.quoted [a, b, c]] := by
  have h := reads_quoted a.toList [b.toList, c.toList]
  simp only [List.map_cons, List.map_nil, String.ofList_toList] at h
  simpa [written, escape_eq, List.intercalate_cons_cons] using h

/-- The beginning of the attributes of an id or an edge. -/
theorem reads_opening : Reads tokens? " [label=".toList [.mark '[', .word "label", .mark '='] := by
  have hword : Reads tokens? ("label".toList ++ '=' :: []) [.word "label", .mark '='] :=
    reads_word (by decide) (by decide) (by decide) (reads_mark (by decide))
  exact ((reads_blank (by decide)).append (reads_mark (c := '[') (by decide))).append hword

/-- The end of a statement with attributes. -/
theorem reads_closing : Reads tokens? "];".toList [.mark ']', .mark ';'] :=
  (reads_mark (by decide)).append (reads_mark (by decide))

/-- The indentation of a statement. -/
theorem reads_indent : Reads tokens? "  ".toList [] :=
  (reads_blank (by decide)).append (reads_blank (by decide))

/-- The end of the statement of an id that is no symbol. -/
theorem reads_plaintext : Reads tokens? ", shape=plaintext];".toList
    [.mark ',', .word "shape", .mark '=', .word "plaintext", .mark ']', .mark ';'] := by
  have hvalue : Reads tokens? ("plaintext".toList ++ ']' :: [';'])
      [.word "plaintext", .mark ']', .mark ';'] :=
    reads_word (by decide) (by decide) (by decide) reads_closing
  have hname : Reads tokens? ("shape".toList ++ '=' :: []) [.word "shape", .mark '='] :=
    reads_word (by decide) (by decide) (by decide) (reads_mark (by decide))
  have hcomma : Reads tokens? [',', ' '] [.mark ','] :=
    (reads_mark (by decide)).append (reads_blank (by decide))
  exact (hcomma.append hname).append hvalue

theorem states_setting : States "  rankdir=LR;" (.setting "rankdir" "LR") := by
  refine ⟨[.word "rankdir", .mark '=', .word "LR"], by simp [Inside], rfl, ?_⟩
  have hvalue : Reads tokens? ("LR".toList ++ ';' :: []) [.word "LR", .mark ';'] :=
    reads_word (by decide) (by decide) (by decide) (reads_mark (by decide))
  have hname : Reads tokens? ("rankdir".toList ++ '=' :: []) [.word "rankdir", .mark '='] :=
    reads_word (by decide) (by decide) (by decide) (reads_mark (by decide))
  exact (reads_indent.append hname).append hvalue

theorem states_symbol (id kind name place : String) :
    States ("  \"" ++ escape id ++ "\" [label=\""
        ++ (escape kind ++ "\\n" ++ escape name ++ "\\n" ++ escape place) ++ "\"];")
      (.node id [("label", [kind, name, place])]) := by
  refine ⟨[.quoted [id], .mark '[', .word "label", .mark '=', .quoted [kind, name, place],
    .mark ']'], by simp [Inside], rfl, ?_⟩
  have h := (((reads_indent.append (reads_text id)).append reads_opening).append
    (reads_parts kind name place)).append reads_closing
  simpa using h

theorem states_site (id : String) :
    States ("  \"" ++ escape id ++ "\" [label=\"" ++ escape id ++ "\", shape=plaintext];")
      (.node id [("label", [id]), ("shape", ["plaintext"])]) := by
  refine ⟨[.quoted [id], .mark '[', .word "label", .mark '=', .quoted [id], .mark ',',
    .word "shape", .mark '=', .word "plaintext", .mark ']'], by simp [Inside], rfl, ?_⟩
  have h := (((reads_indent.append (reads_text id)).append reads_opening).append
    (reads_text id)).append reads_plaintext
  simpa using h

/-- The type of an edge is not escaped, so it must be one that needs no escape. -/
theorem states_edge (src dst : String) {type : String} (htype : escape type = type) :
    States ("  \"" ++ escape src ++ "\" -> \"" ++ escape dst ++ "\" [label=\"" ++ type ++ "\"];")
      (.edge src dst [("label", [type])]) := by
  refine ⟨[.quoted [src], .arrow, .quoted [dst], .mark '[', .word "label", .mark '=',
    .quoted [type], .mark ']'], by simp [Inside], rfl, ?_⟩
  have harrow : Reads tokens? " -> ".toList [.arrow] :=
    ((reads_blank (by decide)).append reads_arrow).append (reads_blank (by decide))
  have h := (((((reads_indent.append (reads_text src)).append harrow).append
    (reads_text dst)).append reads_opening).append (reads_text type)).append reads_closing
  rw [htype] at h
  simpa using h

/-! ## Graphs -/

/-- What the text of a graph says of an id: the kind, the name and the place of a symbol, and the
    id itself for an id that is no symbol. -/
def statementOf (s : Store) (id : Key) : Statement :=
  match s.nodes.get? id with
  | some node => .node id.plain [("label",
      [node.kind.name, node.name.plain, node.file.plain ++ ":" ++ node.line.plain])]
  | none => .node id.plain [("label", [id.plain]), ("shape", ["plaintext"])]

/-- What the text of a graph says of an edge. -/
def edgeStatement (e : Edge) : Statement :=
  .edge e.src.plain e.dst.plain [("label", [e.type.plain])]

/-- What the text of a graph says: how it is laid out, and then its ids and its edges. -/
def drawing (s : Store) (sel : Selection) : List Statement :=
  .setting "rankdir" "LR" :: (sel.ids.map (statementOf s) ++ sel.edges.map edgeStatement)

/-- A graph that can be drawn: ids, names and files are texts, and the edges are those that the
    resolver adds. -/
structure Drawable (s : Store) : Prop extends s.Named where
  file : ∀ x ∈ s.nodes.entries, ∃ file, x.2.file = .str file
  type : ∀ e ∈ s.edges.toList, e.type ∈ [.str "imports", .str "calls", .str "extends"]

section
variable {s : Store}

/-- The type of an edge is a text that is written as it is. -/
theorem Drawable.exists_type (h : Drawable s) {e : Edge} (he : e ∈ s.edges.toList) :
    ∃ type, e.type = .str type ∧ escape type = type := by
  have hmem := h.type e he
  simp only [List.mem_cons, List.not_mem_nil, or_false] at hmem
  rcases hmem with hmem | hmem | hmem <;> exact ⟨_, hmem, rfl⟩

theorem exists_nodeLine (h : s.Named) (id : String) :
    ∃ line, nodeLine s (.str id) = .ok line ∧ States line (statementOf s (.str id)) := by
  unfold nodeLine statementOf
  cases hget : s.nodes.get? (.str id) with
  | none => exact ⟨_, rfl, states_site id⟩
  | some node =>
    obtain ⟨k, _, hmem⟩ := Table.exists_mem_of_get? hget
    obtain ⟨name, hname⟩ := h.name _ hmem
    have hlabel : label node = .ok (escape node.kind.name ++ "\\n" ++ escape name ++ "\\n"
        ++ escape (node.file.plain ++ ":" ++ node.line.plain)) := by
      unfold label
      rw [show node.name = .str name from hname]
      rfl
    dsimp only
    rw [hlabel, show node.name = .str name from hname]
    exact ⟨_, rfl, states_symbol id _ name _⟩

theorem exists_edgeLine (h : Drawable s) {e : Edge} (he : e ∈ s.edges.toList) :
    ∃ line, edgeLine e = .ok line ∧ States line (edgeStatement e) := by
  obtain ⟨src, hsrc⟩ := h.src e he
  obtain ⟨dst, hdst⟩ := h.dst e he
  obtain ⟨type, htype, hplain⟩ := h.exists_type he
  unfold edgeLine edgeStatement
  rw [hsrc, hdst, htype]
  exact ⟨_, rfl, states_edge src dst hplain⟩

/-- The text of a graph is read as what it should say. -/
theorem exists_read_render (h : Drawable s) {focus : String} {sel : Selection}
    (hsel : s.selection focus = .ok sel) :
    ∃ text, render s focus = .ok text ∧ read? text = some (drawing s sel) := by
  obtain ⟨htexts, hedges⟩ := h.toNamed.of_selection hsel
  have hnode : ∀ id ∈ sel.ids, ∃ line, nodeLine s id = .ok line ∧
      States line (statementOf s id) := by
    intro id hid
    obtain ⟨text, rfl⟩ := htexts id hid
    exact exists_nodeLine h.toNamed text
  obtain ⟨nodeLines, hnodes, hsaid⟩ := exists_mapM hnode
  obtain ⟨edgeLines, hlines, hdrawn⟩ := exists_mapM fun e he => exists_edgeLine h (hedges e he)
  have hrender : render s focus = .ok (String.intercalate "\n" ("digraph CodeGraph \x7b"
      :: ("  rankdir=LR;" :: (nodeLines ++ edgeLines)) ++ ["\x7d"])) := by
    unfold render lines
    rw [hsel]
    simp only [bind, Except.bind, hnodes, hlines]
    simp [pure, Except.pure]
  exact ⟨_, hrender, read?_lines (.cons states_setting (List.rel_append hsaid hdrawn))⟩

end

/-! ## Different graphs -/

/-- The id that a statement is about. -/
def Statement.id? : Statement → Option Key
  | .node id _ => some (.str id)
  | _ => none

/-- The edge that a statement is about. -/
def Statement.edge? : Statement → Option Edge
  | .edge src dst [(_, [type])] => some ⟨.str src, .str dst, .str type⟩
  | _ => none

/-- The same is said of an id in the texts of two graphs: it is no symbol in both, or a symbol of
    the same kind and name in the same place. Where lines are numbers, this is the same file and
    the same line. -/
def SameLabel : Option Symbol → Option Symbol → Prop
  | none, none => True
  | some a, some b => a.kind = b.kind ∧ a.name = b.name ∧
      a.file.plain ++ ":" ++ a.line.plain = b.file.plain ++ ":" ++ b.line.plain ∧
      ((∃ line, a.line = .int line) → (∃ line, b.line = .int line) →
        a.file = b.file ∧ a.line = b.line)
  | _, _ => False

theorem id?_statementOf (s : Store) (id : Key) :
    (statementOf s id).id? = some (.str id.plain) := by
  unfold statementOf
  cases s.nodes.get? id <;> rfl

theorem edge?_statementOf (s : Store) (id : Key) : (statementOf s id).edge? = none := by
  unfold statementOf
  cases s.nodes.get? id <;> rfl

/-- The ids that were selected are found in what is read. -/
theorem filterMap_id?_drawing (s : Store) {sel : Selection}
    (htexts : ∀ id ∈ sel.ids, ∃ text, id = .str text) :
    (drawing s sel).filterMap Statement.id? = sel.ids := by
  have hedges : ∀ es : List Edge, (es.map edgeStatement).filterMap Statement.id? = [] := by
    intro es
    rw [List.filterMap_map, List.filterMap_eq_nil_iff]
    exact fun e _ => rfl
  have hids : (sel.ids.map (statementOf s)).filterMap Statement.id? = sel.ids := by
    rw [List.filterMap_map]
    refine Eq.trans (List.filterMap_congr (g := some) ?_) List.filterMap_some
    intro id hid
    obtain ⟨text, rfl⟩ := htexts id hid
    exact id?_statementOf s _
  show (sel.ids.map (statementOf s) ++ sel.edges.map edgeStatement).filterMap Statement.id? = _
  rw [List.filterMap_append, hids, hedges, List.append_nil]

/-- The edges that were selected are found in what is read. -/
theorem filterMap_edge?_drawing {s : Store} (h : Drawable s) {sel : Selection}
    (hedges : ∀ e ∈ sel.edges, e ∈ s.edges.toList) :
    (drawing s sel).filterMap Statement.edge? = sel.edges := by
  have hids : (sel.ids.map (statementOf s)).filterMap Statement.edge? = [] := by
    rw [List.filterMap_map, List.filterMap_eq_nil_iff]
    exact fun id _ => edge?_statementOf s id
  have hback : (sel.edges.map edgeStatement).filterMap Statement.edge? = sel.edges := by
    rw [List.filterMap_map]
    refine Eq.trans (List.filterMap_congr (g := some) ?_) List.filterMap_some
    intro e he
    obtain ⟨src, hsrc⟩ := h.src e (hedges e he)
    obtain ⟨dst, hdst⟩ := h.dst e (hedges e he)
    obtain ⟨type, htype, _⟩ := h.exists_type (hedges e he)
    obtain ⟨_, _, _⟩ := e
    subst hsrc hdst htype
    rfl
  show (sel.ids.map (statementOf s) ++ sel.edges.map edgeStatement).filterMap Statement.edge? = _
  rw [List.filterMap_append, hids, hback, List.nil_append]

/-- The kind of a symbol is told by its name. -/
theorem kind_name_inj {a b : Kind} (h : a.name = b.name) : a = b := by
  have hkind := Kind.ofName?_name a
  rw [h, Kind.ofName?_name] at hkind
  exact (Option.some.inj hkind).symm

/-- A place tells the file and the line, if the file is a text and the line a number. -/
theorem place_inj {a b : Symbol} (hfile : ∃ file, a.file = .str file)
    (hfile' : ∃ file, b.file = .str file) (hline : ∃ line, a.line = .int line)
    (hline' : ∃ line, b.line = .int line)
    (h : a.file.plain ++ ":" ++ a.line.plain = b.file.plain ++ ":" ++ b.line.plain) :
    a.file = b.file ∧ a.line = b.line := by
  obtain ⟨file, hfile⟩ := hfile
  obtain ⟨file', hfile'⟩ := hfile'
  obtain ⟨line, hline⟩ := hline
  obtain ⟨line', hline'⟩ := hline'
  rw [hfile, hline, hfile', hline'] at h
  obtain ⟨hfiles, hlines⟩ := Symbol.colon_append_inj (Symbol.colon_not_mem_toString line)
    (Symbol.colon_not_mem_toString line') h
  have hfiles : file = file' := hfiles
  have hlines : line = line' := Symbol.toString_inj hlines
  rw [hfile, hline, hfile', hline', hfiles, hlines]
  exact ⟨rfl, rfl⟩

/-- What is said of an id tells whether it is a symbol, and of which kind and name and where. -/
theorem sameLabel_of_statementOf {s t : Store} (hs : Drawable s) (ht : Drawable t) {id : Key}
    (h : statementOf s id = statementOf t id) : SameLabel (s.nodes.get? id) (t.nodes.get? id) := by
  unfold statementOf at h
  cases hget : s.nodes.get? id with
  | none =>
    cases hget' : t.nodes.get? id with
    | none => trivial
    | some b =>
      rw [hget, hget'] at h
      simp at h
  | some a =>
    cases hget' : t.nodes.get? id with
    | none =>
      rw [hget, hget'] at h
      simp at h
    | some b =>
      rw [hget, hget'] at h
      obtain ⟨hkind, hname, hplace⟩ : a.kind.name = b.kind.name ∧ a.name.plain = b.name.plain ∧
          a.file.plain ++ ":" ++ a.line.plain = b.file.plain ++ ":" ++ b.line.plain := by
        simpa using h
      obtain ⟨_, _, hmem⟩ := Table.exists_mem_of_get? hget
      obtain ⟨_, _, hmem'⟩ := Table.exists_mem_of_get? hget'
      obtain ⟨name, ha⟩ := hs.name _ hmem
      obtain ⟨name', hb⟩ := ht.name _ hmem'
      refine ⟨kind_name_inj hkind, ?_, hplace, ?_⟩
      · rw [show a.name = .str name from ha, show b.name = .str name' from hb] at hname ⊢
        exact congrArg Json.str hname
      · intro hline hline'
        exact place_inj (hs.file _ hmem) (ht.file _ hmem') hline hline' hplace

/-- Graphs of which the same is said have the same selection with the same labels. -/
theorem eq_of_drawing {s t : Store} (hs : Drawable s) (ht : Drawable t) {focus focus' : String}
    {sel sel' : Selection} (hsel : s.selection focus = .ok sel)
    (hsel' : t.selection focus' = .ok sel') (h : drawing s sel = drawing t sel') :
    sel'.ids = sel.ids ∧ sel'.edges = sel.edges ∧
      ∀ id ∈ sel.ids, SameLabel (s.nodes.get? id) (t.nodes.get? id) := by
  obtain ⟨htexts, hedges⟩ := hs.toNamed.of_selection hsel
  obtain ⟨htexts', hedges'⟩ := ht.toNamed.of_selection hsel'
  have hids : sel'.ids = sel.ids := by
    rw [← filterMap_id?_drawing s htexts, ← filterMap_id?_drawing t htexts', h]
  have hsame : sel'.edges = sel.edges := by
    rw [← filterMap_edge?_drawing hs hedges, ← filterMap_edge?_drawing ht hedges', h]
  refine ⟨hids, hsame, ?_⟩
  -- now the statements about ids can be compared one by one
  unfold drawing at h
  rw [hids, hsame, List.cons.injEq, List.append_left_inj, List.map_inj_left] at h
  exact fun id hid => sameLabel_of_statementOf hs ht (h.2 id hid)

/-- **Reading the text of a graph.** Let ids, names and files of a graph be any texts, and its
    edges imports, calls and extensions. For every focus the graph can be written, and what is
    written is read as one statement for each id that is selected, in order, and then one for each
    edge that is selected, in order, and nothing else. A symbol has its kind, its name and its
    place as its label, another id has itself. So if another graph, with any focus, has the same
    text, the same ids and edges are selected, and ids have the same labels. -/
theorem render_read (s : Store) (h : Drawable s) (focus : String) :
    ∃ sel text, s.selection focus = .ok sel ∧ render s focus = .ok text ∧
      read? text = some (drawing s sel) ∧
      ∀ (t : Store) (focus' : String) (sel' : Selection), Drawable t →
        t.selection focus' = .ok sel' → render t focus' = .ok text →
        sel'.ids = sel.ids ∧ sel'.edges = sel.edges ∧
        ∀ id ∈ sel.ids, SameLabel (s.nodes.get? id) (t.nodes.get? id) := by
  obtain ⟨text, hrender, hread⟩ := exists_read_render h (h.toNamed.selection_eq focus)
  refine ⟨_, text, h.toNamed.selection_eq focus, hrender, hread, ?_⟩
  intro t focus' sel' ht hsel' hrender'
  -- the other graph is read from the same text
  obtain ⟨text', hrender'', hread'⟩ := exists_read_render ht hsel'
  rw [hrender', Except.ok.injEq] at hrender''
  rw [← hrender'', hread, Option.some.injEq] at hread'
  exact eq_of_drawing h ht (h.toNamed.selection_eq focus) hsel' hread'

/-- The id of a symbol looks like the end of its own statement and the beginning of another one,
    its name ends with a backslash and has a line break and a separator of parts in it, and a call
    comes from a quote. -/
theorem render_read_hostile :
    let f : Symbol := ⟨.str "f\\n\n\\", .str "a\".js", .int 1, .variable (.str "var")⟩
    let id := "x\" [label=\"y\"];\n  \"z"
    let call : Edge := ⟨.str "\"", .str id, .str "calls"⟩
    let s := ((Store.empty "t0").addNode (.str id) f).addEdge call
    Drawable s ∧ ∃ text, render s "" = .ok text ∧ read? text = some [
      .setting "rankdir" "LR",
      .node id [("label", ["variable", "f\\n\n\\", "a\".js:1"])],
      .node "\"" [("label", ["\""]), ("shape", ["plaintext"])],
      .edge "\"" id [("label", ["calls"])]] := by
  intro f id call s
  have h : Drawable s := by
    have hnodes : s.nodes.entries = [(.str id, f)] := rfl
    have hedges : s.edges.toList = [call] := rfl
    constructor
    · constructor <;> simp [hnodes, hedges, f, call]
    · simp [hnodes, f]
    · simp [hedges, call]
  obtain ⟨sel, text, hsel, hrender, hread, _⟩ := render_read s h ""
  have hwhole : s.selection "" = .ok ⟨[.str id, .str "\""], [call]⟩ := rfl
  rw [hwhole, Except.ok.injEq] at hsel
  rw [← hsel] at hread
  exact ⟨h, text, hrender, hread⟩

end SymbolGraph.Dot
