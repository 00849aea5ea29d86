import SymbolGraph.Discovery
import SymbolGraph.Proofs.BuiltGraphs
import SymbolGraph.Proofs.SymbolIds
import SymbolGraph.Proofs.Walks

/-! # Sites

    Edges do not only start at symbols. An import edge starts at the line of the import and a
    call edge at the line of the call; such a line is a *site*. The ids of symbols, of import
    lines and of call lines are all made of a file and a line with colons in between, and the
    file is written as it is.

    Still no two of them are the same (`Referent.key_inj`). The line is what follows the last
    colon. What comes before it ends in the suffix of a source file if it is that of a call. If
    it is that of a symbol or of an import, it ends in a colon and a word without a dot, and no
    source file ends like that.

    In a graph that is built, sites are therefore no symbols. Edges end at symbols, so none ends
    at a site, and a walk along incoming edges stops wherever it comes to one
    (`Resolver.sites_apart`).
-/

namespace SymbolGraph

/-! ## What ids stand for -/

/-- Whether a file can be one of a project: it ends in one of the suffixes that are wanted. -/
def IsSourceFile (file : String) : Prop :=
  ∃ suffix ∈ ({} : Discovery.Filter).suffixes, suffix.toList <:+ file.toList

/-- A name that cannot be taken for another part of an id: it has neither colons nor dots, and
    it is not the word that marks the lines of imports. -/
structure IsPlainName (name : String) : Prop where
  colon : ':' ∉ name.toList
  dot : '.' ∉ name.toList
  word : name ≠ "import"

/-- What an id stands for. -/
inductive Referent where
  | symbol (file name : String) (line : Int)
  | importLine (file : String) (line : Int)
  | callLine (file : String) (line : Int)

namespace Referent

/-- The id of a referent. -/
def key : Referent → Key
  | .symbol file name line => .str (Symbol.idOf (.str file) (.str name) (.int line))
  | .importLine file line => importSite file line
  | .callLine file line => callSite file line

/-- Whether a referent is in a source file and has a plain name, if it has one. -/
def IsPlain : Referent → Prop
  | .symbol file name _ => IsSourceFile file ∧ IsPlainName name
  | .importLine file _ | .callLine file _ => IsSourceFile file

/-- Whether a referent is a line and not a symbol. -/
def IsSite : Referent → Prop
  | .symbol .. => False
  | .importLine .. | .callLine .. => True

/-! ### Taking ids apart -/

/-- The line of a referent. -/
def line : Referent → Int
  | .symbol _ _ line | .importLine _ line | .callLine _ line => line

/-- What an id has before its line. -/
def front : Referent → String
  | .symbol file name _ => file ++ ":" ++ name
  | .importLine file _ => file ++ ":" ++ "import"
  | .callLine file _ => file

theorem key_eq (a : Referent) : a.key = .str (a.front ++ ":" ++ toString a.line) := by
  cases a with
  | symbol | callLine => rfl
  | importLine file line =>
    have hmark : ":import:" = ":" ++ ("import" ++ ":") := rfl
    simp only [key, importSite, front, Referent.line, hmark, String.append_assoc]

end Referent

/-- A list in which two different elements come last of their kind is taken apart in at most
    one of two ways. -/
theorem append_cons_ne_of_not_mem {α : Type} {c d : α} (hcd : c ≠ d) {a b a' b' : List α}
    (hb : d ∉ b) (hb' : c ∉ b') : a ++ c :: b ≠ a' ++ d :: b' := by
  intro h
  rcases List.append_eq_append_iff.mp h with ⟨m, _, hm⟩ | ⟨m, _, hm⟩
  · cases m with
    | nil => exact hcd (List.cons.inj hm).1
    | cons x m => exact hb (by rw [(List.cons.inj hm).2]; simp)
  · cases m with
    | nil => exact hcd (List.cons.inj hm).1.symm
    | cons x m => exact hb' (by rw [(List.cons.inj hm).2]; simp)

/-- A source file does not end in a colon and a word without a dot. -/
theorem IsSourceFile.ne_colon_append {file : String} (h : IsSourceFile file) (before : String)
    {word : String} (hword : '.' ∉ word.toList) : file ≠ before ++ ":" ++ word := by
  obtain ⟨suffix, hsuffix, stem, hstem⟩ := h
  have hdotted : ∀ s ∈ ({} : Discovery.Filter).suffixes,
      s.toList = '.' :: s.toList.tail ∧ ':' ∉ s.toList.tail := by decide
  obtain ⟨hletters, hcolon⟩ := hdotted suffix hsuffix
  rintro rfl
  rw [hletters] at hstem
  simp only [String.toList_append, String.reduceToList, List.append_assoc, List.singleton_append]
    at hstem
  exact append_cons_ne_of_not_mem (by decide) hcolon hword hstem

/-- **Ids say what they stand for.** The ids of symbols with plain names, of import lines and of
    call lines in source files are all different. -/
theorem Referent.key_inj {a b : Referent} (ha : a.IsPlain) (hb : b.IsPlain) (h : a.key = b.key) :
    a = b := by
  rw [key_eq, key_eq, Key.str.injEq] at h
  obtain ⟨hfront, hline⟩ := Symbol.colon_append_inj (Symbol.colon_not_mem_toString _)
    (Symbol.colon_not_mem_toString _) h
  have hline : a.line = b.line := Symbol.toString_inj hline
  have hplain : ':' ∉ "import".toList ∧ '.' ∉ "import".toList := by decide
  cases a with
  | symbol file name line =>
    cases b with
    | symbol file' name' line' =>
      obtain ⟨hfile, hname⟩ := Symbol.colon_append_inj ha.2.colon hb.2.colon hfront
      rw [hfile, hname, show line = line' from hline]
    | importLine file' line' =>
      exact absurd (Symbol.colon_append_inj ha.2.colon hplain.1 hfront).2 ha.2.word
    | callLine file' line' => exact absurd hfront.symm (hb.ne_colon_append file ha.2.dot)
  | importLine file line =>
    cases b with
    | symbol file' name' line' =>
      exact absurd (Symbol.colon_append_inj hplain.1 hb.2.colon hfront).2.symm hb.2.word
    | importLine file' line' =>
      rw [(Symbol.colon_append_inj hplain.1 hplain.1 hfront).1, show line = line' from hline]
    | callLine file' line' => exact absurd hfront.symm (hb.ne_colon_append file hplain.2)
  | callLine file line =>
    cases b with
    | symbol file' name' line' => exact absurd hfront (ha.ne_colon_append file' hb.2.dot)
    | importLine file' line' => exact absurd hfront (ha.ne_colon_append file' hplain.2)
    | callLine file' line' => rw [show file = file' from hfront, show line = line' from hline]

/-- Keys of referents are the same only if the referents are. -/
theorem Referent.eq_of_beq {a b : Referent} (ha : a.IsPlain) (hb : b.IsPlain)
    (h : (a.key == b.key) = true) : a = b := by
  apply key_inj ha hb
  rw [key_eq, key_eq] at h ⊢
  rw [Key.str_beq_str, decide_eq_true_eq] at h
  rw [h]

/-- The line of an import tells the file and the line, whatever they are. -/
theorem importSite_inj {file file' : String} {line line' : Int}
    (h : importSite file line = importSite file' line') : file = file' ∧ line = line' := by
  have hplain : ':' ∉ "import".toList := by decide
  have h : (Referent.importLine file line).key = (Referent.importLine file' line').key := h
  rw [Referent.key_eq, Referent.key_eq, Key.str.injEq] at h
  obtain ⟨hfile, _, hline⟩ := Symbol.idOf_inj hplain (Symbol.colon_not_mem_toString line) hplain
    (Symbol.colon_not_mem_toString line') h
  exact ⟨hfile, Symbol.toString_inj hline⟩

theorem callSite_inj {file file' : String} {line line' : Int}
    (h : callSite file line = callSite file' line') : file = file' ∧ line = line' := by
  obtain ⟨hfile, hline⟩ := Symbol.colon_append_inj (Symbol.colon_not_mem_toString line)
    (Symbol.colon_not_mem_toString line') (Key.str.inj h)
  exact ⟨hfile, Symbol.toString_inj hline⟩

namespace Resolver

/-! ## Sites in a graph -/

/-- Facts as they are found in the source files of a project: each symbol has the file in which
    it is found, a plain name and a line. -/
structure Plain (files : Table String Facts) : Prop where
  source : ∀ e ∈ files.entries, IsSourceFile e.1
  symbols : ∀ e ∈ files.entries, ∀ node ∈ e.2.symbols, ∃ name line,
    node.name = .str name ∧ IsPlainName name ∧ node.file = .str e.1 ∧ node.line = .int line

section
variable {files : Table String Facts} (h : Plain files) (now : String)

include h in
/-- Every symbol of a project is what its id stands for. -/
theorem Plain.referent {node : Symbol} (hnode : node ∈ allSymbols files) :
    ∃ a : Referent, a.IsPlain ∧ ¬ a.IsSite ∧ a.key = .str node.id := by
  obtain ⟨f, hf, hnode⟩ := List.mem_flatMap.mp hnode
  obtain ⟨e, he, rfl⟩ := List.mem_map.mp hf
  obtain ⟨name, line, hname, hplain, hfile, hline⟩ := h.symbols e he node hnode
  refine ⟨.symbol e.1 name line, ⟨h.source e he, hplain⟩, id, ?_⟩
  unfold Symbol.id
  rw [hname, hfile, hline]
  rfl

include h in
/-- A site is not the id of a symbol. -/
theorem Plain.not_contains {a : Referent} (ha : a.IsPlain) (hsite : a.IsSite) :
    (build ⟨files, {}⟩ (Store.empty now)).2.nodes.contains a.key = false := by
  rw [← Table.get?_eq_none_iff, get?_nodes_build, List.getLast?_eq_none_iff,
    List.filter_eq_nil_iff]
  intro node hnode hsame
  obtain ⟨b, hb, hsymbol, hkey⟩ := h.referent hnode
  rw [← hkey] at hsame
  rw [Referent.eq_of_beq hb ha hsame] at hsymbol
  exact hsymbol hsite

/-- Every edge of a graph that is built is that of an import, a call or a class of some file, and
    ends at a symbol. -/
theorem edge_cases {e : Edge} (he : e ∈ (build ⟨files, {}⟩ (Store.empty now)).2.edges.toList) :
    (build ⟨files, {}⟩ (Store.empty now)).2.nodes.contains e.dst = true ∧ ∃ x ∈ files.entries,
      (e.type = .str "imports" ∧ ∃ i ∈ x.2.imports, e.src = importSite x.1 i.line) ∨
      (e.type = .str "calls" ∧ ∃ c ∈ x.2.calls, e.src = callSite x.1 c.line) ∨
      (e.type = .str "extends" ∧ ∃ node ∈ x.2.symbols, node.kind = .klass ∧
        e.src = .str node.id) := by
  obtain ⟨hnodes, hedges⟩ := build_eq_unlinked files now
  rw [hedges] at he
  obtain ⟨x, hx, he⟩ := List.mem_flatMap.mp he
  refine ⟨?_, x, hx, ?_⟩
  · rw [hnodes]
    exact contains_dst_of_mem_fileEdges he
  · rcases fileEdges_cases he with ⟨i, hi, id, _, rfl⟩ | ⟨c, hc, id, _, rfl⟩
      | ⟨node, hnode, name, hname, id, _, rfl⟩
    · exact .inl ⟨rfl, i, hi, rfl⟩
    · exact .inr (.inl ⟨rfl, c, hc, rfl⟩)
    · refine .inr (.inr ⟨rfl, node, hnode, ?_, rfl⟩)
      -- only a class says what it extends
      unfold Symbol.superclass? at hname
      split at hname
      · rename_i hdetails
        unfold Symbol.kind
        rw [hdetails]
      · cases hname

end

/-- **Sites and symbols do not meet.** In source files, and if names are plain, an id tells what
    it stands for. In a graph that is built from such facts no site is a symbol or the end of an
    edge. Import edges start at the line of an import and call edges at that of a call, and the
    id of a line belongs to one file and one line only; the other edges start at a class. A walk
    along incoming edges takes no step from a site, however deep it may go: nothing else is
    reached from there, and no edge that a walk finds enters a site. -/
theorem sites_apart (files : Table String Facts) (now : String) (h : Plain files) :
    let s := (build ⟨files, {}⟩ (Store.empty now)).2
    (∀ a b : Referent, a.IsPlain → b.IsPlain → a.key = b.key → a = b) ∧
    (∀ a : Referent, a.IsPlain → a.IsSite →
      s.nodes.contains a.key = false ∧ (∀ e ∈ s.edges.toList, (e.dst == a.key) = false) ∧
      s.incoming a.key = []) ∧
    (∀ e ∈ s.edges.toList, ∃ x ∈ files.entries,
      (e.type = .str "imports" ∧ ∃ i ∈ x.2.imports, e.src = importSite x.1 i.line ∧
        ∀ file line, e.src = importSite file line → file = x.1 ∧ line = i.line) ∨
      (e.type = .str "calls" ∧ ∃ c ∈ x.2.calls, e.src = callSite x.1 c.line ∧
        ∀ file line, e.src = callSite file line → file = x.1 ∧ line = c.line) ∨
      (e.type = .str "extends" ∧ ∃ node ∈ x.2.symbols, node.kind = .klass ∧
        e.src = .str node.id ∧ s.nodes.contains e.src = true)) ∧
    ∀ a : Referent, a.IsPlain → a.IsSite →
      (∀ depth, s.connections a.key .incoming depth = []) ∧
      (∀ n k, s.Reaches .incoming a.key n k → k = a.key) ∧
      ∀ id depth, ∀ c ∈ s.connections id .incoming depth, (c.edge.dst == a.key) = false := by
  intro s
  have hcoherent : s.Coherent := by
    refine (regular_build now fun node hnode => ?_).coherent
    obtain ⟨f, hf, hnode⟩ := List.mem_flatMap.mp hnode
    obtain ⟨e, he, rfl⟩ := List.mem_map.mp hf
    obtain ⟨_, _, _, _, hfile, _⟩ := h.symbols e he node hnode
    exact ⟨e.1, hfile⟩
  -- edges end at symbols, and sites are none
  have hends : ∀ a : Referent, a.IsPlain → a.IsSite → ∀ e ∈ s.edges.toList,
      (e.dst == a.key) = false := by
    intro a ha hsite e he
    rw [Bool.eq_false_iff]
    intro hsame
    have hnode := (edge_cases now he).1
    rw [← Table.isSome_get?, Table.get?_congr _ hsame, Table.isSome_get?,
      h.not_contains now ha hsite] at hnode
    cases hnode
  have hincoming : ∀ a : Referent, a.IsPlain → a.IsSite → s.incoming a.key = [] := by
    intro a ha hsite
    rw [hcoherent.incoming_eq, List.filter_eq_nil_iff]
    intro e he
    rw [hends a ha hsite e he]
    exact Bool.false_ne_true
  have hsteps : ∀ a : Referent, a.IsPlain → a.IsSite → s.steps .incoming a.key = [] := by
    intro a ha hsite
    show [] ++ (s.incoming a.key).map _ = []
    rw [hincoming a ha hsite]
    rfl
  refine ⟨fun _ _ => Referent.key_inj, ?_, ?_, ?_⟩
  · intro a ha hsite
    exact ⟨h.not_contains now ha hsite, hends a ha hsite, hincoming a ha hsite⟩
  · intro e he
    obtain ⟨_, x, hx, hcases⟩ := edge_cases now he
    refine ⟨x, hx, ?_⟩
    rcases hcases with ⟨htype, i, hi, hsrc⟩ | ⟨htype, c, hc, hsrc⟩
      | ⟨htype, node, hnode, hkind, hsrc⟩
    · refine .inl ⟨htype, i, hi, hsrc, ?_⟩
      intro file line hother
      exact importSite_inj (hother.symm.trans hsrc)
    · refine .inr (.inl ⟨htype, c, hc, hsrc, ?_⟩)
      intro file line hother
      exact callSite_inj (hother.symm.trans hsrc)
    · refine .inr (.inr ⟨htype, node, hnode, hkind, hsrc, ?_⟩)
      have hmem : node ∈ allSymbols files :=
        List.mem_flatMap.mpr ⟨x.2, List.mem_map.mpr ⟨x, hx, rfl⟩, hnode⟩
      rw [hsrc, ← Table.isSome_get?, get?_nodes_build, List.getLast?_isSome]
      exact List.ne_nil_of_mem (List.mem_filter.mpr ⟨hmem, BEq.rfl⟩)
  · intro a ha hsite
    have hnone := hsteps a ha hsite
    refine ⟨Store.connections_of_steps_nil hnone, fun n k hk => hk.eq_of_steps_nil hnone, ?_⟩
    intro id depth c hc
    obtain ⟨e, he, rfl⟩ := hcoherent.exists_edge_of_mem_connections hc
    exact hends a ha hsite e he

/-- A file whose name looks like a call line of another file and one that looks like an import
    line, a class that extends itself, and an import and a call on the line of a class. -/
theorem sites_apart_colons :
    let first : Symbol := ⟨.str "C", .str "a.js:3.js", .int 1, .klass (.str "C") (.arr []) (.arr [])⟩
    let second : Symbol :=
      ⟨.str "f", .str "b.js:import:3.ts", .int (-1), .function (.arr []) (.bool false) (.bool false)⟩
    let files := Table.ofList [
      ("a.js:3.js", { symbols := [first], calls := [⟨"f", 1, 0⟩], exports := [⟨"default", 2, none⟩] }),
      ("b.js:import:3.ts", { symbols := [second], imports := [⟨"./a.js:3", "default", "d", -1⟩] })]
    let s := (build ⟨files, {}⟩ (Store.empty "t0")).2
    Plain files ∧ s.edges.toList.map Edge.src = [.str "a.js:3.js:1", .str "a.js:3.js:C:1",
      .str "b.js:import:3.ts:import:-1"] ∧
    s.incoming (.str "a.js:3.js:1") = [] ∧
    ∀ depth, s.connections (.str "b.js:import:3.ts:import:-1") .incoming depth = [] := by
  intro first second files s
  have hentries : files.entries = [
      ("a.js:3.js", { symbols := [first], calls := [⟨"f", 1, 0⟩], exports := [⟨"default", 2, none⟩] }),
      ("b.js:import:3.ts", { symbols := [second], imports := [⟨"./a.js:3", "default", "d", -1⟩] })] :=
    rfl
  have hplain : Plain files := by
    refine ⟨?_, ?_⟩
    · rw [hentries]
      simp only [List.forall_mem_cons]
      exact ⟨⟨".js", by decide, by decide⟩, ⟨".ts", by decide, by decide⟩, nofun⟩
    · rw [hentries]
      simp only [List.forall_mem_cons]
      exact ⟨⟨⟨"C", 1, rfl, ⟨by decide, by decide, by decide⟩, rfl, rfl⟩, nofun⟩,
        ⟨⟨"f", -1, rfl, ⟨by decide, by decide, by decide⟩, rfl, rfl⟩, nofun⟩, nofun⟩
  obtain ⟨_, hsites, _, hwalks⟩ := sites_apart files "t0" hplain
  have hcall : (Referent.callLine "a.js:3.js" 1).IsPlain := ⟨".js", by decide, by decide⟩
  have himport : (Referent.importLine "b.js:import:3.ts" (-1)).IsPlain := ⟨".ts", by decide, by decide⟩
  exact ⟨hplain, by decide +kernel, (hsites _ hcall trivial).2.2, (hwalks _ himport trivial).1⟩

end Resolver

end SymbolGraph
