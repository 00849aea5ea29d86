import SymbolGraph.Proofs.FileOrder
import SymbolGraph.Proofs.Preorder

/-! # The order of the source

    The symbols of a file are listed by line. Sorting keeps the order of symbols on one line, and
    that is the order in which their ids were listed under the file. If the rows of a source tree
    never decrease from one node to the next, nothing is left to sort: the symbols come out as the
    walk through the tree found them (`Resolver.fileSymbols_source_order`).

    A symbol may be replaced by a later one with the same id. The id keeps its place, and the two
    have the same line, so that the order is not disturbed.
-/

namespace SymbolGraph

/-! ## Sorting -/

namespace Json

/-- Sorting by whole numbers that ascend already changes nothing. -/
theorem sortBy?_of_ascending {α : Type} {key : α → Json} {number : α → Int} {items : List α}
    (hkey : ∀ a ∈ items, key a = .int (number a))
    (hascend : items.Pairwise fun a b => number a ≤ number b) : sortBy? key items = some items := by
  have hlt : ∀ a ∈ items, ∀ b ∈ items, lt? (key a) (key b) = some (decide (number a < number b)) := by
    intro a ha b hb
    rw [hkey a ha, hkey b hb]
    rfl
  have hcomparable : comparable (items.map key) = true := by
    unfold comparable
    rw [Bool.or_eq_true]
    right
    rw [List.all_map, List.all_eq_true]
    intro a ha
    rw [Function.comp_apply, List.all_map, List.all_eq_true]
    intro b hb
    rw [Function.comp_apply, hlt a ha b hb]
    rfl
  unfold sortBy?
  rw [if_pos hcomparable, List.mergeSort_of_pairwise]
  refine hascend.imp_of_mem ?_
  intro a b ha hb hab
  rw [hlt b hb a ha, Option.getD_some, decide_eq_false (Int.not_lt.mpr hab)]
  rfl

end Json

/-! ## Lines in source order -/

/-- The line of a symbol that is found in a file. -/
def Symbol.lineNumber (node : Symbol) : Int :=
  match node.line with
  | .int line => line
  | _ => 0

/-- Whether the rows of a tree never decrease from a node to those that come after it. -/
def Source.Tree.RowsAscend (t : Source.Tree) : Prop :=
  t.preorder.Pairwise fun u v => u.row ≤ v.row

namespace Extract

theorem symbols_eq (file : String) (t : Source.Tree) :
    (facts file t).symbols = t.preorder.flatMap fun u => (own file u).symbols := by
  rw [facts_eq, nodes_eq]

/-- A symbol of a tree has the file, and a name and a line. -/
theorem symbol_of_mem_facts {file : String} {t : Source.Tree} {node : Symbol}
    (h : node ∈ (facts file t).symbols) :
    node.file = .str file ∧ (∃ name, node.name = .str name) ∧ node.line = .int node.lineNumber := by
  rw [symbols_eq] at h
  obtain ⟨u, _, hown⟩ := List.mem_flatMap.mp h
  obtain ⟨name, details, rfl, _⟩ := symbol_of_mem_own hown
  exact ⟨rfl, ⟨name, rfl⟩, rfl⟩

/-- If rows do not decrease, the lines of the symbols do not. -/
theorem lines_ascend {t : Source.Tree} (h : t.RowsAscend) (file : String) :
    (facts file t).symbols.Pairwise fun a b => a.lineNumber ≤ b.lineNumber := by
  have hline : ∀ u : Source.Tree, ∀ node ∈ (own file u).symbols, node.lineNumber = u.row + 1 := by
    intro u node hnode
    obtain ⟨name, details, rfl, _⟩ := symbol_of_mem_own hnode
    rfl
  rw [symbols_eq, List.pairwise_flatMap]
  constructor
  · -- the symbols of one node share its line
    intro u _
    apply List.pairwise_of_forall_mem_list
    intro a ha b hb
    exact Int.le_of_eq ((hline u a ha).trans (hline u b hb).symm)
  · refine h.imp ?_
    intro u v huv a ha b hb
    rw [hline u a ha, hline v b hb]
    exact Int.add_le_add_right huv 1

end Extract

/-! ## The list of a file -/

namespace Store

/-- A line that is a number is sorted as it is; zero counts as missing, and is sorted as zero. -/
theorem lineKey_of_int {node : Symbol} {line : Int} (h : node.line = .int line) :
    lineKey node = .int line := by
  unfold lineKey
  rw [h]
  split
  · rename_i hempty
    rw [eq_of_beq (show (line == 0) = true from hempty)]
  · rfl

/-- The same graph lists the same symbols for a file. -/
theorem SameGraph.fileSymbols_eq {t s : Store} (h : SameGraph t s) (file : Key) :
    t.fileSymbols file = s.fileSymbols file := by
  unfold fileSymbols fileIds
  rw [h.nodes, h.files]

theorem fileSymbols_stamped (s : Store) (project now : String) (file : Key) :
    (Cache.stamped s project now).fileSymbols file = s.fileSymbols file := rfl

end Store

namespace Resolver

section
variable (files : Table String Facts) (now : String)

/-- The ids of a file of a graph that is built, in order of first occurrence. -/
theorem fileIds_build (file : Key) :
    (build ⟨files, {}⟩ (Store.empty now)).2.fileIds file
      = (((allSymbols files).filter (·.isFiled file)).map fun node => Key.str node.id).eraseDups := by
  have hset : ∀ (l : List Symbol) (ids : Option (Table Key Unit)),
      (l.foldl (fun ids node => some ((ids.getD {}).insert (Key.str node.id) ())) ids).getD {}
        = (l.map fun node => Key.str node.id).foldl (fun t k => t.insert k ()) (ids.getD {}) := by
    intro l
    induction l with
    | nil => exact fun _ => rfl
    | cons node l ih => exact fun ids => ih _
  unfold Store.fileIds
  rw [fileIndex_build, hset, ← Table.keys_setOfList]
  rfl

variable {files}

/-- The symbols of a project that belong to a file are those that were found in it. -/
theorem filter_isFiled (hkey : ∀ e ∈ files.entries, ∀ node ∈ e.2.symbols, node.file = .str e.1)
    {e : String × Facts} (he : e ∈ files.entries) :
    (allSymbols files).filter (·.isFiled (.str e.1)) = e.2.symbols := by
  have hfiled : ∀ x ∈ files.entries, ∀ node ∈ x.2.symbols,
      node.isFiled (.str e.1) = decide (x.1 = e.1) := by
    intro x hx node hnode
    unfold Symbol.isFiled
    rw [hkey x hx node hnode]
    exact Key.str_beq_str x.1 e.1
  obtain ⟨before, after, hentries⟩ := List.append_of_mem he
  have hdistinct := files.distinct
  rw [hentries, List.map_append, List.map_cons] at hdistinct
  obtain ⟨_, hafter, hbefore⟩ := List.pairwise_append.mp hdistinct
  have hothers : ∀ l : List (String × Facts), (∀ x ∈ l, x ∈ files.entries) →
      (∀ x ∈ l, x.1 ≠ e.1) → (l.flatMap (·.2.symbols)).filter (·.isFiled (.str e.1)) = [] := by
    intro l hl hne
    rw [List.filter_eq_nil_iff]
    intro node hnode
    obtain ⟨x, hx, hnode⟩ := List.mem_flatMap.mp hnode
    rw [hfiled x (hl x hx) node hnode, decide_eq_false (hne x hx)]
    exact Bool.false_ne_true
  have hown : e.2.symbols.filter (·.isFiled (.str e.1)) = e.2.symbols := by
    rw [List.filter_eq_self]
    intro node hnode
    rw [hfiled e he node hnode, decide_eq_true rfl]
  rw [allSymbols_eq_flatMap, hentries, List.flatMap_append, List.flatMap_cons, List.filter_append,
    List.filter_append, hown, hothers before, hothers after, List.nil_append, List.append_nil]
  · intro x hx
    rw [hentries]
    exact List.mem_append_right _ (List.mem_cons_of_mem _ hx)
  · intro x hx hsame
    have hne := (List.pairwise_cons.mp hafter).1 x.1 (List.mem_map.mpr ⟨x, hx, rfl⟩)
    rw [hsame, BEq.rfl] at hne
    cases hne
  · intro x hx
    rw [hentries]
    exact List.mem_append_left _ hx
  · intro x hx hsame
    have hne := hbefore x.1 (List.mem_map.mpr ⟨x, hx, rfl⟩) e.1 List.mem_cons_self
    rw [hsame, BEq.rfl] at hne
    cases hne

/-- The symbol at the id of a symbol of a file was found in this file as well, under the same
    id and on the same line. -/
theorem exists_current (hkey : ∀ e ∈ files.entries, ∀ node ∈ e.2.symbols, node.file = .str e.1)
    (hsep : ∀ node ∈ allSymbols files, node.Separable) {e : String × Facts}
    (he : e ∈ files.entries) {node : Symbol} (hnode : node ∈ e.2.symbols) :
    ∃ last ∈ e.2.symbols, (build ⟨files, {}⟩ (Store.empty now)).2.nodes.get? (.str node.id)
      = some last ∧ last.id = node.id ∧ last.line = node.line := by
  have hall : node ∈ allSymbols files := by
    rw [allSymbols_eq_flatMap]
    exact List.mem_flatMap.mpr ⟨e, he, hnode⟩
  have hmem : node ∈ (allSymbols files).filter fun other => Key.str other.id == .str node.id :=
    List.mem_filter.mpr ⟨hall, BEq.rfl⟩
  obtain ⟨last, hlast⟩ := Option.isSome_iff_exists.mp
    (List.getLast?_isSome.mpr (List.ne_nil_of_mem hmem))
  obtain ⟨hlastAll, hid⟩ := List.mem_filter.mp (List.mem_of_getLast? hlast)
  rw [Key.str_beq_str, decide_eq_true_eq] at hid
  -- the id tells file and line, so the last symbol with it is one of the same file
  obtain ⟨hfile, _, hline⟩ := (hsep last hlastAll).eq_of_id (hsep node hall) hid
  have hfiled : last ∈ (allSymbols files).filter (·.isFiled (.str e.1)) := by
    refine List.mem_filter.mpr ⟨hlastAll, ?_⟩
    unfold Symbol.isFiled
    rw [hfile, hkey e he node hnode]
    exact BEq.rfl
  rw [filter_isFiled hkey he] at hfiled
  exact ⟨last, hfiled, by rw [get?_nodes_build, hlast], hid, hline⟩

/-- If the symbols of a file come in the order of their lines, its list has their ids in order of
    first occurrence, each with the symbol that is kept under it. -/
theorem exists_fileSymbols
    (hkey : ∀ e ∈ files.entries, ∀ node ∈ e.2.symbols, node.file = .str e.1)
    (hsep : ∀ node ∈ allSymbols files, node.Separable) {e : String × Facts}
    (he : e ∈ files.entries) (hline : ∀ node ∈ e.2.symbols, node.line = .int node.lineNumber)
    (hascend : e.2.symbols.Pairwise fun a b => a.lineNumber ≤ b.lineNumber) :
    let s := (build ⟨files, {}⟩ (Store.empty now)).2
    ∃ l, s.fileSymbols (.str e.1) = .ok l ∧
      l.map (·.1) = (e.2.symbols.map fun node => Key.str node.id).eraseDups ∧
      (∀ x ∈ l, s.nodes.get? x.1 = some x.2 ∧ x.1 = .str x.2.id ∧ x.2 ∈ e.2.symbols) ∧
      l.Pairwise fun x y => x.2.lineNumber ≤ y.2.lineNumber := by
  intro s
  have hids : s.fileIds (.str e.1) = (e.2.symbols.map fun node => Key.str node.id).eraseDups := by
    rw [fileIds_build, filter_isFiled hkey he]
  -- the first occurrences are the ids of some of the symbols, in the same order
  obtain ⟨firsts, hsub, hfirsts⟩ := List.sublist_map_iff.mp
    (eraseDups_sublist (e.2.symbols.map fun node => Key.str node.id))
  have hcurrent : ∀ node ∈ firsts, ∃ last ∈ e.2.symbols,
      (s.nodes.get? (.str node.id)).map (fun n => (Key.str node.id, n)) = some (.str node.id, last) ∧
      s.nodes.get? (.str node.id) = some last ∧ last.id = node.id ∧
      last.lineNumber = node.lineNumber := by
    intro node hnode
    obtain ⟨last, hlast, hget, hid, hsame⟩ := exists_current now hkey hsep he (hsub.subset hnode)
    refine ⟨last, hlast, by rw [hget, Option.map_some], hget, hid, ?_⟩
    unfold Symbol.lineNumber
    rw [hsame]
  have hfound : (s.fileIds (.str e.1)).filterMap (fun id => (s.nodes.get? id).map fun n => (id, n))
      = firsts.filterMap fun node => (s.nodes.get? (.str node.id)).map fun n => (.str node.id, n) := by
    rw [hids, hfirsts, List.filterMap_map]
    rfl
  generalize hl : (firsts.filterMap fun node => (s.nodes.get? (.str node.id)).map fun n =>
    (Key.str node.id, n)) = l at hfound
  have hmem : ∀ x ∈ l, s.nodes.get? x.1 = some x.2 ∧ x.1 = .str x.2.id ∧ x.2 ∈ e.2.symbols := by
    intro x hx
    rw [← hl] at hx
    obtain ⟨node, hnode, hpair⟩ := List.mem_filterMap.mp hx
    obtain ⟨last, hlast, hpair', hget, hid, _⟩ := hcurrent node hnode
    obtain rfl : (Key.str node.id, last) = x := Option.some.inj (hpair'.symm.trans hpair)
    exact ⟨hget, by rw [hid], hlast⟩
  have hordered : l.Pairwise fun x y => x.2.lineNumber ≤ y.2.lineNumber := by
    rw [← hl, List.pairwise_filterMap]
    refine (hascend.sublist hsub).imp_of_mem ?_
    intro a b ha hb hab x hx y hy
    obtain ⟨lastA, _, hpairA, _, _, hlineA⟩ := hcurrent a ha
    obtain ⟨lastB, _, hpairB, _, _, hlineB⟩ := hcurrent b hb
    obtain rfl : (Key.str a.id, lastA) = x := Option.some.inj (hpairA.symm.trans hx)
    obtain rfl : (Key.str b.id, lastB) = y := Option.some.inj (hpairB.symm.trans hy)
    rw [hlineA, hlineB]
    exact hab
  refine ⟨l, ?_, ?_, hmem, hordered⟩
  · have hnumber : ∀ x ∈ l, Store.lineKey x.2 = .int x.2.lineNumber := by
      intro x hx
      exact Store.lineKey_of_int (hline x.2 (hmem x hx).2.2)
    unfold Store.fileSymbols
    simp only [hfound]
    rw [Json.sortBy?_of_ascending hnumber hordered]
  · rw [← hl, List.map_filterMap, hfirsts, ← List.filterMap_eq_map]
    apply List.filterMap_congr
    intro node hnode
    obtain ⟨last, _, hpair, _⟩ := hcurrent node hnode
    rw [hpair]
    rfl

end

/-- **Symbols are listed in source order.** Let the files of a project be read from source trees
    whose rows never decrease in pre-order, and let no name have a colon. Then the list of a file
    in the graph that is built has the ids of the symbols that the nodes of its tree declare, in
    pre-order and without duplicates: an id that comes again is listed where it came first. Each
    id has the symbol that the graph keeps under it, which is one of the file, and the lines
    ascend. The graph that is read from the saved document gives the same list. -/
theorem fileSymbols_source_order (missing : List String) (trees : String → Source.Tree)
    (files : Table String Facts) (now : String)
    (hread : ∀ e ∈ files.entries, Extract.ofTree missing e.1 (trees e.1) = .ok e.2)
    (hrows : ∀ e ∈ files.entries, (trees e.1).RowsAscend)
    (hnames : ∀ node ∈ allSymbols files, ∀ name, node.name = .str name → ':' ∉ name.toList) :
    let s := (build ⟨files, {}⟩ (Store.empty now)).2
    ∀ e ∈ files.entries, ∃ l, s.fileSymbols (.str e.1) = .ok l ∧
      l.map (·.1) = ((trees e.1).preorder.flatMap fun t =>
        (Extract.own e.1 t).symbols.map fun node => Key.str node.id).eraseDups ∧
      (l.map (·.1)).Nodup ∧
      (∀ x ∈ l, s.nodes.get? x.1 = some x.2 ∧ x.1 = .str x.2.id ∧ x.2 ∈ e.2.symbols ∧
        x.2.line = .int x.2.lineNumber) ∧
      (l.Pairwise fun x y => x.2.lineNumber ≤ y.2.lineNumber) ∧
      ∀ project later, ∃ t, Store.ofDocument (Cache.stamped s project later).toDocument = .ok t ∧
        t.fileSymbols (.str e.1) = .ok l := by
  intro s e he
  have hfacts : ∀ e ∈ files.entries, e.2 = Extract.facts e.1 (trees e.1) := by
    intro e he
    have h := hread e he
    rw [Extract.ofTree_eq] at h
    cases hdialect : Extract.dialectOf missing e.1 with
    | error reason =>
      rw [hdialect] at h
      cases h
    | ok d =>
      rw [hdialect] at h
      exact (Except.ok.inj h).symm
  have hfound : ∀ e ∈ files.entries, ∀ node ∈ e.2.symbols, node.file = .str e.1 ∧
      (∃ name, node.name = .str name) ∧ node.line = .int node.lineNumber := by
    intro e he node hnode
    rw [hfacts e he] at hnode
    exact Extract.symbol_of_mem_facts hnode
  have hsep : ∀ node ∈ allSymbols files, node.Separable := by
    intro node hnode
    have hmem := hnode
    rw [allSymbols_eq_flatMap] at hmem
    obtain ⟨e, he, hmem⟩ := List.mem_flatMap.mp hmem
    obtain ⟨hfile, ⟨name, hname⟩, hline⟩ := hfound e he node hmem
    exact ⟨⟨_, hfile⟩, ⟨name, hname, hnames node hnode name hname⟩, ⟨_, hline⟩⟩
  have hascend : e.2.symbols.Pairwise fun a b => a.lineNumber ≤ b.lineNumber := by
    rw [hfacts e he]
    exact Extract.lines_ascend (hrows e he) e.1
  obtain ⟨l, hl, hids, hmem, hordered⟩ := exists_fileSymbols now
    (fun e he node hnode => (hfound e he node hnode).1) hsep he
    (fun node hnode => (hfound e he node hnode).2.2) hascend
  refine ⟨l, hl, ?_, ?_, ?_, hordered, ?_⟩
  · rw [hids, hfacts e he, Extract.symbols_eq, List.map_flatMap]
  · rw [hids, ← Table.keys_setOfList]
    exact Table.nodup_keys _
  · intro x hx
    obtain ⟨hget, hid, hsymbol⟩ := hmem x hx
    exact ⟨hget, hid, hsymbol, (hfound e he x.2 hsymbol).2.2⟩
  · intro project later
    have hregular : s.Regular := regular_build now fun node hnode => (hsep node hnode).file
    have hstamped : (Cache.stamped s project later).Regular :=
      hregular.apply (c := .stamp project later) rfl
    refine ⟨_, Store.ofDocument_toDocument hstamped.filable, ?_⟩
    rw [hstamped.coherent.sameGraph_reread.fileSymbols_eq, Store.fileSymbols_stamped]
    exact hl

/-- Two variables of one declaration, a function inside another on the same line, and a function
    that is declared again on its line, as an asynchronous one; another file has a function with
    the same name on the same line. -/
theorem fileSymbols_source_order_two_files :
    let name (text : String) (row : Int) : Source.Tree :=
      (Source.Tree.leaf "identifier" text row).labelled "name"
    let declarator (text : String) (row : Int) : Source.Tree :=
      { kind := "variable_declarator", row := row, children := [name text row] }
    let declared (text : String) (row : Int) (parts : List Source.Tree) : Source.Tree :=
      { kind := "function_declaration", row := row, children := name text row :: parts }
    let first : Source.Tree := { kind := "program", children := [
      { kind := "lexical_declaration", children := [
        Source.Tree.token "const" 0, declarator "z" 0, declarator "a" 1] },
      declared "f" 1 [{ kind := "statement_block", row := 1, children := [declared "e" 1 []] }],
      declared "f" 1 [Source.Tree.token "async" 1], declared "d" 7 []] }
    let second : Source.Tree := { kind := "program", row := 1, children := [declared "f" 1 []] }
    let trees (file : String) : Source.Tree := if file = "a.js" then first else second
    let files := Table.ofList [("a.js", Extract.facts "a.js" first),
      ("b.ts", Extract.facts "b.ts" second)]
    let s := (build ⟨files, {}⟩ (Store.empty "t0")).2
    (∀ e ∈ files.entries, Extract.ofTree [] e.1 (trees e.1) = .ok e.2) ∧
    (∀ e ∈ files.entries, (trees e.1).RowsAscend) ∧
    (∀ node ∈ allSymbols files, ∀ name, node.name = .str name → ':' ∉ name.toList) ∧
    (∃ l, s.fileSymbols (.str "a.js") = .ok l ∧
      l.map (·.1) = [.str "a.js:z:1", .str "a.js:a:1", .str "a.js:f:2", .str "a.js:e:2",
        .str "a.js:d:8"]) ∧
    ∃ t l, Store.ofDocument (Cache.stamped s "/p" "t1").toDocument = .ok t ∧
      t.fileSymbols (.str "b.ts") = .ok l ∧ l.map (·.1) = [.str "b.ts:f:2"] := by
  intro name declarator declared first second trees files s
  have hentries : files.entries = [("a.js", Extract.facts "a.js" first),
    ("b.ts", Extract.facts "b.ts" second)] := rfl
  have hread : ∀ e ∈ files.entries, Extract.ofTree [] e.1 (trees e.1) = .ok e.2 := by
    rw [hentries]
    simp only [List.forall_mem_cons, Extract.ofTree_eq]
    exact ⟨by rfl, by rfl, nofun⟩
  have hrows : ∀ e ∈ files.entries, (trees e.1).RowsAscend := by
    rw [hentries]
    simp only [List.forall_mem_cons]
    unfold Source.Tree.RowsAscend
    exact ⟨by decide, by decide, nofun⟩
  have hnames : ∀ node ∈ allSymbols files, ∀ name, node.name = .str name → ':' ∉ name.toList := by
    have hall : (allSymbols files).map (·.name)
        = ["z", "a", "f", "e", "f", "d", "f"].map Json.str := by
      rw [allSymbols_eq_flatMap, hentries]
      simp only [List.flatMap_cons, List.flatMap_nil, Extract.symbols_eq]
      rfl
    intro node hnode name hname
    have hmem : Json.str name ∈ (allSymbols files).map (·.name) := by
      rw [← hname]
      exact List.mem_map.mpr ⟨node, hnode, rfl⟩
    rw [hall] at hmem
    have hplain : ∀ text ∈ ["z", "a", "f", "e", "f", "d", "f"], ':' ∉ text.toList := by decide
    obtain ⟨text, htext, hsame⟩ := List.mem_map.mp hmem
    rw [← Json.str.inj hsame]
    exact hplain text htext
  have horder := fileSymbols_source_order [] trees files "t0" hread hrows hnames
  obtain ⟨l, hl, hids, _⟩ := horder ("a.js", Extract.facts "a.js" first) List.mem_cons_self
  obtain ⟨l', _, hids', _, _, _, hsaved⟩ := horder ("b.ts", Extract.facts "b.ts" second)
    (List.mem_cons_of_mem _ List.mem_cons_self)
  obtain ⟨t, ht, hl'⟩ := hsaved "/p" "t1"
  exact ⟨hread, hrows, hnames, ⟨l, hl, hids.trans (by decide +kernel)⟩, t, l', ht, hl',
    hids'.trans (by decide +kernel)⟩

end Resolver

end SymbolGraph
