import SymbolGraph.Graph.Resolver
import SymbolGraph.Proofs.Indexes

/-! # Linking by index and by search

    The resolver finds functions and classes by an index from kind and name to ids. The
    index is filled while the symbols of all files are added, before the first edge.
    Here linking is described a second time, without an index: `Resolver.scan` goes
    through the facts file by file, and for each import, call and class goes through the
    symbols that could be meant.

    `Resolver.build_eq_scan` says that the two agree, edge for edge and in the same
    order, on any facts: several symbols may share an id, a name or a line, and
    functions, classes and variables may share a name. It rests on what the edges of a file
    are if the index lists every symbol a number of times (`Resolver.fileEdges_eq_copies`):
    once, in the first graph that a resolver builds.
-/

namespace SymbolGraph

/-- Names are looked up by kind and key, so two of them are the same if both parts are. -/
instance : EquivBEq NameKey where
  rfl := by
    intro a
    obtain ⟨kind, name⟩ := a
    show (kind == kind && name == name) = true
    rw [BEq.rfl, BEq.rfl, Bool.and_self]
  symm := by
    intro a b h
    have h := Bool.and_eq_true_iff.mp h
    exact Bool.and_eq_true_iff.mpr ⟨BEq.symm h.1, BEq.symm h.2⟩
  trans := by
    intro a b c h₁ h₂
    have h₁ := Bool.and_eq_true_iff.mp h₁
    have h₂ := Bool.and_eq_true_iff.mp h₂
    exact Bool.and_eq_true_iff.mpr ⟨BEq.trans h₁.1 h₂.1, BEq.trans h₁.2 h₂.2⟩

namespace Resolver

/-! ## Linking by search -/

/-- The symbols of all files, in the order of the files and of their facts. -/
def allSymbols (files : Table String Facts) : List Symbol :=
  files.values.flatMap (·.symbols)

/-- Whether two values are names, and the same one. -/
def sameName (a b : Json) : Bool :=
  match Key.ofJson? a, Key.ofJson? b with
  | some x, some y => x == y
  | _, _ => false

/-- Whether a symbol is of a kind and has a name. -/
def declares (kind : Kind) (name : Json) (node : Symbol) : Bool :=
  node.kind == kind && sameName node.name name

/-- The edges of an import: to the symbols of the imported file with the imported name,
    or to all of them for a default import of a file with a default export. -/
def scanImport (files : Table String Facts) (file : String) (i : Import) : List Edge :=
  match (importedFile? ⟨files, .empty⟩ file i.source).bind files.get? with
  | some target =>
    (target.symbols.filter fun node =>
      sameName node.name (.str i.binding) || (i.isDefault && target.hasDefaultExport)).map
        fun node => ⟨importSite file i.line, .str node.id, .str "imports"⟩
  | none => []

/-- The edges of a call: to all functions of the called name. -/
def scanCall (files : Table String Facts) (file : String) (c : Call) : List Edge :=
  ((allSymbols files).filter (declares .function (.str c.name))).map fun node =>
    ⟨callSite file c.line, .str node.id, .str "calls"⟩

/-- The edges of a symbol: if it is a class that extends another, to all classes of that
    name. -/
def scanExtends (files : Table String Facts) (node : Symbol) : List Edge :=
  match node.superclass? with
  | some name =>
    ((allSymbols files).filter (declares .klass name)).map fun other =>
      ⟨.str node.id, .str other.id, .str "extends"⟩
  | none => []

/-- All edges, file by file: of its imports, then of its calls, then of its classes. -/
def scan (files : Table String Facts) : List Edge :=
  files.entries.flatMap fun e =>
    e.2.imports.flatMap (scanImport files e.1) ++ e.2.calls.flatMap (scanCall files e.1)
      ++ e.2.symbols.flatMap (scanExtends files)

/-! ## Building as a run of changes -/

/-- The change that adds a symbol under its own id. -/
def addition (node : Symbol) : Change :=
  .addNode (.str node.id) node

theorem foldl_addSymbol_store (l : List Symbol) (r : Resolver) (s : Store) :
    (l.foldl addSymbol (r, s)).2 = s.run (l.map addition) := by
  induction l generalizing r s with
  | nil => rfl
  | cons node l ih =>
    rw [List.foldl_cons, List.map_cons, Store.run_cons]
    exact ih _ _

theorem foldl_addSymbol_files (l : List Symbol) (r : Resolver) (s : Store) :
    (l.foldl addSymbol (r, s)).1.files = r.files := by
  induction l generalizing r s with
  | nil => rfl
  | cons node l ih =>
    rw [List.foldl_cons]
    exact ih _ _

/-- The index after some symbols: what was listed before, and the ids of the symbols of
    the kind and name, one for each symbol. -/
theorem foldl_addSymbol_names (l : List Symbol) (r : Resolver) (s : Store) (kind : Kind)
    (name : Key) :
    ((l.foldl addSymbol (r, s)).1.names.get? (kind, name)).getD []
      = (r.names.get? (kind, name)).getD []
        ++ (l.filter (declares kind name.toJson)).map fun node => Key.str node.id := by
  induction l generalizing r s with
  | nil => simp
  | cons node l ih =>
    rw [List.foldl_cons]
    refine (ih _ _).trans ?_
    rw [List.filter_cons]
    cases hname : Key.ofJson? node.name with
    | none =>
      have hdecl : declares kind name.toJson node = false := by
        simp [declares, sameName, hname]
      simp [hdecl]
    | some key =>
      have hdecl : declares kind name.toJson node = ((node.kind, key) == (kind, name)) := by
        simp only [declares, sameName, hname, Key.ofJson?_toJson]
        rfl
      simp only [Table.get?_alter, hdecl]
      cases h : ((node.kind, key) == (kind, name)) <;> simp

theorem foldl_addEdge (es : List Edge) (s : Store) :
    es.foldl Store.addEdge s = s.run (es.map .addEdge) := by
  rw [Store.run, List.foldl_map]
  rfl

/-- Building a graph adds the symbols of all files and then edges. -/
theorem build_eq_run (r : Resolver) (s : Store) :
    ∃ es : List Edge,
      (r.build s).2 = s.run ((allSymbols r.files).map addition ++ es.map .addEdge) ∧
      es = r.files.entries.flatMap fun e =>
        (r.addSymbols s).1.fileEdges (r.addSymbols s).2 e.1 e.2 := by
  have hfiles : (r.addSymbols s).1.files = r.files := foldl_addSymbol_files _ r s
  refine ⟨_, ?_, rfl⟩
  rw [Store.run_append, ← foldl_addSymbol_store _ r s, ← foldl_addEdge]
  show ((r.addSymbols s).1.files.entries.flatMap _).foldl Store.addEdge (r.addSymbols s).2 = _
  rw [hfiles]
  rfl

/-- The symbols of a graph after some symbols are added under their own ids. -/
theorem nodes_run_additions (s : Store) (l : List Symbol) (cs : List Change)
    (hcs : cs.filterMap Change.node? = []) :
    (s.run (l.map addition ++ cs)).nodes
      = l.foldl (fun t node => t.insert (Key.str node.id) node) s.nodes := by
  rw [Store.nodes_run, List.filterMap_append, hcs, List.append_nil, List.filterMap_map]
  have hsome : Change.node? ∘ addition = fun node => some (Key.str node.id, node) := rfl
  rw [hsome, List.filterMap_eq_map', List.foldl_map]

/-- The symbols of a graph that was built from nothing: each id has the last symbol with
    that id, at the place of the first. -/
theorem nodes_additions (now : String) (l : List Symbol) (cs : List Change)
    (hcs : cs.filterMap Change.node? = []) :
    let t := ((Store.empty now).run (l.map addition ++ cs)).nodes
    t.keys = (l.map fun node => Key.str node.id).eraseDups ∧
      ∀ id, t.get? id = (l.filter fun node => Key.str node.id == id).getLast? := by
  intro t
  have ht : t = l.foldl (fun t node => t.insert (Key.str node.id) node) {} :=
    nodes_run_additions _ l cs hcs
  rw [ht]
  constructor
  · have hkeys := Table.keys_foldl_alter (fun node : Symbol => Key.str node.id)
      (fun node _ => node) l {}
    have hall : ∀ ks : List Key, ks.filter (fun k => !({} : Table Key Symbol).contains k) = ks :=
      fun ks => List.filter_eq_self.mpr fun _ _ => rfl
    rw [hall] at hkeys
    exact hkeys
  · intro id
    rw [Table.get?_foldl_insert, Table.get?_empty, Option.or_none, Option.map_id']

/-- The symbols that were added are in the graph, whatever was in it before. -/
theorem contains_addSymbols (r : Resolver) (s : Store) {node : Symbol}
    (h : node ∈ allSymbols r.files) : (r.addSymbols s).2.nodes.contains (.str node.id) = true := by
  have hadded : (r.addSymbols s).2 = s.run ((allSymbols r.files).map addition ++ []) := by
    rw [List.append_nil]
    exact foldl_addSymbol_store _ r s
  rw [hadded, nodes_run_additions _ _ [] rfl, ← Table.isSome_get?, Table.get?_foldl_insert,
    Option.isSome_or, Option.isSome_map, List.getLast?_isSome.mpr, Bool.true_or]
  exact List.ne_nil_of_mem (List.mem_filter.mpr ⟨h, BEq.rfl⟩)

/-! ## The two ways of linking agree -/

/-- A name is the same as a text only if it is that text. -/
theorem sameName_str (a : Json) (s : String) :
    sameName a (.str s) = match a with
      | .str t => t == s
      | _ => false := by
  cases a with
  | str t => exact Key.str_beq_str t s
  | real x =>
    show decide ((Key.real x).canonical = Key.str s) = false
    -- the spelling of a number is that of a number
    cases hx : Key.wholeValue? x <;> simp [Key.canonical, hx]
  | null | bool | int | arr | obj => rfl

theorem sameName_toJson {b : Json} {key : Key} (h : Key.ofJson? b = some key) (a : Json) :
    sameName a key.toJson = sameName a b := by
  simp only [sameName, Key.ofJson?_toJson, h]

/-- The symbols of a file that was found are symbols of the project. -/
theorem mem_allSymbols_of_bind {files : Table String Facts} {path? : Option String}
    {target : Facts} (h : path?.bind files.get? = some target) {node : Symbol}
    (hnode : node ∈ target.symbols) : node ∈ allSymbols files := by
  obtain ⟨path, _, hget⟩ := Option.bind_eq_some_iff.mp h
  obtain ⟨path', _, hmem⟩ := Table.exists_mem_of_get? hget
  exact List.mem_flatMap.mpr ⟨target, List.mem_map.mpr ⟨_, hmem, rfl⟩, hnode⟩

section
variable {files : Table String Facts} {r : Resolver} {s : Store} {n : Nat}

/-- The candidates for a kind and a name are found by going through all symbols, as often as
    the index lists each of them, if all of them are in the graph. -/
theorem candidates_eq_copies
    (hnames : ∀ kind name, (r.names.get? (kind, name)).getD []
      = (List.replicate n (((allSymbols files).filter (declares kind name.toJson)).map
        fun node => Key.str node.id)).flatten)
    (hnodes : ∀ node ∈ allSymbols files, s.nodes.contains (.str node.id) = true)
    (kind : Kind) (name : Json) :
    r.candidates s kind name
      = (List.replicate n (((allSymbols files).filter (declares kind name)).map
        fun node => Key.str node.id)).flatten := by
  unfold candidates
  cases hkey : Key.ofJson? name with
  | none =>
    -- what is no name is not the name of any symbol
    have hnone : (allSymbols files).filter (declares kind name) = [] := by
      rw [List.filter_eq_nil_iff]
      intro node _
      unfold declares sameName
      rw [hkey]
      cases Key.ofJson? node.name <;> simp
    simp [hnone]
  | some key =>
    have hdecl : declares kind key.toJson = declares kind name := by
      funext node
      unfold declares
      rw [sameName_toJson hkey]
    dsimp only
    rw [hnames, hdecl, List.filter_eq_self]
    intro id hid
    obtain ⟨ids, hids, hid⟩ := List.mem_flatten.mp hid
    rw [List.eq_of_mem_replicate hids] at hid
    obtain ⟨node, hnode, rfl⟩ := List.mem_map.mp hid
    exact hnodes node (List.mem_filter.mp hnode).1

/-- If the index lists every symbol once, the candidates are those that the search finds. -/
theorem candidates_eq_scan
    (hnames : ∀ kind name, (r.names.get? (kind, name)).getD []
      = ((allSymbols files).filter (declares kind name.toJson)).map fun node => Key.str node.id)
    (hnodes : ∀ node ∈ allSymbols files, s.nodes.contains (.str node.id) = true)
    (kind : Kind) (name : Json) :
    r.candidates s kind name
      = ((allSymbols files).filter (declares kind name)).map fun node => Key.str node.id := by
  simpa using candidates_eq_copies (n := 1) (by simpa using hnames) hnodes kind name

/-- The edges of an import are found by going through the symbols of the imported file,
    if all symbols are in the graph. -/
theorem importEdges_eq_scan (hfiles : r.files = files)
    (hnodes : ∀ node ∈ allSymbols files, s.nodes.contains (.str node.id) = true)
    (file : String) (i : Import) : r.importEdges s file i = scanImport files file i := by
  have hresolve : r.importedFile? file i.source = importedFile? ⟨files, .empty⟩ file i.source := by
    unfold importedFile?
    rw [hfiles]
  unfold importEdges scanImport
  rw [hresolve, hfiles]
  cases htarget : (importedFile? ⟨files, .empty⟩ file i.source).bind files.get? with
  | none => rfl
  | some target =>
    have htargets : importTargets target i = target.symbols.filter fun node =>
        sameName node.name (.str i.binding) || (i.isDefault && target.hasDefaultExport) := by
      unfold importTargets
      apply List.filter_congr
      intro node _
      exact congrArg (· || (i.isDefault && target.hasDefaultExport))
        (sameName_str node.name i.binding).symm
    dsimp only
    rw [← htargets, List.filter_eq_self.mpr, List.map_map]
    · rfl
    · intro id hid
      obtain ⟨node, hnode, rfl⟩ := List.mem_map.mp hid
      exact hnodes node (mem_allSymbols_of_bind htarget (List.mem_filter.mp hnode).1)

/-- The edges of a file: those of its imports as the search finds them, and those of its calls
    and classes as often as the index lists what they are linked to. -/
theorem fileEdges_eq_copies (hfiles : r.files = files)
    (hnames : ∀ kind name, (r.names.get? (kind, name)).getD []
      = (List.replicate n (((allSymbols files).filter (declares kind name.toJson)).map
        fun node => Key.str node.id)).flatten)
    (hnodes : ∀ node ∈ allSymbols files, s.nodes.contains (.str node.id) = true)
    (file : String) (f : Facts) :
    r.fileEdges s file f
      = f.imports.flatMap (scanImport files file)
        ++ f.calls.flatMap (fun c => (List.replicate n (scanCall files file c)).flatten)
        ++ f.symbols.flatMap fun node => (List.replicate n (scanExtends files node)).flatten := by
  have himports : r.importEdges s file = scanImport files file := by
    funext i
    exact importEdges_eq_scan hfiles hnodes file i
  have hcalls : r.callEdges s file
      = fun c => (List.replicate n (scanCall files file c)).flatten := by
    funext c
    unfold callEdges scanCall
    rw [candidates_eq_copies hnames hnodes, List.map_flatten, List.map_replicate, List.map_map]
    rfl
  have hextends : r.extendsEdges s
      = fun node => (List.replicate n (scanExtends files node)).flatten := by
    funext node
    unfold extendsEdges scanExtends
    cases node.superclass? with
    | none => simp
    | some name =>
      dsimp only
      rw [candidates_eq_copies hnames hnodes, List.map_flatten, List.map_replicate, List.map_map]
      rfl
  unfold fileEdges
  rw [himports, hcalls, hextends]

/-- If the index lists every symbol once, the edges of a file are the same both ways. -/
theorem fileEdges_eq_scan (hfiles : r.files = files)
    (hnames : ∀ kind name, (r.names.get? (kind, name)).getD []
      = ((allSymbols files).filter (declares kind name.toJson)).map fun node => Key.str node.id)
    (hnodes : ∀ node ∈ allSymbols files, s.nodes.contains (.str node.id) = true)
    (file : String) (f : Facts) :
    r.fileEdges s file f
      = f.imports.flatMap (scanImport files file) ++ f.calls.flatMap (scanCall files file)
        ++ f.symbols.flatMap (scanExtends files) := by
  simpa using fileEdges_eq_copies (n := 1) hfiles (by simpa using hnames) hnodes file f

end

/-- Every edge that the search finds ends at a symbol of the project. -/
theorem dst_of_mem_scan {files : Table String Facts} {e : Edge} (he : e ∈ scan files) :
    ∃ node ∈ allSymbols files, e.dst = .str node.id := by
  obtain ⟨⟨file, f⟩, _, he⟩ := List.mem_flatMap.mp he
  rcases List.mem_append.mp he with he | he
  · rcases List.mem_append.mp he with he | he
    · obtain ⟨i, _, he⟩ := List.mem_flatMap.mp he
      unfold scanImport at he
      split at he
      · rename_i target htarget
        obtain ⟨node, hnode, rfl⟩ := List.mem_map.mp he
        exact ⟨node, mem_allSymbols_of_bind htarget (List.mem_filter.mp hnode).1, rfl⟩
      · cases he
    · obtain ⟨c, _, he⟩ := List.mem_flatMap.mp he
      obtain ⟨node, hnode, rfl⟩ := List.mem_map.mp he
      exact ⟨node, (List.mem_filter.mp hnode).1, rfl⟩
  · obtain ⟨node, _, he⟩ := List.mem_flatMap.mp he
    unfold scanExtends at he
    split at he
    · obtain ⟨other, hother, rfl⟩ := List.mem_map.mp he
      exact ⟨other, (List.mem_filter.mp hother).1, rfl⟩
    · cases he

/-- **Linking by index is linking by search.** Building a graph from the facts of a
    project gives the ids of all symbols in order of first occurrence, each with the last
    symbol of that id, and as arena the edges that `scan` finds, in its order. No edge is
    lost because its target is not in the graph: every target is. -/
theorem build_eq_scan (files : Table String Facts) (now : String) :
    let s := (build ⟨files, {}⟩ (Store.empty now)).2
    s.nodes.keys = ((allSymbols files).map fun node => Key.str node.id).eraseDups ∧
    (∀ id, s.nodes.get? id
      = ((allSymbols files).filter fun node => Key.str node.id == id).getLast?) ∧
    s.edges.toList = scan files ∧
    ∀ e ∈ s.edges.toList, s.nodes.contains e.dst = true := by
  intro s
  let r : Resolver := ⟨files, {}⟩
  let start := Store.empty now
  obtain ⟨es, hbuild, hes⟩ := build_eq_run r start
  have hadded : (r.addSymbols start).2 = start.run ((allSymbols files).map addition) :=
    foldl_addSymbol_store _ r start
  -- the index lists all symbols, and all of them are in the graph before the first edge
  have hnames : ∀ kind name, ((r.addSymbols start).1.names.get? (kind, name)).getD []
      = ((allSymbols files).filter (declares kind name.toJson)).map
        fun node => Key.str node.id :=
    fun kind name => foldl_addSymbol_names _ r start kind name
  have hget := (nodes_additions now (allSymbols files) [] rfl).2
  have hnodes : ∀ node ∈ allSymbols files,
      (r.addSymbols start).2.nodes.contains (.str node.id) = true := by
    intro node hnode
    rw [hadded, ← Table.isSome_get?]
    rw [List.append_nil] at hget
    rw [hget, List.getLast?_isSome]
    exact List.ne_nil_of_mem (List.mem_filter.mpr ⟨hnode, BEq.rfl⟩)
  have hscan : es = scan files := by
    rw [hes]
    unfold scan
    congr 1
    funext e
    exact fileEdges_eq_scan (foldl_addSymbol_files _ r start) hnames hnodes e.1 e.2
  have hs : s = start.run ((allSymbols files).map addition ++ es.map .addEdge) := hbuild
  have hnone : (es.map Change.addEdge).filterMap Change.node? = [] := by
    rw [List.filterMap_map, List.filterMap_eq_nil_iff]
    intro e _
    rfl
  obtain ⟨hkeys, hlast⟩ := nodes_additions now (allSymbols files) _ hnone
  rw [← hs] at hkeys hlast
  have hedges : s.edges.toList = scan files := by
    rw [hs, Store.edges_run, List.filterMap_append, List.filterMap_map, List.filterMap_map]
    have hsome : Change.edge? ∘ Change.addEdge = some := rfl
    have hskip : Change.edge? ∘ addition = fun _ => none := rfl
    rw [hsome, hskip, List.filterMap_some, List.filterMap_none, hscan]
    rfl
  refine ⟨hkeys, hlast, hedges, ?_⟩
  intro e he
  rw [hedges] at he
  obtain ⟨node, hnode, hdst⟩ := dst_of_mem_scan he
  rw [hdst, ← Table.isSome_get?, hlast, List.getLast?_isSome]
  exact List.ne_nil_of_mem (List.mem_filter.mpr ⟨hnode, BEq.rfl⟩)

end Resolver

end SymbolGraph
