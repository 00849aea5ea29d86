import Mathlib.Data.Option.Basic
import SymbolGraph.Build
import SymbolGraph.Proofs.LinkTargets
import SymbolGraph.Proofs.Rereading

/-! # Graphs that are built

    The graph of a project is built from the facts of its files. It is built if the files are
    known and the facts can be linked, and then it is a function of them (`Build.build_eq_ok`).
    So a graph that was built and stamped can be written and read (`Build.regular_saved`), and
    its edges end at its symbols (`Build.contains_dst_saved`), however the facts were read.

    Every symbol that is read off a source file is a declaration that was found in this file
    (`Extract.exists_mem_own_of_ofText`), whatever the source is.

    In between, the graph of any facts is described part by part. It is the result of one run
    of changes, symbols first (`Resolver.build_eq_run_scan`), from which the order of its ids,
    sources and files is read off.
-/

namespace SymbolGraph

/-! ## The symbols of a file -/

namespace Extract

/-- A symbol that a node declares has the file and the line of the node, and is a function, a
    class or a variable. -/
theorem symbol_of_mem_own {file : String} {t : Source.Tree} {node : Symbol}
    (h : node ∈ (own file t).symbols) :
    ∃ name details, node = ⟨.str name, .str file, .int t.line, details⟩ ∧
      ((∃ params isAsync isGenerator, details
          = .function (Json.texts params) (.bool isAsync) (.bool isGenerator)) ∨
        (∃ parent, ∃ members : List Source.Tree, details = .klass (Json.optText parent)
          (.arr (members.filterMap method?)) (.arr (members.filterMap property?))) ∨
        ∃ declaration, details = .variable (.str declaration)) := by
  unfold own at h
  split at h
  · have h := Option.mem_toList.mp h
    simp only [functionSymbol?, Option.bind_eq_bind, Option.bind_eq_some_iff] at h
    obtain ⟨name, _, h⟩ := h
    cases h
    exact ⟨_, _, rfl, .inl ⟨_, _, _, rfl⟩⟩
  · split at h
    · have h := Option.mem_toList.mp h
      simp only [classSymbol?, Option.bind_eq_bind, Option.bind_eq_some_iff] at h
      obtain ⟨name, _, h⟩ := h
      cases h
      exact ⟨_, _, rfl, .inr (.inl ⟨_, _, rfl⟩)⟩
    · split at h
      · obtain ⟨d, _, hd⟩ := List.mem_filterMap.mp h
        simp only [Option.bind_eq_bind, Option.bind_eq_some_iff] at hd
        obtain ⟨_, _, name, _, _, _, hd⟩ := hd
        cases hd
        exact ⟨_, _, rfl, .inr (.inr ⟨_, rfl⟩)⟩
      · -- imports, exports, calls and all other nodes declare nothing
        split at h
        · cases h
        · split at h
          · cases h
          · split at h <;> cases h

/-- The nodes of a tree with rows of 32 bits have rows of 32 bits. -/
theorem wrapped_of_mem_walk {visited stack : List Source.Tree}
    (hvisited : ∀ t ∈ visited, ∃ u, Source.Tree.wrapRows u = t)
    (hstack : ∀ t ∈ stack, ∃ u, Source.Tree.wrapRows u = t) :
    ∀ t ∈ walk visited stack, ∃ u, Source.Tree.wrapRows u = t := by
  -- the trees on the stack are wrapped, and so are their children
  fun_induction walk visited stack with
  | case1 visited => exact fun t ht => hvisited t (List.mem_reverse.mp ht)
  | case2 visited t rest ih =>
    rw [List.forall_mem_cons] at hstack
    obtain ⟨⟨u, rfl⟩, hrest⟩ := hstack
    apply ih
    · exact List.forall_mem_cons.mpr ⟨⟨u, rfl⟩, hvisited⟩
    · rw [Source.Tree.children_wrapRows]
      intro t ht
      rcases List.mem_append.mp ht with ht | ht
      · obtain ⟨v, _, hv⟩ := List.mem_map.mp ht
        exact ⟨v, hv⟩
      · exact hrest t ht

/-- The symbols of a text are declared by nodes with rows of 32 bits. -/
theorem exists_mem_own_of_ofText {missing : List String} {file text : String} {f : Facts}
    (h : ofText missing file text = .ok f) {node : Symbol} (hnode : node ∈ f.symbols) :
    ∃ t : Source.Tree, node ∈ (own file t.wrapRows).symbols := by
  unfold ofText at h
  cases hd : dialectOf missing file with
  | error e =>
    rw [hd] at h
    cases h
  | ok d =>
    rw [hd] at h
    cases h
    obtain ⟨report, hreport, hnode⟩ := List.mem_flatMap.mp hnode
    obtain ⟨part, hpart, rfl⟩ := List.mem_map.mp hreport
    obtain ⟨t, rfl⟩ := wrapped_of_mem_walk (List.forall_mem_nil _)
      (List.forall_mem_singleton.mpr ⟨Source.Grammar.parse d text, rfl⟩) part hpart
    exact ⟨t, hnode⟩

end Extract

/-! ## The symbols of a project -/

/-- The values of a table that is made from a list are values of the list. -/
theorem Table.exists_mem_of_mem_values_ofList {κ β : Type} [BEq κ] [EquivBEq κ]
    {l : List (κ × β)} {v : β} (h : v ∈ (Table.ofList l).values) : ∃ e ∈ l, e.2 = v := by
  obtain ⟨x, hx, rfl⟩ := List.mem_map.mp h
  have hget : (Table.ofList l).get? x.1 = some x.2 := Table.get?_of_mem hx
  have hlast := Table.get?_foldl_insert Prod.fst Prod.snd l {} x.1
  rw [Table.get?_empty, Option.or_none] at hlast
  rw [show (Table.ofList l).get? x.1 = _ from hlast] at hget
  obtain ⟨e, he, hval⟩ := Option.map_eq_some_iff.mp hget
  exact ⟨e, (List.mem_filter.mp (List.mem_of_getLast? he)).1, hval⟩

namespace Build

/-- The facts of some files are those that are read off one of them. -/
theorem read_of_mem_facts {x : Extractor} {limit : Int} {disk : Files} {folder : String}
    {files : List String} {f : Facts} (h : f ∈ (collect x limit disk folder files).facts.values) :
    ∃ file ∈ files, x disk folder file = .ok f := by
  obtain ⟨e, he, rfl⟩ := Table.exists_mem_of_mem_values_ofList h
  obtain ⟨entry, hentry, hread⟩ := List.mem_filterMap.mp he
  obtain ⟨file, hfile, rfl⟩ := List.mem_map.mp hentry
  obtain ⟨facts, hfacts, rfl⟩ := Option.map_eq_some_iff.mp hread
  refine ⟨file, hfile, ?_⟩
  rw [outcome_eq] at hfacts
  -- only a file that was read has facts
  split at hfacts
  · cases hfacts
  · split at hfacts
    · cases hfacts
    · split at hfacts
      · rename_i found hfound
        cases hfacts
        exact hfound
      · cases hfacts

/-- What is read off a source file are the facts of a text. -/
theorem ofText_of_read {missing : List String} {disk : Files} {folder file : String} {f : Facts}
    (h : sourceExtractor missing disk folder file = .ok f) :
    ∃ text, Extract.ofText missing file text = .ok f := by
  have h : (factsOf missing disk folder file).mapError Unreadable.message = .ok f := h
  unfold factsOf at h
  cases hread : disk.read (Path.under folder file) with
  | error e =>
    rw [hread] at h
    cases h
  | ok bytes =>
    rw [hread] at h
    refine ⟨textOf bytes, ?_⟩
    cases htext : Extract.ofText missing file (textOf bytes) with
    | error e =>
      simp only [bind, Except.bind, Except.mapError, htext] at h
      cases h
    | ok g =>
      simp only [bind, Except.bind, Except.mapError, htext] at h
      cases h
      rfl

end Build

/-! ## The graph of some facts -/

namespace Resolver

section
variable (files : Table String Facts) (now : String)

/-- The symbols of a graph that is built: each id has its last declaration. -/
theorem get?_nodes_build (id : Key) :
    (build ⟨files, {}⟩ (Store.empty now)).2.nodes.get? id
      = ((allSymbols files).filter fun node => Key.str node.id == id).getLast? := by
  rw [(build_eq_unlinked files now).1]
  exact get?_unlinked files now id

/-- The edges of a graph that is built are those that the search finds. -/
theorem edges_build : (build ⟨files, {}⟩ (Store.empty now)).2.edges.toList = scan files := by
  rw [(build_eq_unlinked files now).2]
  unfold scan
  congr 1
  funext e
  apply fileEdges_eq_scan
  · exact foldl_addSymbol_files _ _ _
  · intro kind name
    exact foldl_addSymbol_names _ _ _ kind name
  · intro node hnode
    rw [← Table.isSome_get?, get?_unlinked, List.getLast?_isSome]
    exact List.ne_nil_of_mem (List.mem_filter.mpr ⟨hnode, BEq.rfl⟩)

/-- What is read off the changes that build a graph. -/
theorem filterMap_changes {β : Type} (view : Change → Option β) (l : List Symbol)
    (es : List Edge) :
    (l.map addition ++ es.map Change.addEdge).filterMap view
      = l.filterMap (fun node => view (addition node))
        ++ es.filterMap fun e => view (.addEdge e) := by
  rw [List.filterMap_append, List.filterMap_map, List.filterMap_map]
  rfl

/-- Building a graph adds all symbols, and then the edges that the search finds. -/
theorem build_eq_run_scan : (build ⟨files, {}⟩ (Store.empty now)).2
    = (Store.empty now).run ((allSymbols files).map addition ++ (scan files).map .addEdge) := by
  obtain ⟨es, hbuild, _⟩ := build_eq_run ⟨files, {}⟩ (Store.empty now)
  have hes : es = scan files := by
    rw [← edges_build files now, hbuild, Store.edges_run, filterMap_changes]
    simp [Change.edge?, addition, Store.empty]
  rw [hbuild, hes]

/-- The ids of a graph that is built, in order of first occurrence. -/
theorem nodes_keys_build : (build ⟨files, {}⟩ (Store.empty now)).2.nodes.keys
    = ((allSymbols files).map fun node => Key.str node.id).eraseDups := by
  have hnone : ((scan files).map Change.addEdge).filterMap Change.node? = [] := by
    simp [Change.node?]
  rw [build_eq_run_scan]
  exact (nodes_additions now (allSymbols files) _ hnone).1

/-- The sources of a graph that is built: all ids, and then the other sources. -/
theorem forward_keys_build : (build ⟨files, {}⟩ (Store.empty now)).2.forward.keys
    = ((allSymbols files).map (fun node => Key.str node.id)
      ++ (scan files).map Edge.src).eraseDups := by
  rw [build_eq_run_scan, Store.forward_keys_run, filterMap_changes]
  simp [Change.source?, addition]

/-- The files of a graph that is built, in order of first occurrence. -/
theorem files_build : (build ⟨files, {}⟩ (Store.empty now)).2.files
    = ((allSymbols files).filterMap fun node => Key.ofJson? node.file).eraseDups := by
  have hkeys : ∀ cs, ((Store.empty now).run cs).files = (cs.filterMap Change.file?).eraseDups :=
    Store.keys_run_of_empty Store.fileIndex_keys_apply rfl
  rw [build_eq_run_scan, hkeys, filterMap_changes]
  simp [Change.file?, addition]

end

/-- A graph can be written and read if the files of its symbols can be looked up. -/
theorem regular_build_of_keys {files : Table String Facts} (now : String)
    (h : ∀ node ∈ allSymbols files, (Key.ofJson? node.file).isSome = true) :
    (build ⟨files, {}⟩ (Store.empty now)).2.Regular := by
  obtain ⟨es, hbuild, _⟩ := build_eq_run ⟨files, {}⟩ (Store.empty now)
  have hfit : ∀ c ∈ (allSymbols files).map addition ++ es.map .addEdge, c.isFit = true := by
    intro c hc
    rcases List.mem_append.mp hc with hc | hc
    · obtain ⟨node, hnode, rfl⟩ := List.mem_map.mp hc
      exact h node hnode
    · obtain ⟨e, _, rfl⟩ := List.mem_map.mp hc
      rfl
  rw [hbuild]
  exact (Store.regular_empty now).run hfit

theorem regular_build {files : Table String Facts} (now : String)
    (h : ∀ node ∈ allSymbols files, ∃ file, node.file = .str file) :
    (build ⟨files, {}⟩ (Store.empty now)).2.Regular := by
  apply regular_build_of_keys
  intro node hnode
  obtain ⟨file, hfile⟩ := h node hnode
  rw [hfile]
  rfl

theorem regular_build_of_isFit {files : Table String Facts} (now : String)
    (h : isFit ⟨files, {}⟩ = true) : (build ⟨files, {}⟩ (Store.empty now)).2.Regular := by
  apply regular_build_of_keys
  intro node hnode
  have hnode := List.all_eq_true.mp h node hnode
  rw [Bool.and_eq_true, Bool.and_eq_true] at hnode
  exact hnode.1.2

end Resolver

/-! ## The graph of a project -/

namespace Build

theorem assemble_eq (now folder : String) (r : Report) :
    assemble now folder r = if Resolver.isFit ⟨r.facts, {}⟩ then .ok (link now folder r)
      else .error (.malformed .unfit) := by
  unfold assemble Resolver.checkedBuild
  dsimp only
  split <;> rfl

section
variable {x : Extractor} {limit : Int} {disk : Files} {now folder : String} {b : Built}

/-- What building a project gives, if its files are known. -/
theorem build_of_files {files : List String} (h : Discovery.files {} disk folder = .ok files) :
    build x limit disk now folder = assemble now folder (collect x limit disk folder files) := by
  unfold build survey
  rw [h]
  rfl

/-- A project whose files are not known is not built. -/
theorem build_of_fault {fault : Files.Fault} (h : Discovery.files {} disk folder = .error fault) :
    build x limit disk now folder = .error (.file fault) := by
  unfold build survey
  rw [h]
  rfl

/-- A project is built if its files are known and what was read of them can be linked. -/
theorem build_eq_ok : build x limit disk now folder = .ok b ↔
    ∃ files, Discovery.files {} disk folder = .ok files ∧
      Resolver.isFit ⟨(collect x limit disk folder files).facts, {}⟩ = true ∧
      b = link now folder (collect x limit disk folder files) := by
  cases hfiles : Discovery.files {} disk folder with
  | error fault =>
    rw [build_of_fault hfiles]
    refine ⟨nofun, ?_⟩
    rintro ⟨files, hfound, _⟩
    cases hfound
  | ok files =>
    rw [build_of_files hfiles, assemble_eq]
    constructor
    · intro h
      split at h
      · rename_i hfit
        cases h
        exact ⟨files, rfl, hfit, rfl⟩
      · cases h
    · rintro ⟨found, hfound, hfit, rfl⟩
      cases hfound
      rw [if_pos hfit]

end

/-! ### The graph as it is saved -/

/-- A graph that is built, as it is saved for its project. -/
def saved (o : Options) (disk : Files) (now project : String) : Except Failure Store :=
  (build o.extractor o.limit disk now project).map fun b => Cache.stamped b.store project now

/-- The stamps replace what building has said about the project. -/
theorem stamped_ofProject (s : Store) (project now : String) :
    Cache.stamped (ofProject project s) project now = s.apply (.stamp project now) := rfl

/-- Stamps do not touch symbols and edges. -/
theorem apply_stamp (s : Store) (project now : String) :
    (s.apply (.stamp project now)).nodes = s.nodes ∧
    (s.apply (.stamp project now)).edges = s.edges := ⟨rfl, rfl⟩

theorem stamps_apply (s : Store) (project now : String) :
    (s.apply (.stamp project now)).metadata.projectPath = .str project ∧
    (s.apply (.stamp project now)).projectHash = .str (Cache.projectHash project) := ⟨rfl, rfl⟩

section
variable {o : Options} {disk : Files} {now project : String} {g : Store}

theorem exists_of_saved (h : saved o disk now project = .ok g) :
    ∃ files, Discovery.files {} disk project = .ok files ∧
      Resolver.isFit ⟨(collect o.extractor o.limit disk project files).facts, {}⟩ = true ∧
      g = (Resolver.build ⟨(collect o.extractor o.limit disk project files).facts, {}⟩
        (Store.empty now)).2.apply (.stamp project now) := by
  unfold saved at h
  cases hbuild : build o.extractor o.limit disk now project with
  | error e =>
    rw [hbuild] at h
    cases h
  | ok b =>
    rw [hbuild] at h
    cases h
    obtain ⟨files, hfiles, hfit, rfl⟩ := build_eq_ok.mp hbuild
    exact ⟨files, hfiles, hfit, stamped_ofProject _ project now⟩

/-- A graph that is built can be written and read. -/
theorem regular_saved (h : saved o disk now project = .ok g) : g.Regular := by
  obtain ⟨files, _, hfit, rfl⟩ := exists_of_saved h
  exact (Resolver.regular_build_of_isFit now hfit).apply (c := .stamp project now) rfl

/-- A graph that is built has the stamps of its project. -/
theorem stamps_saved (h : saved o disk now project = .ok g) :
    g.metadata.projectPath = .str project ∧
    g.projectHash = .str (Cache.projectHash project) := by
  obtain ⟨files, _, _, rfl⟩ := exists_of_saved h
  exact stamps_apply _ project now

/-- The edges of a graph that is built end at its symbols. -/
theorem contains_dst_saved (h : saved o disk now project = .ok g) {e : Edge}
    (he : e ∈ g.edges.toList) : g.nodes.contains e.dst = true := by
  obtain ⟨files, _, _, rfl⟩ := exists_of_saved h
  obtain ⟨hnodes, hedges⟩ := Resolver.build_eq_unlinked
    (collect o.extractor o.limit disk project files).facts now
  rw [(apply_stamp _ _ _).2, hedges] at he
  rw [(apply_stamp _ _ _).1, hnodes]
  obtain ⟨x, _, he⟩ := List.mem_flatMap.mp he
  exact Resolver.contains_dst_of_mem_fileEdges he

end

end Build

end SymbolGraph
