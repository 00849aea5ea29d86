import SymbolGraph.Proofs.Recovery

/-! # Listing and loading

    A document in the cache is read in two ways. Loading reads it down to the fields of its items
    and sets one symbol after another; listing looks at the metadata and counts the items. The two
    have to agree on every document that can be loaded, whatever stands for its parts.

    * `Json.nodeIds` gives the ids of a document's symbols as they stand in it.
      `Store.exists_run_of_document` says what reading a document does to a graph: the changes
      that its items stand for, one after another.
    * `SavedGraph.Summarises` says how what is told about a graph has to agree with the graph.
    * `Cache.listing_agrees` is the main result.
-/

namespace SymbolGraph

/-! ## The ids in a document -/

namespace Json

/-- The items of a document's list of symbols. -/
def nodeItems : Json → List Json
  | .obj fields =>
    match field? "nodes" fields with
    | some (.arr items) => items
    | _ => []
  | _ => []

/-- The key that an item has in a field. -/
def keyIn? (name : String) : Json → Option Key
  | .obj fields => (field? name fields).bind Key.ofJson?
  | _ => none

/-- The ids of the symbols in a document, as they stand in it. -/
def nodeIds (doc : Json) : List Key :=
  doc.nodeItems.filterMap (keyIn? "id")

end Json

/-- The first occurrences of keys are all of the keys exactly if the keys are distinct. -/
theorem length_eraseDups_eq_iff {ks : List Key} :
    ks.length = ks.eraseDups.length ↔ Distinct ks := by
  constructor
  · intro hlength
    have hsame : ks.eraseDups = ks := (eraseDups_sublist ks).eq_of_length hlength.symm
    rw [← hsame, ← Table.keys_setOfList]
    exact Table.distinct_keys _
  · intro hdistinct
    rw [Table.eraseDups_of_distinct hdistinct]

/-! ## What reading a document does -/

namespace Store

theorem keyIn?_of_keyOf {fields : List (String × Json)} {name : String} {v : Json} {k : Key}
    (hv : Json.field? name fields = some v) (hk : keyOf v = .ok k) :
    (Json.obj fields).keyIn? name = some k := by
  show (Json.field? name fields).bind Key.ofJson? = some k
  rw [hv, Option.bind_some]
  unfold keyOf at hk
  split at hk
  · rename_i hkey
    rw [hkey, Except.ok.inj hk]
  · cases hk

theorem exists_addNode_of_readNode (s t : Store) (item : Json) (h : readNode s item = .ok t) :
    ∃ e : Key × Symbol, item.keyIn? "id" = some e.1 ∧ t = s.apply (.addNode e.1 e.2) := by
  unfold readNode at h
  simp only [bind_eq_ok, fieldsOf_eq_ok, needed_eq_ok] at h
  obtain ⟨fields, rfl, v, hv, node, _, k, hk, _, _, ht⟩ := h
  exact ⟨(k, node), keyIn?_of_keyOf hv hk, (Except.ok.inj ht).symm⟩

theorem exists_addEdge_of_readEdge (s t : Store) (item : Json) (h : readEdge s item = .ok t) :
    ∃ e : Edge, (item.keyIn? "from" = some e.src ∧ item.keyIn? "to" = some e.dst) ∧
      t = s.apply (.addEdge e) := by
  unfold readEdge at h
  simp only [bind_eq_ok, fieldsOf_eq_ok, needed_eq_ok] at h
  obtain ⟨fields, rfl, v, hv, u, hu, type, _, src, hsrc, dst, hdst, ht⟩ := h
  exact ⟨⟨src, dst, type⟩, ⟨keyIn?_of_keyOf hv hsrc, keyIn?_of_keyOf hu hdst⟩,
    (Except.ok.inj ht).symm⟩

theorem exists_setFileIndex_of_readFileEntry (s t : Store) (item : Json)
    (h : readFileEntry s item = .ok t) :
    ∃ e : Key × List Key, item.keyIn? "file" = some e.1 ∧
      t = s.apply (.setFileIndex e.1 e.2) := by
  unfold readFileEntry at h
  simp only [bind_eq_ok, fieldsOf_eq_ok, needed_eq_ok] at h
  obtain ⟨fields, rfl, v, hv, _, _, ids, _, file, hfile, ht⟩ := h
  exact ⟨(file, ids), keyIn?_of_keyOf hv hfile, (Except.ok.inj ht).symm⟩

/-- If reading an item makes a change, reading a list of items makes one change for each. -/
theorem exists_run_of_foldlM {β : Type} {read : Store → Json → Except Malformed Store}
    {shows : Json → β → Prop} {change : β → Change}
    (h : ∀ s t item, read s item = .ok t → ∃ b, shows item b ∧ t = s.apply (change b))
    {items : List Json} {s t : Store} (hread : items.foldlM read s = .ok t) :
    ∃ bs, List.Forall₂ shows items bs ∧ t = s.run (bs.map change) := by
  induction items generalizing s with
  | nil => exact ⟨[], .nil, (Except.ok.inj hread).symm⟩
  | cons item items ih =>
    rw [List.foldlM_cons, bind_eq_ok] at hread
    obtain ⟨u, hu, hrest⟩ := hread
    obtain ⟨b, hb, rfl⟩ := h s u item hu
    obtain ⟨bs, hbs, ht⟩ := ih hrest
    exact ⟨b :: bs, .cons hb hbs, ht⟩

/-- The changes that a document stands for: it sets symbols, adds edges, and lists ids under
    files. -/
def documentChanges (nodes : List (Key × Symbol)) (edges : List Edge)
    (files : List (Key × List Key)) : List Change :=
  nodes.map (fun e => .addNode e.1 e.2) ++ edges.map .addEdge
    ++ files.map fun e => .setFileIndex e.1 e.2

/-- Reading a document makes one change for each item. The symbols are set at the ids that stand
    in the document. -/
theorem exists_run_of_document {fields : List (String × Json)} {s : Store}
    (h : ofDocument (.obj fields) = .ok s) :
    ∃ m nodeItems edgeItems, metadataOf fields = .ok m ∧ itemsOf fields "nodes" = .ok nodeItems ∧
      itemsOf fields "edges" = .ok edgeItems ∧ ∃ nodes edges files,
        List.Forall₂ (fun item (e : Key × Symbol) => item.keyIn? "id" = some e.1) nodeItems nodes ∧
        edgeItems.length = edges.length ∧
        s = (blank m (Json.fieldOrNull "projectHash" fields)).run
          (documentChanges nodes edges files) := by
  unfold ofDocument at h
  simp only [bind_eq_ok] at h
  obtain ⟨m, hm, nodeItems, hnodes, t, ht, edgeItems, hedges, u, hu, fileItems, _, hs⟩ := h
  obtain ⟨nodes, hids, rfl⟩ := exists_run_of_foldlM exists_addNode_of_readNode ht
  obtain ⟨edges, hlength, rfl⟩ := exists_run_of_foldlM exists_addEdge_of_readEdge hu
  obtain ⟨files, _, rfl⟩ := exists_run_of_foldlM exists_setFileIndex_of_readFileEntry hs
  refine ⟨m, nodeItems, edgeItems, hm, hnodes, hedges, nodes, edges, files, hids,
    hlength.length_eq, ?_⟩
  unfold documentChanges
  rw [run_append, run_append]
  rfl

section
variable (m : Metadata) (hash : Json) (nodes : List (Key × Symbol)) (edges : List Edge)
  (files : List (Key × List Key))

theorem nodes_keys_documentChanges :
    ((blank m hash).run (documentChanges nodes edges files)).nodes.keys
      = (nodes.map (·.1)).eraseDups := by
  have hnode : (documentChanges nodes edges files).filterMap Change.node? = nodes := by
    simp [documentChanges, List.filterMap_append, List.filterMap_map, Function.comp_def,
      Change.node?]
  rw [nodes_keys_run rfl, hnode]

theorem edgeCount_documentChanges :
    ((blank m hash).run (documentChanges nodes edges files)).edgeCount = edges.length := by
  have hedge : (documentChanges nodes edges files).filterMap Change.edge? = edges := by
    simp [documentChanges, List.filterMap_append, List.filterMap_map, Function.comp_def,
      Change.edge?]
  unfold edgeCount
  rw [← Array.length_toList, edges_run, hedge]
  rfl

theorem metadata_documentChanges :
    ((blank m hash).run (documentChanges nodes edges files)).metadata = m := by
  apply run_frame (·.metadata)
  intro c hc u
  simp only [documentChanges, List.mem_append, List.mem_map] at hc
  rcases hc with (⟨_, _, rfl⟩ | ⟨_, _, rfl⟩) | ⟨_, _, rfl⟩ <;> rfl

end

end Store

/-! ## The shallow reading -/

/-- The items that are counted are those that are read. -/
theorem partSize_of_itemsOf {fields : List (String × Json)} {name : String} {items : List Json}
    (h : Store.itemsOf fields name = .ok items) : partSize fields name = .ok items.length := by
  unfold Store.itemsOf at h
  unfold partSize
  dsimp only at h ⊢
  generalize Json.fieldOrNull name fields = v at h ⊢
  by_cases hempty : v.isEmpty = true
  · rw [if_pos hempty] at h ⊢
    rw [← Except.ok.inj h]
    rfl
  · rw [if_neg hempty] at h ⊢
    cases v with
    | arr l => rw [← Except.ok.inj h]
    | null | bool | int | real | str | obj => cases h

theorem nodeItems_of_itemsOf {fields : List (String × Json)} {items : List Json}
    (h : Store.itemsOf fields "nodes" = .ok items) : (Json.obj fields).nodeItems = items := by
  unfold Json.nodeItems
  dsimp only
  rcases Store.itemsOf_eq_ok.mp h with ⟨rfl, habsent⟩ | ⟨_, hlist⟩
  · split
    · rename_i items hlist
      exact List.isEmpty_iff.mp (habsent _ hlist)
    · rfl
  · rw [hlist]

theorem filterMap_keyIn? {items : List Json} {nodes : List (Key × Symbol)}
    (h : List.Forall₂ (fun item e => item.keyIn? "id" = some e.1) items nodes) :
    items.filterMap (Json.keyIn? "id") = nodes.map (·.1) := by
  induction h with
  | nil => rfl
  | cons hid _ ih => rw [List.filterMap_cons_some hid, ih, List.map_cons]

/-- The metadata that is told is the metadata that is read. -/
theorem metadataFields_of_metadataOf {fields : List (String × Json)} {m : Metadata}
    (h : Store.metadataOf fields = .ok m) :
    ∃ fs, metadataFields fields = .ok fs ∧ m = ⟨Json.fieldOrNull "createdAt" fs,
      Json.fieldOrNull "updatedAt" fs, Json.fieldOrNull "projectPath" fs⟩ := by
  unfold Store.metadataOf at h
  unfold metadataFields
  dsimp only at h ⊢
  generalize Json.fieldOrNull "metadata" fields = v at h ⊢
  by_cases hempty : v.isEmpty = true
  · rw [if_pos hempty] at h ⊢
    exact ⟨[], rfl, (Except.ok.inj h).symm⟩
  · rw [if_neg hempty] at h ⊢
    cases v with
    | obj fs => exact ⟨fs, rfl, (Except.ok.inj h).symm⟩
    | null | bool | int | real | str | arr => cases h

/-- What is told about a graph agrees with it. It counts the ids as they stand in the document,
    so it may count an id more than once. -/
structure SavedGraph.Summarises (g : SavedGraph) (s : Store) (ids : List Key) : Prop where
  projectPath : g.projectPath = s.metadata.projectPath
  createdAt : g.createdAt = s.metadata.createdAt
  updatedAt : g.updatedAt = s.metadata.updatedAt
  edgeCount : g.edgeCount = s.edgeCount
  nodeCount : g.nodeCount = ids.length
  nodeCount_le : s.nodeCount ≤ g.nodeCount
  nodeCount_eq_iff : g.nodeCount = s.nodeCount ↔ Distinct ids

/-- Whatever document can be read, what is told about it agrees with the graph. -/
theorem SavedGraph.exists_summarises {doc : Json} {s : Store} (h : Store.ofDocument doc = .ok s)
    (file : String) :
    ∃ g, SavedGraph.ofDocument file doc = .ok g ∧ g.Summarises s doc.nodeIds := by
  cases doc with
  | obj fields =>
    obtain ⟨m, nodeItems, edgeItems, hm, hnodes, hedges, nodes, edges, files, hshow, hlength, hs⟩ :=
      Store.exists_run_of_document h
    obtain ⟨fs, hfs, rfl⟩ := metadataFields_of_metadataOf hm
    have hids : (Json.obj fields).nodeIds = nodes.map (·.1) := by
      unfold Json.nodeIds
      rw [nodeItems_of_itemsOf hnodes, filterMap_keyIn? hshow]
    -- setting an id again makes no new symbol, so the graph counts first occurrences
    have hcount : s.nodeCount = (Json.obj fields).nodeIds.eraseDups.length := by
      rw [hids, ← Store.nodes_keys_documentChanges, ← hs]
      exact (List.length_map _).symm
    have hitems : nodeItems.length = (Json.obj fields).nodeIds.length := by
      rw [hids, List.length_map, hshow.length_eq]
    refine ⟨⟨file, Json.fieldOrNull "projectPath" fs, Json.fieldOrNull "createdAt" fs,
      Json.fieldOrNull "updatedAt" fs, nodeItems.length, edgeItems.length⟩, ?_, ?_⟩
    · rw [SavedGraph.ofDocument, hfs, partSize_of_itemsOf hnodes, partSize_of_itemsOf hedges]
      rfl
    · have hmeta : s.metadata = _ := hs ▸ Store.metadata_documentChanges _ _ nodes edges files
      exact {
        projectPath := by rw [hmeta]
        createdAt := by rw [hmeta]
        updatedAt := by rw [hmeta]
        edgeCount := by rw [hs, Store.edgeCount_documentChanges, ← hlength]
        nodeCount := hitems
        nodeCount_le := by
          rw [hcount, hitems]
          exact (eraseDups_sublist _).length_le
        nodeCount_eq_iff := by
          rw [hcount, hitems]
          exact length_eraseDups_eq_iff }
  | null | bool | int | real | str | arr => cases h

namespace Cache

/-! ## Entries -/

/-- The names of entries are those with the right front and end. -/
theorem isEntryName_iff {name : String} :
    isEntryName name = true ↔ ∃ middle, name = "graph_" ++ middle ++ ".json" := by
  unfold isEntryName
  dsimp only
  rw [Bool.and_eq_true, Bool.and_eq_true, List.isPrefixOf_iff_prefix, List.isSuffixOf_iff_suffix,
    decide_eq_true_iff]
  constructor
  · rintro ⟨⟨⟨rest, hrest⟩, hback⟩, hlength⟩
    -- the name is long enough for the end not to reach into the front
    have hend : ".json".toList <:+ rest := by
      apply List.suffix_of_suffix_length_le hback ⟨_, hrest⟩
      have hsum := congrArg List.length hrest
      rw [List.length_append] at hsum
      have hfront : "graph_".toList.length = 6 := rfl
      have hback : ".json".toList.length = 5 := rfl
      omega
    obtain ⟨middle, hmiddle⟩ := hend
    have htext : (String.ofList middle).toList = middle := String.toList_ofList
    refine ⟨String.ofList middle, String.toList_injective ?_⟩
    rw [String.toList_append, String.toList_append, htext, List.append_assoc, hmiddle, hrest]
  · rintro ⟨middle, rfl⟩
    have hfront : "graph_".toList.length = 6 := rfl
    have hback : ".json".toList.length = 5 := rfl
    rw [String.toList_append, String.toList_append]
    refine ⟨⟨?_, List.suffix_append _ _⟩, ?_⟩
    · rw [List.append_assoc]
      exact List.prefix_append _ _
    · rw [List.length_append, List.length_append]
      omega

theorem mem_entryNames {c : Cache} {f : Files} {name : String} :
    name ∈ c.entryNames f ↔
      name ∈ f.names c.folder ∧ ∃ middle, name = "graph_" ++ middle ++ ".json" := by
  unfold entryNames
  rw [(List.mergeSort_perm _ _).mem_iff, List.mem_filter, isEntryName_iff]

/-- The entry of a given name holds a document, and the document describes a graph. -/
def EntryDecodes (c : Cache) (f : Files) (name : String) (doc : Json) (s : Store) : Prop :=
  ∃ text, f.readText (Path.under c.folder name) = .ok text ∧ Json.parse text = .ok doc ∧
    Store.ofDocument doc = .ok s

variable {c : Cache} {f : Files} {project : String} {s : Store}

/-- A graph that is looked up is in an entry that a folder has, and that is listed if the names in
    the folder are. -/
theorem exists_entry_of_lookup (h : c.lookup f project = .ok (some s))
    (hopen : ∀ d, f.place c.folder = .ok d → f.access.closed d = false) :
    entryName project ∈ f.names c.folder ∧ ∃ doc, c.EntryDecodes f (entryName project) doc s := by
  obtain ⟨text, htext, hof⟩ := readText_of_lookup h
  obtain ⟨doc, hparse, hdoc⟩ := Store.ofText_eq_ok.mp hof
  refine ⟨?_, doc, text, htext, hparse, hdoc⟩
  -- what a path below the folder leads to has a name in the folder
  obtain ⟨bytes, hread⟩ := Files.exists_read_of_readText htext
  obtain ⟨p, hplace, hp, _⟩ := Files.read_eq_ok.mp hread
  obtain ⟨d, hd, hfolder, _, rfl⟩ := (Files.place_under (isName_entryName project)).mp hplace
  exact Files.mem_names.mpr ⟨d, hd, hfolder, hopen d hd, by rw [hp]; rfl⟩

theorem lookup_of_load {w w' : Workspace} (h : (c.load project).run w = (.ok (some s), w')) :
    c.lookup w.files project = .ok (some s) := by
  unfold load at h
  rw [Work.run_bind (Work.run_get w)] at h
  cases hlookup : c.lookup w.files project with
  | error fault =>
    rw [hlookup] at h
    cases h
  | ok found =>
    rw [hlookup] at h
    cases found <;> cases h
    rfl

/-- Every entry that holds a graph is listed. -/
theorem exists_listed {name : String} {doc : Json} (hname : name ∈ c.entryNames f)
    (h : c.EntryDecodes f name doc s) :
    ∃ g ∈ c.listing f, g.file = name ∧ g.Summarises s doc.nodeIds := by
  obtain ⟨text, htext, hparse, hdoc⟩ := h
  obtain ⟨g, hg, hsummarises⟩ := SavedGraph.exists_summarises hdoc name
  have hsaved : c.saved? f name = some g :=
    saved?_eq_some.mpr (describe_eq_ok.mpr ⟨text, doc, htext, hparse, hg⟩)
  exact ⟨g, List.mem_filterMap.mpr ⟨name, hname, hsaved⟩, file_of_document hg, hsummarises⟩

/-- **Listing agrees with loading.** Whatever the cache holds, listing succeeds and changes no
    file, if the system lets one look whether the folder is there. What is listed is in increasing
    order of file names, and all of it is about entries in the cache. Every entry that holds the
    document of a graph is listed, with the project and the times of the graph and the number of
    its edges. The number of symbols that is told is that of the ids in the document. It is at
    least the number of symbols of the graph, and the two are equal exactly if the ids are
    distinct. In particular so is every project that can be loaded, if the names in the folder
    are not kept from being listed. -/
theorem listing_agrees (c : Cache) (w : Workspace) :
    (∀ there, w.files.has c.folder = .ok there →
      ∃ w', c.list.run w = (.ok (c.listing w.files), w') ∧ w'.files = w.files) ∧
    (c.listing w.files).Pairwise (fun a b => a.file < b.file) ∧
    (∀ g ∈ c.listing w.files, g.file ∈ w.files.names c.folder ∧
      ∃ middle, g.file = "graph_" ++ middle ++ ".json") ∧
    (∀ name ∈ w.files.names c.folder, (∃ middle, name = "graph_" ++ middle ++ ".json") →
      ∀ doc s, c.EntryDecodes w.files name doc s →
        ∃ g ∈ c.listing w.files, g.file = name ∧ g.Summarises s doc.nodeIds) ∧
    ((∀ d, w.files.place c.folder = .ok d → w.files.access.closed d = false) →
      ∀ project s w', (c.load project).run w = (.ok (some s), w') →
        ∃ doc, c.EntryDecodes w.files (entryName project) doc s ∧
          ∃ g ∈ c.listing w.files, g.file = entryName project ∧ g.Summarises s doc.nodeIds) := by
  refine ⟨?_, c.listing_increasing w.files, ?_, ?_, ?_⟩
  · intro there hthere
    obtain ⟨w', hrun, _, hfiles⟩ := c.list_gives hthere
    exact ⟨w', hrun, hfiles⟩
  · intro g hg
    obtain ⟨name, hname, hsaved⟩ := List.mem_filterMap.mp hg
    rw [file_of_saved? hsaved]
    exact mem_entryNames.mp hname
  · intro name hname hform doc s hdecodes
    exact exists_listed (mem_entryNames.mpr ⟨hname, hform⟩) hdecodes
  · intro hopen project s w' hload
    obtain ⟨hname, doc, hdecodes⟩ := exists_entry_of_lookup (lookup_of_load hload) hopen
    have hentry := mem_entryNames.mpr ⟨hname, isEntryName_iff.mp (isEntryName_entryName project)⟩
    exact ⟨doc, hdecodes, exists_listed hentry hdecodes⟩

/-- Two spellings of one id, and an entry that cannot be read. -/
theorem listing_agrees_same_id :
    let item (id : Json) := Json.obj [("id", id), ("kind", .str "function"), ("name", .str "f"),
      ("file", .str "a.js"), ("line", .int 1)]
    let doc := Json.obj [("nodes", .arr [item (.int 1), item (.bool true)]), ("edges", .str "")]
    let c : Cache := ⟨"/c"⟩
    let w : Workspace := { files := { entries := Table.ofList [(["c"], .folder),
      (["c", "graph_a.json"], .file (Text.Utf8.encode doc.pretty)),
      (["c", "graph_b.json"], .file [0xff])] } }
    (∃ w', c.list.run w = (.ok (c.listing w.files), w')) ∧ ¬ Distinct doc.nodeIds ∧
    ∃ s, c.EntryDecodes w.files "graph_a.json" doc s ∧ s.nodeCount = 1 ∧
      ∃ g ∈ c.listing w.files, g.file = "graph_a.json" ∧ g.nodeCount = 2 ∧ g.edgeCount = 0 := by
  intro item doc c w
  obtain ⟨hlists, _, _, hentries, _⟩ := listing_agrees c w
  obtain ⟨w', hlist, _⟩ := hlists true (by decide +kernel)
  have hname : Files.IsName "graph_a.json" := by
    unfold Files.IsName Path.IsPart
    decide
  have hread : w.files.read (Path.under c.folder "graph_a.json")
      = .ok (Text.Utf8.encode doc.pretty) :=
    Files.read_under rfl hname (d := ["c"]) (by decide +kernel) (by decide +kernel) rfl
  have htext := Files.readText_of_read (Json.allPlain_pretty doc) hread
  obtain ⟨s, hs, hnodes, hedges⟩ : ∃ s, Store.ofDocument doc = .ok s ∧ s.nodeCount = 1 ∧
      s.edgeCount = 0 := ⟨_, rfl, rfl, rfl⟩
  have hdecodes : c.EntryDecodes w.files "graph_a.json" doc s :=
    ⟨_, htext, Json.parse_pretty rfl, hs⟩
  obtain ⟨g, hg, hfile, hagrees⟩ :=
    hentries "graph_a.json" (by decide +kernel) ⟨"a", by decide⟩ doc s hdecodes
  have hcount : g.nodeCount = 2 := hagrees.nodeCount
  refine ⟨⟨w', hlist⟩, ?_, s, hdecodes, hnodes, g, hg, hfile, hcount, ?_⟩
  · rw [← hagrees.nodeCount_eq_iff, hcount, hnodes]
    decide
  · rw [hagrees.edgeCount, hedges]

end Cache

end SymbolGraph
