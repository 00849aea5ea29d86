import SymbolGraph.Proofs.BuiltGraphs
import SymbolGraph.Proofs.Entries
import SymbolGraph.Proofs.JsonText

/-! # Documents of graphs that are built

    The document of a graph that is built for a project can be read, if what was read of the
    files can be kept in a document (`Build.Extractor.IsFaithful`, `Build.legible_saved`). That
    is so for source files (`Build.isFaithful_sourceExtractor`). All that the document says of
    their symbols and edges is made of texts and truth values, except for the lines of the
    symbols, which are numbers. Numbers can be read unless they are too long, and no line is,
    because rows are numbers of 32 bits.
-/

namespace SymbolGraph

/-! ## Simple values -/

namespace Json

theorem areSimple_iff {xs : List Json} : areSimple xs = true ↔ ∀ x ∈ xs, x.isSimple = true := by
  induction xs with
  | nil => exact ⟨nofun, fun _ => rfl⟩
  | cons x xs ih => rw [areSimple, Bool.and_eq_true, ih, List.forall_mem_cons]

theorem isSimple_arr_map {α : Type} {l : List α} {f : α → Json}
    (h : ∀ a ∈ l, (f a).isSimple = true) : (Json.arr (l.map f)).isSimple = true := by
  rw [isSimple, areSimple_iff, List.forall_mem_map]
  exact h

theorem isSimple_texts (ss : List String) : (texts ss).isSimple = true :=
  isSimple_arr_map fun _ _ => rfl

theorem isSimple_optText (s : Option String) : (optText s).isSimple = true := by
  cases s <;> rfl

/-- Fields with different names and simple values. -/
theorem haveSimple_of_nodup {fields : List (String × Json)} (hnames : (fields.map (·.1)).Nodup)
    (hvalues : ∀ f ∈ fields, f.2.isSimple = true) : haveSimple fields = true := by
  induction fields with
  | nil => rfl
  | cons f fields ih =>
    obtain ⟨k, v⟩ := f
    rw [List.map_cons, List.nodup_cons] at hnames
    rw [List.forall_mem_cons] at hvalues
    have hnew : fields.all (fun f => f.1 ≠ k) = true := by
      rw [List.all_eq_true]
      intro f hf
      rw [decide_eq_true_eq]
      intro heq
      have hmem : f.1 ∈ fields.map (·.1) := List.mem_map_of_mem hf
      rw [heq] at hmem
      exact hnames.1 hmem
    rw [haveSimple, hnew, hvalues.1, ih hnames.2 hvalues.2]
    rfl

theorem isSimple_obj {fields : List (String × Json)} (hnames : (fields.map (·.1)).Nodup)
    (hvalues : ∀ f ∈ fields, f.2.isSimple = true) : (Json.obj fields).isSimple = true :=
  haveSimple_of_nodup hnames hvalues

/-- A number with at most ten digits is not too long. -/
theorem isSimple_int {n : Int} (hn : n.natAbs < 10000000000) : (Json.int n).isSimple = true := by
  have hdigits : (Nat.toDigits 10 n.natAbs).length ≤ 10 :=
    (Nat.length_toDigits_le_iff (by decide) (by decide)).mpr hn
  rw [isSimple, decide_eq_true_eq]
  exact hdigits.trans (by decide)

end Json

/-! ## Symbols -/

namespace Symbol

/-- All that is said of a symbol is simple. -/
structure Plain (s : Symbol) : Prop where
  name : s.name.isSimple = true
  file : s.file.isSimple = true
  line : s.line.isSimple = true
  details : ∀ f ∈ Details.toFields s.details, f.2.isSimple = true

theorem Plain.isSimple_toJsonWithId {s : Symbol} (h : Plain s) {id : Json}
    (hid : id.isSimple = true) : (s.toJsonWithId id).isSimple = true := by
  apply Json.isSimple_obj
  · unfold toFields
    cases s.details <;> simp [Details.toFields]
  · unfold toFields
    simp only [List.cons_append, List.nil_append, List.forall_mem_cons]
    exact ⟨hid, rfl, h.name, h.file, h.line, h.details⟩

end Symbol

namespace Extract

theorem isSimple_method {member : Source.Tree} {m : Json} (h : method? member = some m) :
    m.isSimple = true := by
  simp only [method?, Option.bind_eq_bind, Option.bind_eq_some_iff] at h
  obtain ⟨_, _, name, _, h⟩ := h
  cases h
  exact Json.isSimple_obj (by simp) (by simp [Json.isSimple])

theorem isSimple_property {member : Source.Tree} {m : Json} (h : property? member = some m) :
    m.isSimple = true := by
  simp only [property?, Option.bind_eq_bind, Option.bind_eq_some_iff] at h
  obtain ⟨_, _, name, _, h⟩ := h
  cases h
  exact Json.isSimple_obj (by simp) (by simp [Json.isSimple])

theorem isSimple_arr_filterMap {α : Type} {l : List α} {f : α → Option Json}
    (h : ∀ a b, f a = some b → b.isSimple = true) : (Json.arr (l.filterMap f)).isSimple = true := by
  rw [Json.isSimple, Json.areSimple_iff]
  intro b hb
  obtain ⟨a, _, hab⟩ := List.mem_filterMap.mp hb
  exact h a b hab

/-- The line of a node, if its row is a number of 32 bits. -/
theorem isSimple_line (t : Source.Tree) : (Json.int t.wrapRows.line).isSimple = true := by
  -- ten digits are enough for numbers of 32 bits
  have hrow : t.wrapRows.row = t.row % 4294967296 := t.row_wrapRows
  apply Json.isSimple_int
  unfold Source.Tree.line
  omega

theorem plain_of_mem_ofText {missing : List String} {file text : String} {f : Facts}
    (h : ofText missing file text = .ok f) {node : Symbol} (hnode : node ∈ f.symbols) :
    node.Plain := by
  obtain ⟨t, hown⟩ := exists_mem_own_of_ofText h hnode
  obtain ⟨name, details, rfl, hdetails⟩ := symbol_of_mem_own hown
  refine ⟨rfl, rfl, isSimple_line t, ?_⟩
  rcases hdetails with ⟨params, isAsync, isGenerator, rfl⟩ | ⟨parent, members, rfl⟩ |
    ⟨declaration, rfl⟩
  · simp only [Symbol.Details.toFields, List.forall_mem_cons]
    exact ⟨Json.isSimple_texts _, rfl, rfl, nofun⟩
  · simp only [Symbol.Details.toFields, List.forall_mem_cons]
    exact ⟨Json.isSimple_optText _, isSimple_arr_filterMap fun _ _ => isSimple_method,
      isSimple_arr_filterMap fun _ _ => isSimple_property, nofun⟩
  · simp only [Symbol.Details.toFields, List.forall_mem_cons]
    exact ⟨rfl, nofun⟩

end Extract

/-! ## Graphs -/

namespace Store

/-- Ids and files are texts, and symbols are plain, as is what is said of the graph. -/
structure Textual (s : Store) : Prop where
  node : ∀ x ∈ s.nodes.entries, (∃ id, x.1 = .str id) ∧ x.2.Plain
  edge : ∀ e ∈ s.edges.toList,
    (∃ id, e.src = .str id) ∧ (∃ id, e.dst = .str id) ∧ e.type.isSimple = true
  file : ∀ x ∈ s.fileIndex.entries, (∃ name, x.1 = .str name) ∧ ∀ k ∈ x.2.keys, ∃ id, k = .str id
  stamps : s.metadata.createdAt.isSimple = true ∧ s.metadata.updatedAt.isSimple = true ∧
    s.metadata.projectPath.isSimple = true ∧ s.projectHash.isSimple = true

theorem textual_empty (now : String) : Textual (empty now) where
  node _ hx := by cases hx
  edge _ he := by cases he
  file _ hx := by cases hx
  stamps := ⟨rfl, rfl, rfl, rfl⟩

theorem Textual.stamp {s : Store} (h : Textual s) (project now : String) :
    Textual (s.apply (.stamp project now)) :=
  ⟨h.node, h.edge, h.file, h.stamps.1, rfl, rfl, rfl⟩

/-- A property of the keys of a table is kept by a change at a key that has it. -/
theorem forall_keys_alter {κ β : Type} [BEq κ] {P : κ → Prop} {t : Table κ β} {k : κ}
    (h : ∀ j ∈ t.keys, P j) (hk : P k) (f : Option β → β) : ∀ j ∈ (t.alter k f).keys, P j := by
  rw [Table.keys_alter]
  split
  · exact h
  · intro j hj
    rcases List.mem_append.mp hj with hj | hj
    · exact h j hj
    · rw [List.mem_singleton.mp hj]
      exact hk

theorem Textual.addNode {s : Store} (h : Textual s) (id : String) {node : Symbol}
    (hnode : node.Plain) {file : String} (hfile : node.file = .str file) :
    Textual (s.addNode (.str id) node) where
  node x hx := by
    have hx : x ∈ (s.nodes.insert (.str id) node).entries := hx
    constructor
    · exact forall_keys_alter (P := fun k => ∃ id, k = .str id)
        (fun k hk => by
          obtain ⟨y, hy, rfl⟩ := List.mem_map.mp hk
          exact (h.node y hy).1) ⟨id, rfl⟩ _ x.1 (List.mem_map_of_mem hx)
    · have hget : (s.nodes.insert (.str id) node).get? x.1 = some x.2 := Table.get?_of_mem hx
      rw [Table.get?_insert] at hget
      split at hget
      · rw [← Option.some.inj hget]
        exact hnode
      · obtain ⟨k, _, hmem⟩ := Table.exists_mem_of_get? hget
        exact (h.node _ hmem).2
  edge := h.edge
  file x hx := by
    have hindex : (s.addNode (.str id) node).fileIndex
        = s.fileIndex.alter (.str file) fun ids => (ids.getD {}).insert (.str id) () := by
      unfold Store.addNode
      rw [hfile]
      rfl
    rw [hindex] at hx
    constructor
    · exact forall_keys_alter (P := fun k => ∃ name, k = .str name)
        (fun k hk => by
          obtain ⟨y, hy, rfl⟩ := List.mem_map.mp hk
          exact (h.file y hy).1) ⟨file, rfl⟩ _ x.1 (List.mem_map_of_mem hx)
    · -- the ids of the file were texts before, and one is added
      have hget := Table.get?_of_mem hx
      rw [Table.get?_alter] at hget
      have hold : ∀ k ids, s.fileIndex.get? k = some ids → ∀ j ∈ ids.keys, ∃ id, j = Key.str id := by
        intro k ids hk
        obtain ⟨k', _, hmem⟩ := Table.exists_mem_of_get? hk
        exact (h.file _ hmem).2
      split at hget
      · rw [← Option.some.inj hget]
        refine forall_keys_alter (P := fun k : Key => ∃ id, k = .str id) ?_ ⟨id, rfl⟩ _
        cases hids : s.fileIndex.get? x.1 with
        | none =>
          intro j hj
          cases hj
        | some ids => exact hold _ ids hids
      · exact hold _ _ hget
  stamps := h.stamps

theorem Textual.addEdge {s : Store} (h : Textual s) {e : Edge} (hsrc : ∃ id, e.src = .str id)
    (hdst : ∃ id, e.dst = .str id) (htype : e.type.isSimple = true) : Textual (s.addEdge e) where
  node := h.node
  edge e' he' := by
    have he' : e' ∈ (s.edges.push e).toList := he'
    rw [Array.toList_push] at he'
    rcases List.mem_append.mp he' with he' | he'
    · exact h.edge e' he'
    · rw [List.mem_singleton.mp he']
      exact ⟨hsrc, hdst, htype⟩
  file := h.file
  stamps := h.stamps

/-- A textual graph has a simple document. -/
theorem Textual.isSimple_toDocument {s : Store} (h : Textual s) :
    s.toDocument.isSimple = true := by
  obtain ⟨hcreated, hupdated, hproject, hhash⟩ := h.stamps
  have hkey : ∀ {k : Key}, (∃ id, k = .str id) → k.toJson.isSimple = true := by
    rintro k ⟨id, rfl⟩
    rfl
  have hnodes : s.nodesJson.isSimple = true := by
    refine Json.isSimple_arr_map fun x hx => ?_
    exact (h.node x hx).2.isSimple_toJsonWithId (hkey (h.node x hx).1)
  have hedges : s.edgesJson.isSimple = true := by
    refine Json.isSimple_arr_map fun e he => ?_
    obtain ⟨positions, _, he⟩ := List.mem_flatMap.mp he
    obtain ⟨i, _, hi⟩ := List.mem_filterMap.mp he
    obtain ⟨hsrc, hdst, htype⟩ := h.edge e (Array.mem_toList_iff.mpr (Array.mem_of_getElem? hi))
    apply Json.isSimple_obj (by simp)
    simp only [List.forall_mem_cons]
    exact ⟨hkey hsrc, hkey hdst, htype, nofun⟩
  have hfiles : s.fileIndexJson.isSimple = true := by
    refine Json.isSimple_arr_map fun file hfile => ?_
    obtain ⟨x, hx, rfl⟩ := List.mem_map.mp hfile
    have hids : s.fileIds x.1 = x.2.keys := by
      unfold fileIds
      rw [Table.get?_of_mem hx]
      rfl
    apply Json.isSimple_obj (by simp)
    simp only [List.forall_mem_cons]
    refine ⟨hkey (h.file x hx).1, Json.isSimple_arr_map fun id hid => ?_, nofun⟩
    rw [hids] at hid
    exact hkey ((h.file x hx).2 id hid)
  have hstamps : (Json.obj [("createdAt", s.metadata.createdAt),
      ("updatedAt", s.metadata.updatedAt), ("projectPath", s.metadata.projectPath)]).isSimple
        = true := by
    apply Json.isSimple_obj (by simp)
    simp only [List.forall_mem_cons]
    exact ⟨hcreated, hupdated, hproject, nofun⟩
  apply Json.isSimple_obj (by simp)
  simp only [List.forall_mem_cons]
  exact ⟨hstamps, hhash, hnodes, hedges, hfiles, nofun⟩

end Store

/-! ## Graphs of projects -/

namespace Resolver

/-- The edges of a file start at texts, and their types are texts. -/
theorem texts_of_mem_fileEdges {r : Resolver} {s : Store} {file : String} {f : Facts} {e : Edge}
    (h : e ∈ r.fileEdges s file f) : (∃ id, e.src = .str id) ∧ e.type.isSimple = true := by
  rcases fileEdges_cases h with ⟨_, _, _, _, rfl⟩ | ⟨_, _, _, _, rfl⟩ | ⟨_, _, _, _, _, _, rfl⟩
  · exact ⟨⟨_, rfl⟩, rfl⟩
  · exact ⟨⟨_, rfl⟩, rfl⟩
  · exact ⟨⟨_, rfl⟩, rfl⟩

/-- Symbols are added one after another. -/
theorem textual_additions {l : List Symbol} {s : Store} (hs : s.Textual)
    (hl : ∀ node ∈ l, node.Plain ∧ ∃ file, node.file = .str file) :
    (s.run (l.map addition)).Textual := by
  induction l generalizing s with
  | nil => exact hs
  | cons node l ih =>
    rw [List.forall_mem_cons] at hl
    obtain ⟨⟨hplain, file, hfile⟩, hl⟩ := hl
    exact ih (hs.addNode _ hplain hfile) hl

/-- Edges are added one after another. -/
theorem textual_edges {es : List Edge} {s : Store} (hs : s.Textual)
    (hes : ∀ e ∈ es, (∃ id, e.src = .str id) ∧ (∃ id, e.dst = .str id) ∧
      e.type.isSimple = true) : (es.foldl Store.addEdge s).Textual := by
  induction es generalizing s with
  | nil => exact hs
  | cons e es ih =>
    rw [List.forall_mem_cons] at hes
    exact ih (hs.addEdge hes.1.1 hes.1.2.1 hes.1.2.2) hes.2

/-- A graph that is built from plain symbols is textual. -/
theorem textual_build (files : Table String Facts) (now : String)
    (h : ∀ node ∈ allSymbols files, node.Plain ∧ ∃ file, node.file = .str file) :
    (build ⟨files, {}⟩ (Store.empty now)).2.Textual := by
  have hadded : ((Resolver.mk files {}).addSymbols (Store.empty now)).2.Textual := by
    rw [show ((Resolver.mk files {}).addSymbols (Store.empty now)).2
      = (Store.empty now).run ((allSymbols files).map addition) from foldl_addSymbol_store _ _ _]
    exact textual_additions (Store.textual_empty now) h
  refine textual_edges hadded fun e he => ?_
  obtain ⟨x, _, he⟩ := List.mem_flatMap.mp he
  obtain ⟨hsrc, htype⟩ := texts_of_mem_fileEdges he
  refine ⟨hsrc, ?_, htype⟩
  -- an edge ends at a symbol, whose id is a text
  have hcontains := contains_dst_of_mem_fileEdges he
  rw [Table.contains_eq_any_keys, List.any_eq_true] at hcontains
  obtain ⟨k, hk, hsame⟩ := hcontains
  obtain ⟨y, hy, rfl⟩ := List.mem_map.mp hk
  obtain ⟨id, hid⟩ := (hadded.node y hy).1
  rw [hid] at hsame
  exact ⟨id, Key.eq_str_of_beq (Key.beq_symm hsame)⟩

end Resolver

namespace Build

/-- The symbols that are read off files can be looked up and kept in a document: names and files
    are texts, the superclasses can be looked up, and all that is said of a symbol is simple. -/
def Extractor.IsFaithful (x : Extractor) : Prop :=
  ∀ disk folder file facts, x disk folder file = .ok facts → ∀ node ∈ facts.symbols,
    node.Plain ∧ (∃ name, node.name = .str name) ∧ (∃ file, node.file = .str file) ∧
    ∀ parent, node.superclass? = some parent → (Key.ofJson? parent).isSome = true

/-- What is read off source files can be kept, whatever is in them. -/
theorem isFaithful_sourceExtractor (missing : List String) :
    (sourceExtractor missing).IsFaithful := by
  intro disk folder file facts h node hnode
  obtain ⟨text, htext⟩ := ofText_of_read h
  have hplain := Extract.plain_of_mem_ofText htext hnode
  obtain ⟨t, hown⟩ := Extract.exists_mem_own_of_ofText htext hnode
  obtain ⟨name, details, rfl, hdetails⟩ := Extract.symbol_of_mem_own hown
  refine ⟨hplain, ⟨name, rfl⟩, ⟨file, rfl⟩, ?_⟩
  intro parent hparent
  rcases hdetails with ⟨_, _, _, rfl⟩ | ⟨superclass, _, rfl⟩ | ⟨_, rfl⟩
  · cases hparent
  · -- a class extends nothing, or a text
    unfold Symbol.superclass? at hparent
    dsimp only at hparent
    split at hparent
    · cases hparent
    · rename_i hempty
      cases hparent
      cases superclass with
      | none => exact absurd rfl hempty
      | some name => rfl
  · cases hparent

section
variable {o : Options} {disk : Files} {now project : String} {g : Store}

theorem faithful_of_mem_facts {x : Extractor} (hx : x.IsFaithful) {limit : Int}
    {files : List String} {node : Symbol}
    (h : node ∈ Resolver.allSymbols (collect x limit disk project files).facts) :
    node.Plain ∧ (∃ name, node.name = .str name) ∧ (∃ file, node.file = .str file) ∧
    ∀ parent, node.superclass? = some parent → (Key.ofJson? parent).isSome = true := by
  obtain ⟨f, hf, hnode⟩ := List.mem_flatMap.mp h
  obtain ⟨file, _, hread⟩ := read_of_mem_facts hf
  exact hx _ _ _ _ hread node hnode

/-- What can be kept can be linked. -/
theorem isFit_facts {x : Extractor} (hx : x.IsFaithful) (limit : Int) (files : List String) :
    Resolver.isFit ⟨(collect x limit disk project files).facts, {}⟩ = true := by
  refine List.all_eq_true.mpr fun node hnode => ?_
  obtain ⟨_, ⟨name, hname⟩, ⟨file, hfile⟩, hparent⟩ := faithful_of_mem_facts hx hnode
  rw [hname, hfile]
  cases hsuper : node.superclass? with
  | none => rfl
  | some parent => exact hparent parent hsuper

/-- With such facts, a graph is built if the files of the project are known. -/
theorem build_of_faithful {x : Extractor} (hx : x.IsFaithful) (limit : Int) {files : List String}
    (h : Discovery.files {} disk project = .ok files) :
    build x limit disk now project = .ok (link now project (collect x limit disk project files)) :=
  build_eq_ok.mpr ⟨files, h, isFit_facts hx limit files, rfl⟩

theorem textual_saved (hx : o.extractor.IsFaithful) (h : saved o disk now project = .ok g) :
    g.Textual := by
  obtain ⟨files, _, _, rfl⟩ := exists_of_saved h
  apply Store.Textual.stamp
  apply Resolver.textual_build
  intro node hnode
  obtain ⟨hplain, _, hfile, _⟩ := faithful_of_mem_facts hx hnode
  exact ⟨hplain, hfile⟩

/-- **The document of a graph that is built can be read.** -/
theorem legible_saved (hx : o.extractor.IsFaithful) (h : saved o disk now project = .ok g) :
    Cache.Legible g where
  toRegular := regular_saved h
  parses := Json.parse_pretty (textual_saved hx h).isSimple_toDocument

end

end Build

end SymbolGraph
