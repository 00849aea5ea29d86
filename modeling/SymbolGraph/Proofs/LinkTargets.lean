import SymbolGraph.Proofs.Linking

/-! # What calls and classes are linked to

    Calls and classes are linked through the index of names, which has an entry for every
    declaration. The graph has one symbol for every id, that of the last declaration with
    it. Declarations of one name on one line of a file share their id, so the two can
    drift apart: the index still lists a function whose id has become a variable, and it
    lists an id once for each declaration.

    `Resolver.link_targets` says what the edges of a call or a class are in terms of the
    symbols of the graph. A symbol that is a function of the called name gets one edge.
    Besides, every function of that name that was replaced gives an edge to what it was
    replaced by, whatever that is. So calls end at functions and classes extend classes
    as long as no function and no class is replaced, and not otherwise
    (`Resolver.call_of_variable`).
-/

namespace SymbolGraph.Resolver

/-! ## Declarations that are replaced -/

/-- The declarations that a later one of the same id replaces. -/
def replaced : List Symbol → List Symbol
  | [] => []
  | node :: rest =>
    if rest.any (·.id == node.id) then node :: replaced rest else replaced rest

/-- The number of declarations of a kind and name that have an id. -/
def declarations (kind : Kind) (name : Json) (id : Key) (l : List Symbol) : Nat :=
  l.countP fun node => Key.str node.id == id && declares kind name node

theorem replaced_sublist (l : List Symbol) : (replaced l).Sublist l := by
  induction l with
  | nil => exact List.Sublist.refl _
  | cons node l ih =>
    unfold replaced
    split
    · exact ih.cons_cons node
    · exact ih.cons node

section
variable {kind : Kind} {name : Json} {id : Key}

theorem declarations_cons (node : Symbol) (l : List Symbol) :
    declarations kind name id (node :: l)
      = declarations kind name id l
        + if Key.str node.id == id && declares kind name node then 1 else 0 :=
  List.countP_cons

theorem declarations_eq_zero {l : List Symbol} (h : ∀ node ∈ l, (Key.str node.id == id) = false) :
    declarations kind name id l = 0 := by
  unfold declarations
  rw [List.countP_eq_zero]
  intro node hnode
  simp [h node hnode]

/-- The declarations with an id are the last one, which the graph has, and those that
    were replaced. -/
theorem declarations_eq_last_add_replaced {l : List Symbol} {last : Symbol}
    (h : (l.filter fun node => Key.str node.id == id).getLast? = some last) :
    declarations kind name id l
      = (if declares kind name last then 1 else 0) + declarations kind name id (replaced l) := by
  induction l with
  | nil => cases h
  | cons node l ih =>
    rw [declarations_cons]
    cases hid : (Key.str node.id == id) with
    | false =>
      -- another id: it changes neither side
      rw [List.filter_cons_of_neg (by simp [hid])] at h
      have hsame : declarations kind name id (replaced (node :: l))
          = declarations kind name id (replaced l) := by
        rw [replaced]
        split
        · rw [declarations_cons, hid]
          rfl
        · rfl
      rw [hsame, ih h]
      rfl
    | true =>
      rw [List.filter_cons_of_pos (by simp [hid])] at h
      by_cases hany : l.any (·.id == node.id) = true
      · -- it is replaced, so the last one is further on
        obtain ⟨other, hother, hsame⟩ := List.any_eq_true.mp hany
        have hmem : other ∈ l.filter fun node => Key.str node.id == id := by
          refine List.mem_filter.mpr ⟨hother, ?_⟩
          rw [beq_iff_eq.mp hsame]
          exact hid
        rw [List.getLast?_cons_of_ne_nil (List.ne_nil_of_mem hmem)] at h
        rw [replaced, if_pos hany, declarations_cons, hid, ih h, Nat.add_assoc]
      · -- it is the last one, and nothing further on has its id
        have hnone : ∀ other ∈ l, (Key.str other.id == id) = false := by
          intro other hother
          rw [Bool.eq_false_iff]
          intro hsame
          have hids := BEq.trans hsame (BEq.symm hid)
          rw [Key.str_beq_str, decide_eq_true_eq] at hids
          exact hany (List.any_eq_true.mpr ⟨other, hother, beq_iff_eq.mpr hids⟩)
        have hempty : (l.filter fun node => Key.str node.id == id) = [] := by
          rw [List.filter_eq_nil_iff]
          intro other hother
          rw [hnone other hother]
          simp
        rw [hempty] at h
        obtain rfl : node = last := Option.some.inj h
        rw [replaced, if_neg hany, declarations_eq_zero hnone,
          declarations_eq_zero fun other hother => hnone other ((replaced_sublist l).subset hother)]
        simp

end

/-! ## What a call and a class are linked to -/

section
variable (files : Table String Facts) (now : String)

/-- The index and the graph when all symbols are added and no edges. -/
def unlinked : Resolver × Store :=
  addSymbols ⟨files, .empty⟩ (Store.empty now)

/-- The symbols of the unlinked graph: each id has its last declaration. -/
theorem get?_unlinked (id : Key) :
    (unlinked files now).2.nodes.get? id
      = ((allSymbols files).filter fun node => Key.str node.id == id).getLast? := by
  have hadded : (unlinked files now).2 = (Store.empty now).run ((allSymbols files).map addition) :=
    foldl_addSymbol_store _ _ _
  have hget := (nodes_additions now (allSymbols files) [] rfl).2 id
  rw [List.append_nil] at hget
  rw [hadded]
  exact hget

/-- The candidates for a kind and a name are the ids of all its declarations. -/
theorem candidates_unlinked (kind : Kind) (name : Json) :
    (unlinked files now).1.candidates (unlinked files now).2 kind name
      = ((allSymbols files).filter (declares kind name)).map fun node => Key.str node.id := by
  apply candidates_eq_scan
  · intro kind name
    exact foldl_addSymbol_names _ _ _ kind name
  · intro node hnode
    rw [← Table.isSome_get?, get?_unlinked, List.getLast?_isSome]
    exact List.ne_nil_of_mem (List.mem_filter.mpr ⟨hnode, BEq.rfl⟩)

variable {files now}

/-- A symbol of the graph is a candidate once if it is of the kind and name, and once more
    for each declaration of that kind and name that was replaced under its id. -/
theorem countP_candidates {id : Key} {node : Symbol}
    (h : (unlinked files now).2.nodes.get? id = some node) (kind : Kind) (name : Json) :
    ((unlinked files now).1.candidates (unlinked files now).2 kind name).countP (· == id)
      = (if declares kind name node then 1 else 0)
        + declarations kind name id (replaced (allSymbols files)) := by
  rw [get?_unlinked] at h
  rw [← declarations_eq_last_add_replaced h, candidates_unlinked, List.countP_map,
    List.countP_filter]
  rfl

/-- A candidate is a symbol of the kind, if no declaration of that kind is replaced. -/
theorem kind_of_mem_candidates {kind : Kind}
    (h : ∀ old ∈ replaced (allSymbols files), old.kind ≠ kind) {name : Json} {id : Key}
    (hid : id ∈ (unlinked files now).1.candidates (unlinked files now).2 kind name) :
    ∃ node, (unlinked files now).2.nodes.get? id = some node ∧ node.kind = kind := by
  have hsome : ((unlinked files now).2.nodes.get? id).isSome = true := by
    rw [candidates_unlinked] at hid
    obtain ⟨node, hnode, rfl⟩ := List.mem_map.mp hid
    rw [get?_unlinked, List.getLast?_isSome]
    exact List.ne_nil_of_mem (List.mem_filter.mpr ⟨(List.mem_filter.mp hnode).1, BEq.rfl⟩)
  obtain ⟨node, hnode⟩ := Option.isSome_iff_exists.mp hsome
  refine ⟨node, hnode, ?_⟩
  -- it is a candidate, and not because of what it replaced, so it is of the kind itself
  have hcount := countP_candidates hnode kind name
  have hpos : 0 < ((unlinked files now).1.candidates (unlinked files now).2 kind name).countP
      (· == id) := List.countP_pos_iff.mpr ⟨id, hid, BEq.rfl⟩
  have hzero : declarations kind name id (replaced (allSymbols files)) = 0 := by
    unfold declarations
    rw [List.countP_eq_zero]
    intro old hold
    simp [declares, h old hold]
  have hdecl : declares kind name node = true := by
    by_contra hno
    rw [hcount, hzero, if_neg hno] at hpos
    exact absurd hpos (Nat.lt_irrefl 0)
  exact beq_iff_eq.mp (Bool.and_eq_true_iff.mp hdecl).1

end

/-! ## The edges of a graph -/

/-- Linking leaves the symbols as they are, and its edges are those of the files. -/
theorem build_eq_unlinked (files : Table String Facts) (now : String) :
    let s := (build ⟨files, {}⟩ (Store.empty now)).2
    let u := unlinked files now
    s.nodes = u.2.nodes ∧
    s.edges.toList = files.entries.flatMap fun e => u.1.fileEdges u.2 e.1 e.2 := by
  intro s u
  have hfiles : u.1.files = files := foldl_addSymbol_files _ _ _
  have hadded : u.2 = (Store.empty now).run ((allSymbols files).map addition) :=
    foldl_addSymbol_store _ _ _
  have hbuild : s = u.2.run ((u.1.files.entries.flatMap fun e => u.1.fileEdges u.2 e.1 e.2).map
      .addEdge) := foldl_addEdge _ _
  rw [hfiles] at hbuild
  have hunlinked : u.2.edges.toList = [] := by
    rw [hadded, Store.edges_run, List.filterMap_map]
    exact List.filterMap_none _
  constructor
  · have hnone : Change.node? ∘ Change.addEdge = fun _ => none := rfl
    rw [hbuild, Store.nodes_run, List.filterMap_map, hnone, List.filterMap_none]
    rfl
  · rw [hbuild, Store.edges_run, hunlinked, List.filterMap_map]
    exact List.filterMap_some

theorem contains_of_mem_candidates {r : Resolver} {s : Store} {kind : Kind} {name : Json} {id : Key}
    (h : id ∈ r.candidates s kind name) : s.nodes.contains id = true := by
  unfold candidates at h
  split at h
  · exact (List.mem_filter.mp h).2
  · cases h

section
variable {r : Resolver} {s : Store} {file : String} {f : Facts} {e : Edge}

/-- An edge of a file is that of an import, of a call or of a class. -/
theorem fileEdges_cases (h : e ∈ r.fileEdges s file f) :
    (∃ i ∈ f.imports, ∃ id, s.nodes.contains id = true ∧
      e = ⟨importSite file i.line, id, .str "imports"⟩) ∨
    (∃ c ∈ f.calls, ∃ id ∈ r.candidates s .function (.str c.name),
      e = ⟨callSite file c.line, id, .str "calls"⟩) ∨
    (∃ node ∈ f.symbols, ∃ name, node.superclass? = some name ∧
      ∃ id ∈ r.candidates s .klass name, e = ⟨.str node.id, id, .str "extends"⟩) := by
  rcases List.mem_append.mp h with h | h
  · rcases List.mem_append.mp h with h | h
    · obtain ⟨i, hi, h⟩ := List.mem_flatMap.mp h
      unfold importEdges at h
      split at h
      · obtain ⟨id, hid, rfl⟩ := List.mem_map.mp h
        exact .inl ⟨i, hi, id, (List.mem_filter.mp hid).2, rfl⟩
      · cases h
    · obtain ⟨c, hc, h⟩ := List.mem_flatMap.mp h
      obtain ⟨id, hid, rfl⟩ := List.mem_map.mp h
      exact .inr (.inl ⟨c, hc, id, hid, rfl⟩)
  · obtain ⟨node, hnode, h⟩ := List.mem_flatMap.mp h
    unfold extendsEdges at h
    split at h
    · rename_i name hname
      obtain ⟨id, hid, rfl⟩ := List.mem_map.mp h
      exact .inr (.inr ⟨node, hnode, name, hname, id, hid, rfl⟩)
    · cases h

/-- Every edge of a file ends at a symbol of the graph. -/
theorem contains_dst_of_mem_fileEdges (h : e ∈ r.fileEdges s file f) :
    s.nodes.contains e.dst = true := by
  rcases fileEdges_cases h with ⟨_, _, _, hid, rfl⟩ | ⟨_, _, _, hid, rfl⟩ | ⟨_, _, _, _, _, hid, rfl⟩
  · exact hid
  · exact contains_of_mem_candidates hid
  · exact contains_of_mem_candidates hid

end

/-- **What calls and classes are linked to.** The edges of a graph are those of its files,
    each with its own calls and classes. A call has as many edges to a symbol of the graph
    as there are reasons: one if the symbol is a function of the called name, and one for
    every function of that name that was replaced under its id. The same holds of a class
    and what it extends. So calls end at functions if no function is replaced, and classes
    extend classes if no class is. -/
theorem link_targets (files : Table String Facts) (now : String) :
    let s := (build ⟨files, {}⟩ (Store.empty now)).2
    let u := unlinked files now
    (s.edges.toList = files.entries.flatMap fun e => u.1.fileEdges u.2 e.1 e.2) ∧
    (∀ id node, s.nodes.get? id = some node →
      (∀ file c, (u.1.callEdges u.2 file c).countP (·.dst == id)
        = (if declares .function (.str c.name) node then 1 else 0)
          + declarations .function (.str c.name) id (replaced (allSymbols files))) ∧
      (∀ child name, child.superclass? = some name →
        (u.1.extendsEdges u.2 child).countP (·.dst == id)
          = (if declares .klass name node then 1 else 0)
            + declarations .klass name id (replaced (allSymbols files)))) ∧
    ((∀ old ∈ replaced (allSymbols files), old.kind ≠ .function) →
      ∀ e ∈ s.edges.toList, e.type = .str "calls" →
        ∃ node, s.nodes.get? e.dst = some node ∧ node.kind = .function) ∧
    ((∀ old ∈ replaced (allSymbols files), old.kind ≠ .klass) →
      ∀ e ∈ s.edges.toList, e.type = .str "extends" →
        ∃ node, s.nodes.get? e.dst = some node ∧ node.kind = .klass) := by
  intro s u
  obtain ⟨hnodes, hedges⟩ := build_eq_unlinked files now
  have hcases : ∀ e ∈ s.edges.toList, ∃ file f, e ∈ u.1.fileEdges u.2 file f := by
    intro e he
    rw [hedges] at he
    obtain ⟨x, _, he⟩ := List.mem_flatMap.mp he
    exact ⟨x.1, x.2, he⟩
  refine ⟨hedges, ?_, ?_, ?_⟩
  · intro id node hnode
    rw [hnodes] at hnode
    constructor
    · intro file c
      rw [← countP_candidates hnode]
      exact List.countP_map
    · intro child name hname
      unfold extendsEdges
      rw [hname, ← countP_candidates hnode]
      exact List.countP_map
  · intro hkept e he htype
    obtain ⟨file, f, he⟩ := hcases e he
    rcases fileEdges_cases he with ⟨_, _, _, _, rfl⟩ | ⟨_, _, _, hid, rfl⟩ | ⟨_, _, _, _, _, _, rfl⟩
    · simp at htype
    · rw [hnodes]
      exact kind_of_mem_candidates hkept hid
    · simp at htype
  · intro hkept e he htype
    obtain ⟨file, f, he⟩ := hcases e he
    rcases fileEdges_cases he with ⟨_, _, _, _, rfl⟩ | ⟨_, _, _, _, rfl⟩ | ⟨_, _, _, _, _, hid, rfl⟩
    · simp at htype
    · simp at htype
    · rw [hnodes]
      exact kind_of_mem_candidates hkept hid

/-- Two functions of one name on one line, and a call of that name: one edge for the
    function that the graph has, and one for the function that it replaced. -/
theorem call_of_repeated_function :
    let declared : Symbol :=
      ⟨.str "f", .str "a.js", .int 1, .function (.arr []) (.bool false) (.bool false)⟩
    let files := Table.ofList [("a.js", { symbols := [declared, declared], calls := [⟨"f", 1, 0⟩] })]
    let s := (build ⟨files, {}⟩ (Store.empty "t0")).2
    let u := unlinked files "t0"
    s.nodes.get? (.str "a.js:f:1") = some declared ∧
    (u.1.callEdges u.2 "a.js" ⟨"f", 1, 0⟩).countP (·.dst == .str "a.js:f:1") = 2 := by
  intro declared files s u
  have hnode : s.nodes.get? (.str "a.js:f:1") = some declared := by
    rw [(build_eq_unlinked files "t0").1, get?_unlinked]
    rfl
  refine ⟨hnode, ?_⟩
  rw [((link_targets files "t0").2.1 _ _ hnode).1]
  decide

/-- A function and a variable of one name on one line, and a call of that name: the graph
    has the variable, and the call ends at it. -/
theorem call_of_variable :
    let declared : Symbol :=
      ⟨.str "f", .str "a.js", .int 1, .function (.arr []) (.bool false) (.bool false)⟩
    let assigned : Symbol := ⟨.str "f", .str "a.js", .int 1, .variable (.str "var")⟩
    let files := Table.ofList [("a.js", { symbols := [declared, assigned], calls := [⟨"f", 1, 0⟩] })]
    let s := (build ⟨files, {}⟩ (Store.empty "t0")).2
    s.nodes.get? (.str "a.js:f:1") = some assigned ∧ assigned.kind ≠ .function ∧
    s.edges.toList = [⟨.str "a.js:1", .str "a.js:f:1", .str "calls"⟩] := by
  intro declared assigned files s
  obtain ⟨hnodes, hedges⟩ := build_eq_unlinked files "t0"
  refine ⟨?_, by decide, ?_⟩
  · rw [hnodes, get?_unlinked]
    rfl
  · rw [hedges]
    rfl

end SymbolGraph.Resolver
