import SymbolGraph.Graph.Query
import SymbolGraph.Proofs.Indexes
import SymbolGraph.Proofs.Selections

/-! # What a search finds

    A search goes through the symbols of a graph and ranks those that match. A graph that was
    changed many times may have had several symbols at one id. Where a symbol stands was decided
    when its id was first set, and what it is when the id was last set.

    * `Hit.mergeSort_eq_blocks` says what a stable sort makes of hits of two scores.
    * `Store.latest` gives the symbols that a list of settings leaves, without a graph.
    * `Store.ranked` gives the hits of a search, first those by name and then those by file only.
      `Store.mergeSort_matching` says that this is what sorting by score gives.
    * `Store.search_ranking` is the main result: what is found in a graph after any changes, how
      limits cut it off, and that the calls around functions are told about the same hits.
-/

namespace SymbolGraph

/-! ## The order of hits -/

namespace Hit

theorem mayPrecede_trans (a b c : Hit) (hab : mayPrecede a b = true)
    (hbc : mayPrecede b c = true) : mayPrecede a c = true := by
  unfold mayPrecede at *
  rw [decide_eq_true_iff] at *
  omega

theorem mayPrecede_total (a b : Hit) : (mayPrecede a b || mayPrecede b a) = true := by
  unfold mayPrecede
  rw [Bool.or_eq_true, decide_eq_true_iff, decide_eq_true_iff]
  omega

/-- A list of hits by falling score has its two scores in two blocks. -/
theorem eq_blocks_of_sorted {hits : List Hit} (hscores : ∀ h ∈ hits, h.score = 2 ∨ h.score = 1)
    (hsorted : hits.Pairwise fun a b => mayPrecede a b = true) :
    hits = hits.filter (·.score == 2) ++ hits.filter (·.score == 1) := by
  induction hits with
  | nil => rfl
  | cons h hits ih =>
    rw [List.forall_mem_cons] at hscores
    obtain ⟨hfirst, hrest⟩ := List.pairwise_cons.mp hsorted
    rcases hscores.1 with hscore | hscore
    · have hblocks := ih hscores.2 hrest
      simp only [List.filter_cons, hscore, beq_self_eq_true, if_true, List.cons_append]
      simp [← hblocks]
    · -- nothing after it scores higher
      have hlow : ∀ x ∈ hits, x.score = 1 := by
        intro x hx
        have hle : x.score ≤ h.score := of_decide_eq_true (hfirst x hx)
        rcases hscores.2 x hx with hx | hx <;> omega
      have hnone : hits.filter (·.score == 2) = [] := by
        rw [List.filter_eq_nil_iff]
        intro x hx
        simp [hlow x hx]
      have hall : hits.filter (·.score == 1) = hits := by
        rw [List.filter_eq_self]
        intro x hx
        simp [hlow x hx]
      simp [hscore, hnone, hall]

/-- Sorting by falling score keeps hits of the same score in their order. -/
theorem filter_mergeSort (hits : List Hit) (n : Nat) :
    (hits.mergeSort mayPrecede).filter (·.score == n) = hits.filter (·.score == n) := by
  have hsame : (hits.filter (·.score == n)).Pairwise fun a b => mayPrecede a b = true := by
    rw [List.pairwise_iff_forall_sublist]
    intro a b hab
    have hscore : ∀ x ∈ [a, b], x.score = n := fun x hx =>
      beq_iff_eq.mp (List.mem_filter.mp (hab.subset hx)).2
    unfold mayPrecede
    rw [hscore a (by simp), hscore b (by simp)]
    simp
  -- hits of one score are in order already, so the sort leaves them one after another
  have hsub := List.sublist_mergeSort mayPrecede_trans mayPrecede_total hsame List.filter_sublist
  have hfilter := hsub.filter (·.score == n)
  rw [List.filter_filter] at hfilter
  simp only [Bool.and_self] at hfilter
  exact (hfilter.eq_of_length ((List.mergeSort_perm _ _).filter _).length_eq.symm).symm

/-- Sorting hits of two scores puts those with the higher one first, and changes nothing else. -/
theorem mergeSort_eq_blocks {hits : List Hit} (hscores : ∀ h ∈ hits, h.score = 2 ∨ h.score = 1) :
    hits.mergeSort mayPrecede = hits.filter (·.score == 2) ++ hits.filter (·.score == 1) := by
  have hsorted := List.pairwise_mergeSort mayPrecede_trans mayPrecede_total hits
  rw [eq_blocks_of_sorted (fun h hh => hscores h ((List.mergeSort_perm _ _).mem_iff.mp hh)) hsorted,
    filter_mergeSort, filter_mergeSort]

end Hit

namespace Store

/-! ## The symbols that settings leave -/

/-- The symbols that are left of a list of settings: each id once, in the order in which ids were
    first set, with the symbol that was last set there. -/
def latest (settings : List (Key × Symbol)) : List (Key × Symbol) :=
  (settings.map (·.1)).eraseDups.filterMap fun id =>
    (settings.filter (·.1 == id)).getLast?.map fun e => (id, e.2)

/-- The symbols of a graph after a run. -/
theorem nodes_entries_run {s : Store} (hs : s.nodes = {}) (cs : List Change) :
    (s.run cs).nodes.entries = latest (cs.filterMap Change.node?) := by
  rw [Table.entries_eq_filterMap_keys, nodes_keys_run hs]
  unfold latest
  apply List.filterMap_congr
  intro id _
  rw [get?_nodes_run hs, Option.map_map]
  rfl

theorem mem_of_mem_latest {settings : List (Key × Symbol)} {e : Key × Symbol}
    (h : e ∈ latest settings) : ∃ id, (id, e.2) ∈ settings := by
  obtain ⟨id, _, hid⟩ := List.mem_filterMap.mp h
  obtain ⟨last, hlast, rfl⟩ := Option.map_eq_some_iff.mp hid
  exact ⟨last.1, (List.mem_filter.mp (List.mem_of_getLast? hlast)).1⟩

/-! ## Matching -/

/-- A text contains another one, whatever the case of the letters. -/
def Contains (text query : String) : Prop :=
  (Text.lower query).toList <:+: (Text.lower text).toList

instance (text query : String) : Decidable (Contains text query) :=
  inferInstanceAs (Decidable (_ <:+: _))

theorem occurs_iff {text query : String} :
    Text.occurs (Text.lower query) (Text.lower text) = true ↔ Contains text query :=
  Text.occursIn_iff

/-- A symbol is of the kind asked for. No kind, or an empty one, asks for all. -/
def IsAsked (kind : Option String) (node : Symbol) : Prop :=
  kind = none ∨ kind = some "" ∨ kind = some node.kind.name

instance (kind : Option String) (node : Symbol) : Decidable (IsAsked kind node) :=
  inferInstanceAs (Decidable (_ ∨ _ ∨ _))

theorem ofKind_iff {kind : Option String} {node : Symbol} :
    ofKind kind node = true ↔ IsAsked kind node := by
  unfold ofKind IsAsked
  cases kind with
  | none => simp
  | some k =>
    simp only [Bool.or_eq_true, String.isEmpty_iff, beq_iff_eq, Option.some.injEq, reduceCtorEq,
      false_or]
    exact or_congr_right eq_comm

/-- The name and the file of a symbol are texts. -/
def IsPlain (node : Symbol) : Prop :=
  ∃ name file, node.name = .str name ∧ node.file = .str file

/-- The score of a symbol whose name and file are texts. -/
def points (query : String) (node : Symbol) : Nat :=
  if Contains node.name.plain query then 2
  else if Contains node.file.plain query then 1
  else 0

theorem score_eq_points {query : String} {node : Symbol} (h : IsPlain node) :
    score (Text.lower query) node = .ok (points query node) := by
  obtain ⟨name, file, hname, hfile⟩ := h
  unfold score points
  rw [hname, hfile]
  show _ = Except.ok (if Contains name query then 2 else if Contains file query then 1 else 0)
  simp only [occurs_iff]
  by_cases hbyName : Contains name query
  · rw [if_pos hbyName, if_pos hbyName]
  · rw [if_neg hbyName, if_neg hbyName]
    split <;> rfl

/-! ## Ranking -/

/-- Hits for the symbols that are wanted, in their order. -/
def hitsOf (nodes : List (Key × Symbol)) (wanted : Symbol → Prop) [DecidablePred wanted]
    (score : Symbol → Nat) : List Hit :=
  (nodes.filter fun e => wanted e.2).map fun e => ⟨e.1, e.2, score e.2⟩

section
variable {nodes : List (Key × Symbol)} {wanted wanted' : Symbol → Prop} [DecidablePred wanted]
  [DecidablePred wanted'] {score : Symbol → Nat}

theorem hitsOf_congr (h : ∀ node, wanted node ↔ wanted' node) :
    hitsOf nodes wanted score = hitsOf nodes wanted' score := by
  unfold hitsOf
  simp only [h]

/-- The hits with a score. -/
theorem filter_hitsOf (n : Nat) :
    (hitsOf nodes wanted score).filter (·.score == n)
      = hitsOf nodes (fun node => wanted node ∧ score node = n) fun _ => n := by
  unfold hitsOf
  rw [List.filter_map, List.filter_filter]
  have hfilter : nodes.filter (fun e => ((fun h : Hit => h.score == n) ∘
        fun e => (⟨e.1, e.2, score e.2⟩ : Hit)) e && decide (wanted e.2))
      = nodes.filter fun e => wanted e.2 ∧ score e.2 = n := by
    apply List.filter_congr
    intro e _
    simp [Bool.and_comm, Bool.beq_eq_decide_eq]
  rw [hfilter]
  apply List.map_congr_left
  intro e he
  have hscore := (of_decide_eq_true (List.mem_filter.mp he).2).2
  rw [hscore]

end

/-- Hits in the order in which the symbols stand. -/
def matching (nodes : List (Key × Symbol)) (query : String) (kind : Option String) : List Hit :=
  hitsOf nodes (fun node => IsAsked kind node ∧
      (Contains node.name.plain query ∨ Contains node.file.plain query))
    fun node => if Contains node.name.plain query then 2 else 1

/-- The hits of a search are the symbols with a score that is not zero. -/
theorem filter_points (nodes : List (Key × Symbol)) (query : String) (kind : Option String) :
    (hitsOf nodes (IsAsked kind) (points query)).filter (·.score ≠ 0)
      = matching nodes query kind := by
  have hzero : ∀ node, points query node ≠ 0 ↔
      Contains node.name.plain query ∨ Contains node.file.plain query := by
    intro node
    unfold points
    by_cases hname : Contains node.name.plain query
    · simp [hname]
    · by_cases hfile : Contains node.file.plain query <;> simp [hname, hfile]
  have hfilter : (nodes.filter fun e => IsAsked kind e.2).filter (fun e => points query e.2 ≠ 0)
      = nodes.filter fun e => IsAsked kind e.2 ∧
          (Contains e.2.name.plain query ∨ Contains e.2.file.plain query) := by
    rw [List.filter_filter]
    apply List.filter_congr
    intro e _
    rw [Bool.eq_iff_iff, Bool.and_eq_true, decide_eq_true_iff, decide_eq_true_iff,
      decide_eq_true_iff, hzero, and_comm]
  unfold matching hitsOf
  simp only [List.filter_map, Function.comp_def]
  rw [hfilter]
  apply List.map_congr_left
  intro e he
  obtain ⟨_, hmatch⟩ := of_decide_eq_true (List.mem_filter.mp he).2
  unfold points
  by_cases hname : Contains e.2.name.plain query
  · simp only [if_pos hname]
  · simp only [if_neg hname, if_pos (hmatch.resolve_left hname)]

/-- First the symbols whose name contains a text, then those of which only the file does. -/
def ranked (nodes : List (Key × Symbol)) (query : String) (kind : Option String) : List Hit :=
  hitsOf nodes (fun node => IsAsked kind node ∧ Contains node.name.plain query) (fun _ => 2) ++
  hitsOf nodes (fun node => IsAsked kind node ∧ ¬ Contains node.name.plain query ∧
    Contains node.file.plain query) fun _ => 1

/-- What is ranked is what a stable sort by score makes of the hits in their order. -/
theorem mergeSort_matching (nodes : List (Key × Symbol)) (query : String) (kind : Option String) :
    (matching nodes query kind).mergeSort Hit.mayPrecede = ranked nodes query kind := by
  have hscores : ∀ h ∈ matching nodes query kind, h.score = 2 ∨ h.score = 1 := by
    intro h hh
    obtain ⟨e, _, rfl⟩ := List.mem_map.mp hh
    dsimp only
    split <;> simp
  rw [Hit.mergeSort_eq_blocks hscores]
  unfold matching ranked
  rw [filter_hitsOf, filter_hitsOf]
  congr 1
  · apply hitsOf_congr
    intro node
    by_cases hname : Contains node.name.plain query <;> simp [hname]
  · apply hitsOf_congr
    intro node
    by_cases hname : Contains node.name.plain query <;> simp [hname]

/-- No id is found twice. -/
theorem distinct_ranked {nodes : List (Key × Symbol)} (h : Distinct (nodes.map (·.1)))
    (query : String) (kind : Option String) :
    Distinct ((ranked nodes query kind).map (·.id)) := by
  rw [← mergeSort_matching]
  refine distinct_perm ((List.mergeSort_perm _ _).symm.map _) (h.sublist ?_)
  unfold matching hitsOf
  rw [List.map_map]
  exact List.filter_sublist.map _

/-! ## Searching -/

section
variable {s : Store} (hs : ∀ e ∈ s.nodes.entries, IsPlain e.2) (query : String)
include hs

/-- In a graph with texts for names and files, searching ranks its symbols. -/
theorem search_eq_ranked (kind : Option String) :
    s.search query kind = .ok (ranked s.nodes.entries query kind) := by
  have hscored : s.scored query kind
      = .ok (hitsOf s.nodes.entries (IsAsked kind) (points query)) := by
    have hfilter : s.nodes.entries.filter (fun e => ofKind kind e.2)
        = s.nodes.entries.filter fun e => IsAsked kind e.2 := by
      apply List.filter_congr
      intro e _
      rw [Bool.eq_iff_iff, ofKind_iff, decide_eq_true_iff]
    -- every symbol can be scored, so none of them makes the search fail
    have hscore : ∀ e ∈ s.nodes.entries.filter (fun e => IsAsked kind e.2), ∃ hit,
        (score (Text.lower query) e.2 >>= fun n => pure (⟨e.1, e.2, n⟩ : Hit)) = .ok hit ∧
          hit = ⟨e.1, e.2, points query e.2⟩ := by
      intro e he
      refine ⟨_, ?_, rfl⟩
      rw [score_eq_points (hs e (List.mem_filter.mp he).1)]
      rfl
    obtain ⟨hits, hhits, heq⟩ := exists_mapM hscore
    unfold scored
    rw [hfilter, hhits]
    rw [List.forall₂_eq_eq_eq] at heq
    exact congrArg Except.ok heq
  unfold search
  rw [hscored]
  show Except.ok (((hitsOf _ _ _).filter _).mergeSort _) = _
  rw [filter_points, mergeSort_matching]

/-- A limit takes the first hits. -/
theorem findSymbol_eq_take (kind : Option String) {limit : Int} (hlimit : 0 ≤ limit) :
    s.findSymbol query kind (some limit)
      = .ok ((ranked s.nodes.entries query kind).take limit.toNat) := by
  unfold findSymbol
  rw [search_eq_ranked hs]
  show Except.ok (limited _ _) = _
  unfold limited
  dsimp only
  rw [if_pos hlimit]

/-- The calls around functions are told of the first functions that are found. -/
theorem callGraph_eq_map (depth : Int) :
    s.callGraph query depth
      = .ok (((ranked s.nodes.entries query (some "function")).take 5).map fun h =>
          ⟨h, (s.connections h.id .both depth).filter isCall⟩) := by
  unfold callGraph
  rw [search_eq_ranked hs]
  rfl

end

theorem isCall_iff {c : Connection} : isCall c = true ↔ c.edge.type = .str "calls" := by
  unfold isCall
  cases c.edge.type <;> simp

/-- **What a search finds.** Take a graph after any changes, with texts for the names and files of
    symbols. A search finds, in the order in which ids were first set and with the symbols that
    were last set there: the symbols of the kind asked for whose name contains the query, with
    score 2, and then those of which only the file does, with score 1. No id is found twice. This
    is what a stable sort by falling score makes of all hits. A smaller limit gives the first hits
    of a larger one. The calls around functions are told of the functions found with a limit of
    five, in this order, and for each of them they are those of its connections that are
    calls. -/
theorem search_ranking (now : String) (cs : List Change)
    (hcs : ∀ id node, .addNode id node ∈ cs → IsPlain node) (query : String)
    (kind : Option String) :
    let s := (empty now).run cs
    let nodes := latest (cs.filterMap Change.node?)
    s.search query kind = .ok (ranked nodes query kind) ∧
    Distinct ((ranked nodes query kind).map (·.id)) ∧
    (matching nodes query kind).mergeSort Hit.mayPrecede = ranked nodes query kind ∧
    (∀ a b : Int, 0 ≤ a → a ≤ b → ∃ few more, s.findSymbol query kind (some a) = .ok few ∧
      s.findSymbol query kind (some b) = .ok more ∧ few <+: more) ∧
    (∀ depth, ∃ found entries, s.findSymbol query (some "function") (some 5) = .ok found ∧
      s.callGraph query depth = .ok entries ∧ entries.map (·.hit) = found ∧
      Distinct (entries.map (·.hit.id)) ∧
      ∀ e ∈ entries, e.connections = (s.connections e.hit.id .both depth).filter isCall) ∧
    ∀ c, isCall c = true ↔ c.edge.type = .str "calls" := by
  intro s nodes
  have hnodes : s.nodes.entries = nodes := nodes_entries_run rfl cs
  have hplain : ∀ e ∈ s.nodes.entries, IsPlain e.2 := by
    intro e he
    rw [hnodes] at he
    obtain ⟨id, hid⟩ := mem_of_mem_latest he
    obtain ⟨c, hc, hset⟩ := List.mem_filterMap.mp hid
    cases c with
    | addNode id' node =>
      cases hset
      exact hcs _ _ hc
    | addEdge | setFileIndex | touch | stamp => cases hset
  have hdistinct : Distinct (nodes.map (·.1)) := by
    rw [← hnodes]
    exact s.nodes.distinct_keys
  refine ⟨?_, distinct_ranked hdistinct query kind, mergeSort_matching nodes query kind, ?_, ?_,
    fun c => isCall_iff⟩
  · rw [search_eq_ranked hplain, hnodes]
  · intro a b ha hab
    refine ⟨_, _, findSymbol_eq_take hplain query kind ha,
      findSymbol_eq_take hplain query kind (by omega), ?_⟩
    exact List.take_prefix_take_left (by omega)
  · intro depth
    refine ⟨_, _, findSymbol_eq_take hplain query (some "function") (by decide),
      callGraph_eq_map hplain query depth, ?_, ?_, ?_⟩
    · rw [List.map_map]
      exact List.map_id _
    · rw [List.map_map, hnodes]
      exact (distinct_ranked hdistinct query _).sublist ((List.take_sublist _ _).map _)
    · intro e he
      obtain ⟨h, _, rfl⟩ := List.mem_map.mp he
      rfl

/-- A symbol that is set anew is found by its new name, at its old place. -/
theorem search_ranking_set_anew :
    let function (name file : String) : Symbol :=
      ⟨.str name, .str file, .int 1, .function (.arr []) (.bool false) (.bool false)⟩
    let cs : List Change := [.addNode (.str "b") (function "start" "main.js"),
      .addNode (.str "a") (function "f" "lib.js"), .addNode (.str "c") (function "remain" "c.js"),
      .addEdge ⟨.str "a", .str "b", .str "calls"⟩, .addNode (.str "a") (function "Main" "lib.js")]
    let s := (empty "t").run cs
    (∀ id node, .addNode id node ∈ cs → IsPlain node) ∧
    ∃ hits, s.search "MAIN" none = .ok hits ∧
      hits.map (fun h => (h.id, h.node.name.plain, h.score))
        = [(.str "a", "Main", 2), (.str "c", "remain", 2), (.str "b", "start", 1)] ∧
      ∃ few more, s.findSymbol "MAIN" none (some 1) = .ok few ∧
        s.findSymbol "MAIN" none (some 2) = .ok more ∧ few <+: more := by
  intro function cs s
  have hplain : ∀ id node, .addNode id node ∈ cs → IsPlain node := by
    intro id node hmem
    simp only [cs, List.mem_cons, Change.addNode.injEq, reduceCtorEq, false_or, List.not_mem_nil,
      or_false] at hmem
    rcases hmem with ⟨_, rfl⟩ | ⟨_, rfl⟩ | ⟨_, rfl⟩ | ⟨_, rfl⟩ <;> exact ⟨_, _, rfl, rfl⟩
  obtain ⟨hsearch, _, _, hlimits, _⟩ := search_ranking "t" cs hplain "MAIN" none
  exact ⟨hplain, _, hsearch, by decide +kernel, hlimits 1 2 (by decide) (by decide)⟩

end Store

end SymbolGraph
