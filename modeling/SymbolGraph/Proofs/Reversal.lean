import SymbolGraph.Graph.Query
import SymbolGraph.Proofs.Rereading

/-! # Graphs with all edges turned round

    What uses a symbol is found by going against the edges, and what a symbol uses by going
    along them. Turn every edge round, and the two questions are exchanged. A graph keeps an
    index for each of them, and the two are filled separately, so this has to be shown for all
    that can be done to a graph.

    * `Store.Mirrors` relates a graph to one in which all edges are turned round. Its indexes
      are exchanged.
    * `Store.Mirrors.apply` is the step: a change in one graph and the same change with its
      edge turned round in the other keep the two related. `Store.Mirrors.run` is the run.
    * Steps against the edges of one graph are then steps along the edges of the other
      (`Store.Mirrors.steps_incoming`), so walks go on side by side. `Store.mirrored_walks` is
      the main result: they find the same connections, turned round, in the same order.
-/

namespace SymbolGraph

/-! ## Turning round -/

/-- An edge the other way round. -/
def Edge.reversed (e : Edge) : Edge :=
  ⟨e.dst, e.src, e.type⟩

/-- A connection the other way round: the ids and the symbols at its ends are exchanged. -/
def Connection.reversed (c : Connection) : Connection :=
  ⟨c.edge.reversed, c.dstNode, c.srcNode⟩

/-- A change with the edge that it adds turned round. -/
def Change.reversed : Change → Change
  | .addEdge e => .addEdge e.reversed
  | c => c

namespace Store

/-- One graph is the mirror image of another: the same symbols, and the same edges in the same
    order, all turned round. What leaves an id in one graph enters it in the other. -/
structure Mirrors (t s : Store) : Prop where
  nodes : t.nodes = s.nodes
  edges : t.edges = s.edges.map Edge.reversed
  forward : t.forward = s.backward
  backward : t.backward = s.forward

section
variable {t s : Store}

theorem mirrors_empty (now now' : String) : Mirrors (empty now) (empty now') where
  nodes := rfl
  edges := Array.map_empty.symm
  forward := rfl
  backward := rfl

theorem Mirrors.size_edges (h : Mirrors t s) : t.edges.size = s.edges.size := by
  rw [h.edges, Array.size_map]

/-! ## One change, and any run -/

theorem Mirrors.addNode (h : Mirrors t s) (id : Key) (node : Symbol) :
    Mirrors (t.addNode id node) (s.addNode id node) where
  nodes := congrArg (·.insert id node) h.nodes
  edges := h.edges
  forward := congrArg (·.insertIfNew id []) h.forward
  backward := congrArg (·.insertIfNew id []) h.backward

/-- The edge gets the same position in both arenas, and each index lists it where the other
    index of the other graph does. -/
theorem Mirrors.addEdge (h : Mirrors t s) (e : Edge) :
    Mirrors (t.addEdge e.reversed) (s.addEdge e) where
  nodes := h.nodes
  edges := by
    show t.edges.push e.reversed = (s.edges.push e).map Edge.reversed
    rw [h.edges, Array.map_push]
  forward := by
    show t.forward.alter e.dst (fun ps => ps.getD [] ++ [t.edges.size])
      = s.backward.alter e.dst fun ps => ps.getD [] ++ [s.edges.size]
    rw [h.forward, h.size_edges]
  backward := by
    show t.backward.alter e.src (fun ps => ps.getD [] ++ [t.edges.size])
      = s.forward.alter e.src fun ps => ps.getD [] ++ [s.edges.size]
    rw [h.backward, h.size_edges]

/-- **One change.** Graphs stay mirror images of each other. -/
theorem Mirrors.apply (h : Mirrors t s) (c : Change) : Mirrors (t.apply c.reversed) (s.apply c) := by
  cases c with
  | addNode id node => exact h.addNode id node
  | addEdge e => exact h.addEdge e
  | setFileIndex | touch | stamp => exact ⟨h.nodes, h.edges, h.forward, h.backward⟩

/-- **Any run of changes.** -/
theorem Mirrors.run (h : Mirrors t s) (cs : List Change) :
    Mirrors (t.run (cs.map Change.reversed)) (s.run cs) := by
  induction cs generalizing t s with
  | nil => exact h
  | cons c cs ih => exact ih (h.apply c)

/-! ## Steps in both graphs -/

theorem Mirrors.edgesAt (h : Mirrors t s) (positions : List Nat) :
    t.edgesAt positions = (s.edgesAt positions).map Edge.reversed := by
  have hget : ∀ p : Nat, t.edges[p]? = s.edges[p]?.map Edge.reversed := by
    intro p
    rw [h.edges, Array.getElem?_map]
  unfold Store.edgesAt
  rw [List.map_filterMap]
  simp only [hget]

theorem Mirrors.incoming (h : Mirrors t s) (id : Key) :
    t.incoming id = (s.outgoing id).map Edge.reversed := by
  unfold Store.outgoing Store.incoming
  rw [h.backward, h.edgesAt]

/-- Steps against the edges lead where steps along the edges do in the mirror image. -/
theorem Mirrors.steps_incoming (h : Mirrors t s) (id : Key) :
    t.steps .incoming id = (s.steps .outgoing id).map fun st => (st.1.reversed, st.2) := by
  show [] ++ (t.incoming id).map _ = ((s.outgoing id).map _ ++ []).map _
  rw [h.incoming, List.nil_append, List.append_nil, List.map_map, List.map_map]
  rfl

theorem Mirrors.connection (h : Mirrors t s) (e : Edge) :
    t.connection e.reversed = (s.connection e).reversed := by
  unfold Store.connection
  rw [h.nodes]
  rfl

end

/-! ## Walks in both graphs -/

/-- **Mirror images.** Make the same changes to two graphs, with all edges turned round in one of
    them. What a walk against the edges finds in the first graph, a walk along the edges finds in
    the second, turned round, and in the same order. So what uses a symbol is what the symbol
    uses in the mirror image. -/
theorem mirrored_walks (now now' : String) (cs : List Change) (id : Key) (depth : Int) :
    let s := (empty now).run cs
    let r := (empty now').run (cs.map Change.reversed)
    s.connections id .incoming depth = (r.connections id .outgoing depth).map Connection.reversed ∧
    s.dependents id depth = (r.dependencies id depth).map Connection.reversed := by
  intro s r
  -- turned round twice, the changes are what they were
  have htwice : (cs.map Change.reversed).map Change.reversed = cs := by
    rw [List.map_map]
    refine (List.map_congr_left ?_).trans (List.map_id cs)
    intro c _
    cases c <;> rfl
  have h : Mirrors s r := by
    have hrun := (mirrors_empty now now').run (cs.map Change.reversed)
    rwa [htwice] at hrun
  have hwalk : s.connections id .incoming depth
      = (r.connections id .outgoing depth).map Connection.reversed :=
    connections_map Edge.reversed Connection.reversed h.steps_incoming h.connection h.size_edges id
      depth
  exact ⟨hwalk, hwalk⟩

end Store

end SymbolGraph
