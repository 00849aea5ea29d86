import Mathlib.Algebra.Order.Group.Multiset
import SymbolGraph.Proofs.LimitedWalks
import SymbolGraph.Proofs.RereadWalks

/-! # Walks through whole components

    A walk without a limit goes wherever steps lead. A limit does no harm as long as it allows as
    many hops as there are ids to be reached, because a way that meets no id twice is shorter
    than that.

    * `Store.IsComponent` lists the ids that are reached from an id, each of them once. There is
      such a list in every graph (`Store.Coherent.exists_isComponent`).
    * With a hop for each of them, all of them are expanded, so a walk finds the edges that are
      followed from them, and nothing else (`Store.IsComponent.connections_perm`). These are the
      edges that start in the component, or end in it. If edges are followed both ways, no edge
      leads out of the component and each one is found from both of its ends.
    * Nothing of this depends on the order of the edges (`Store.IsComponent.of_edges_perm`).

    `Store.walk_component` puts these together for graphs that are reached by any run.
-/

namespace SymbolGraph.Store

variable {s t : Store} {d : Direction} {depth : Int} {id : Key} {ids : List Key}

/-! ## Components -/

/-- The ids that can be reached from an id, each of them once. -/
structure IsComponent (s : Store) (d : Direction) (id : Key) (ids : List Key) : Prop where
  distinct : Distinct ids
  reached : ∀ k ∈ ids, ∃ n, s.Reaches d id n k
  all : s.ReachesOnly d id ids

/-- The start belongs to its component, so at least one hop is needed. -/
theorem IsComponent.length_pos (hc : IsComponent s d id ids) : 0 < ids.length := by
  obtain ⟨j, hj, _⟩ := hc.all 0 id .start
  exact List.length_pos_of_mem hj

/-- Whatever is reached is the start or an end of an edge. -/
theorem Coherent.reachesOnly_ends (hs : Coherent s) (d : Direction) (id : Key) :
    s.ReachesOnly d id (id :: s.edges.toList.flatMap fun e => [e.src, e.dst]) := by
  intro n k hk
  refine ⟨k, ?_, BEq.rfl⟩
  cases hk with
  | start => exact List.mem_cons_self
  | step _ hst =>
    obtain ⟨hedge, hend⟩ := hs.mem_steps_iff.mp hst
    apply List.mem_cons_of_mem
    refine List.mem_flatMap.mpr ⟨_, hedge, ?_⟩
    rcases hend with ⟨_, _, hdst⟩ | ⟨_, _, hsrc⟩
    · simp [hdst]
    · simp [hsrc]

/-- Every id has a component: the ids that a walk expands which has hops for all ends of edges. -/
theorem Coherent.exists_isComponent (hs : Coherent s) (d : Direction) (id : Key) :
    ∃ ids, IsComponent s d id ids := by
  have hall := hs.reachesOnly_ends d id
  obtain ⟨expanded, hexpanded, _⟩ := hs.connections_expansion d
    (Int.natCast_pos.mpr (Nat.succ_pos (s.edges.toList.flatMap fun e => [e.src, e.dst]).length)) id
  refine ⟨expanded.map (·.1), hexpanded.distinct, ?_, ?_⟩
  · intro k hk
    obtain ⟨x, hx, rfl⟩ := List.mem_map.mp hk
    exact ⟨x.2, hexpanded.reached x hx⟩
  · intro n k hk
    obtain ⟨x, hx, hxk⟩ := hexpanded.covers_all hall (Int.le_refl _) hk
    exact ⟨x.1, List.mem_map_of_mem hx, hxk⟩

/-! ## What a walk finds in a component -/

/-- With a hop for each id of the component, a walk finds the connections of all edges that are
    followed from these ids. -/
theorem IsComponent.connections_perm (hc : IsComponent s d id ids) (hs : Coherent s)
    (hdepth : (ids.length : Int) ≤ depth) :
    (s.connections id d depth).Perm ((ids.flatMap (s.followed d)).map s.connection) := by
  have hpos : 0 < depth := by
    have := hc.length_pos
    omega
  obtain ⟨expanded, hexpanded, hfound⟩ := hs.connections_expansion d hpos id
  rw [expandedConnections_eq_map] at hfound
  refine hfound.trans (List.Perm.map _ (List.Subperm.antisymm ?_ ?_))
  · -- what is expanded is reached, so it is in the component
    apply flatMap_subperm_of_covers (s.followed_congr d) hexpanded.distinct
    intro k hk
    obtain ⟨x, hx, rfl⟩ := List.mem_map.mp hk
    exact hc.all x.2 x.1 (hexpanded.reached x hx)
  · -- what is in the component is reached, and there are enough hops to expand it
    apply flatMap_subperm_of_covers (s.followed_congr d) hc.distinct
    intro k hk
    obtain ⟨n, hn⟩ := hc.reached k hk
    obtain ⟨x, hx, hxk⟩ := hexpanded.covers_all hc.all hdepth hn
    exact ⟨x.1, List.mem_map_of_mem hx, hxk⟩

/-- The same for the edges alone. -/
theorem IsComponent.edges_perm (hc : IsComponent s d id ids) (hs : Coherent s)
    (hdepth : (ids.length : Int) ≤ depth) :
    ((s.connections id d depth).map (·.edge)).Perm (ids.flatMap (s.followed d)) := by
  have hfound := (hc.connections_perm hs hdepth).map Connection.edge
  rw [List.map_map] at hfound
  exact hfound.trans (List.Perm.of_eq (List.map_id _))

/-- If edges are followed both ways, no edge leads out of a component or into it. -/
theorem IsComponent.within (hc : IsComponent s .both id ids) (hs : Coherent s) {e : Edge}
    (he : e ∈ s.edges.toList) : ids.any (· == e.src) = ids.any (· == e.dst) := by
  rw [Bool.eq_iff_iff, List.any_eq_true, List.any_eq_true]
  constructor
  · rintro ⟨j, hj, hsrc⟩
    obtain ⟨n, hn⟩ := hc.reached j hj
    have hst : (e, e.dst) ∈ s.steps .both j :=
      hs.mem_steps_iff.mpr ⟨he, .inl ⟨rfl, BEq.symm hsrc, rfl⟩⟩
    exact hc.all _ _ (.step hn hst)
  · rintro ⟨j, hj, hdst⟩
    obtain ⟨n, hn⟩ := hc.reached j hj
    have hst : (e, e.src) ∈ s.steps .both j :=
      hs.mem_steps_iff.mpr ⟨he, .inr ⟨rfl, BEq.symm hdst, rfl⟩⟩
    exact hc.all _ _ (.step hn hst)

/-- The edges that are followed both ways from a component are those in it, each from both
    ends. -/
theorem IsComponent.flatMap_followed_both (hc : IsComponent s .both id ids) (hs : Coherent s) :
    (ids.flatMap (s.followed .both)).Perm
      ((s.edges.toList.filter fun e => ids.any (· == e.src))
        ++ s.edges.toList.filter fun e => ids.any (· == e.src)) := by
  have hsame : (s.edges.toList.filter fun e => ids.any (· == e.dst))
      = s.edges.toList.filter fun e => ids.any (· == e.src) := by
    apply List.filter_congr
    intro e he
    exact (hc.within hs he).symm
  have hincoming := hs.flatMap_incoming_perm hc.distinct
  rw [hsame] at hincoming
  exact (s.flatMap_followed_both_perm ids).trans
    ((hs.flatMap_outgoing_perm hc.distinct).append hincoming)

/-! ## Edges in another order -/

section
variable (ht : Coherent t) (hs : Coherent s) (hedges : t.edges.toList.Perm s.edges.toList)

include ht hs hedges

/-- The same edges in another order give the same steps in another order. -/
theorem steps_perm_of_edges_perm (d : Direction) (k : Key) :
    (t.steps d k).Perm (s.steps d k) := by
  unfold steps
  rw [ht.outgoing_eq, hs.outgoing_eq, ht.incoming_eq, hs.incoming_eq]
  apply List.Perm.append
  · split
    · exact (hedges.filter _).map _
    · exact List.Perm.refl _
  · split
    · exact (hedges.filter _).map _
    · exact List.Perm.refl _

/-- Components do not depend on the order of the edges. -/
theorem IsComponent.of_edges_perm (hc : IsComponent s d id ids) : IsComponent t d id ids where
  distinct := hc.distinct
  reached := by
    intro k hk
    obtain ⟨n, hn⟩ := hc.reached k hk
    exact ⟨n, hn.mono fun j => (steps_perm_of_edges_perm ht hs hedges d j).symm.subset⟩
  all := by
    intro n k hk
    exact hc.all n k (hk.mono fun j => (steps_perm_of_edges_perm ht hs hedges d j).subset)

/-- Nor does what is found in them. -/
theorem IsComponent.connections_of_edges_perm (hc : IsComponent s d id ids)
    (hnodes : t.nodes = s.nodes) (hdepth : (ids.length : Int) ≤ depth) :
    (t.connections id d depth).Perm (s.connections id d depth) := by
  have hfollowed : ∀ k, (t.followed d k).Perm (s.followed d k) := by
    intro k
    rw [← map_fst_steps, ← map_fst_steps]
    exact (steps_perm_of_edges_perm ht hs hedges d k).map _
  have hconnection : t.connection = s.connection := by
    funext e
    unfold connection
    rw [hnodes]
  have hfound := (hc.of_edges_perm ht hs hedges).connections_perm ht hdepth
  rw [hconnection] at hfound
  have hmiddle : ((ids.flatMap (t.followed d)).map s.connection).Perm
      ((ids.flatMap (s.followed d)).map s.connection) :=
    (List.Perm.flatMap_left _ fun k _ => hfollowed k).map _
  exact (hfound.trans hmiddle).trans (hc.connections_perm hs hdepth).symm

end

/-! ## After any run -/

/-- **A walk through a whole component.** In a graph that was reached by any run, every id has a
    component. A walk with at least as many hops as the component has ids finds the connections
    of the edges that are followed from these ids, as often as they are followed. Along the edges
    each edge that starts in the component is found once, against the edges each that ends in it,
    and both ways each edge of the component twice. It does not matter in which order the edges
    were added. -/
theorem walk_component (now : String) (cs : List Change) (id : Key) (d : Direction) :
    let s := (empty now).run cs
    (∃ ids, s.IsComponent d id ids) ∧
    ∀ ids depth, s.IsComponent d id ids → (ids.length : Int) ≤ depth →
      let found := s.connections id d depth
      (found : Multiset Connection) = (ids.flatMap (s.followed d)).map s.connection ∧
      (d = .outgoing → (found.map (·.edge) : Multiset Edge)
        = s.edges.toList.filter fun e => ids.any (· == e.src)) ∧
      (d = .incoming → (found.map (·.edge) : Multiset Edge)
        = s.edges.toList.filter fun e => ids.any (· == e.dst)) ∧
      (d = .both →
        (∀ e ∈ s.edges.toList, ids.any (· == e.src) = ids.any (· == e.dst)) ∧
        (found.map (·.edge) : Multiset Edge)
          = 2 • (s.edges.toList.filter fun e => ids.any (· == e.src) : List Edge)) ∧
      ∀ now' cs', (cs'.filterMap Change.edge?).Perm (cs.filterMap Change.edge?) →
        cs'.filterMap Change.node? = cs.filterMap Change.node? →
        (((empty now').run cs').connections id d depth : Multiset Connection) = found := by
  intro s
  have hs : Coherent s := coherent_run (coherent_empty now) cs
  refine ⟨hs.exists_isComponent d id, ?_⟩
  intro ids depth hc hdepth found
  have hedges := hc.edges_perm hs hdepth
  refine ⟨Multiset.coe_eq_coe.mpr (hc.connections_perm hs hdepth), ?_, ?_, ?_, ?_⟩
  · rintro rfl
    rw [followed_outgoing] at hedges
    exact Multiset.coe_eq_coe.mpr (hedges.trans (hs.flatMap_outgoing_perm hc.distinct))
  · rintro rfl
    rw [followed_incoming] at hedges
    exact Multiset.coe_eq_coe.mpr (hedges.trans (hs.flatMap_incoming_perm hc.distinct))
  · rintro rfl
    refine ⟨fun e he => hc.within hs he, ?_⟩
    rw [two_nsmul, Multiset.coe_add, Multiset.coe_eq_coe]
    exact hedges.trans (hc.flatMap_followed_both hs)
  · intro now' cs' hperm hnodes
    have ht : Coherent ((empty now').run cs') := coherent_run (coherent_empty now') cs'
    have harena : ((empty now').run cs').edges.toList.Perm s.edges.toList := by
      rw [edges_run, edges_run]
      exact hperm.append_left []
    have hsymbols : ((empty now').run cs').nodes = s.nodes := by
      rw [nodes_run, nodes_run, hnodes]
      rfl
    exact Multiset.coe_eq_coe.mpr (hc.connections_of_edges_perm ht hs harena hsymbols hdepth)

/-! ### A graph with cycles -/

/-- Calls back and forth between `a` and `b`, one of them twice, a call of `a` by itself and one
    from outside. -/
def cycles : List Change :=
  [callEdge "a" "b", callEdge "b" "a", callEdge "a" "a", callEdge "a" "b", callEdge "c" "a"].map
    .addEdge

theorem cycles_component_outgoing :
    ((empty "t0").run cycles).IsComponent .outgoing (.str "a") [.str "a", .str "b"] where
  distinct := by simp [Distinct]
  reached := by
    have hb : (callEdge "a" "b", Key.str "b")
        ∈ ((empty "t0").run cycles).steps .outgoing (.str "a") := .head _
    simpa using ⟨⟨0, .start⟩, ⟨1, .step .start hb⟩⟩
  all := reachesOnly_of_closed (by decide) (by decide)

theorem cycles_component_both :
    ((empty "t0").run cycles).IsComponent .both (.str "a") [.str "a", .str "b", .str "c"] where
  distinct := by simp [Distinct]
  reached := by
    have hb : (callEdge "a" "b", Key.str "b")
        ∈ ((empty "t0").run cycles).steps .both (.str "a") := .head _
    have hc : (callEdge "c" "a", Key.str "c")
        ∈ ((empty "t0").run cycles).steps .both (.str "a") :=
      List.mem_of_getElem? (i := 5) rfl
    simpa using ⟨⟨0, .start⟩, ⟨1, .step .start hb⟩, ⟨1, .step .start hc⟩⟩
  all := reachesOnly_of_closed (by decide) (by decide)

/-- Two hops are enough for what `a` calls: the four edges between `a` and `b`, each once. Three
    hops are enough both ways: all five edges, each twice, also the one from `a` to itself. With
    the edges added the other way round the same is found. -/
theorem walk_component_cycles :
    let s := (empty "t0").run cycles
    s.IsComponent .outgoing (.str "a") [.str "a", .str "b"] ∧
    s.IsComponent .both (.str "a") [.str "a", .str "b", .str "c"] ∧
    ((s.connections (.str "a") .outgoing 2).map (·.edge) : Multiset Edge)
      = [callEdge "a" "b", callEdge "b" "a", callEdge "a" "a", callEdge "a" "b"] ∧
    ((s.connections (.str "a") .both 3).map (·.edge) : Multiset Edge)
      = 2 • (s.edges.toList : Multiset Edge) ∧
    (((empty "t1").run cycles.reverse).connections (.str "a") .both 3 : Multiset Connection)
      = s.connections (.str "a") .both 3 := by
  intro s
  refine ⟨cycles_component_outgoing, cycles_component_both, ?_, ?_, ?_⟩
  · exact ((walk_component "t0" cycles (.str "a") .outgoing).2 _ 2 cycles_component_outgoing
      (by decide)).2.1 rfl
  · exact (((walk_component "t0" cycles (.str "a") .both).2 _ 3 cycles_component_both
      (by decide)).2.2.2.1 rfl).2
  · obtain ⟨_, _, _, _, horder⟩ := (walk_component "t0" cycles (.str "a") .both).2 _ 3
      cycles_component_both (by decide)
    refine horder "t1" cycles.reverse ?_ rfl
    rw [List.filterMap_reverse]
    exact List.reverse_perm _

end SymbolGraph.Store
