import Mathlib.Data.List.Flatten
import Mathlib.Data.Multiset.Defs
import SymbolGraph.Proofs.Rereading
import SymbolGraph.Proofs.Walks

/-! # Walks in a graph that was read

    A document keeps the order of the edges that leave an id, and not of those that enter
    it. A walk along incoming edges expands an id where it is reached first, which the
    order decides, so a limited walk can end elsewhere in the graph that was written than
    in the graph that is read (`Store.reread_walk_longer`).

    `Store.reread_walks` says what can be relied on. Where the number of hops is settled,
    that is at most two or at least the number of ids to reach, the answers are the same up
    to order. In any case both are part of the answer without a limit.
-/

namespace SymbolGraph.Store

/-! ## Numbers of hops for which the order does not matter -/

/-- A walk of at most two hops, or of as many as there are ids to reach. -/
def Settled (s : Store) (d : Direction) (id : Key) (depth : Int) : Prop :=
  depth ≤ 2 ∨ ∃ all, s.ReachesOnly d id all ∧ (all.length : Int) ≤ depth

section
variable {s : Store} {d : Direction} {depth : Int} {id : Key} {ids : Expanded}

theorem Settled.covers (hset : s.Settled d id depth) (h : Expansion s d depth id ids) {n : Nat}
    {k : Key} (hk : s.Reaches d id n k) (hn : (n : Int) < depth) : Expanded.has ids k := by
  rcases hset with hnear | ⟨all, hall, hlen⟩
  · exact h.covers_near hnear hk hn
  · exact h.covers_all hall hlen hk

/-- Ids that are closed under steps are all that can be reached. -/
theorem reachesOnly_of_closed {all : List Key} (hid : ∃ j ∈ all, (j == id) = true)
    (hclosed : ∀ i ∈ all, ∀ st ∈ s.steps d i, ∃ j ∈ all, (j == st.2) = true) :
    s.ReachesOnly d id all := by
  intro n k hk
  induction hk with
  | start => exact hid
  | step _ hst ih =>
    obtain ⟨i, hi, hik⟩ := ih
    rw [← steps_congr s d hik] at hst
    exact hclosed i hi _ hst

end

/-! ## The same graph -/

section
variable {t s : Store}

theorem SameGraph.steps_perm (h : SameGraph t s) (d : Direction) (id : Key) :
    (t.steps d id).Perm (s.steps d id) := by
  unfold steps
  refine List.Perm.append ?_ ?_
  · rw [h.outgoing]
  · split
    · exact (h.incoming id).map _
    · exact List.Perm.refl _

variable {d : Direction} {depth : Int} {id : Key}

theorem SameGraph.reaches_iff (h : SameGraph t s) {n : Nat} {k : Key} :
    t.Reaches d id n k ↔ s.Reaches d id n k := by
  constructor
  · exact Reaches.mono fun k => (h.steps_perm d k).subset
  · exact Reaches.mono fun k => (h.steps_perm d k).symm.subset

theorem SameGraph.settled (h : SameGraph t s) (hset : s.Settled d id depth) :
    t.Settled d id depth := by
  rcases hset with hnear | ⟨all, hall, hlen⟩
  · exact .inl hnear
  · exact .inr ⟨all, fun n k hk => hall n k (h.reaches_iff.mp hk), hlen⟩

/-- A walk in one graph finds no more than a walk in the other, if the ids that it can
    expand are all expanded there. -/
theorem SameGraph.subperm_of_covers (h : SameGraph t s) {ids ids' : Expanded}
    (ht : Visits t d depth id ids)
    (hcovers : ∀ x ∈ ids, Expanded.has ids' x.1) :
    (t.expandedConnections d ids).Subperm (s.expandedConnections d ids') := by
  have hconnection : t.connection = s.connection := funext h.connection_eq
  have hfollowed : ∀ k, (t.followed d k).Perm (s.followed d k) := by
    intro k
    rw [← map_fst_steps, ← map_fst_steps]
    exact (h.steps_perm d k).map _
  -- first the same ids in the other graph, then more ids in that graph
  have hsame : ((ids.map (·.1)).flatMap (t.followed d)).Perm ((ids.map (·.1)).flatMap (s.followed d)) :=
    List.Perm.flatMap_left _ fun k _ => hfollowed k
  have hmore : ((ids.map (·.1)).flatMap (s.followed d)).Subperm
      ((ids'.map (·.1)).flatMap (s.followed d)) := by
    apply flatMap_subperm_of_covers (s.followed_congr d) ht.distinct
    intro k hk
    obtain ⟨x, hx, rfl⟩ := List.mem_map.mp hk
    obtain ⟨y, hy, hyx⟩ := hcovers x hx
    exact ⟨y.1, List.mem_map_of_mem hy, hyx⟩
  have hinjective : Function.Injective s.connection := fun _ _ heq => congrArg Connection.edge heq
  rw [expandedConnections_eq_map, expandedConnections_eq_map, hconnection]
  exact (hsame.subperm.trans hmore).map hinjective

end

/-! ## Walks in both graphs -/

section
variable {t s : Store} {d : Direction} {depth : Int} {id : Key}

/-- Where the number of hops is settled, walks find the same connections. -/
theorem SameGraph.connections_perm (h : SameGraph t s) (ht : Coherent t) (hs : Coherent s)
    (hset : s.Settled d id depth) :
    (t.connections id d depth).Perm (s.connections id d depth) := by
  by_cases hdepth : 0 < depth
  · obtain ⟨ids, hids, hfound⟩ := ht.connections_expansion d hdepth id
    obtain ⟨ids', hids', hfound'⟩ := hs.connections_expansion d hdepth id
    refine hfound.trans (List.Perm.trans ?_ hfound'.symm)
    -- what one walk expands was reached within the limit, so the other expands it, too
    have hsub : ∀ x ∈ ids, Expanded.has ids' x.1 := fun x hx =>
      hset.covers hids' (h.reaches_iff.mp (hids.reached x hx)) (hids.within x hx)
    have hsub' : ∀ x ∈ ids', Expanded.has ids x.1 := fun x hx =>
      (h.settled hset).covers hids (h.reaches_iff.mpr (hids'.reached x hx)) (hids'.within x hx)
    exact (h.subperm_of_covers hids.toVisits hsub).antisymm
      (h.symm.subperm_of_covers hids'.toVisits hsub')
  · unfold connections
    rw [if_pos (by omega), if_pos (by omega)]

/-- A walk with a limit finds a part of what a walk finds that reaches all ids. -/
theorem SameGraph.connections_subperm (h : SameGraph t s) (ht : Coherent t) (hs : Coherent s)
    {all : List Key} (hall : s.ReachesOnly d id all) {full : Int} (hfull : (all.length : Int) ≤ full) :
    (t.connections id d depth).Subperm (s.connections id d full) := by
  by_cases hdepth : 0 < depth
  · have hpos : 0 < full := by
      obtain ⟨j, hj, _⟩ := hall 0 id .start
      have := List.length_pos_of_mem hj
      omega
    obtain ⟨ids, hids, hfound⟩ := ht.connections_expansion d hdepth id
    obtain ⟨ids', hids', hfound'⟩ := hs.connections_expansion d hpos id
    refine hfound.subperm.trans (List.Subperm.trans ?_ hfound'.symm.subperm)
    exact h.subperm_of_covers hids.toVisits fun x hx =>
      hids'.covers_all hall hfull (h.reaches_iff.mp (hids.reached x hx))
  · unfold connections
    rw [if_pos (by omega)]
    exact List.nil_subperm

end

/-- The calls around the functions of a name, where the order of the calls of a function
    is left open. -/
def callsAround (s : Store) (name : String) (depth : Int) :
    Except Malformed (List (Hit × Multiset Connection)) :=
  (s.callGraph name depth).map fun entries => entries.map fun e => (e.hit, ↑e.connections)

theorem SameGraph.callsAround_eq {t s : Store} (h : SameGraph t s) (ht : Coherent t)
    (hs : Coherent s) {depth : Int} (hset : ∀ id, s.Settled .both id depth) (name : String) :
    t.callsAround name depth = s.callsAround name depth := by
  have hsearch : ∀ kind, t.search name kind = s.search name kind := by
    intro kind
    unfold search scored
    rw [h.nodes]
  have hcalls : ∀ id, (((t.connections id .both depth).filter isCall : List Connection) :
      Multiset Connection) = ((s.connections id .both depth).filter isCall : List Connection) :=
    fun id => Multiset.coe_eq_coe.mpr ((h.connections_perm ht hs (hset id)).filter _)
  unfold callsAround callGraph
  rw [hsearch]
  cases s.search name (some Kind.function.name) with
  | error e => rfl
  | ok hits =>
    show Except.ok (((hits.take callGraphLimit).map _).map _)
      = Except.ok (((hits.take callGraphLimit).map _).map _)
    rw [List.map_map, List.map_map]
    congr 2
    funext hit
    exact Prod.ext rfl (hcalls hit.id)

/-! ## After any run -/

/-- **Walks in a graph that was read.** The document of a graph that was reached by any run
    can be read. Where the number of hops is settled, walks in any direction find the same
    connections in what is read as in what was written, and so the same calls are found
    around the functions of a name. Any walk finds no connection more often than a walk
    that reaches all ids. -/
theorem reread_walks (now : String) (cs : List Change) (hcs : ∀ c ∈ cs, c.isFit = true) :
    let s := (empty now).run cs
    ∃ t, ofDocument s.toDocument = .ok t ∧
      (∀ id d depth, s.Settled d id depth →
        (t.connections id d depth : Multiset Connection) = s.connections id d depth) ∧
      (∀ name depth, (∀ id, s.Settled .both id depth) →
        t.callsAround name depth = s.callsAround name depth) ∧
      ∀ id d all depth full, s.ReachesOnly d id all → (all.length : Int) ≤ full →
        (t.connections id d depth : Multiset Connection) ≤ s.connections id d full ∧
        (s.connections id d depth : Multiset Connection) ≤ s.connections id d full := by
  intro s
  have hs : Regular s := (regular_empty now).run hcs
  have hsame := hs.coherent.sameGraph_reread
  have ht := coherent_reread s
  refine ⟨s.reread, ofDocument_toDocument hs.filable, ?_, ?_, ?_⟩
  · intro id d depth hset
    exact Multiset.coe_eq_coe.mpr (hsame.connections_perm ht hs.coherent hset)
  · intro name depth hset
    exact hsame.callsAround_eq ht hs.coherent hset name
  · intro id d all depth full hall hfull
    exact ⟨Multiset.coe_le.mpr (hsame.connections_subperm ht hs.coherent hall hfull),
      Multiset.coe_le.mpr ((sameGraph_refl s).connections_subperm hs.coherent hs.coherent hall hfull)⟩

/-- Two ways lead back from `r` to `b`, one of them longer: walks of two hops and of five,
    for the five ids there are, find the same before and after. -/
theorem reread_walks_two_ways :
    let edge (a b : String) : Change := .addEdge ⟨.str a, .str b, .str "calls"⟩
    let cs := [edge "b" "a", edge "a" "r", edge "b" "r", edge "c" "b", edge "d" "c"]
    let s := (empty "t0").run cs
    (∀ c ∈ cs, c.isFit = true) ∧
    ∃ t, ofDocument s.toDocument = .ok t ∧
      (t.connections (.str "r") .incoming 2 : Multiset Connection)
        = s.connections (.str "r") .incoming 2 ∧
      (t.connections (.str "r") .incoming 5 : Multiset Connection)
        = s.connections (.str "r") .incoming 5 := by
  intro edge cs s
  have hcs : ∀ c ∈ cs, c.isFit = true := by decide
  refine ⟨hcs, ?_⟩
  obtain ⟨t, ht, hwalks, _, _⟩ := reread_walks "t0" cs hcs
  refine ⟨t, ht, hwalks _ _ _ (.inl (by decide)), hwalks _ _ _ (.inr ?_)⟩
  refine ⟨[.str "r", .str "a", .str "b", .str "c", .str "d"], ?_, by decide⟩
  exact reachesOnly_of_closed (by decide) (by decide)

/-- In the same graph, a walk of three hops reaches `b` first by the longer way and has no
    hop left for the edge from `d`. In what is read from its document the edges are in
    another order, `b` is reached by the shorter way, and that edge is found. -/
theorem reread_walk_longer :
    let edge (a b : String) : Change := .addEdge ⟨.str a, .str b, .str "calls"⟩
    let cs := [edge "b" "a", edge "a" "r", edge "b" "r", edge "c" "b", edge "d" "c"]
    let s := (empty "t0").run cs
    (∀ c ∈ cs, c.isFit = true) ∧
    ∃ t, ofDocument s.toDocument = .ok t ∧
      (s.connections (.str "r") .incoming 3).length = 4 ∧
      (t.connections (.str "r") .incoming 3).length = 5 := by
  intro edge cs s
  exact ⟨by decide, s.reread, rfl, by decide, by decide⟩

end SymbolGraph.Store
