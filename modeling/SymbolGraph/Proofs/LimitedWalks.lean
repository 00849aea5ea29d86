import SymbolGraph.Proofs.RereadWalks

/-! # Walks with a limit

    A walk with a limit expands ids that can be reached in fewer steps than the limit, each
    of them once, and finds the edges that are followed from them. So it finds no edge that is
    too far away, and no edge of the graph more often than it has ends that are followed
    (`Store.walk_exact`).

    It need not find all edges within the limit. An id is expanded where the walk meets it
    first, and that may be at the end of a long way, with no hop left to go on from there. The
    walk does not come back when it meets the id again on a shorter way
    (`Store.walk_stops_short`).

    What happens is that a route spends all its hops before a step (`Store.CutOff`). Only then
    the step is not followed up, so every edge of an id is found that can be reached by steps
    which no route arrives at too late (`Store.walk_complete`). That is so for the neighbours
    of the start, and for all ids if the number of hops is settled, or if all routes to the
    same id are equally long, as they are in a chain or a tree.
-/

namespace SymbolGraph.Store

variable {s : Store} {d : Direction} {depth : Int} {id : Key} {ids : Expanded}

/-! ## What is found -/

/-- The ids that a walk expands, with the start first. -/
theorem Coherent.exists_expanded (hs : Coherent s) (id : Key) (d : Direction) (depth : Int) :
    ∃ ks : List Key, Distinct ks ∧
      (if 0 < depth then ks.head? = some id else ks = []) ∧
      (∀ k ∈ ks, ∃ n : Nat, (n : Int) ≤ depth - 1 ∧ s.Reaches d id n k) ∧
      (s.connections id d depth).Perm ((ks.flatMap (s.followed d)).map s.connection) := by
  by_cases hdepth : 0 < depth
  · obtain ⟨ids, hids, hfound⟩ := hs.connections_expansion d hdepth id
    -- the start is among the expanded ids, and is put in front
    obtain ⟨before, after, hsplit⟩ := List.append_of_mem hids.start
    have hperm : (ids.map (·.1)).Perm (id :: (before ++ after).map (·.1)) := by
      rw [hsplit]
      exact List.perm_middle.map _
    refine ⟨_, distinct_perm hperm hids.distinct, by simp [hdepth], ?_, ?_⟩
    · intro k hk
      obtain ⟨x, hx, rfl⟩ := List.mem_map.mp (hperm.symm.subset hk)
      have hwithin := hids.within x hx
      exact ⟨x.2, by omega, hids.reached x hx⟩
    · rw [expandedConnections_eq_map] at hfound
      exact hfound.trans ((hperm.flatMap_right _).map _)
  · refine ⟨[], List.Pairwise.nil, by simp [hdepth], List.forall_mem_nil _, ?_⟩
    unfold connections
    rw [if_pos (by omega)]
    exact List.Perm.refl _

/-- **What a walk with a limit finds.** In a graph that was reached by any run there are ids,
    distinct, with the start first, each reached by fewer steps than the limit, such that a
    walk finds exactly the connections of the edges that are followed from them. So everything
    it finds is within the limit, and is an edge of the graph, found no more often than it is
    there; twice as often if edges are followed both ways. -/
theorem walk_exact (now : String) (cs : List Change) (id : Key) (d : Direction) (depth : Int) :
    let s := (empty now).run cs
    let found := s.connections id d depth
    (∃ ks : List Key, Distinct ks ∧
      (if 0 < depth then ks.head? = some id else ks = []) ∧
      (∀ k ∈ ks, ∃ n : Nat, (n : Int) ≤ depth - 1 ∧ s.Reaches d id n k) ∧
      (found : Multiset Connection) = (ks.flatMap (s.followed d)).map s.connection) ∧
    (∀ c ∈ found, ∃ (n : Nat) (k : Key), (n : Int) < depth ∧ s.Reaches d id n k ∧
      c.edge ∈ s.followed d k) ∧
    (d ≠ .both → (found.map (·.edge)).Subperm s.edges.toList ∧ found.length ≤ s.edgeCount) ∧
    (found.map (·.edge)).Subperm (s.edges.toList ++ s.edges.toList) ∧
    found.length ≤ 2 * s.edgeCount := by
  intro s found
  have hs : Coherent s := coherent_run (coherent_empty now) cs
  obtain ⟨ks, hdistinct, hhead, hnear, hfound⟩ := hs.exists_expanded id d depth
  have hedges : (found.map (·.edge)).Perm (ks.flatMap (s.followed d)) := by
    have hmap := hfound.map (·.edge)
    rwa [List.map_map, show (Connection.edge ∘ s.connection) = fun e => e from rfl,
      List.map_id'] at hmap
  have hlength : found.length = (found.map (·.edge)).length := (List.length_map _).symm
  have hcount : s.edges.toList.length = s.edgeCount := Array.length_toList
  refine ⟨⟨ks, hdistinct, hhead, hnear, Multiset.coe_eq_coe.mpr hfound⟩, ?_, ?_, ?_⟩
  · intro c hc
    have hmem : c.edge ∈ ks.flatMap (s.followed d) :=
      hedges.subset (List.mem_map.mpr ⟨c, hc, rfl⟩)
    obtain ⟨k, hk, hek⟩ := List.mem_flatMap.mp hmem
    obtain ⟨n, hn, hreach⟩ := hnear k hk
    exact ⟨n, k, by omega, hreach, hek⟩
  · intro hboth
    have hsub := hedges.subperm.trans (hs.followed_subperm_once hboth hdistinct)
    refine ⟨hsub, ?_⟩
    have hle := hsub.length_le
    omega
  · have hsub := hedges.subperm.trans (hs.followed_subperm_twice d hdistinct)
    refine ⟨hsub, ?_⟩
    have hle := hsub.length_le
    rw [List.length_append] at hle
    omega

/-! ## Routes -/

theorem Route.start_mem {ks : List Key} (h : s.Route d id ks) : id ∈ ks := by
  induction h with
  | start => exact List.mem_singleton_self _
  | step _ _ _ ih => exact List.mem_cons_of_mem _ ih

theorem Route.tail {j k : Key} {ks : List Key} (h : s.Route d id (j :: k :: ks)) :
    s.Route d id (k :: ks) := by
  cases h with
  | step h _ _ => exact h

/-- The way back from an id of a route to the start is a route. -/
theorem Route.from_mem {ks : List Key} (h : s.Route d id ks) {j : Key} (hj : j ∈ ks) :
    ∃ js, s.Route d id (j :: js) ∧ js.length < ks.length := by
  induction h with
  | start =>
    rw [List.mem_singleton.mp hj]
    exact ⟨[], .start, Nat.zero_lt_one⟩
  | @step k ks st h hst hnew ih =>
    rcases List.mem_cons.mp hj with rfl | hj
    · exact ⟨k :: ks, .step h hst hnew, Nat.lt_succ_self _⟩
    · obtain ⟨js, hjs, hlen⟩ := ih hj
      exact ⟨js, hjs, Nat.lt_succ_of_lt hlen⟩

/-- A route does not come back to the start. -/
theorem Route.eq_nil_of_start {k : Key} {ks : List Key} (h : s.Route d id (k :: ks))
    (hk : (k == id) = true) : ks = [] := by
  cases h with
  | start => rfl
  | step h _ hnew =>
    have hstart := hnew id h.start_mem
    rw [BEq.symm hk] at hstart
    cases hstart

/-- Whatever is reached is reached by a route that is no longer. -/
theorem Reaches.exists_route {n : Nat} {k : Key} (h : s.Reaches d id n k) :
    ∃ j ks, (j == k) = true ∧ s.Route d id (j :: ks) ∧ ks.length ≤ n := by
  induction h with
  | start => exact ⟨id, [], BEq.rfl, .start, Nat.le_refl _⟩
  | @step n k st _ hst ih =>
    obtain ⟨j, ks, hjk, hroute, hlen⟩ := ih
    rw [← steps_congr s d hjk] at hst
    by_cases hmet : ∃ i ∈ j :: ks, (i == st.2) = true
    · -- the route was there before, and is cut there
      obtain ⟨i, hi, hist⟩ := hmet
      obtain ⟨js, hjs, hle⟩ := hroute.from_mem hi
      rw [List.length_cons] at hle
      exact ⟨i, js, hist, hjs, by omega⟩
    · have hnew : ∀ i ∈ j :: ks, (i == st.2) = false := by
        intro i hi
        rw [Bool.eq_false_iff]
        exact fun hist => hmet ⟨i, hi, hist⟩
      exact ⟨st.2, j :: ks, BEq.rfl, .step hroute hst hnew, by simp only [List.length_cons]; omega⟩

/-- All routes to the same id are equally long. -/
def Levelled (s : Store) (d : Direction) (id : Key) : Prop :=
  ∀ k ks j js, s.Route d id (k :: ks) → s.Route d id (j :: js) → (k == j) = true →
    ks.length = js.length

/-! ## Steps that come too late -/

/-- A step from `k` to `j` is the last one of a route with as many steps as the limit allows
    hops. A walk along this route arrives at `k` without a hop left. -/
def CutOff (s : Store) (d : Direction) (id : Key) (depth : Int) (k j : Key) : Prop :=
  ∃ i ks, (i == k) = true ∧ s.Route d id (j :: i :: ks) ∧ (ks.length : Int) + 1 = depth

/-- An id is reached by a number of steps, none of which a walk can be cut off from. -/
inductive ReachesSafely (s : Store) (d : Direction) (id : Key) (depth : Int) :
    Nat → Key → Prop where
  | start : ReachesSafely s d id depth 0 id
  | step {n : Nat} {k : Key} {st : Step} (h : ReachesSafely s d id depth n k)
      (hst : st ∈ s.steps d k) (hsafe : ¬ s.CutOff d id depth k st.2) :
      ReachesSafely s d id depth (n + 1) st.2

/-- What is reached safely is expanded. -/
theorem Expansion.covers_safe (h : Expansion s d depth id ids) {n : Nat} {k : Key}
    (hk : s.ReachesSafely d id depth n k) : Expanded.has ids k := by
  induction hk with
  | start => exact ⟨_, h.start, BEq.rfl⟩
  | @step n k st _ hst hsafe ih =>
    obtain ⟨x, hx, hxk⟩ := ih
    have hstx : st ∈ s.steps d x.1 := by
      rw [steps_congr s d hxk]
      exact hst
    by_cases hearly : (x.2 : Int) + 1 < depth
    · exact h.closed x hx hearly st hstx
    · -- no hop is left at `x`, so the way to it is long, and the step leads back to it
      have hwithin := h.within x hx
      obtain ⟨ks, hroute, hlen, hks⟩ := h.routed x hx
      by_contra hnot
      have hnew : ∀ j ∈ x.1 :: ks, (j == st.2) = false := by
        intro j hj
        rw [Bool.eq_false_iff]
        intro hjst
        apply hnot
        rcases List.mem_cons.mp hj with rfl | hj
        · exact ⟨x, hx, hjst⟩
        · obtain ⟨y, hy, hyj⟩ := hks j hj
          exact ⟨y, hy, BEq.trans hyj hjst⟩
      exact hsafe ⟨x.1, ks, hxk, .step hroute hstx hnew, by omega⟩

/-- A step from the start is never cut off, if one hop is left after it. -/
theorem not_cutOff_start (hdepth : 1 < depth) (j : Key) : ¬ s.CutOff d id depth id j := by
  rintro ⟨i, ks, hi, hroute, hlen⟩
  rw [hroute.tail.eq_nil_of_start hi, List.length_nil] at hlen
  omega

/-- Within one step of the start, all that is reached is reached safely. -/
theorem Reaches.safely_near {n : Nat} {k : Key} (h : s.Reaches d id n k) (hn : n ≤ 1)
    (hdepth : (n : Int) < depth) : s.ReachesSafely d id depth n k := by
  cases h with
  | start => exact .start
  | @step m j st hj hst =>
    obtain rfl : m = 0 := by omega
    cases hj
    refine .step .start hst (not_cutOff_start ?_ _)
    omega

/-- If all routes to the same id are equally long, a route within the limit is safe. -/
theorem Levelled.safely (hlev : s.Levelled d id) {ks : List Key} :
    ∀ {k : Key}, s.Route d id (k :: ks) → (ks.length : Int) < depth →
      s.ReachesSafely d id depth ks.length k := by
  induction ks with
  | nil =>
    intro k hroute _
    cases hroute
    exact .start
  | cons j ks ih =>
    intro k hroute hlen
    rw [List.length_cons] at hlen
    cases hroute with
    | step hroute hst hnew =>
      refine .step (ih hroute (by omega)) hst ?_
      -- a route that is cut off here would be longer than this one
      rintro ⟨i, js, hij, hlate, hjs⟩
      have hsame := hlev i js j ks hlate.tail hroute hij
      omega

/-! ## What is found for certain -/

/-- The edges of an id that every walk expands are found. -/
theorem Coherent.found_of_covers (hs : Coherent s) (hdepth : 0 < depth) {k : Key}
    (hcovers : ∀ ids, Expansion s d depth id ids → Expanded.has ids k) :
    ∀ e ∈ s.followed d k, s.connection e ∈ s.connections id d depth := by
  intro e he
  obtain ⟨ids, hids, hfound⟩ := hs.connections_expansion d hdepth id
  obtain ⟨x, hx, hxk⟩ := hcovers ids hids
  rw [← followed_congr s d hxk] at he
  rw [expandedConnections_eq_map] at hfound
  refine hfound.symm.subset (List.mem_map.mpr ⟨e, ?_, rfl⟩)
  exact List.mem_flatMap.mpr ⟨x.1, List.mem_map.mpr ⟨x, hx, rfl⟩, he⟩

/-- **What a walk with a limit is certain to find.** In a graph that was reached by any run,
    all edges are found that are followed from an id within the limit that is reached safely.
    The neighbours of the start are reached safely, and for settled numbers of hops, or where
    all routes to the same id are equally long, nothing within the limit is missed. -/
theorem walk_complete (now : String) (cs : List Change) (id : Key) (d : Direction)
    (depth : Int) :
    let s := (empty now).run cs
    (∀ (n : Nat) k, s.ReachesSafely d id depth n k → (n : Int) < depth →
      ∀ e ∈ s.followed d k, s.connection e ∈ s.connections id d depth) ∧
    (∀ (n : Nat) k, n ≤ 1 ∨ s.Settled d id depth ∨ s.Levelled d id →
      s.Reaches d id n k → (n : Int) < depth →
      ∀ e ∈ s.followed d k, s.connection e ∈ s.connections id d depth) := by
  intro s
  have hs : Coherent s := coherent_run (coherent_empty now) cs
  have hsafely : ∀ (n : Nat) k, s.ReachesSafely d id depth n k → 0 < depth →
      ∀ e ∈ s.followed d k, s.connection e ∈ s.connections id d depth :=
    fun _ _ hk hdepth => hs.found_of_covers hdepth fun _ hids => hids.covers_safe hk
  refine ⟨fun n k hk hn => hsafely n k hk (by omega), ?_⟩
  intro n k hwhen hk hn
  rcases hwhen with hnear | hset | hlev
  · exact hsafely n k (hk.safely_near hnear hn) (by omega)
  · exact hs.found_of_covers (by omega) fun _ hids => hset.covers hids hk hn
  · -- a shortest way is a route, and leads to the same id, maybe spelled otherwise
    obtain ⟨j, ks, hjk, hroute, hlen⟩ := hk.exists_route
    have hfound := hsafely _ j (hlev.safely hroute (by omega)) (by omega)
    rw [← map_fst_steps, ← steps_congr s d hjk, map_fst_steps]
    exact hfound

/-! ### A graph with two ways to the same id -/

/-- A call from one id to another. -/
def callEdge (a b : String) : Edge :=
  ⟨.str a, .str b, .str "calls"⟩

/-- Two ways lead from `r` to `b`, the longer one by `a`, and from there one leads on to `d`. -/
def twoWays : List Change :=
  [callEdge "r" "a", callEdge "a" "b", callEdge "r" "b", callEdge "b" "c", callEdge "c" "d"].map
    .addEdge

theorem twoWays_reaches_b :
    ((empty "t0").run twoWays).Reaches .outgoing (.str "r") 1 (.str "b") := by
  have hst : (callEdge "r" "b", Key.str "b")
      ∈ ((empty "t0").run twoWays).steps .outgoing (.str "r") := .tail _ (.head _)
  exact .step .start hst

theorem twoWays_reaches_c :
    ((empty "t0").run twoWays).Reaches .outgoing (.str "r") 2 (.str "c") := by
  have hst : (callEdge "b" "c", Key.str "c")
      ∈ ((empty "t0").run twoWays).steps .outgoing (.str "b") := .head _
  exact .step twoWays_reaches_b hst

/-- A walk of three hops is sure to find what leaves `b`, which is next to `r`, and a walk of
    five hops, one for each id, is sure to find what leaves `c`. -/
theorem walk_complete_two_ways :
    let s := (empty "t0").run twoWays
    s.Settled .outgoing (.str "r") 5 ∧
    s.connection (callEdge "b" "c") ∈ s.connections (.str "r") .outgoing 3 ∧
    s.connection (callEdge "c" "d") ∈ s.connections (.str "r") .outgoing 5 := by
  intro s
  have hset : s.Settled .outgoing (.str "r") 5 := by
    refine .inr ⟨[.str "r", .str "a", .str "b", .str "c", .str "d"], ?_, by decide⟩
    exact reachesOnly_of_closed (by decide) (by decide)
  refine ⟨hset, ?_, ?_⟩
  · have hfound := (walk_complete "t0" twoWays (.str "r") .outgoing 3).2
    exact hfound 1 (.str "b") (.inl (Nat.le_refl _)) twoWays_reaches_b (by decide) _ (.head _)
  · have hfound := (walk_complete "t0" twoWays (.str "r") .outgoing 5).2
    exact hfound 2 (.str "c") (.inr (.inl hset)) twoWays_reaches_c (by decide) _ (.head _)

/-- And yet a walk of three hops does not find what leaves `c`, which is two steps away. It
    comes to `b` by way of `a`, with no hop left to go on from `c`, and when it meets `b` again,
    right after `r`, it does not start anew. -/
theorem walk_stops_short :
    let s := (empty "t0").run twoWays
    s.Reaches .outgoing (.str "r") 2 (.str "c") ∧
    callEdge "c" "d" ∈ s.followed .outgoing (.str "c") ∧
    s.connection (callEdge "c" "d") ∉ s.connections (.str "r") .outgoing 3 := by
  intro s
  have hnone : ∀ c ∈ s.connections (.str "r") .outgoing 3, (c.edge.src == .str "c") = false := by
    decide
  refine ⟨twoWays_reaches_c, .head _, ?_⟩
  intro hmem
  exact absurd (hnone _ hmem) (by decide)

end SymbolGraph.Store
