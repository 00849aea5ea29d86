import SymbolGraph.Proofs.Walks

/-! # Walks by recursion

    A depth-first walk is most plainly said by recursion: `Store.visit` goes through the
    edges of an id and, directly after an edge that leads to a new id, visits that id. What
    runs is a loop over a stack, because a recursion as deep as the longest chain of edges
    would not fit.

    * `Store.EndsIn` is the loop itself, without fuel: after a number of moves its stack is
      empty.
    * `Store.unwind` reads a stack as the recursive calls that are still to be made, the
      topmost first. No move changes what was found together with what the stack unwinds
      to (`Store.unwind_expand`, `Store.unwind_skip`).
    * So the loop ends with what the recursion returns, in the same order
      (`Store.walk_eq_visit`). That it ends is `Store.Coherent.exists_endsIn`: what is left to
      be found pays for the moves.
-/

namespace SymbolGraph.Store

/-! ## The recursion -/

mutual

/-- Visit an id that is a number of hops away: go through the edges that leave it, then
    those that enter it, as far as they are followed. The result is what is found on the way,
    in order, and the ids that are visited by then. -/
def visit (s : Store) (d : Direction) (depth : Int) (id : Key) (hops : Int) (visited : List Key) :
    List Connection × List Key :=
  let out :=
    if d.followsOut then s.alongEdges d depth Edge.dst (s.outgoing id) hops visited
    else ([], visited)
  let back :=
    if d.followsIn then s.alongEdges d depth Edge.src (s.incoming id) hops out.2
    else ([], out.2)
  (out.1 ++ back.1, back.2)
termination_by ((depth - hops).toNat, 1, 0)

/-- Go along edges from an id that is a number of hops away. The far end of an edge is
    visited directly after the edge, if it is new and still within the limit. -/
def alongEdges (s : Store) (d : Direction) (depth : Int) (far : Edge → Key) (edges : List Edge)
    (hops : Int) (visited : List Key) : List Connection × List Key :=
  match edges with
  | [] => ([], visited)
  | e :: more =>
    let deeper :=
      if _h : hops + 1 < depth ∧ visited.contains (far e) = false then
        s.visit d depth (far e) (hops + 1) (far e :: visited)
      else ([], visited)
    let rest := s.alongEdges d depth far more hops deeper.2
    (s.connection e :: (deeper.1 ++ rest.1), rest.2)
termination_by ((depth - hops).toNat, 0, edges.length)

end

/-! ## Pending calls -/

/-- Take steps from an id that is a number of hops away, and visit the ids that they lead
    to. It is `alongEdges` for edges that may be followed either way. -/
def takeSteps (s : Store) (d : Direction) (depth : Int) (hops : Int) :
    List Step → List Key → List Connection × List Key
  | [], visited => ([], visited)
  | (e, id) :: more, visited =>
    let deeper :=
      if hops + 1 < depth ∧ visited.contains id = false then
        s.visit d depth id (hops + 1) (id :: visited)
      else ([], visited)
    let rest := s.takeSteps d depth hops more deeper.2
    (s.connection e :: (deeper.1 ++ rest.1), rest.2)

/-- What the recursive calls on a stack find, the topmost first. -/
def unwind (s : Store) (d : Direction) (depth : Int) :
    List (List Step × Int) → List Key → List Connection
  | [], _ => []
  | (steps, hops) :: rest, visited =>
    let top := s.takeSteps d depth hops steps visited
    top.1 ++ s.unwind d depth rest top.2

section
variable (s : Store) (d : Direction) (depth hops : Int)

theorem takeSteps_append (xs ys : List Step) (visited : List Key) :
    s.takeSteps d depth hops (xs ++ ys) visited
      = let first := s.takeSteps d depth hops xs visited
        let second := s.takeSteps d depth hops ys first.2
        (first.1 ++ second.1, second.2) := by
  induction xs generalizing visited with
  | nil => simp [takeSteps]
  | cons st xs ih =>
    obtain ⟨e, id⟩ := st
    simp [takeSteps, ih]

theorem alongEdges_eq_takeSteps (far : Edge → Key) (edges : List Edge) (visited : List Key) :
    s.alongEdges d depth far edges hops visited
      = s.takeSteps d depth hops (edges.map fun e => (e, far e)) visited := by
  induction edges generalizing visited with
  | nil => simp [alongEdges, takeSteps]
  | cons e edges ih =>
    rw [alongEdges]
    simp [takeSteps, ih]

/-- To visit an id is to take all steps from it. -/
theorem visit_eq_takeSteps (id : Key) (visited : List Key) :
    s.visit d depth id hops visited = s.takeSteps d depth hops (s.steps d id) visited := by
  rw [visit]
  unfold steps
  rw [takeSteps_append]
  cases d <;> simp [Direction.followsOut, Direction.followsIn, alongEdges_eq_takeSteps, takeSteps]

end

/-! ## The loop -/

section
variable {s : Store} {d : Direction} {depth : Int}

/-! ### What a move does to the pending calls -/

variable {hops : Int} {rest : List (List Step × Int)} {visited : List Key}

theorem unwind_pop : s.unwind d depth (([], hops) :: rest) visited
    = s.unwind d depth rest visited := by
  simp [unwind, takeSteps]

variable {e : Edge} {k : Key} {more : List Step}

theorem unwind_expand (hgo : hops + 1 < depth ∧ visited.contains k = false) :
    s.unwind d depth (((e, k) :: more, hops) :: rest) visited
      = s.connection e ::
        s.unwind d depth ((s.steps d k, hops + 1) :: (more, hops) :: rest) (k :: visited) := by
  simp [unwind, takeSteps, hgo, visit_eq_takeSteps]

theorem unwind_skip (hstop : ¬ (hops + 1 < depth ∧ visited.contains k = false)) :
    s.unwind d depth (((e, k) :: more, hops) :: rest) visited
      = s.connection e :: s.unwind d depth ((more, hops) :: rest) visited := by
  simp [unwind, takeSteps, if_neg hstop]

/-! ### A whole run of the loop -/

/-- At its end the loop has found what its stack unwinds to. -/
theorem EndsIn.eq_unwind {n : Nat} {stack : List (List Step × Int)} {visited : List Key}
    {found result : List Connection} (h : EndsIn s d depth n stack visited found result) :
    result = found.reverse ++ s.unwind d depth stack visited := by
  induction h with
  | done => simp [unwind]
  | pop _ ih => rw [ih, unwind_pop]
  | expand hgo _ ih => rw [ih, unwind_expand hgo, List.reverse_cons, List.append_assoc]; rfl
  | skip hstop _ ih => rw [ih, unwind_skip hstop, List.reverse_cons, List.append_assoc]; rfl

end

/-- **A walk is the recursive one.** In a graph that was reached by any run, the loop of a
    walk comes to an end, and what it has found then is, in the same order, what visiting the
    id by recursion finds. Without a hop nothing is found. Each connection is an edge of the graph
    with the symbols that are set at its source and at its target, where there are any. -/
theorem walk_eq_visit (now : String) (cs : List Change) (id : Key) (d : Direction)
    (depth : Int) :
    let s := (empty now).run cs
    s.connections id d depth = (if 0 < depth then (s.visit d depth id 0 [id]).1 else []) ∧
    (0 < depth → ∃ n ≤ s.walkBound,
      s.EndsIn d depth n [(s.steps d id, 0)] [id] [] (s.connections id d depth)) ∧
    ∀ c ∈ s.connections id d depth,
      ∃ e ∈ s.edges.toList, c = ⟨e, s.nodes.get? e.src, s.nodes.get? e.dst⟩ := by
  intro s
  have hs : Coherent s := coherent_run (coherent_empty now) cs
  have hedges : ∀ c ∈ s.connections id d depth,
      ∃ e ∈ s.edges.toList, c = ⟨e, s.nodes.get? e.src, s.nodes.get? e.dst⟩ :=
    fun _ hc => hs.exists_edge_of_mem_connections hc
  by_cases hdepth : 0 < depth
  · obtain ⟨n, hn, _, hends, _⟩ := hs.exists_endsIn d hdepth id
    refine ⟨?_, fun _ => ⟨n, hn, hends⟩, hedges⟩
    -- one frame is on the stack at first, and it stands for the visit of the start
    rw [if_pos hdepth, hends.eq_unwind, visit_eq_takeSteps]
    simp [unwind]
  · refine ⟨?_, fun h => absurd h hdepth, hedges⟩
    unfold connections
    rw [if_pos (by omega), if_neg hdepth]

end SymbolGraph.Store
