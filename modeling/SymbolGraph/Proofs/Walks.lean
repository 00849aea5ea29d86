import Mathlib.Data.List.Flatten
import Mathlib.Data.List.Perm.Subperm
import SymbolGraph.Graph.Traversal
import SymbolGraph.Proofs.Indexes

/-! # What a walk finds

    A walk goes depth first and expands no id twice. The ids that it expands, each with
    the number of hops at which it was reached, say all about the connections that it
    finds: they are those of the steps from the expanded ids, each id once, in some order
    (`Store.Coherent.connections_expansion`).

    * `Store.Reaches` says where the steps from an id lead, whatever a walk does.
    * `Store.EndsIn` is the loop of a walk without fuel.
    * `Store.Visits` says what holds of the expanded ids at any time, and
      `Store.Walking` adds the stack and what was found. There is one lemma for each of
      the three things that a walk can do next, and from them it follows that the loop
      comes to its end (`Store.Walking.exists_endsIn`).
    * `Store.Expansion` says what holds of the expanded ids at the end: those that were
      reached early enough have had all their neighbours expanded.

    Which ids are expanded depends on the order of the steps, because an id may be
    reached late first. It does not for at most two hops, and not if there are as many
    hops as ids (`Store.Expansion.covers_near`, `Store.Expansion.covers_all`).
-/

namespace SymbolGraph

namespace Key

/-- The spelling that is picked is spelled that way. -/
@[simp] theorem canonical_canonical (k : Key) : k.canonical.canonical = k.canonical := by
  cases k with
  | real x => cases hx : wholeValue? x <;> simp [canonical, hx]
  | null | bool | int | str => rfl

theorem canonical_beq (k : Key) : (k.canonical == k) = true :=
  beq_iff.mpr k.canonical_canonical

/-- Distinct keys have distinct spellings. -/
theorem nodup_map_canonical {ks : List Key} (h : Distinct ks) : (ks.map canonical).Nodup := by
  refine List.pairwise_map.mpr (h.imp ?_)
  intro a b hab heq
  rw [beq_iff.mpr heq] at hab
  cases hab

end Key

/-! ## Parts of a list that belong to distinct keys -/

/-- The parts of a list that belong to distinct keys are, put together, what belongs to any of
    them. -/
theorem flatMap_filter_perm_filter {κ α : Type} [BEq κ] [EquivBEq κ] (key : α → κ) {ks : List κ}
    (hd : Distinct ks) (l : List α) :
    (ks.flatMap fun k => l.filter (key · == k)).Perm (l.filter fun a => ks.any (· == key a)) := by
  -- what belongs to none of the keys is left out
  let covered := l.filter fun a => ks.any (· == key a)
  have hparts : (ks.flatMap fun k => l.filter (key · == k))
      = ks.flatMap fun k => covered.filter (key · == k) := by
    apply List.flatMap_congr
    intro k hk
    rw [List.filter_filter]
    congr 1
    funext a
    cases hak : (key a == k) with
    | false => rfl
    | true =>
      have hcovered : (ks.any (· == key a)) = true :=
        List.any_eq_true.mpr ⟨k, hk, BEq.symm hak⟩
      rw [hcovered]
      rfl
  rw [hparts]
  exact flatMap_filter_perm key hd fun a ha => (List.mem_filter.mp ha).2

/-- Going through distinct keys gives no more than going through keys among which all of them
    are, maybe spelled otherwise. -/
theorem flatMap_subperm_of_covers {β : Type} {f : Key → List β}
    (hf : ∀ {a b : Key}, (a == b) = true → f a = f b) {ks js : List Key} (hd : Distinct ks)
    (hcovers : ∀ k ∈ ks, ∃ j ∈ js, (j == k) = true) : (ks.flatMap f).Subperm (js.flatMap f) := by
  have hcanonical : ∀ l : List Key, l.flatMap f = (l.map Key.canonical).flatMap f := by
    intro l
    rw [List.flatMap_map]
    exact List.flatMap_congr fun k _ => (hf k.canonical_beq).symm
  -- different keys have different spellings, so a list of them is part of one with all
  have hsub : (ks.map Key.canonical).Subperm (js.map Key.canonical) := by
    refine List.subperm_of_subset (Key.nodup_map_canonical hd) ?_
    intro c hc
    obtain ⟨k, hk, rfl⟩ := List.mem_map.mp hc
    obtain ⟨j, hj, hjk⟩ := hcovers k hk
    exact List.mem_map.mpr ⟨j, hj, Key.beq_iff.mp hjk⟩
  obtain ⟨part, hperm, hpart⟩ := hsub
  rw [hcanonical ks, hcanonical js]
  exact (hperm.symm.flatMap_right f).subperm.trans (hpart.flatMap f).subperm

namespace Store

/-! ## Where steps lead -/

/-- An id is reached from another by a number of steps. -/
inductive Reaches (s : Store) (d : Direction) (id : Key) : Nat → Key → Prop where
  | start : Reaches s d id 0 id
  | step {n : Nat} {k : Key} {st : Step} (h : Reaches s d id n k) (hst : st ∈ s.steps d k) :
      Reaches s d id (n + 1) st.2

/-- What is reached in one graph is reached in another one that has all its steps. -/
theorem Reaches.mono {t s : Store} {d : Direction} (hsteps : ∀ k, s.steps d k ⊆ t.steps d k)
    {id : Key} {n : Nat} {k : Key} (h : s.Reaches d id n k) : t.Reaches d id n k := by
  induction h with
  | start => exact .start
  | step _ hst ih => exact .step ih (hsteps _ hst)

/-- Ids that are the same have the same steps. -/
theorem steps_congr (s : Store) (d : Direction) {k j : Key} (h : (k == j) = true) :
    s.steps d k = s.steps d j := by
  unfold steps outgoing incoming
  rw [Table.get?_congr s.forward h, Table.get?_congr s.backward h]

/-- The ids on a way along steps that meets no id twice, the last one first. -/
inductive Route (s : Store) (d : Direction) (id : Key) : List Key → Prop where
  | start : Route s d id [id]
  | step {k : Key} {ks : List Key} {st : Step} (h : Route s d id (k :: ks))
      (hst : st ∈ s.steps d k) (hnew : ∀ j ∈ k :: ks, (j == st.2) = false) :
      Route s d id (st.2 :: k :: ks)

/-- The edges that are followed from an id: those that leave it, then those that enter it. -/
def followed (s : Store) (d : Direction) (id : Key) : List Edge :=
  (if d.followsOut then s.outgoing id else []) ++ (if d.followsIn then s.incoming id else [])

theorem map_fst_steps (s : Store) (d : Direction) (id : Key) :
    (s.steps d id).map (·.1) = s.followed d id := by
  unfold steps followed
  cases d <;> simp [Direction.followsOut, Direction.followsIn, Function.comp_def]

theorem followed_congr (s : Store) (d : Direction) {k j : Key} (h : (k == j) = true) :
    s.followed d k = s.followed d j := by
  rw [← map_fst_steps, steps_congr s d h, map_fst_steps]

theorem followed_outgoing (s : Store) : s.followed .outgoing = s.outgoing := by
  funext id
  exact List.append_nil _

theorem followed_incoming (s : Store) : s.followed .incoming = s.incoming := rfl

section
variable {s : Store} {ks : List Key}

/-- The edges that leave distinct ids are those of the graph that start at one of them. -/
theorem Coherent.flatMap_outgoing_perm (h : Coherent s) (hd : Distinct ks) :
    (ks.flatMap s.outgoing).Perm (s.edges.toList.filter fun e => ks.any (· == e.src)) := by
  have hout : s.outgoing = fun k => s.edges.toList.filter (·.src == k) := funext h.outgoing_eq
  rw [hout]
  exact flatMap_filter_perm_filter Edge.src hd _

/-- The edges that enter distinct ids are those of the graph that end at one of them. -/
theorem Coherent.flatMap_incoming_perm (h : Coherent s) (hd : Distinct ks) :
    (ks.flatMap s.incoming).Perm (s.edges.toList.filter fun e => ks.any (· == e.dst)) := by
  have hin : s.incoming = fun k => s.edges.toList.filter (·.dst == k) := funext h.incoming_eq
  rw [hin]
  exact flatMap_filter_perm_filter Edge.dst hd _

theorem Coherent.outgoing_subperm (h : Coherent s) (hd : Distinct ks) :
    (ks.flatMap s.outgoing).Subperm s.edges.toList :=
  (h.flatMap_outgoing_perm hd).subperm.trans List.filter_sublist.subperm

theorem Coherent.incoming_subperm (h : Coherent s) (hd : Distinct ks) :
    (ks.flatMap s.incoming).Subperm s.edges.toList :=
  (h.flatMap_incoming_perm hd).subperm.trans List.filter_sublist.subperm

/-- In one direction, the edges followed from distinct ids are edges of the graph, each at
    most once. -/
theorem Coherent.followed_subperm_once (h : Coherent s) {d : Direction} (hboth : d ≠ .both)
    (hd : Distinct ks) : (ks.flatMap (s.followed d)).Subperm s.edges.toList := by
  cases d with
  | outgoing =>
    rw [followed_outgoing]
    exact h.outgoing_subperm hd
  | incoming => exact h.incoming_subperm hd
  | both => exact absurd rfl hboth

/-- In both directions, the edges followed from ids are those that leave them and those that
    enter them. -/
theorem flatMap_followed_both_perm (s : Store) (ks : List Key) :
    (ks.flatMap (s.followed .both)).Perm (ks.flatMap s.outgoing ++ ks.flatMap s.incoming) :=
  (List.flatMap_append_perm ks s.outgoing s.incoming).symm

/-- In any direction, the edges followed from distinct ids are edges of the graph, each at
    most twice. -/
theorem Coherent.followed_subperm_twice (h : Coherent s) (d : Direction) (hd : Distinct ks) :
    (ks.flatMap (s.followed d)).Subperm (s.edges.toList ++ s.edges.toList) := by
  by_cases hboth : d = .both
  · rw [hboth]
    exact (s.flatMap_followed_both_perm ks).subperm.trans
      ((h.outgoing_subperm hd).append (h.incoming_subperm hd))
  · have honce := h.followed_subperm_once hboth hd
    exact honce.trans (List.sublist_append_left _ _).subperm

end

/-! ## The loop without fuel -/

/-- From a state of the loop, a number of moves leads to an empty stack, with these
    connections found. -/
inductive EndsIn (s : Store) (d : Direction) (depth : Int) :
    Nat → List (List Step × Int) → List Key → List Connection → List Connection → Prop where
  | done {visited : List Key} {found : List Connection} :
      EndsIn s d depth 0 [] visited found found.reverse
  /-- All steps of the id reached last are taken. -/
  | pop {n : Nat} {hops : Int} {rest : List (List Step × Int)} {visited : List Key}
      {found result : List Connection} (h : EndsIn s d depth n rest visited found result) :
      EndsIn s d depth (n + 1) (([], hops) :: rest) visited found result
  /-- A step leads to an id whose steps come next. -/
  | expand {n : Nat} {e : Edge} {id : Key} {more : List Step} {hops : Int}
      {rest : List (List Step × Int)} {visited : List Key} {found result : List Connection}
      (hgo : hops + 1 < depth ∧ visited.contains id = false)
      (h : EndsIn s d depth n ((s.steps d id, hops + 1) :: (more, hops) :: rest) (id :: visited)
        (s.connection e :: found) result) :
      EndsIn s d depth (n + 1) (((e, id) :: more, hops) :: rest) visited found result
  /-- A step leads to an id that is visited already or too far away. -/
  | skip {n : Nat} {e : Edge} {id : Key} {more : List Step} {hops : Int}
      {rest : List (List Step × Int)} {visited : List Key} {found result : List Connection}
      (hstop : ¬ (hops + 1 < depth ∧ visited.contains id = false))
      (h : EndsIn s d depth n ((more, hops) :: rest) visited (s.connection e :: found) result) :
      EndsIn s d depth (n + 1) (((e, id) :: more, hops) :: rest) visited found result

/-- With fuel for all moves, `walkSteps` runs the loop to its end. -/
theorem EndsIn.walkSteps_eq {s : Store} {d : Direction} {depth : Int} {n fuel : Nat}
    {stack : List (List Step × Int)} {visited : List Key} {found result : List Connection}
    (h : EndsIn s d depth n stack visited found result) (hfuel : n ≤ fuel) :
    s.walkSteps d depth fuel stack visited found = result := by
  induction h generalizing fuel with
  | done => cases fuel <;> rfl
  | pop _ ih =>
    obtain ⟨fuel, rfl⟩ : ∃ m, fuel = m + 1 := ⟨fuel - 1, by omega⟩
    exact ih (by omega)
  | expand hgo _ ih =>
    obtain ⟨fuel, rfl⟩ : ∃ m, fuel = m + 1 := ⟨fuel - 1, by omega⟩
    have hcond := hgo.1
    have hnew := hgo.2
    simp only [walkSteps, hcond, hnew, decide_true, Bool.not_false, Bool.and_self, if_true]
    exact ih (by omega)
  | @skip n e id more hops rest visited found result hstop _ ih =>
    obtain ⟨fuel, rfl⟩ : ∃ m, fuel = m + 1 := ⟨fuel - 1, by omega⟩
    have hcond : (decide (hops + 1 < depth) && !visited.contains id) = false := by
      by_cases hdepth : hops + 1 < depth
      · have hseen : visited.contains id = true := by
          by_contra hnew
          exact hstop ⟨hdepth, by simpa using hnew⟩
        simp [hseen]
      · simp [hdepth]
    simp only [walkSteps, hcond, Bool.false_eq_true, if_false]
    exact ih (by omega)

/-! ## Expanded ids -/

/-- The expanded ids of a walk, each with the number of hops at which it was reached. -/
abbrev Expanded := List (Key × Nat)

/-- Whether an id is among the expanded ones. -/
def Expanded.has (ids : Expanded) (k : Key) : Prop :=
  ∃ x ∈ ids, (x.1 == k) = true

theorem contains_map_fst {ids : Expanded} {k : Key} :
    (ids.map (·.1)).contains k = true ↔ Expanded.has ids k := by
  rw [List.contains_iff_exists_mem_beq]
  constructor
  · rintro ⟨j, hj, hkj⟩
    obtain ⟨x, hx, rfl⟩ := List.mem_map.mp hj
    exact ⟨x, hx, BEq.symm hkj⟩
  · rintro ⟨x, hx, hxk⟩
    exact ⟨x.1, List.mem_map.mpr ⟨x, hx, rfl⟩, BEq.symm hxk⟩

/-- The connections of the steps from all expanded ids. -/
def expandedConnections (s : Store) (d : Direction) (ids : Expanded) : List Connection :=
  ids.flatMap fun x => (s.steps d x.1).map fun st => s.connection st.1

/-- They are the connections of the edges that are followed from these ids. -/
theorem expandedConnections_eq_map (s : Store) (d : Direction) (ids : Expanded) :
    s.expandedConnections d ids
      = ((ids.map (·.1)).flatMap (s.followed d)).map s.connection := by
  unfold expandedConnections
  rw [List.map_flatMap, List.flatMap_map]
  congr 1
  funext x
  rw [← map_fst_steps, List.map_map]
  rfl

theorem Coherent.length_expandedConnections_le {s : Store} (h : Coherent s) (d : Direction)
    {ids : Expanded} (hd : Distinct (ids.map (·.1))) :
    (s.expandedConnections d ids).length ≤ 2 * s.edges.size := by
  have hlen := (h.followed_subperm_twice d hd).length_le
  have hsize : s.edges.toList.length = s.edges.size := Array.length_toList
  rw [List.length_append, hsize] at hlen
  rw [expandedConnections_eq_map, List.length_map]
  omega

/-- What holds of the expanded ids at any time of a walk. -/
structure Visits (s : Store) (d : Direction) (depth : Int) (id : Key) (ids : Expanded) :
    Prop where
  distinct : Distinct (ids.map (·.1))
  start : (id, 0) ∈ ids
  reached : ∀ x ∈ ids, s.Reaches d id x.2 x.1
  within : ∀ x ∈ ids, (x.2 : Int) < depth
  /-- The ids on the way to an id are expanded before it. -/
  short : ∀ x ∈ ids, x.2 < ids.length
  /-- The way to an id meets expanded ids only, and none of them twice. -/
  routed : ∀ x ∈ ids, ∃ ks, s.Route d id (x.1 :: ks) ∧ ks.length = x.2 ∧
    ∀ k ∈ ks, Expanded.has ids k

section
variable {s : Store} {d : Direction} {depth : Int} {id : Key}

theorem visits_start (hdepth : 0 < depth) : Visits s d depth id [(id, 0)] where
  distinct := List.pairwise_singleton ..
  start := List.mem_singleton_self _
  reached x hx := by
    rw [List.mem_singleton.mp hx]
    exact .start
  within x hx := by
    rw [List.mem_singleton.mp hx]
    exact hdepth
  short x hx := by
    rw [List.mem_singleton.mp hx]
    exact Nat.zero_lt_one
  routed x hx := by
    rw [List.mem_singleton.mp hx]
    exact ⟨[], .start, rfl, List.forall_mem_nil _⟩

/-- A neighbour of an expanded id is expanded next. -/
theorem Visits.cons {ids : Expanded} (h : Visits s d depth id ids) {x : Key × Nat} (hx : x ∈ ids)
    {st : Step} (hst : st ∈ s.steps d x.1) (hdepth : (x.2 : Int) + 1 < depth)
    (hnew : ¬ Expanded.has ids st.2) : Visits s d depth id ((st.2, x.2 + 1) :: ids) where
  distinct := by
    refine List.pairwise_cons.mpr ⟨?_, h.distinct⟩
    intro k hk
    obtain ⟨y, hy, rfl⟩ := List.mem_map.mp hk
    rw [Bool.eq_false_iff]
    intro hsame
    exact hnew ⟨y, hy, BEq.symm hsame⟩
  start := List.mem_cons_of_mem _ h.start
  reached := by
    intro y hy
    rcases List.mem_cons.mp hy with rfl | hy
    · exact .step (h.reached x hx) hst
    · exact h.reached y hy
  within := by
    intro y hy
    rcases List.mem_cons.mp hy with rfl | hy
    · exact hdepth
    · exact h.within y hy
  short := by
    intro y hy
    rw [List.length_cons]
    rcases List.mem_cons.mp hy with rfl | hy
    · exact Nat.succ_lt_succ (h.short x hx)
    · exact Nat.lt_succ_of_lt (h.short y hy)
  routed := by
    have hmore : ∀ {k : Key}, Expanded.has ids k → Expanded.has ((st.2, x.2 + 1) :: ids) k := by
      rintro k ⟨z, hz, hzk⟩
      exact ⟨z, List.mem_cons_of_mem _ hz, hzk⟩
    intro y hy
    rcases List.mem_cons.mp hy with rfl | hy
    · -- the way to the new id goes on from the way to its neighbour
      obtain ⟨ks, hroute, hlen, hks⟩ := h.routed x hx
      have hway : ∀ k ∈ x.1 :: ks, Expanded.has ids k := by
        intro k hk
        rcases List.mem_cons.mp hk with rfl | hk
        · exact ⟨x, hx, BEq.rfl⟩
        · exact hks k hk
      refine ⟨x.1 :: ks, .step hroute hst ?_, by rw [List.length_cons, hlen], ?_⟩
      · intro j hj
        obtain ⟨z, hz, hzj⟩ := hway j hj
        rw [Bool.eq_false_iff]
        intro hsame
        exact hnew ⟨z, hz, BEq.trans hzj hsame⟩
      · exact fun k hk => hmore (hway k hk)
    · obtain ⟨ks, hroute, hlen, hks⟩ := h.routed y hy
      exact ⟨ks, hroute, hlen, fun k hk => hmore (hks k hk)⟩

/-! ## One move of a walk -/

/-- The state of a walk: the stack, the expanded ids and what was found. Every step from
    an expanded id was taken or is on the stack. -/
structure Walking (s : Store) (d : Direction) (depth : Int) (id : Key)
    (stack : List (List Step × Int)) (ids : Expanded) (found : List Connection) : Prop where
  visits : Visits s d depth id ids
  /-- The steps on the stack are steps from expanded ids. -/
  frames : ∀ f ∈ stack, ∃ x ∈ ids, (x.2 : Int) = f.2 ∧ ∀ st ∈ f.1, st ∈ s.steps d x.1
  closed : ∀ x ∈ ids, (x.2 : Int) + 1 < depth → ∀ st ∈ s.steps d x.1,
    Expanded.has ids st.2 ∨ ∃ f ∈ stack, f.2 = x.2 ∧ st ∈ f.1
  found : (found ++ (stack.flatMap (·.1)).map fun st => s.connection st.1).Perm
    (s.expandedConnections d ids)

theorem walking_start (hdepth : 0 < depth) :
    Walking s d depth id [(s.steps d id, 0)] [(id, 0)] [] where
  visits := visits_start hdepth
  frames f hf := by
    rw [List.mem_singleton.mp hf]
    exact ⟨(id, 0), List.mem_singleton_self _, rfl, fun _ hst => hst⟩
  closed x hx _ st hst := by
    rw [List.mem_singleton.mp hx] at hst ⊢
    exact .inr ⟨_, List.mem_singleton_self _, rfl, hst⟩
  found := by simp [expandedConnections]

variable {ids : Expanded} {found : List Connection} {rest : List (List Step × Int)} {hops : Int}

/-- All steps from an id are taken. -/
theorem Walking.pop (h : Walking s d depth id (([], hops) :: rest) ids found) :
    Walking s d depth id rest ids found where
  visits := h.visits
  frames f hf := h.frames f (List.mem_cons_of_mem _ hf)
  closed x hx hdepth st hst := by
    rcases h.closed x hx hdepth st hst with hhas | ⟨f, hf, hhops, hmem⟩
    · exact .inl hhas
    · rcases List.mem_cons.mp hf with rfl | hf
      · cases hmem
      · exact .inr ⟨f, hf, hhops, hmem⟩
  found := h.found

variable {e : Edge} {k : Key} {more : List Step}

/-- The connection of a step counts as found once the step is taken. -/
theorem Walking.found_take
    (h : Walking s d depth id (((e, k) :: more, hops) :: rest) ids found) :
    ((s.connection e :: found) ++ (((more, hops) :: rest).flatMap (·.1)).map
      fun st => s.connection st.1).Perm (s.expandedConnections d ids) :=
  List.perm_middle.symm.trans h.found

/-- A step leads to an id that is not expanded, because it is too far away or expanded
    already. -/
theorem Walking.skip (h : Walking s d depth id (((e, k) :: more, hops) :: rest) ids found)
    (hskip : hops + 1 < depth → Expanded.has ids k) :
    Walking s d depth id ((more, hops) :: rest) ids (s.connection e :: found) where
  visits := h.visits
  frames f hf := by
    rcases List.mem_cons.mp hf with rfl | hf
    · obtain ⟨x, hx, hhops, hsteps⟩ := h.frames _ List.mem_cons_self
      exact ⟨x, hx, hhops, fun st hst => hsteps st (List.mem_cons_of_mem _ hst)⟩
    · exact h.frames f (List.mem_cons_of_mem _ hf)
  closed x hx hdepth st hst := by
    rcases h.closed x hx hdepth st hst with hhas | ⟨f, hf, hhops, hmem⟩
    · exact .inl hhas
    · rcases List.mem_cons.mp hf with rfl | hf
      · rcases List.mem_cons.mp hmem with rfl | hmem
        · -- the step itself, which is taken now and is no longer on the stack
          rw [← hhops] at hdepth
          exact .inl (hskip hdepth)
        · exact .inr ⟨_, List.mem_cons_self, hhops, hmem⟩
      · exact .inr ⟨f, List.mem_cons_of_mem _ hf, hhops, hmem⟩
  found := h.found_take

/-- A step leads to an id that is expanded next. -/
theorem Walking.expand (h : Walking s d depth id (((e, k) :: more, hops) :: rest) ids found)
    (hdepth : hops + 1 < depth) (hnew : ¬ Expanded.has ids k) :
    ∃ n : Nat, Walking s d depth id ((s.steps d k, hops + 1) :: (more, hops) :: rest)
      ((k, n) :: ids) (s.connection e :: found) := by
  obtain ⟨x, hx, hhops, hsteps⟩ := h.frames _ List.mem_cons_self
  have hst : (e, k) ∈ s.steps d x.1 := hsteps _ List.mem_cons_self
  refine ⟨x.2 + 1, ?_, ?_, ?_, ?_⟩
  · exact h.visits.cons hx hst (by rw [hhops]; exact hdepth) hnew
  · intro f hf
    rcases List.mem_cons.mp hf with rfl | hf
    · refine ⟨_, List.mem_cons_self, ?_, fun st hst => hst⟩
      show ((x.2 + 1 : Nat) : Int) = hops + 1
      rw [Int.natCast_add, hhops]
      rfl
    · rcases List.mem_cons.mp hf with rfl | hf
      · exact ⟨x, List.mem_cons_of_mem _ hx, hhops,
          fun st hst => hsteps st (List.mem_cons_of_mem _ hst)⟩
      · obtain ⟨y, hy, hyf⟩ := h.frames f (List.mem_cons_of_mem _ hf)
        exact ⟨y, List.mem_cons_of_mem _ hy, hyf⟩
  · intro y hy hyd st hyst
    rcases List.mem_cons.mp hy with rfl | hy
    · -- the steps of the new id are all on the stack
      refine .inr ⟨_, List.mem_cons_self, ?_, hyst⟩
      show hops + 1 = ((x.2 + 1 : Nat) : Int)
      rw [Int.natCast_add, hhops]
      rfl
    · rcases h.closed y hy hyd st hyst with ⟨z, hz, hzk⟩ | ⟨f, hf, hfhops, hmem⟩
      · exact .inl ⟨z, List.mem_cons_of_mem _ hz, hzk⟩
      · rcases List.mem_cons.mp hf with rfl | hf
        · rcases List.mem_cons.mp hmem with rfl | hmem
          · -- the step itself, whose end is now expanded
            exact .inl ⟨_, List.mem_cons_self, BEq.rfl⟩
          · exact .inr ⟨_, List.mem_cons_of_mem _ List.mem_cons_self, hfhops, hmem⟩
        · exact .inr ⟨f, List.mem_cons_of_mem _ (List.mem_cons_of_mem _ hf), hfhops, hmem⟩
  · -- the steps of the new id are new on both sides
    show ((s.connection e :: found) ++ ((s.steps d k ++ (((more, hops) :: rest).flatMap (·.1))).map
      fun st => s.connection st.1)).Perm ((s.steps d k).map (fun st => s.connection st.1)
        ++ s.expandedConnections d ids)
    rw [List.map_append, ← List.append_assoc]
    refine List.Perm.trans (List.perm_append_comm.append_right _) ?_
    rw [List.append_assoc]
    exact h.found_take.append_left _

/-! ## A whole walk -/

/-- The expanded ids of a walk that has ended: what was reached early enough has had all
    its neighbours expanded. -/
structure Expansion (s : Store) (d : Direction) (depth : Int) (id : Key) (ids : Expanded) :
    Prop extends Visits s d depth id ids where
  closed : ∀ x ∈ ids, (x.2 : Int) + 1 < depth → ∀ st ∈ s.steps d x.1, Expanded.has ids st.2

/-- A walk that has nothing left to do. -/
theorem Walking.done (h : Walking s d depth id [] ids found) :
    Expansion s d depth id ids ∧ found.reverse.Perm (s.expandedConnections d ids) := by
  refine ⟨⟨h.visits, ?_⟩, ?_⟩
  · intro x hx hdepth st hst
    rcases h.closed x hx hdepth st hst with hhas | ⟨f, hf, _⟩
    · exact hhas
    · cases hf
  · have hfound := h.found
    rw [List.flatMap_nil, List.map_nil, List.append_nil] at hfound
    exact found.reverse_perm.trans hfound

/-- From any state a walk goes on to its end. It takes no more moves than are left for it:
    each of the steps that are still to be taken, at most two for each edge, opens at most one
    list. -/
theorem Walking.exists_endsIn (hs : Coherent s) (left : Nat) :
    ∀ {stack : List (List Step × Int)} {ids : Expanded} {found : List Connection},
      Walking s d depth id stack ids found →
      4 * s.edges.size + stack.length ≤ left + 2 * found.length →
      ∃ n ≤ left, ∃ result ids', EndsIn s d depth n stack (ids.map (·.1)) found result ∧
        Expansion s d depth id ids' ∧ result.Perm (s.expandedConnections d ids') := by
  induction left with
  | zero =>
    -- no more than two connections for each edge can be found, so nothing is left to do
    intro stack ids found h hleft
    have hbound := hs.length_expandedConnections_le d h.visits.distinct
    have hlen := h.found.length_eq
    rw [List.length_append] at hlen
    obtain rfl : stack = [] := List.eq_nil_of_length_eq_zero (by omega)
    exact ⟨0, Nat.le_refl _, _, ids, .done, h.done⟩
  | succ left ih =>
    intro stack ids found h hleft
    match stack, h, hleft with
    | [], h, _ => exact ⟨0, Nat.zero_le _, _, ids, .done, h.done⟩
    | ([], hops) :: rest, h, hleft =>
      -- a list that is done with is paid for by the step that opened it
      rw [List.length_cons] at hleft
      obtain ⟨n, hn, result, ids', hends, hids⟩ := ih h.pop (by omega)
      exact ⟨n + 1, by omega, result, ids', .pop hends, hids⟩
    | ((e, k) :: more, hops) :: rest, h, hleft =>
      rw [List.length_cons] at hleft
      by_cases hgo : hops + 1 < depth ∧ (ids.map (·.1)).contains k = false
      · have hnew : ¬ Expanded.has ids k := by
          rw [← contains_map_fst, hgo.2]
          exact Bool.false_ne_true
        obtain ⟨hop, hnext⟩ := h.expand hgo.1 hnew
        obtain ⟨n, hn, result, ids', hends, hids⟩ :=
          ih hnext (by simp only [List.length_cons]; omega)
        exact ⟨n + 1, by omega, result, ids', .expand hgo hends, hids⟩
      · have hskip : hops + 1 < depth → Expanded.has ids k := by
          intro hdepth
          rw [← contains_map_fst]
          by_contra hnew
          exact hgo ⟨hdepth, by simpa using hnew⟩
        obtain ⟨n, hn, result, ids', hends, hids⟩ :=
          ih (h.skip hskip) (by simp only [List.length_cons]; omega)
        exact ⟨n + 1, by omega, result, ids', .skip hgo hends, hids⟩

/-- A walk from an id comes to its end within the bound. -/
theorem Coherent.exists_endsIn (hs : Coherent s) (d : Direction) (hdepth : 0 < depth) (id : Key) :
    ∃ n ≤ s.walkBound, ∃ ids,
      EndsIn s d depth n [(s.steps d id, 0)] [id] [] (s.connections id d depth) ∧
      Expansion s d depth id ids ∧
      (s.connections id d depth).Perm (s.expandedConnections d ids) := by
  have hleft : 4 * s.edges.size + 1 ≤ s.walkBound + 0 := by
    unfold walkBound
    omega
  obtain ⟨n, hn, result, ids, hends, hids⟩ :=
    Walking.exists_endsIn hs s.walkBound (walking_start hdepth) hleft
  have hresult : s.connections id d depth = result := by
    unfold connections
    rw [if_neg (by omega)]
    exact hends.walkSteps_eq hn
  rw [hresult]
  exact ⟨n, hn, ids, hends, hids⟩

/-- **What a walk finds.** The connections within a positive number of hops are those of
    the steps from the expanded ids. -/
theorem Coherent.connections_expansion (hs : Coherent s) (d : Direction) (hdepth : 0 < depth)
    (id : Key) :
    ∃ ids, Expansion s d depth id ids ∧
      (s.connections id d depth).Perm (s.expandedConnections d ids) := by
  obtain ⟨_, _, ids, _, hids⟩ := hs.exists_endsIn d hdepth id
  exact ⟨ids, hids⟩

/-- Steps go along edges of the graph: from the source of an edge to its target, or back, as far
    as edges are followed that way. -/
theorem Coherent.mem_steps_iff (hs : Coherent s) {k : Key} {st : Step} :
    st ∈ s.steps d k ↔ st.1 ∈ s.edges.toList ∧
      ((d.followsOut = true ∧ (st.1.src == k) = true ∧ st.1.dst = st.2) ∨
        (d.followsIn = true ∧ (st.1.dst == k) = true ∧ st.1.src = st.2)) := by
  obtain ⟨e, j⟩ := st
  unfold steps
  rw [hs.outgoing_eq, hs.incoming_eq]
  cases d <;> simp [Direction.followsOut, Direction.followsIn, and_assoc, and_or_left]

/-- Everything that a walk finds is an edge of the graph, with the symbols that are set at its two
    ends. -/
theorem Coherent.exists_edge_of_mem_connections (hs : Coherent s) {c : Connection}
    (hc : c ∈ s.connections id d depth) :
    ∃ e ∈ s.edges.toList, c = ⟨e, s.nodes.get? e.src, s.nodes.get? e.dst⟩ := by
  by_cases hdepth : 0 < depth
  · obtain ⟨ids, _, hperm⟩ := hs.connections_expansion d hdepth id
    obtain ⟨x, _, hx⟩ := List.mem_flatMap.mp (hperm.mem_iff.mp hc)
    obtain ⟨st, hst, rfl⟩ := List.mem_map.mp hx
    exact ⟨st.1, (hs.mem_steps_iff.mp hst).1, rfl⟩
  · unfold connections at hc
    rw [if_pos (Int.not_lt.mp hdepth)] at hc
    cases hc

/-- Nothing is reached from an id without steps. -/
theorem Reaches.eq_of_steps_nil {k j : Key} (hk : s.steps d k = []) {n : Nat}
    (h : s.Reaches d k n j) : j = k := by
  induction h with
  | start => rfl
  | step _ hst ih =>
    rw [ih, hk] at hst
    cases hst

/-- A walk from an id without steps finds nothing. -/
theorem connections_of_steps_nil {k : Key} (hk : s.steps d k = []) (depth : Int) :
    s.connections k d depth = [] := by
  unfold connections
  split
  · rfl
  · rw [hk]
    rfl

/-! ## Which ids are expanded -/

/-- Up to two hops, the expanded ids are those within one step less. -/
theorem Expansion.covers_near (h : Expansion s d depth id ids) (hdepth : depth ≤ 2) {n : Nat}
    {k : Key} (hk : s.Reaches d id n k) (hn : (n : Int) < depth) : Expanded.has ids k := by
  cases hk with
  | start => exact ⟨_, h.start, BEq.rfl⟩
  | @step m j st hj hst =>
    -- one step is left, and it starts at the start
    have hm : m = 0 := by omega
    subst hm
    cases hj
    refine h.closed _ h.start ?_ st hst
    show (0 : Int) + 1 < depth
    omega

/-- All ids that can be reached are the same as one of a list. -/
def ReachesOnly (s : Store) (d : Direction) (id : Key) (all : List Key) : Prop :=
  ∀ n k, s.Reaches d id n k → ∃ j ∈ all, (j == k) = true

theorem Visits.subperm_of_reachesOnly (h : Visits s d depth id ids) {all : List Key}
    (hall : s.ReachesOnly d id all) :
    (ids.map (·.1.canonical)).Subperm (all.map Key.canonical) := by
  have hnodup : (ids.map (·.1.canonical)).Nodup := by
    have := Key.nodup_map_canonical h.distinct
    rwa [List.map_map] at this
  -- different ids have different spellings, so a list of them is no longer than one with all
  refine List.subperm_of_subset hnodup ?_
  intro k hk
  obtain ⟨x, hx, rfl⟩ := List.mem_map.mp hk
  obtain ⟨j, hj, hjx⟩ := hall x.2 x.1 (h.reached x hx)
  exact List.mem_map.mpr ⟨j, hj, Key.beq_iff.mp hjx⟩

/-- With as many hops as there are ids to reach, all of them are expanded. -/
theorem Expansion.covers_all (h : Expansion s d depth id ids) {all : List Key}
    (hall : s.ReachesOnly d id all) (hdepth : (all.length : Int) ≤ depth) {n : Nat} {k : Key}
    (hk : s.Reaches d id n k) : Expanded.has ids k := by
  have hsub := h.subperm_of_reachesOnly hall
  have hlen := hsub.length_le
  rw [List.length_map, List.length_map] at hlen
  induction hk with
  | start => exact ⟨_, h.start, BEq.rfl⟩
  | @step n j st hj hst ih =>
    obtain ⟨x, hx, hxj⟩ := ih
    have hstx : st ∈ s.steps d x.1 := by
      rw [steps_congr s d hxj]
      exact hst
    have hshort := h.short x hx
    by_cases hlate : (x.2 : Int) + 1 < depth
    · exact h.closed x hx hlate st hstx
    · -- an id that is reached so late comes after all others
      have hsame : (ids.map (·.1.canonical)).Perm (all.map Key.canonical) := by
        refine hsub.perm_of_length_le ?_
        rw [List.length_map, List.length_map]
        omega
      obtain ⟨i, hi, hik⟩ := hall _ _ (.step (h.reached x hx) hstx)
      have hmem := hsame.symm.subset (List.mem_map.mpr ⟨i, hi, rfl⟩)
      obtain ⟨y, hy, hyi⟩ := List.mem_map.mp hmem
      exact ⟨y, hy, BEq.trans (Key.beq_iff.mpr hyi) hik⟩

end

end Store

end SymbolGraph
