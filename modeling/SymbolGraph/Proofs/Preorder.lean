import SymbolGraph.Facts.Reader

/-! # The walk through a source tree

    The nodes of a source tree are visited with a stack: the next tree is taken from it, and its
    children are put in its place. `Tree.preorder` lists the nodes by plain recursion, each
    before its children, and `Extract.walk_eq` says that the two agree, whatever is on the stack.
    So the facts of a tree are the facts that its root reports, followed by those of its
    children, one child after another (`Extract.ofTree_subtrees`).

    Parts of a tree may look the same, so that each is visited once cannot be said of trees
    alone. Nodes are told apart by their addresses, the indexes of the children that lead to
    them (`Tree.at?`). The addresses that belong to the visited nodes are all addresses of the
    tree, in increasing order.
-/

namespace SymbolGraph

namespace Source.Tree

/-! ## Nodes in pre-order -/

mutual

/-- The nodes of a tree, each before its children. -/
def preorder : Tree → List Tree
  | ⟨kind, text, row, field, named, children⟩ =>
    ⟨kind, text, row, field, named, children⟩ :: preorderAll children

/-- The nodes of a row of trees, one tree after another. -/
def preorderAll : List Tree → List Tree
  | [] => []
  | t :: ts => preorder t ++ preorderAll ts

end

theorem preorderAll_eq_flatMap (ts : List Tree) : preorderAll ts = ts.flatMap preorder := by
  induction ts with
  | nil => rfl
  | cons t ts ih => rw [preorderAll, ih, List.flatMap_cons]

theorem preorderAll_append (ts us : List Tree) :
    preorderAll (ts ++ us) = preorderAll ts ++ preorderAll us := by
  simp only [preorderAll_eq_flatMap, List.flatMap_append]

theorem preorder_eq (t : Tree) : t.preorder = t :: t.children.flatMap preorder := by
  rw [← preorderAll_eq_flatMap]
  cases t
  rfl

mutual

theorem length_preorder : ∀ t : Tree, t.preorder.length = t.size
  | ⟨_, _, _, _, _, children⟩ => by
    rw [preorder, size, List.length_cons, length_preorderAll children, Nat.add_comm]

theorem length_preorderAll : ∀ ts : List Tree, (preorderAll ts).length = sizes ts
  | [] => rfl
  | t :: ts => by
    rw [preorderAll, sizes, List.length_append, length_preorder t, length_preorderAll ts]

end

/-! ## Addresses -/

/-- The node at an address: the indexes of the children that lead to it. -/
def at? (t : Tree) : List Nat → Option Tree
  | [] => some t
  | i :: rest => t.children[i]?.bind fun c => c.at? rest

mutual

/-- The addresses of the nodes of a tree, in pre-order. -/
def addresses : Tree → List (List Nat)
  | ⟨_, _, _, _, _, children⟩ => [] :: addressesFrom 0 children

/-- The addresses of the nodes of some children, the first of which has a given index. -/
def addressesFrom (i : Nat) : List Tree → List (List Nat)
  | [] => []
  | t :: ts => (addresses t).map (i :: ·) ++ addressesFrom (i + 1) ts

end

theorem addresses_eq (t : Tree) : t.addresses = [] :: addressesFrom 0 t.children := by
  cases t
  rfl

mutual

/-- The nodes at the addresses of a tree are its nodes in pre-order. -/
theorem map_at?_addresses : ∀ t : Tree, t.addresses.map t.at? = t.preorder.map some
  | ⟨kind, text, row, field, named, children⟩ => by
    rw [addresses, preorder, List.map_cons, List.map_cons,
      map_at?_addressesFrom ⟨kind, text, row, field, named, children⟩ children 0 rfl]
    rfl

theorem map_at?_addressesFrom (parent : Tree) : ∀ (ts : List Tree) (i : Nat),
    parent.children.drop i = ts → (addressesFrom i ts).map parent.at? = (preorderAll ts).map some
  | [], _, _ => rfl
  | t :: ts, i, hdrop => by
    have hchild : parent.children[i]? = some t := by
      rw [← List.head?_drop, hdrop, List.head?_cons]
    have hrest : parent.children.drop (i + 1) = ts := by
      rw [← List.tail_drop, hdrop, List.tail_cons]
    have hbelow : parent.at? ∘ (i :: ·) = t.at? := by
      funext a
      show (parent.children[i]?.bind fun c => c.at? a) = _
      rw [hchild, Option.bind_some]
    rw [addressesFrom, preorderAll, List.map_append, List.map_append, List.map_map, hbelow,
      map_at?_addresses t, map_at?_addressesFrom parent ts (i + 1) hrest]

end

/-- An address below some children starts with the index of one of them. -/
theorem head_of_mem_addressesFrom {ts : List Tree} {i : Nat} {a : List Nat}
    (h : a ∈ addressesFrom i ts) : ∃ j rest, a = j :: rest ∧ i ≤ j := by
  induction ts generalizing i with
  | nil => cases h
  | cons t ts ih =>
    rcases List.mem_append.mp h with h | h
    · obtain ⟨rest, _, rfl⟩ := List.mem_map.mp h
      exact ⟨i, rest, rfl, Nat.le_refl i⟩
    · obtain ⟨j, rest, rfl, hj⟩ := ih h
      exact ⟨j, rest, rfl, Nat.le_of_succ_le hj⟩

theorem mem_addressesFrom {ts : List Tree} {j : Nat} {c : Tree} (hc : ts[j]? = some c)
    {a : List Nat} (ha : a ∈ c.addresses) (i : Nat) : (i + j) :: a ∈ addressesFrom i ts := by
  induction ts generalizing i j with
  | nil => cases hc
  | cons t ts ih =>
    cases j with
    | zero =>
      obtain rfl : t = c := Option.some.inj hc
      exact List.mem_append_left _ (List.mem_map.mpr ⟨a, ha, rfl⟩)
    | succ j =>
      have hrest := ih hc (i + 1)
      rw [Nat.add_right_comm] at hrest
      exact List.mem_append_right _ hrest

/-- The addresses of a tree are those at which it has a node. -/
theorem mem_addresses {t : Tree} {a : List Nat} :
    a ∈ t.addresses ↔ (t.at? a).isSome = true := by
  constructor
  · intro ha
    have hnode : t.at? a ∈ t.preorder.map some := by
      rw [← map_at?_addresses]
      exact List.mem_map.mpr ⟨a, ha, rfl⟩
    obtain ⟨u, _, hu⟩ := List.mem_map.mp hnode
    rw [← hu]
    rfl
  · intro ha
    induction a generalizing t with
    | nil =>
      rw [addresses_eq]
      exact List.mem_cons_self
    | cons i a ih =>
      rw [at?] at ha
      cases hchild : t.children[i]? with
      | none =>
        rw [hchild] at ha
        cases ha
      | some c =>
        rw [hchild] at ha
        have hmem := mem_addressesFrom hchild (ih ha) 0
        rw [Nat.zero_add] at hmem
        rw [addresses_eq]
        exact List.mem_cons_of_mem _ hmem

mutual

/-- The addresses of a tree increase. -/
theorem pairwise_addresses : ∀ t : Tree, t.addresses.Pairwise (· < ·)
  | ⟨_, _, _, _, _, children⟩ => by
    rw [addresses, List.pairwise_cons]
    refine ⟨?_, pairwise_addressesFrom children 0⟩
    intro a ha
    obtain ⟨j, rest, rfl, _⟩ := head_of_mem_addressesFrom ha
    exact List.nil_lt_cons j rest

theorem pairwise_addressesFrom : ∀ (ts : List Tree) (i : Nat),
    (addressesFrom i ts).Pairwise (· < ·)
  | [], _ => List.Pairwise.nil
  | t :: ts, i => by
    rw [addressesFrom, List.pairwise_append, List.pairwise_map]
    refine ⟨?_, pairwise_addressesFrom ts (i + 1), ?_⟩
    · refine (pairwise_addresses t).imp ?_
      intro a b hab
      exact List.cons_lt_cons_iff.mpr (.inr ⟨rfl, hab⟩)
    · -- later children have larger indexes
      intro a ha b hb
      obtain ⟨rest, _, rfl⟩ := List.mem_map.mp ha
      obtain ⟨j, rest', rfl, hj⟩ := head_of_mem_addressesFrom hb
      exact List.cons_lt_cons_iff.mpr (.inl hj)

end

end Source.Tree

namespace Extract

open Source

/-! ## The walk -/

/-- From any stack, what is visited next are the nodes of its trees in pre-order. -/
theorem walk_eq (visited stack : List Tree) :
    walk visited stack = visited.reverse ++ Tree.preorderAll stack := by
  fun_induction walk visited stack with
  | case1 visited => exact (List.append_nil _).symm
  | case2 visited t rest ih =>
    rw [ih, Tree.preorderAll_append, Tree.preorderAll, Tree.preorder_eq,
      Tree.preorderAll_eq_flatMap t.children, List.reverse_cons, List.append_assoc]
    rfl

theorem nodes_eq (t : Tree) : nodes t = t.preorder := by
  unfold nodes
  rw [walk_eq, Tree.preorderAll_eq_flatMap]
  simp

/-! ## Facts part by part -/

/-- What is collected from the nodes of a tree is collected from its root and then from its
    children. -/
theorem flatMap_nodes {α : Type} (view : Tree → List α) (t : Tree) :
    (nodes t).flatMap view = view t ++ t.children.flatMap fun c => (nodes c).flatMap view := by
  simp only [nodes_eq]
  rw [Tree.preorder_eq, List.flatMap_cons, List.flatMap_assoc]

theorem facts_eq (path : String) (t : Tree) : facts path t = {
    symbols := (nodes t).flatMap fun u => (own path u).symbols
    imports := (nodes t).flatMap fun u => (own path u).imports
    exports := (nodes t).flatMap fun u => (own path u).exports
    calls := (nodes t).flatMap fun u => (own path u).calls } := by
  unfold facts
  simp only [List.flatMap_map]

/-- A path gives facts exactly if it has a dialect. -/
theorem ofTree_eq (missing : List String) (path : String) (t : Tree) :
    ofTree missing path t = (dialectOf missing path).map fun _ => facts path t := by
  unfold ofTree
  cases dialectOf missing path <;> rfl

/-- **The facts of a tree are those of its parts.** A path gives facts exactly if it has a
    dialect. Its symbols, imports, exports and calls are those that the root reports by itself,
    followed by those of the subtrees below it, in the order of the children. The nodes are
    visited in pre-order, in as many steps as there are nodes, and each once: the addresses of
    the visited nodes increase and are all addresses of the tree. -/
theorem ofTree_subtrees (missing : List String) (path : String) (t : Tree) :
    (ofTree missing path t = (dialectOf missing path).map fun _ => facts path t) ∧
    (facts path t).symbols
      = (own path t).symbols ++ t.children.flatMap (fun c => (facts path c).symbols) ∧
    (facts path t).imports
      = (own path t).imports ++ t.children.flatMap (fun c => (facts path c).imports) ∧
    (facts path t).exports
      = (own path t).exports ++ t.children.flatMap (fun c => (facts path c).exports) ∧
    (facts path t).calls
      = (own path t).calls ++ t.children.flatMap (fun c => (facts path c).calls) ∧
    nodes t = t.preorder ∧ (nodes t).length = t.size ∧
    t.addresses.map t.at? = (nodes t).map some ∧ t.addresses.Pairwise (· < ·) ∧
    ∀ a, a ∈ t.addresses ↔ (t.at? a).isSome = true := by
  refine ⟨ofTree_eq missing path t, ?_, ?_, ?_, ?_, nodes_eq t, ?_, ?_, t.pairwise_addresses,
    fun _ => Tree.mem_addresses⟩
  · simp only [facts_eq]
    exact flatMap_nodes _ t
  · simp only [facts_eq]
    exact flatMap_nodes _ t
  · simp only [facts_eq]
    exact flatMap_nodes _ t
  · simp only [facts_eq]
    exact flatMap_nodes _ t
  · rw [nodes_eq, Tree.length_preorder]
  · rw [nodes_eq, Tree.map_at?_addresses]

/-- A function in a method of a class that is exported, and a call in the argument of a call. -/
example : ((Extract.ofText [] "a.js"
      "export class A { m() { function f() { g(h()) } } }; k()").toOption.map fun f =>
    (f.symbols.map (·.name.shown), f.calls.map (·.name)))
      = some (["'A'", "'f'"], ["g", "h", "k"]) := by decide +kernel

end Extract

end SymbolGraph
