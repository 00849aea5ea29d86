/-! # Concrete trees of source text

    A tree of a source file as a grammar describes it. Every node has a kind, the
    text it spans, the row on which it starts, possibly a field name that says
    which part of its parent it is, and children in source order. Nodes are *named*
    unless they are plain tokens such as `static` or `(`.

    A text is kept where something may ask for it: on names, literals and
    computed names. Other nodes carry the empty text.
-/

namespace SymbolGraph.Source

/-- A node of a source tree with everything below it. -/
structure Tree where
  kind : String
  text : String := ""
  /-- The row of the first character, counted from zero. -/
  row : Int := 0
  /-- The part that the node plays in its parent. -/
  field : Option String := none
  named : Bool := true
  children : List Tree := []
deriving Inhabited

namespace Tree

mutual

/-- The number of nodes of a tree. -/
def size : Tree → Nat
  | ⟨_, _, _, _, _, children⟩ => 1 + sizes children

/-- The number of nodes of a row of trees. -/
def sizes : List Tree → Nat
  | [] => 0
  | t :: ts => size t + sizes ts

end

theorem size_eq (t : Tree) : t.size = 1 + sizes t.children := by
  cases t; simp [size]

@[simp] theorem sizes_append (ts us : List Tree) : sizes (ts ++ us) = sizes ts + sizes us := by
  induction ts with
  | nil => simp [sizes]
  | cons t ts ih => simp [sizes, ih, Nat.add_assoc]

/-- A plain token. -/
def token (text : String) (row : Int) : Tree :=
  { kind := text, text := text, row := row, named := false }

/-- A named node without children. -/
def leaf (kind text : String) (row : Int) : Tree :=
  { kind := kind, text := text, row := row }

/-- A named node that starts where its first child starts. -/
def join (kind : String) (children : List Tree) : Tree :=
  { kind := kind, row := (children.head?.map (·.row)).getD 0, children := children }

/-- The same node as a given part of its parent. -/
def labelled (t : Tree) (field : String) : Tree :=
  { t with field := some field }

/-- The first child that is a given part of the node. -/
def part? (t : Tree) (field : String) : Option Tree :=
  t.children.find? fun c => c.field == some field

/-- The children that are not plain tokens. -/
def namedChildren (t : Tree) : List Tree :=
  t.children.filter (·.named)

/-- The first named child of a kind. -/
def namedChild? (t : Tree) (kind : String) : Option Tree :=
  t.namedChildren.find? (·.kind == kind)

/-- Whether a child of a kind is present, token or not. -/
def hasChild (t : Tree) (kind : String) : Bool :=
  t.children.any (·.kind == kind)

/-- The line on which a node starts, counted from one. -/
def line (t : Tree) : Int :=
  t.row + 1

mutual

/-- The same tree with rows as a counter of 32 bits has them. -/
def wrapRows : Tree → Tree
  | ⟨kind, text, row, field, named, children⟩ =>
    ⟨kind, text, row % UInt32.size, field, named, wrapAll children⟩

/-- The same trees with rows as a counter of 32 bits has them. -/
def wrapAll : List Tree → List Tree
  | [] => []
  | t :: ts => wrapRows t :: wrapAll ts

end

@[simp] theorem wrapAll_eq_map (ts : List Tree) : wrapAll ts = ts.map wrapRows := by
  induction ts with
  | nil => rfl
  | cons t ts ih => rw [wrapAll, ih, List.map_cons]

@[simp] theorem row_wrapRows (t : Tree) : t.wrapRows.row = t.row % UInt32.size := by
  cases t; simp [wrapRows]

@[simp] theorem children_wrapRows (t : Tree) : t.wrapRows.children = t.children.map wrapRows := by
  cases t; simp [wrapRows]

end Tree

end SymbolGraph.Source
