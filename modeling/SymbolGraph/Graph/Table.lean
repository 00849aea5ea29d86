/-! # Tables in order of insertion

    A `Table` maps keys to values and remembers the order in which the keys came.
    Writing to a key that is there changes its value and keeps its place and its
    spelling; writing to a new key puts it at the end. That no two keys of a table
    are the same is part of the type.

    The operations are described by what they do to the list of keys (`keys_insert`,
    `keys_alter`) and to looking up (`get?_insert_self`, `get?_insert_of_ne`).
-/

namespace SymbolGraph

variable {κ β : Type} [BEq κ]

/-- Change the value at a key, or put a new entry at the end. -/
@[specialize] def alterEntries (k : κ) (f : Option β → β) : List (κ × β) → List (κ × β)
  | [] => [(k, f none)]
  | (k', v) :: rest =>
    if k' == k then (k', f (some v)) :: rest else (k', v) :: alterEntries k f rest

theorem map_fst_alterEntries (k : κ) (f : Option β → β) (l : List (κ × β)) :
    (alterEntries k f l).map (·.1)
      = if l.any (·.1 == k) then l.map (·.1) else l.map (·.1) ++ [k] := by
  induction l with
  | nil => simp [alterEntries]
  | cons e l ih =>
    obtain ⟨k', v⟩ := e
    by_cases h : (k' == k) = true
    · simp [alterEntries, h]
    · simp only [alterEntries, h, Bool.false_eq_true, if_false, List.map_cons, ih, List.any_cons,
        Bool.false_or]
      split <;> simp

/-- Keys of which no two are the same. -/
def Distinct (ks : List κ) : Prop :=
  ks.Pairwise fun a b => (a == b) = false

theorem distinct_alterEntries {k : κ} {f : Option β → β} {l : List (κ × β)}
    (h : Distinct (l.map (·.1))) : Distinct ((alterEntries k f l).map (·.1)) := by
  rw [map_fst_alterEntries]
  split
  · exact h
  · rename_i hk
    refine List.pairwise_append.2 ⟨h, List.pairwise_singleton .., ?_⟩
    intro a ha b hb
    obtain ⟨e, he, rfl⟩ := List.mem_map.1 ha
    rw [List.mem_singleton.1 hb]
    simp only [List.any_eq_true, not_exists, not_and, Bool.not_eq_true] at hk
    exact hk e he

/-- A map from keys to values that keeps the order of insertion. -/
structure Table (κ β : Type) [BEq κ] where
  entries : List (κ × β) := []
  distinct : Distinct (entries.map (·.1)) := by simp [Distinct]

namespace Table

instance : Inhabited (Table κ β) := ⟨{}⟩

/-- The table without entries. -/
def empty : Table κ β := {}

/-- The keys in order of insertion. -/
def keys (t : Table κ β) : List κ :=
  t.entries.map (·.1)

/-- The values in the order of their keys. -/
def values (t : Table κ β) : List β :=
  t.entries.map (·.2)

/-- The number of keys. -/
def size (t : Table κ β) : Nat :=
  t.entries.length

/-- The value at a key. -/
@[inline] def get? (t : Table κ β) (k : κ) : Option β :=
  (t.entries.find? (·.1 == k)).map (·.2)

/-- Whether a key is there. -/
@[inline] def contains (t : Table κ β) (k : κ) : Bool :=
  t.entries.any (·.1 == k)

/-- Change the value at a key, or make one. -/
@[inline] def alter (t : Table κ β) (k : κ) (f : Option β → β) : Table κ β where
  entries := alterEntries k f t.entries
  distinct := distinct_alterEntries t.distinct

/-- Set the value at a key. -/
@[inline] def insert (t : Table κ β) (k : κ) (v : β) : Table κ β :=
  t.alter k fun _ => v

/-- Set the value at a key that is not there yet. -/
@[inline] def insertIfNew (t : Table κ β) (k : κ) (v : β) : Table κ β :=
  t.alter k fun old => old.getD v

/-- The entries whose keys are wanted. -/
def filter (t : Table κ β) (wanted : κ → Bool) : Table κ β where
  entries := t.entries.filter fun e => wanted e.1
  distinct := t.distinct.sublist (List.filter_sublist.map _)

/-- The keys of a table after a change: a new key comes last. -/
theorem keys_alter (t : Table κ β) (k : κ) (f : Option β → β) :
    (t.alter k f).keys = if t.contains k then t.keys else t.keys ++ [k] :=
  map_fst_alterEntries k f t.entries

theorem keys_insert (t : Table κ β) (k : κ) (v : β) :
    (t.insert k v).keys = if t.contains k then t.keys else t.keys ++ [k] :=
  keys_alter t k _

theorem distinct_keys (t : Table κ β) : Distinct t.keys :=
  t.distinct

theorem find?_alterEntries_self [ReflBEq κ] (k : κ) (f : Option β → β) (l : List (κ × β)) :
    ((alterEntries k f l).find? (·.1 == k)).map (·.2)
      = some (f ((l.find? (·.1 == k)).map (·.2))) := by
  induction l with
  | nil => simp [alterEntries]
  | cons e l ih =>
    obtain ⟨k', v⟩ := e
    by_cases h : (k' == k) = true
    · simp [alterEntries, h]
    · simp [alterEntries, h, ih]

theorem find?_alterEntries_of_ne [EquivBEq κ] {k j : κ} (h : (k == j) = false) (f : Option β → β)
    (l : List (κ × β)) :
    (alterEntries k f l).find? (·.1 == j) = l.find? (·.1 == j) := by
  induction l with
  | nil => simp [alterEntries, h]
  | cons e l ih =>
    obtain ⟨k', v⟩ := e
    by_cases hk : (k' == k) = true
    · have hj : (k' == j) = false := by
        rw [Bool.eq_false_iff]
        intro hj
        have := PartialEquivBEq.trans (PartialEquivBEq.symm hk) hj
        simp_all
      simp [alterEntries, hk, hj]
    · simp [alterEntries, hk, List.find?_cons, ih]

@[simp] theorem get?_alter_self [ReflBEq κ] (t : Table κ β) (k : κ) (f : Option β → β) :
    (t.alter k f).get? k = some (f (t.get? k)) :=
  find?_alterEntries_self k f t.entries

theorem get?_alter_of_ne [EquivBEq κ] (t : Table κ β) {k j : κ} (h : (k == j) = false)
    (f : Option β → β) : (t.alter k f).get? j = t.get? j := by
  unfold get? alter
  rw [find?_alterEntries_of_ne h]

@[simp] theorem get?_insert_self [ReflBEq κ] (t : Table κ β) (k : κ) (v : β) :
    (t.insert k v).get? k = some v := by
  simp [insert]

theorem get?_insert_of_ne [EquivBEq κ] (t : Table κ β) {k j : κ} (h : (k == j) = false) (v : β) :
    (t.insert k v).get? j = t.get? j :=
  get?_alter_of_ne t h _

/-- A table from a list of entries, in which a later entry replaces an earlier one. -/
def ofList (l : List (κ × β)) : Table κ β :=
  l.foldl (fun t e => t.insert e.1 e.2) {}

/-- A set of keys in order of insertion. -/
def setOfList (ks : List κ) : Table κ Unit :=
  ks.foldl (fun t k => t.insert k ()) {}

end Table

end SymbolGraph
