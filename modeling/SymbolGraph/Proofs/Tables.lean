import Mathlib.Data.List.Basic
import Mathlib.Data.List.Induction
import SymbolGraph.Graph.Table

/-! # What tables hold

    The keys of a table need not be equal to be the same: they are compared by an
    equivalence. So looking up depends on a key only up to that equivalence
    (`Table.get?_congr`), and a change of one key is seen at all keys that are the same
    as it (`Table.get?_alter`).

    Tables are filled by going through a list. Three facts describe the result: the keys
    are those of the list in order of first occurrence (`Table.keys_foldl_alter`), filling a
    table with the entries of another one copies it (`Table.foldl_insert_entries`), and going
    through the list again changes nothing (`Table.foldl_insert_again`).
    First occurrences are compared with those of two lists put together (`eraseDups_append`),
    of a mapped list, and of a list in groups.

    The last section is about lists that are taken apart by a key. The parts that belong
    to distinct keys are, put together again, a permutation of the list, and no part
    loses its order.
-/

namespace SymbolGraph

variable {κ β : Type} [BEq κ]

namespace Table

/-! ### Entries -/

/-- A table is its list of entries. -/
theorem ext_entries {t u : Table κ β} (h : t.entries = u.entries) : t = u := by
  obtain ⟨et, ht⟩ := t
  obtain ⟨eu, hu⟩ := u
  cases h
  rfl

theorem contains_eq_any_keys (t : Table κ β) (k : κ) : t.contains k = t.keys.any (· == k) := by
  simp [contains, keys, Function.comp_def]

theorem isSome_get? (t : Table κ β) (k : κ) : (t.get? k).isSome = t.contains k := by
  rw [get?, Option.isSome_map, contains, Bool.eq_iff_iff, List.find?_isSome, List.any_eq_true]

theorem get?_eq_none_iff (t : Table κ β) (k : κ) : t.get? k = none ↔ t.contains k = false := by
  rw [← isSome_get?]
  cases t.get? k <;> simp

theorem contains_of_get? {t : Table κ β} {k : κ} {v : β} (h : t.get? k = some v) :
    t.contains k = true := by
  rw [← isSome_get?, h]
  rfl

@[simp] theorem get?_empty (k : κ) : ({} : Table κ β).get? k = none := rfl

@[simp] theorem contains_empty (k : κ) : ({} : Table κ β).contains k = false := rfl

@[simp] theorem keys_empty : ({} : Table κ β).keys = [] := rfl

/-- What is found at a key is the value of an entry whose key is the same. -/
theorem exists_mem_of_get? {t : Table κ β} {k : κ} {v : β} (h : t.get? k = some v) :
    ∃ k', (k' == k) = true ∧ (k', v) ∈ t.entries := by
  unfold get? at h
  obtain ⟨e, he, rfl⟩ := Option.map_eq_some_iff.mp h
  refine ⟨e.1, ?_, List.mem_of_find?_eq_some he⟩
  simpa using List.find?_some he

/-! ### Looking up by a key that is the same -/

section
variable [EquivBEq κ]

/-- Keys that are the same find the same value. -/
theorem get?_congr (t : Table κ β) {k j : κ} (h : (k == j) = true) : t.get? k = t.get? j := by
  simp only [get?, BEq.congr_right h]

/-- Looking up after a change of one key. -/
theorem get?_alter (t : Table κ β) (k j : κ) (f : Option β → β) :
    (t.alter k f).get? j = if k == j then some (f (t.get? j)) else t.get? j := by
  by_cases h : (k == j) = true
  · rw [← get?_congr _ h, get?_alter_self, get?_congr t h, if_pos h]
  · rw [get?_alter_of_ne t (by simpa using h), if_neg h]

theorem get?_insert (t : Table κ β) (k j : κ) (v : β) :
    (t.insert k v).get? j = if k == j then some v else t.get? j :=
  get?_alter t k j _

theorem contains_alter (t : Table κ β) (k j : κ) (f : Option β → β) :
    (t.alter k f).contains j = (k == j || t.contains j) := by
  rw [← isSome_get?, ← isSome_get?, get?_alter]
  by_cases h : (k == j) = true <;> simp [h]

/-- A key that some list of distinct entries has is found with its value. -/
theorem find?_of_mem {l : List (κ × β)} (hd : Distinct (l.map (·.1))) {k : κ} {v : β}
    (h : (k, v) ∈ l) : l.find? (·.1 == k) = some (k, v) := by
  induction l with
  | nil => cases h
  | cons e l ih =>
    have hd' := List.pairwise_cons.mp hd
    rcases List.mem_cons.mp h with rfl | h
    · simp
    · have hne : (e.1 == k) = false := hd'.1 k (List.mem_map.mpr ⟨_, h, rfl⟩)
      rw [List.find?_cons, hne]
      exact ih hd'.2 h

theorem get?_of_mem {t : Table κ β} {k : κ} {v : β} (h : (k, v) ∈ t.entries) :
    t.get? k = some v := by
  unfold get?
  rw [find?_of_mem t.distinct h]
  rfl

theorem nodup_keys (t : Table κ β) : t.keys.Nodup :=
  t.distinct_keys.imp fun h => ne_of_beq_false h

end

/-! ### Keys that are the same only if they are equal -/

section Lawful

variable [LawfulBEq κ]

theorem mem_keys {t : Table κ β} {k : κ} : k ∈ t.keys ↔ t.contains k = true := by
  rw [contains_eq_any_keys, List.any_beq', List.contains_iff_mem]

theorem get?_eq_some_iff {t : Table κ β} {k : κ} {v : β} :
    t.get? k = some v ↔ (k, v) ∈ t.entries := by
  constructor
  · intro h
    obtain ⟨j, hj, hmem⟩ := exists_mem_of_get? h
    rw [eq_of_beq hj] at hmem
    exact hmem
  · exact get?_of_mem

theorem get?_filter (t : Table κ β) (wanted : κ → Bool) (k : κ) :
    (t.filter wanted).get? k = if wanted k then t.get? k else none := by
  unfold get? filter
  rw [List.find?_filter]
  split
  · rename_i hk
    congr 2
    funext e
    by_cases he : e.1 = k
    · simp [he, hk]
    · simp [he]
  · rename_i hk
    rw [Option.map_eq_none_iff, List.find?_eq_none]
    intro e _ he
    obtain ⟨hwanted, hek⟩ := of_decide_eq_true he
    rw [beq_iff_eq.mp hek] at hwanted
    exact hk hwanted

theorem contains_filter (t : Table κ β) (wanted : κ → Bool) (k : κ) :
    (t.filter wanted).contains k = (wanted k && t.contains k) := by
  rw [← isSome_get?, ← isSome_get?, get?_filter]
  cases wanted k <;> simp

theorem filter_eq_self {t : Table κ β} {wanted : κ → Bool}
    (h : ∀ k, t.contains k = true → wanted k = true) : t.filter wanted = t := by
  apply ext_entries
  show t.entries.filter _ = _
  rw [List.filter_eq_self]
  intro e he
  exact h e.1 (contains_of_get? (get?_of_mem he))

theorem eq_empty_of_contains {t : Table κ β} (h : ∀ k, t.contains k = false) : t = {} := by
  apply ext_entries
  cases hentries : t.entries with
  | nil => rfl
  | cons e l =>
    have he : t.contains e.1 = true := by
      rw [← mem_keys]
      unfold keys
      rw [hentries]
      exact List.mem_cons_self
    rw [h] at he
    cases he

end Lawful

/-! ### Filling a table -/

theorem alterEntries_of_new {k : κ} {f : Option β → β} {l : List (κ × β)}
    (h : l.any (·.1 == k) = false) : alterEntries k f l = l ++ [(k, f none)] := by
  induction l with
  | nil => rfl
  | cons e l ih =>
    obtain ⟨he, hl⟩ : (e.1 == k) = false ∧ l.any (·.1 == k) = false := by simpa using h
    simp [alterEntries, he, ih hl]

/-- Entries with distinct new keys are put at the end one after another. -/
theorem entries_foldl_insert (l : List (κ × β)) (t : Table κ β)
    (hd : Distinct ((t.entries ++ l).map (·.1))) :
    (l.foldl (fun t e => t.insert e.1 e.2) t).entries = t.entries ++ l := by
  induction l generalizing t with
  | nil => simp
  | cons e l ih =>
    have hnew : t.entries.any (·.1 == e.1) = false := by
      rw [List.map_append] at hd
      have hcross := (List.pairwise_append.mp hd).2.2
      rw [List.any_eq_false]
      intro x hx
      rw [hcross x.1 (List.mem_map_of_mem hx) e.1 (by simp)]
      simp
    have hone : (t.insert e.1 e.2).entries = t.entries ++ [e] := alterEntries_of_new hnew
    rw [List.foldl_cons, ih _ (by rw [hone]; simpa using hd), hone]
    simp

theorem entries_ofList {l : List (κ × β)} (h : Distinct (l.map (·.1))) :
    (ofList l).entries = l :=
  entries_foldl_insert l {} h

/-- Filling an empty table with the entries of a table copies it. -/
theorem foldl_insert_entries (t : Table κ β) :
    t.entries.foldl (fun u e => u.insert e.1 e.2) ({} : Table κ β) = t := by
  apply ext_entries
  have h := entries_foldl_insert t.entries ({} : Table κ β) (by simpa using t.distinct)
  simpa using h

section
variable [EquivBEq κ] {α : Type}

/-- The keys after a list of changes: those that were there, then the new ones in order
    of first occurrence. -/
theorem keys_foldl_alter (key : α → κ) (f : α → Option β → β) (l : List α) (t : Table κ β) :
    (l.foldl (fun t a => t.alter (key a) (f a)) t).keys
      = t.keys ++ ((l.map key).filter fun k => !t.contains k).eraseDups := by
  induction l generalizing t with
  | nil => simp
  | cons a l ih =>
    rw [List.foldl_cons, ih, keys_alter]
    have hcon : ∀ k, (t.alter (key a) (f a)).contains k = (key a == k || t.contains k) :=
      fun k => contains_alter t (key a) k (f a)
    by_cases h : t.contains (key a) = true
    · -- the key was there, so it is no new key
      have hsame : ∀ k, (key a == k || t.contains k) = t.contains k := by
        intro k
        cases hk : (key a == k) with
        | false => rfl
        | true => rw [Bool.true_or, ← isSome_get?, ← get?_congr t hk, isSome_get?, h]
      simp [h, hcon, hsame]
    · -- the key comes last of the old keys and first of the new ones
      have hfilter : ((l.map key).filter fun k => !t.contains k).filter (fun b => !b == key a)
          = (l.map key).filter fun k => !(key a == k || t.contains k) := by
        rw [List.filter_filter]
        apply List.filter_congr
        intro k _
        rw [BEq.comm (a := k), Bool.not_or]
      simp only [h, hcon, List.map_cons, List.filter_cons, Bool.not_false, if_true,
        List.eraseDups_cons, hfilter, Bool.false_eq_true, if_false, List.append_assoc,
        List.singleton_append]

/-- Distinct keys are their own first occurrences. -/
theorem eraseDups_of_distinct {ks : List κ} (h : Distinct ks) : ks.eraseDups = ks := by
  induction ks with
  | nil => rfl
  | cons k ks ih =>
    obtain ⟨hk, hks⟩ := List.pairwise_cons.mp h
    have hfilter : ks.filter (fun b => !b == k) = ks := by
      rw [List.filter_eq_self]
      intro b hb
      rw [BEq.comm (a := b), hk b hb]
      rfl
    rw [List.eraseDups_cons, hfilter, ih hks]

theorem keys_setOfList (ks : List κ) : (setOfList ks).keys = ks.eraseDups := by
  have h := keys_foldl_alter (fun k : κ => k) (fun _ (_ : Option Unit) => ()) ks {}
  have hall : ks.filter (fun _ => true) = ks := List.filter_eq_self.mpr fun _ _ => rfl
  simp only [keys_empty, contains_empty, Bool.not_false, hall, List.map_id', List.nil_append] at h
  exact h

/-- A set is rebuilt from the list of its members. -/
theorem setOfList_keys (t : Table κ Unit) : setOfList t.keys = t := by
  have hkeys : (setOfList t.keys).keys = t.keys := by
    rw [keys_setOfList, eraseDups_of_distinct t.distinct_keys]
  have hunit : ∀ u : Table κ Unit, u.entries = u.keys.map fun k => (k, ()) := by
    intro u
    simp [keys, Function.comp_def]
  apply ext_entries
  rw [hunit, hunit t, hkeys]

/-- The last of a list of settings wins. -/
theorem get?_foldl_insert (key : α → κ) (val : α → β) (l : List α) (t : Table κ β) (k : κ) :
    (l.foldl (fun t a => t.insert (key a) (val a)) t).get? k
      = (((l.filter (key · == k)).getLast?).map val).or (t.get? k) := by
  induction l generalizing t with
  | nil => simp
  | cons a l ih =>
    rw [List.foldl_cons, ih, get?_insert]
    by_cases h : (key a == k) = true
    · rw [List.filter_cons_of_pos (p := (key · == k)) h, List.getLast?_cons, if_pos h]
      cases (l.filter (key · == k)).getLast? <;> simp
    · rw [List.filter_cons_of_neg (p := (key · == k)) h, if_neg h]

/-! ### Changes that change nothing -/

/-- A table is its keys with what is found at them. -/
theorem entries_eq_filterMap_keys (t : Table κ β) :
    t.entries = t.keys.filterMap fun k => (t.get? k).map (k, ·) := by
  unfold keys
  rw [List.filterMap_map]
  refine List.filterMap_some.symm.trans (List.filterMap_congr ?_)
  intro e he
  show some e = (t.get? e.1).map (e.1, ·)
  rw [get?_of_mem he]
  rfl

theorem ext_get? {t u : Table κ β} (hkeys : t.keys = u.keys) (hget : ∀ k, t.get? k = u.get? k) :
    t = u := by
  apply ext_entries
  rw [entries_eq_filterMap_keys t, entries_eq_filterMap_keys u, hkeys]
  simp only [hget]

/-- A key that is there is set to the value that it has. -/
theorem alter_eq_self {t : Table κ β} {k : κ} {v : β} {f : Option β → β} (h : t.get? k = some v)
    (hf : f (some v) = v) : t.alter k f = t := by
  apply ext_get?
  · rw [keys_alter, if_pos (contains_of_get? h)]
  · intro j
    rw [get?_alter]
    split
    · rename_i hj
      rw [← get?_congr t hj, h, hf]
    · rfl

/-- A list of settings that is gone through again changes nothing. -/
theorem foldl_insert_again (key : α → κ) (val : α → β) (l : List α) (t : Table κ β) :
    let fill := l.foldl fun t a => t.insert (key a) (val a)
    fill (fill t) = fill t := by
  intro fill
  have hget : ∀ u k, (fill u).get? k = (((l.filter (key · == k)).getLast?).map val).or (u.get? k) :=
    fun u k => get?_foldl_insert key val l u k
  apply ext_get?
  · -- all keys are there after the first time
    have hold : (l.map key).filter (fun k => !(fill t).contains k) = [] := by
      rw [List.filter_eq_nil_iff]
      intro k hk
      obtain ⟨a, ha, rfl⟩ := List.mem_map.mp hk
      rw [← isSome_get?, hget, Option.isSome_or, Option.isSome_map, List.getLast?_isSome.mpr]
      · simp
      · exact List.ne_nil_of_mem (List.mem_filter.mpr ⟨ha, BEq.rfl⟩)
    have hkeys := keys_foldl_alter key (fun a _ => val a) l (fill t)
    rw [hold, List.eraseDups_nil, List.append_nil] at hkeys
    exact hkeys
  · intro k
    rw [hget, hget, ← Option.or_assoc, Option.or_self]

end

end Table

/-! ### First occurrences -/

section
variable [EquivBEq κ]

/-- Keys that are distinct are so in any order. -/
theorem distinct_perm {ks js : List κ} (h : ks.Perm js) (hd : Distinct ks) : Distinct js := by
  refine List.Perm.pairwise h hd ?_
  intro a b hab
  rw [Bool.eq_false_iff] at hab ⊢
  exact fun hba => hab (BEq.symm hba)

theorem any_eraseDups (ks : List κ) (k : κ) : ks.eraseDups.any (· == k) = ks.any (· == k) := by
  induction hn : ks.length using Nat.strongRecOn generalizing ks with
  | ind n ih =>
    cases ks with
    | nil => rfl
    | cons a ks =>
      have hlt : (ks.filter fun b => !b == a).length < n := by
        rw [← hn, List.length_cons]
        exact Nat.lt_succ_of_le (List.length_filter_le _ _)
      rw [List.eraseDups_cons, List.any_cons, List.any_cons, ih _ hlt _ rfl, List.any_filter]
      cases hak : (a == k) with
      | true => rfl
      | false =>
        -- what is the same as `k` is not the same as `a`
        rw [Bool.false_or, Bool.false_or]
        congr 1
        funext b
        cases hbk : (b == k) with
        | false => rw [Bool.and_false]
        | true => rw [BEq.congr_left hbk, BEq.comm, hak]; rfl

/-- The first of the elements that are the same as one of the first occurrences is this one. -/
theorem find?_of_mem_eraseDups {ks : List κ} {k : κ} (h : k ∈ ks.eraseDups) :
    ks.find? (· == k) = some k := by
  induction hn : ks.length using Nat.strongRecOn generalizing ks with
  | ind n ih =>
    cases ks with
    | nil => cases h
    | cons a ks =>
      rw [List.eraseDups_cons] at h
      rcases List.mem_cons.mp h with rfl | h
      · rw [List.find?_cons, BEq.rfl]
      · have hlt : (ks.filter fun b => !b == a).length < n := by
          rw [← hn, List.length_cons]
          exact Nat.lt_succ_of_le (List.length_filter_le _ _)
        have hfound := ih _ hlt h rfl
        have hne : (k == a) = false := by
          have := (List.mem_filter.mp (List.mem_of_find?_eq_some hfound)).2
          simpa using this
        rw [List.find?_filter] at hfound
        rw [List.find?_cons, BEq.comm, hne]
        dsimp only
        rw [← hfound]
        congr 1
        funext b
        cases hbk : (b == k) with
        | false => simp
        | true => simp [BEq.congr_left hbk, hne]

/-- The first occurrences in two lists: those of the first list, and then the new ones. -/
theorem eraseDups_append (ks js : List κ) :
    (ks ++ js).eraseDups = ks.eraseDups ++ (js.filter fun j => !ks.any (· == j)).eraseDups := by
  have hset : Table.setOfList (ks ++ js)
      = js.foldl (fun t k => t.alter k fun _ => ()) (Table.setOfList ks) := List.foldl_append
  have hkeys := Table.keys_foldl_alter (fun k : κ => k) (fun _ (_ : Option Unit) => ()) js
    (Table.setOfList ks)
  rw [← hset, Table.keys_setOfList, Table.keys_setOfList, List.map_id'] at hkeys
  rw [hkeys]
  congr 2
  apply List.filter_congr
  intro j _
  rw [Table.contains_eq_any_keys, Table.keys_setOfList, any_eraseDups]

theorem eraseDups_append_singleton (ks : List κ) (k : κ) :
    (ks ++ [k]).eraseDups = ks.eraseDups ++ if ks.any (· == k) then [] else [k] := by
  rw [eraseDups_append, List.filter_cons]
  cases ks.any (· == k) <;> rfl

theorem eraseDups_sublist (ks : List κ) : ks.eraseDups.Sublist ks := by
  induction ks using List.reverseRecOn with
  | nil => exact .refl _
  | append_singleton ks k ih =>
    rw [eraseDups_append_singleton]
    refine ih.append ?_
    split
    · exact List.nil_sublist _
    · exact .refl _

/-- Choosing among the first occurrences gives the first occurrences of what is chosen, if keys
    that are the same are chosen together. -/
theorem filter_eraseDups {wanted : κ → Bool}
    (hsame : ∀ {a b}, (a == b) = true → wanted a = wanted b) (ks : List κ) :
    ks.eraseDups.filter wanted = (ks.filter wanted).eraseDups := by
  induction ks using List.reverseRecOn with
  | nil => rfl
  | append_singleton ks k ih =>
    rw [eraseDups_append_singleton, List.filter_append, List.filter_append, ih]
    cases hk : wanted k with
    | false =>
      -- the last key is not chosen, whether it is new or not
      split <;> simp [hk]
    | true =>
      -- the last key was met before if and only if it was chosen before
      have hany : (ks.filter wanted).any (· == k) = ks.any (· == k) := by
        rw [List.any_filter]
        congr 1
        funext a
        cases hak : (a == k) with
        | false => exact Bool.and_false _
        | true => rw [hsame hak, hk, Bool.and_self]
      rw [List.filter_cons_of_pos hk, List.filter_nil, eraseDups_append_singleton, hany]
      split <;> simp [hk]

/-- Mapping the first occurrences only gives the same first occurrences, if keys that are the
    same are mapped to one key. -/
theorem eraseDups_filterMap_eraseDups {ι : Type} [BEq ι] [EquivBEq ι] {f : κ → Option ι}
    (hf : ∀ {a b}, (a == b) = true → f a = f b) (ks : List κ) :
    (ks.eraseDups.filterMap f).eraseDups = (ks.filterMap f).eraseDups := by
  -- what is met in the mapped list is met in the mapped first occurrences
  have hany : ∀ (l : List κ) (i : ι),
      (l.eraseDups.filterMap f).any (· == i) = (l.filterMap f).any (· == i) := by
    intro l i
    rw [List.any_filterMap, List.any_filterMap, Bool.eq_iff_iff, List.any_eq_true, List.any_eq_true]
    constructor
    · rintro ⟨k, hk, hki⟩
      exact ⟨k, List.mem_of_find?_eq_some (find?_of_mem_eraseDups hk), hki⟩
    · rintro ⟨k, hk, hki⟩
      have hsame : l.eraseDups.any (· == k) = true := by
        rw [any_eraseDups]
        exact List.any_eq_true.mpr ⟨k, hk, BEq.rfl⟩
      obtain ⟨j, hj, hjk⟩ := List.any_eq_true.mp hsame
      exact ⟨j, hj, by rw [hf hjk]; exact hki⟩
  induction ks using List.reverseRecOn with
  | nil => rfl
  | append_singleton ks k ih =>
    rw [List.filterMap_append, eraseDups_append_singleton]
    cases hk : f k with
    | none =>
      -- nothing is mapped to, whether the key is new or not
      split <;> simp [hk, ih]
    | some i =>
      rw [List.filterMap_cons_some hk, List.filterMap_nil, eraseDups_append_singleton]
      by_cases hold : ks.any (· == k) = true
      · -- an old key is mapped to an old key
        have hmapped : (ks.filterMap f).any (· == i) = true := by
          obtain ⟨j, hj, hjk⟩ := List.any_eq_true.mp hold
          have hji : f j = some i := by rw [hf hjk, hk]
          exact List.any_eq_true.mpr ⟨i, List.mem_filterMap.mpr ⟨j, hj, hji⟩, BEq.rfl⟩
        rw [if_pos hold, if_pos hmapped, List.append_nil, List.append_nil, ih]
      · rw [if_neg hold, List.filterMap_append, List.filterMap_cons_some hk, List.filterMap_nil,
          eraseDups_append_singleton, hany, ih]

end

/-! ### Lists taken apart by a key -/

section
variable [EquivBEq κ] {α : Type}

/-- The parts of a list for distinct keys that cover it are a permutation of it. -/
theorem flatMap_filter_perm (key : α → κ) {ks : List κ} (hd : Distinct ks) {l : List α}
    (hall : ∀ a ∈ l, ks.any (· == key a) = true) :
    (ks.flatMap fun k => l.filter (key · == k)).Perm l := by
  induction ks generalizing l with
  | nil =>
    cases l with
    | nil => simp
    | cons a l => simpa using hall a (by simp)
  | cons k ks ih =>
    obtain ⟨hk, hks⟩ := List.pairwise_cons.mp hd
    -- the parts for the other keys do not see what belongs to `k`
    have hrest : (ks.flatMap fun j => l.filter (key · == j))
        = ks.flatMap fun j => (l.filter fun a => !(key a == k)).filter (key · == j) := by
      simp only [List.flatMap]
      congr 1
      apply List.map_congr_left
      intro j hj
      rw [List.filter_filter]
      apply List.filter_congr
      intro a _
      cases hja : (key a == j) with
      | false => rfl
      | true =>
        have : (key a == k) = false := by
          rw [Bool.eq_false_iff]
          intro hka
          have := BEq.trans (BEq.symm hka) hja
          rw [hk j hj] at this
          cases this
        rw [this]
        rfl
    have hcover : ∀ a ∈ l.filter (fun a => !(key a == k)), ks.any (· == key a) = true := by
      intro a ha
      obtain ⟨hal, hak⟩ := List.mem_filter.mp ha
      have h := hall a hal
      rw [List.any_cons, BEq.comm (a := k)] at h
      cases hka : (key a == k) with
      | false => rwa [hka, Bool.false_or] at h
      | true => rw [hka] at hak; cases hak
    rw [List.flatMap_cons, hrest]
    exact ((ih hks hcover).append_left _).trans (List.filter_append_perm _ l)

/-- Putting the parts together does not change the order inside any of them. -/
theorem filter_flatMap_filter (key : α → κ) {ks : List κ} (hd : Distinct ks) {l : List α}
    (hall : ∀ a ∈ l, ks.any (· == key a) = true) (k : κ) :
    (ks.flatMap fun j => l.filter (key · == j)).filter (key · == k)
      = l.filter (key · == k) := by
  by_cases hk : ∃ j ∈ ks, (j == k) = true
  · obtain ⟨j, hj, hjk⟩ := hk
    -- all parts but that of `j` are filtered out
    obtain ⟨before, after, rfl⟩ := List.append_of_mem hj
    have hsame : ∀ a : α, (key a == j) = (key a == k) := fun a => BEq.congr_right hjk
    have hother : ∀ ks' : List κ, (∀ i ∈ ks', (i == j) = false) →
        (ks'.flatMap fun i => l.filter (key · == i)).filter (key · == k) = [] := by
      intro ks' hne
      rw [List.filter_eq_nil_iff]
      intro a ha hak
      obtain ⟨i, hi, hai⟩ := List.mem_flatMap.mp ha
      have hai := (List.mem_filter.mp hai).2
      rw [← hsame a] at hak
      have := BEq.trans (BEq.symm hai) hak
      rw [hne i hi] at this
      cases this
    have hd' := List.pairwise_append.mp hd
    have hbefore : ∀ i ∈ before, (i == j) = false := fun i hi => hd'.2.2 i hi j (by simp)
    have hafter : ∀ i ∈ after, (i == j) = false := by
      intro i hi
      rw [BEq.comm (a := i)]
      exact (List.pairwise_cons.mp hd'.2.1).1 i hi
    rw [List.flatMap_append, List.flatMap_cons, List.filter_append, List.filter_append,
      hother before hbefore, hother after hafter, List.nil_append, List.append_nil,
      List.filter_filter]
    apply List.filter_congr
    intro a _
    rw [hsame a, Bool.and_self]
  · -- no element belongs to a key that is not listed
    have hnone : ∀ a ∈ l, (key a == k) = false := by
      intro a ha
      rw [Bool.eq_false_iff]
      intro hak
      obtain ⟨j, hj, hja⟩ := List.any_eq_true.mp (hall a ha)
      exact hk ⟨j, hj, BEq.trans hja hak⟩
    have hempty : l.filter (key · == k) = [] := by
      rw [List.filter_eq_nil_iff]
      intro a ha
      rw [hnone a ha]
      simp
    rw [hempty, List.filter_eq_nil_iff]
    intro a ha
    obtain ⟨j, _, haj⟩ := List.mem_flatMap.mp ha
    rw [hnone a (List.mem_filter.mp haj).1]
    simp

/-- What is in the groups of some keys is not the same as another key. -/
theorem beq_false_of_mem_flatMap {ks : List κ} {group : κ → List κ}
    (hsame : ∀ k ∈ ks, ∀ i ∈ group k, (i == k) = true) {j : κ} (hj : ∀ k ∈ ks, (k == j) = false)
    {i : κ} (hi : i ∈ ks.flatMap group) : (i == j) = false := by
  obtain ⟨k, hk, hik⟩ := List.mem_flatMap.mp hi
  rw [BEq.congr_left (hsame k hk i hik)]
  exact hj k hk

/-- Going through groups that start with their keys meets the keys in their order. -/
theorem eraseDups_flatMap {ks : List κ} (hd : Distinct ks) {group : κ → List κ}
    (hsame : ∀ k ∈ ks, ∀ i ∈ group k, (i == k) = true)
    (hhead : ∀ k ∈ ks, (group k).head? = some k) : (ks.flatMap group).eraseDups = ks := by
  induction ks with
  | nil => rfl
  | cons k ks ih =>
    obtain ⟨hk, hks⟩ := List.pairwise_cons.mp hd
    rw [List.forall_mem_cons] at hsame hhead
    obtain ⟨more, hgroup⟩ := List.head?_eq_some_iff.mp hhead.1
    have hgone : more.filter (fun i => !i == k) = [] := by
      rw [List.filter_eq_nil_iff]
      intro i hi
      rw [hsame.1 i (by rw [hgroup]; exact List.mem_cons_of_mem _ hi)]
      exact Bool.false_ne_true
    have hkept : (ks.flatMap group).filter (fun i => !i == k) = ks.flatMap group := by
      rw [List.filter_eq_self]
      intro i hi
      have hother : ∀ j ∈ ks, (j == k) = false := by
        intro j hj
        rw [BEq.comm]
        exact hk j hj
      rw [beq_false_of_mem_flatMap hsame.2 hother hi]
      rfl
    rw [List.flatMap_cons, hgroup, List.cons_append, List.eraseDups_cons, List.filter_append, hgone,
      hkept, List.nil_append, ih hks hsame.2 hhead.2]

/-- The same after some keys have been met already, whose groups may be empty. -/
theorem eraseDups_append_flatMap {ks js : List κ} (hd : Distinct (ks.eraseDups ++ js))
    {group : κ → List κ} (hsame : ∀ k ∈ ks.eraseDups ++ js, ∀ i ∈ group k, (i == k) = true)
    (hhead : ∀ k ∈ js, (group k).head? = some k) :
    (ks ++ (ks.eraseDups ++ js).flatMap group).eraseDups = ks.eraseDups ++ js := by
  obtain ⟨_, hjs, hcross⟩ := List.pairwise_append.mp hd
  have hsameJ : ∀ j ∈ js, ∀ i ∈ group j, (i == j) = true :=
    fun j hj => hsame j (List.mem_append_right _ hj)
  have hold : (ks.eraseDups.flatMap group).filter (fun i => !ks.any (· == i)) = [] := by
    rw [List.filter_eq_nil_iff]
    intro i hi
    obtain ⟨k, hk, hik⟩ := List.mem_flatMap.mp hi
    have hki : (k == i) = true := BEq.symm (hsame k (List.mem_append_left _ hk) i hik)
    have hmet : ks.any (· == i) = true := by
      rw [← any_eraseDups]
      exact List.any_eq_true.mpr ⟨k, hk, hki⟩
    rw [hmet]
    exact Bool.false_ne_true
  have hnew : (js.flatMap group).filter (fun i => !ks.any (· == i)) = js.flatMap group := by
    rw [List.filter_eq_self]
    intro i hi
    rw [Bool.not_eq_true', ← any_eraseDups, List.any_eq_false]
    intro k hk
    have hother : ∀ j ∈ js, (j == k) = false := by
      intro j hj
      rw [BEq.comm]
      exact hcross k hk j hj
    rw [BEq.comm, beq_false_of_mem_flatMap hsameJ hother hi]
    exact Bool.false_ne_true
  rw [eraseDups_append, List.flatMap_append, List.filter_append, hold, hnew, List.nil_append,
    eraseDups_flatMap hjs hsameJ hhead]

end

end SymbolGraph
