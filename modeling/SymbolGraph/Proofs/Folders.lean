import SymbolGraph.Files
import SymbolGraph.Proofs.Tables

/-! # What is in a folder

    The files of a folder are reached by paths, the folder's with a name below it, and
    listed by their names. This module relates the two to the places where things are
    stored (`Files.place_under`, `Files.mem_names`) and says what making a folder, writing
    and deleting do to the places.

    Paths are followed name by name, so what they lead to depends on every folder on the
    way. Two facts keep that under control. A path still leads to the same place when
    all folders are kept (`Files.Kept.place`), and in a sound tree nothing is stored
    below what is no folder (`Files.Sound`), so writing and deleting files keeps them.

    In a sound tree nothing is refused either. What is said of paths before that holds
    whatever the system lets one do.
-/

namespace SymbolGraph

namespace Path

/-! ## Components of paths -/

/-- A name that can stand between slashes. -/
def IsPart (p : String) : Prop :=
  '/' ∉ p.toList ∧ p ≠ "" ∧ p ≠ "."

instance (p : String) : Decidable (IsPart p) :=
  inferInstanceAs (Decidable ('/' ∉ p.toList ∧ p ≠ "" ∧ p ≠ "."))

theorem not_mem_of_mem_splitOn {cs part : List Char} (h : part ∈ cs.splitOn '/') :
    '/' ∉ part := by
  induction cs generalizing part with
  | nil =>
    rw [List.splitOn_nil, List.mem_singleton] at h
    rw [h]
    exact List.not_mem_nil
  | cons c cs ih =>
    rw [List.splitOn_cons_eq_if_modifyHead] at h
    split at h
    · rcases List.mem_cons.mp h with h | h
      · rw [h]
        exact List.not_mem_nil
      · exact ih h
    · rename_i hc
      obtain ⟨first, rest, hsplit⟩ := List.exists_cons_of_ne_nil (List.splitOn_ne_nil '/' cs)
      rw [hsplit] at h ih
      rw [List.modifyHead_cons] at h
      rcases List.mem_cons.mp h with h | h
      · rw [h, List.mem_cons, not_or]
        exact ⟨fun hcc => hc (beq_iff_eq.mpr hcc.symm), ih List.mem_cons_self⟩
      · exact ih (List.mem_cons_of_mem _ h)

theorem isPart_of_mem_parts {s p : String} (h : p ∈ parts s) : IsPart p := by
  obtain ⟨hmem, hp⟩ := List.mem_filter.mp h
  obtain ⟨cs, hcs, rfl⟩ := List.mem_map.mp hmem
  refine ⟨?_, by simpa using hp⟩
  rw [String.toList_ofList]
  exact not_mem_of_mem_splitOn hcs

theorem split_join (a b : String) : split (a ++ "/" ++ b) = split a ++ split b := by
  have hchars : (a ++ "/" ++ b).toList = a.toList ++ '/' :: b.toList := by
    rw [String.toList_append, String.toList_append, List.append_assoc]
    rfl
  unfold split
  rw [hchars, List.splitOn_append_cons_self, List.map_append]

theorem parts_join (a b : String) : parts (a ++ "/" ++ b) = parts a ++ parts b := by
  unfold parts
  rw [split_join, List.filter_append]

theorem parts_slash (s : String) : parts ("/" ++ s) = parts s := by
  have h := parts_join "" s
  rwa [String.empty_append] at h

theorem joinParts_chars (ps : List String) :
    (joinParts ps).toList = ['/'].intercalate (ps.map String.toList) := by
  unfold joinParts
  rw [String.toList_intercalate]
  rfl

theorem split_joinParts {ps : List String} (h : ∀ p ∈ ps, '/' ∉ p.toList) (hne : ps ≠ []) :
    split (joinParts ps) = ps := by
  have hparts : ∀ cs ∈ ps.map String.toList, '/' ∉ cs := by
    intro cs hcs
    obtain ⟨p, hp, rfl⟩ := List.mem_map.mp hcs
    exact h p hp
  have hback : (String.ofList ∘ String.toList) = id := by
    funext s
    exact String.ofList_toList
  unfold split
  rw [joinParts_chars, List.splitOn_intercalate _ hparts (by simpa using hne), List.map_map,
    hback, List.map_id]

/-- The components of joined components are these. -/
theorem parts_joinParts {ps : List String} (h : ∀ p ∈ ps, IsPart p) :
    parts (joinParts ps) = ps := by
  by_cases hnil : ps = []
  · rw [hnil]
    rfl
  · unfold parts
    rw [split_joinParts (fun p hp => (h p hp).1) hnil, List.filter_eq_self]
    intro p hp
    simpa using (h p hp).2

/-- Joined components start as the first of them does. -/
theorem head?_joinParts {p : String} (hp : p ≠ "") (ps : List String) :
    (joinParts (p :: ps)).toList.head? = p.toList.head? := by
  rw [joinParts_chars, List.map_cons]
  cases hchars : p.toList with
  | nil => exact absurd (String.toList_eq_nil_iff.mp hchars) hp
  | cons c cs => cases ps <;> simp [List.intercalate]

theorem isAbsolute_joinParts {ps : List String} (h : ∀ p ∈ ps, IsPart p) :
    isAbsolute (joinParts ps) = false := by
  unfold isAbsolute
  cases ps with
  | nil => rfl
  | cons p ps =>
    have hp := h p List.mem_cons_self
    rw [head?_joinParts hp.2.1, beq_eq_false_iff_ne]
    intro hslash
    exact hp.1 (List.mem_of_mem_head? hslash)

/-! ### Tidied paths -/

/-- What is kept of the front of a path is no component, and tells whether the path is
    absolute. -/
theorem root_cases (s : String) :
    root s = "" ∧ isAbsolute s = false ∨ root s = "/" ∧ isAbsolute s = true
      ∨ root s = "//" ∧ isAbsolute s = true := by
  unfold root isAbsolute
  split
  · rename_i h
    rw [h]
    exact .inr (.inl ⟨rfl, rfl⟩)
  · rename_i h
    rw [h]
    exact .inr (.inr ⟨rfl, rfl⟩)
  · rename_i h
    rw [h]
    exact .inr (.inl ⟨rfl, rfl⟩)
  · rename_i hno
    refine .inl ⟨rfl, ?_⟩
    cases hchars : s.toList with
    | nil => rfl
    | cons c cs =>
      have hc : c ≠ '/' := by
        rintro rfl
        exact hno cs hchars
      simpa using hc

theorem parts_root_append (s t : String) : parts (root s ++ t) = parts t := by
  rcases root_cases s with ⟨h, _⟩ | ⟨h, _⟩ | ⟨h, _⟩
  · rw [h, String.empty_append]
  · rw [h, parts_slash]
  · rw [h, show "//" = "/" ++ "/" from rfl, String.append_assoc, parts_slash, parts_slash]

/-- Tidying a path keeps its components. -/
theorem parts_spelled (s : String) : parts (spelled s) = parts s := by
  have hbody : parts (root s ++ joinParts (parts s)) = parts s := by
    rw [parts_root_append, parts_joinParts fun _ => isPart_of_mem_parts]
  unfold spelled
  dsimp only
  split
  · -- an empty path is spelled as a dot, which is no component
    rename_i hempty
    rw [hempty] at hbody
    rw [← hbody]
    rfl
  · exact hbody

theorem isAbsolute_spelled (s : String) : isAbsolute (spelled s) = isAbsolute s := by
  have hrest : isAbsolute (joinParts (parts s)) = false :=
    isAbsolute_joinParts fun _ => isPart_of_mem_parts
  unfold spelled
  dsimp only
  rcases root_cases s with ⟨hroot, habs⟩ | ⟨hroot, habs⟩ | ⟨hroot, habs⟩
  · rw [hroot, habs, String.empty_append]
    split
    · rfl
    · exact hrest
  · rw [hroot, habs]
    split
    · rename_i h
      simpa using congrArg String.toList h
    · simp [isAbsolute]
  · rw [hroot, habs]
    split
    · rename_i h
      simpa using congrArg String.toList h
    · simp [isAbsolute]

/-! ### One path below another -/

theorem parts_under {base s : String} (h : isAbsolute s = false) :
    parts (under base s) = parts base ++ parts s := by
  unfold under
  rw [h, if_neg Bool.false_ne_true]
  split
  · rename_i hbase
    rw [hbase, parts_spelled]
    rfl
  · rw [parts_spelled, parts_join]

theorem isAbsolute_under {base s : String} (h : isAbsolute s = false) :
    isAbsolute (under base s) = isAbsolute base := by
  unfold under
  rw [h, if_neg Bool.false_ne_true]
  split
  · rename_i hbase
    rw [hbase, isAbsolute_spelled, h]
    rfl
  · rename_i hbase
    rw [isAbsolute_spelled]
    unfold isAbsolute
    rw [String.toList_append, String.toList_append]
    cases hchars : base.toList with
    | nil => exact absurd (String.toList_eq_nil_iff.mp hchars) hbase
    | cons c cs => rfl

theorem parts_of_isPart {p : String} (h : IsPart p) : parts p = [p] := by
  have hjoin : joinParts [p] = p := by
    unfold joinParts
    exact String.intercalate_singleton
  have hparts : parts (joinParts [p]) = [p] := parts_joinParts (by simpa using h)
  rwa [hjoin] at hparts

theorem isAbsolute_of_isPart {p : String} (h : IsPart p) : isAbsolute p = false := by
  unfold isAbsolute
  cases hchars : p.toList with
  | nil => rfl
  | cons c cs =>
    have hc : c ≠ '/' := by
      rintro rfl
      exact h.1 (by rw [hchars]; exact List.mem_cons_self)
    simpa using hc

end Path

namespace Files

open SymbolGraph.Path

/-! ## Places and paths -/

/-- A path leads on only from a folder, and only within reach. -/
theorem follow_cons {f : Files} {p q : Place} {n : String} {names : List String} :
    f.follow p (n :: names) = .ok q ↔ f.at? p = some .folder
      ∧ f.access.refuses .look (onward p n) = none ∧ f.follow (onward p n) names = .ok q := by
  rw [follow]
  split
  · rename_i h
    rw [h]
    exact ⟨nofun, nofun⟩
  · rename_i h
    rw [h]
    exact ⟨nofun, nofun⟩
  · rename_i h
    rw [h]
    split
    · rename_i hwhy
      rw [hwhy]
      exact ⟨nofun, nofun⟩
    · rename_i hopen
      rw [hopen]
      exact ⟨fun hq => ⟨rfl, rfl, hq⟩, fun hq => hq.2.2⟩

theorem follow_append (f : Files) (p : Place) (xs ys : List String) :
    f.follow p (xs ++ ys) = f.follow p xs >>= fun q => f.follow q ys := by
  induction xs generalizing p with
  | nil => rfl
  | cons x xs ih =>
    rw [List.cons_append, follow, follow]
    split
    · rfl
    · rfl
    · split
      · rfl
      · exact ih _

theorem place_eq_ok {f : Files} {path : String} {p : Place} :
    f.place path = .ok p ↔ f.follow (f.start path) (parts path) = .ok p := by
  unfold place
  cases f.follow (f.start path) (parts path) with
  | error e => exact ⟨nofun, nofun⟩
  | ok q => simp [Except.mapError]

theorem find_eq_ok {f : Files} {path : String} {e : Entry} :
    f.find path = .ok e ↔ ∃ p, f.place path = .ok p ∧ f.at? p = some e := by
  cases hplace : f.place path with
  | error e =>
    refine ⟨fun h => ?_, nofun⟩
    unfold find at h
    rw [hplace] at h
    cases h
  | ok p =>
    unfold find
    rw [hplace]
    simp only [bind, Except.bind]
    cases h : f.at? p with
    | none =>
      constructor
      · intro he
        cases he
      · rintro ⟨q, hq, he⟩
        cases hq
        rw [h] at he
        cases he
    | some e' =>
      constructor
      · intro he
        cases he
        exact ⟨p, rfl, h⟩
      · rintro ⟨q, hq, he⟩
        cases hq
        rw [h] at he
        cases he
        rfl

theorem has_eq_true {f : Files} {path : String} :
    f.has path = .ok true ↔ ∃ e, f.find path = .ok e := by
  unfold has
  cases f.find path with
  | ok e => exact ⟨fun _ => ⟨e, rfl⟩, fun _ => rfl⟩
  | error fault =>
    refine ⟨fun h => ?_, nofun⟩
    rw [ifThere] at h
    split at h <;> cases h

/-- What is at a path stays open exactly if the system refuses to look on the way. -/
theorem has_eq_error {f : Files} {path : String} {fault : Fault} :
    f.has path = .error fault ↔ ∃ why, fault = ⟨.refused why, path⟩
      ∧ f.follow (f.start path) (parts path) = .error (.refused why) := by
  unfold has find place
  cases f.follow (f.start path) (parts path) with
  | ok p =>
    refine ⟨fun h => ?_, nofun⟩
    simp only [Except.mapError, bind, Except.bind] at h
    split at h <;> cases h
  | error r =>
    simp only [Except.mapError, bind, Except.bind, ifThere]
    cases r <;> simp [Reason.isRefusal, Except.map, eq_comm]

/-- A refusal on the way: at the next place, or further on. -/
theorem follow_cons_refused {f : Files} {p : Place} {n : String} {names : List String}
    {why : Refusal} :
    f.follow p (n :: names) = .error (.refused why) ↔ f.at? p = some .folder ∧
      (f.access.refuses .look (onward p n) = some why ∨
        f.access.refuses .look (onward p n) = none ∧
          f.follow (onward p n) names = .error (.refused why)) := by
  rw [follow]
  cases f.at? p with
  | none => exact ⟨nofun, nofun⟩
  | some e =>
    cases e with
    | file bytes => exact ⟨nofun, nofun⟩
    | folder => cases f.access.refuses .look (onward p n) <;> simp

theorem folderAt_eq_some {f : Files} {path : String} {d : Place} :
    f.folderAt path = .ok (some d) ↔ f.place path = .ok d ∧ f.at? d = some .folder := by
  unfold folderAt
  cases f.place path with
  | error fault =>
    refine ⟨fun h => ?_, nofun⟩
    rw [ifThere] at h
    split at h <;> cases h
  | ok p =>
    show Except.ok ((some p).filter _) = _ ↔ _
    rw [Except.ok.injEq, Except.ok.injEq, Option.filter_eq_some_iff, Option.some.injEq,
      decide_eq_true_iff]

/-- A name by which a path leads into a folder: it is a component, and does not go back to
    the folder above. -/
def IsName (n : String) : Prop :=
  IsPart n ∧ n ≠ ".."

/-- A path below another leads one name further. -/
theorem follow_under (f : Files) {base n : String} (hn : IsName n) :
    f.follow (f.start (under base n)) (parts (under base n))
      = f.follow (f.start base) (parts base) >>= fun d => f.follow d [n] := by
  have habs := isAbsolute_of_isPart hn.1
  have hstart : f.start (under base n) = f.start base := by
    unfold start
    rw [isAbsolute_under habs]
  rw [hstart, parts_under habs, parts_of_isPart hn.1, follow_append]

theorem follow_name (f : Files) {d : Place} {n : String} (hn : n ≠ "..") {q : Place} :
    f.follow d [n] = .ok q
      ↔ f.at? d = some .folder ∧ f.access.refuses .look (d ++ [n]) = none ∧ q = d ++ [n] := by
  have honward : onward d n = d ++ [n] := if_neg hn
  rw [follow_cons, honward, follow, Except.ok.injEq, eq_comm (a := q)]

theorem place_under {f : Files} {base n : String} (hn : IsName n) {q : Place} :
    f.place (under base n) = .ok q ↔ ∃ d, f.place base = .ok d ∧ f.at? d = some .folder
      ∧ f.access.refuses .look (d ++ [n]) = none ∧ q = d ++ [n] := by
  rw [place_eq_ok, follow_under f hn]
  cases hbase : f.follow (f.start base) (parts base) with
  | error e =>
    refine ⟨nofun, ?_⟩
    rintro ⟨d, hd, _⟩
    rw [place_eq_ok, hbase] at hd
    cases hd
  | ok d =>
    have hplace : f.place base = .ok d := place_eq_ok.mpr hbase
    show f.follow d [n] = .ok q ↔ _
    rw [follow_name f hn.2]
    constructor
    · rintro ⟨hd, hq⟩
      exact ⟨d, hplace, hd, hq⟩
    · rintro ⟨d', hd', hfolder, hq⟩
      rw [hplace] at hd'
      cases hd'
      exact ⟨hfolder, hq⟩

/-! ### The names in a folder -/

theorem at?_of_ne_nil (f : Files) {p : Place} (h : p ≠ []) : f.at? p = f.entries.get? p :=
  if_neg h

/-- What is stored below a place is given by the names that lead to it from there. -/
theorem below_eq_some {d q r : Place} {e e' : Entry} :
    (if d.isPrefixOf q && d.length < q.length then some (q.drop d.length, e) else none)
      = some (r, e') ↔ r ≠ [] ∧ q = d ++ r ∧ e = e' := by
  constructor
  · intro h
    split at h
    · rename_i hpre
      obtain ⟨hpre, hlength⟩ := Bool.and_eq_true_iff.mp hpre
      obtain ⟨rest, rfl⟩ := List.isPrefixOf_iff_prefix.mp hpre
      rw [List.drop_left] at h
      cases h
      refine ⟨?_, rfl, rfl⟩
      rintro rfl
      simp at hlength
    · cases h
  · rintro ⟨hr, rfl, rfl⟩
    have hpre : d.isPrefixOf (d ++ r) = true :=
      List.isPrefixOf_iff_prefix.mpr (List.prefix_append d r)
    rw [hpre, List.drop_left, List.length_append,
      if_pos (by simpa using List.length_pos_iff.mpr hr)]

theorem mem_below {f : Files} {d r : Place} {e : Entry} :
    (r, e) ∈ f.below d ↔ r ≠ [] ∧ f.at? (d ++ r) = some e := by
  constructor
  · intro h
    obtain ⟨⟨q, e'⟩, hmem, hbelow⟩ := List.mem_filterMap.mp h
    obtain ⟨hr, rfl, rfl⟩ := below_eq_some.mp hbelow
    rw [at?_of_ne_nil f (by simp [hr])]
    exact ⟨hr, Table.get?_of_mem hmem⟩
  · rintro ⟨hr, he⟩
    rw [at?_of_ne_nil f (by simp [hr])] at he
    obtain ⟨q, hq, hmem⟩ := Table.exists_mem_of_get? he
    rw [beq_iff_eq] at hq
    exact List.mem_filterMap.mpr ⟨(q, e), hmem, below_eq_some.mpr ⟨hr, hq, rfl⟩⟩

/-- Different names lead to different things. -/
theorem pairwise_below (f : Files) (d : Place) :
    (f.below d).Pairwise fun a b => a.1 ≠ b.1 := by
  refine List.Pairwise.filterMap _ ?_ (List.pairwise_map.mp f.entries.nodup_keys)
  rintro ⟨p, e⟩ ⟨q, e'⟩ hne ⟨r, _⟩ hr ⟨r', _⟩ hr' rfl
  obtain ⟨_, rfl, _⟩ := below_eq_some.mp hr
  obtain ⟨_, rfl, _⟩ := below_eq_some.mp hr'
  exact hne rfl

/-- The name that leads from a folder to a place, if one name does. -/
def nameIn (d p : Place) : Option String :=
  if d.isPrefixOf p && d.length < p.length then
    match p.drop d.length with
    | [n] => some n
    | _ => none
  else none

theorem nameIn_eq_some {d p : Place} {n : String} : nameIn d p = some n ↔ p = d ++ [n] := by
  unfold nameIn
  constructor
  · intro h
    split at h
    · rename_i hpre
      obtain ⟨rest, rfl⟩ := List.isPrefixOf_iff_prefix.mp (Bool.and_eq_true_iff.mp hpre).1
      rw [List.drop_left] at h
      split at h
      · cases h
        rfl
      · cases h
    · cases h
  · rintro rfl
    have hpre : d.isPrefixOf (d ++ [n]) = true :=
      List.isPrefixOf_iff_prefix.mpr (List.prefix_append d [n])
    rw [hpre, List.drop_left]
    simp

theorem names_eq {f : Files} {path : String} {d : Place} (h : f.folderAt path = .ok (some d)) :
    f.names path
      = if f.access.closed d then [] else f.entries.keys.filterMap (nameIn d) := by
  unfold names below Table.keys
  rw [h]
  dsimp only
  rw [List.filterMap_filterMap, List.filterMap_map]
  congr 2
  funext e
  show _ = nameIn d e.1
  unfold nameIn
  split <;> rfl

theorem names_eq_nil {f : Files} {path : String} (h : ∀ d, f.folderAt path ≠ .ok (some d)) :
    f.names path = [] := by
  unfold names
  split
  · rename_i d hd
    exact absurd hd (h d)
  · rfl

/-- A folder that can be listed has the names at which something is stored. -/
theorem mem_names {f : Files} {path n : String} :
    n ∈ f.names path ↔ ∃ d, f.place path = .ok d ∧ f.at? d = some .folder
      ∧ f.access.closed d = false ∧ (f.at? (d ++ [n])).isSome = true := by
  by_cases hfolder : ∃ d, f.folderAt path = .ok (some d)
  · obtain ⟨d, hd⟩ := hfolder
    have hnames : n ∈ f.entries.keys.filterMap (nameIn d)
        ↔ (f.at? (d ++ [n])).isSome = true := by
      rw [at?_of_ne_nil f (by simp), Table.isSome_get?, Table.contains_eq_any_keys,
        List.any_eq_true, List.mem_filterMap]
      constructor
      · rintro ⟨p, hp, hn⟩
        exact ⟨p, hp, beq_iff_eq.mpr (nameIn_eq_some.mp hn)⟩
      · rintro ⟨p, hp, heq⟩
        exact ⟨p, hp, nameIn_eq_some.mpr (beq_iff_eq.mp heq)⟩
    obtain ⟨hplace, hat⟩ := folderAt_eq_some.mp hd
    rw [names_eq hd]
    constructor
    · intro h
      split at h
      · cases h
      · rename_i hopen
        exact ⟨d, hplace, hat, Bool.eq_false_iff.mpr hopen, hnames.mp h⟩
    · rintro ⟨d', hd', _, hopen, hn⟩
      rw [hplace] at hd'
      cases hd'
      rw [hopen, if_neg Bool.false_ne_true]
      exact hnames.mpr hn
  · rw [names_eq_nil fun d hd => hfolder ⟨d, hd⟩]
    refine ⟨nofun, ?_⟩
    rintro ⟨d, hplace, hat, _⟩
    exact absurd ⟨d, folderAt_eq_some.mpr ⟨hplace, hat⟩⟩ hfolder

theorem nodup_names (f : Files) (path : String) : (f.names path).Nodup := by
  by_cases hfolder : ∃ d, f.folderAt path = .ok (some d)
  · obtain ⟨d, hd⟩ := hfolder
    rw [names_eq hd]
    split
    · exact List.nodup_nil
    · refine List.Pairwise.filterMap (nameIn d) ?_ f.entries.nodup_keys
      rintro p q hne n hp m hq rfl
      exact hne ((nameIn_eq_some.mp hp).trans (nameIn_eq_some.mp hq).symm)
  · rw [names_eq_nil fun d hd => hfolder ⟨d, hd⟩]
    exact List.nodup_nil

/-- Sorting puts different texts in increasing order. -/
theorem increasing_mergeSort {texts : List String} (h : texts.Nodup) :
    (texts.mergeSort fun a b => !(decide (b < a))).Pairwise fun a b => a < b := by
  have hle : ∀ a b : String, (!(decide (b < a))) = true ↔ a ≤ b := by
    intro a b
    rw [Bool.not_eq_true', decide_eq_false_iff_not, String.not_lt]
  have hsorted : (texts.mergeSort fun a b => !(decide (b < a))).Pairwise fun a b => a ≤ b := by
    refine (List.pairwise_mergeSort ?_ ?_ _).imp fun h => (hle _ _).mp h
    · intro a b d hab hbd
      exact (hle a d).mpr (String.le_trans ((hle a b).mp hab) ((hle b d).mp hbd))
    · intro a b
      rw [Bool.or_eq_true, hle, hle]
      exact String.le_total a b
  refine (hsorted.and ((List.mergeSort_perm _ _).nodup_iff.mpr h)).imp ?_
  rintro a b ⟨hab, hne⟩
  apply Decidable.byContradiction
  intro hlt
  exact hne (String.le_antisymm hab (String.not_lt.mp hlt))

theorem nodup_of_increasing {texts : List String} (h : texts.Pairwise fun a b => a < b) :
    texts.Nodup := by
  refine h.imp ?_
  rintro a _ hlt rfl
  exact String.lt_irrefl a hlt

/-! ## Sound trees -/

/-- A system that allows everything refuses nothing. -/
theorem refuses_of_access {f : Files} (h : f.access = {}) (a : Act) (p : Place) :
    f.access.refuses a p = none := by
  rw [h]

/-- Everything is stored in a folder, paths start at one, and the system refuses nothing. -/
structure Sound (f : Files) : Prop where
  here : f.at? f.here = some .folder
  above : ∀ p n, (f.at? (p ++ [n])).isSome = true → f.at? p = some .folder
  access : f.access = {}

/-- Nothing is stored. -/
theorem sound_empty : Sound {} where
  here := rfl
  above p n h := by
    rw [at?_of_ne_nil _ (by simp)] at h
    cases h
  access := rfl

theorem Sound.refuses {f : Files} (hf : Sound f) (a : Act) (p : Place) :
    f.access.refuses a p = none :=
  refuses_of_access hf.access a p

theorem Sound.closed {f : Files} (hf : Sound f) (p : Place) : f.access.closed p = false := by
  rw [hf.access]

/-- All that is above something stored is a folder. -/
theorem Sound.above_append {f : Files} (hf : Sound f) {p r : Place} (hr : r ≠ [])
    (h : (f.at? (p ++ r)).isSome = true) : f.at? p = some .folder := by
  induction r generalizing p with
  | nil => exact absurd rfl hr
  | cons n r ih =>
    rw [List.append_cons] at h
    apply hf.above p n
    by_cases hnil : r = []
    · rw [hnil, List.append_nil] at h
      exact h
    · rw [ih hnil h]
      rfl

theorem Sound.onward_folder {f : Files} (hf : Sound f) {p : Place} (hp : f.at? p = some .folder) :
    f.at? (onward p "..") = some .folder := by
  show f.at? p.dropLast = some .folder
  by_cases hnil : p = []
  · rw [hnil]
    rfl
  · apply hf.above _ (p.getLast hnil)
    rw [List.dropLast_concat_getLast, hp]
    rfl

theorem start_folder {f : Files} (hf : Sound f) (path : String) :
    f.at? (f.start path) = some .folder := by
  unfold start
  split
  · rfl
  · exact hf.here

/-! ### Changes that keep the folders -/

/-- Every folder is still a folder, relative paths start where they did, and the system lets
    one do the same. -/
structure Kept (f g : Files) : Prop where
  here : g.here = f.here
  access : g.access = f.access
  folder : ∀ p, f.at? p = some .folder → g.at? p = some .folder

theorem Kept.follow {f g : Files} (h : Kept f g) {p q : Place} {names : List String}
    (hq : f.follow p names = .ok q) : g.follow p names = .ok q := by
  induction names generalizing p with
  | nil => exact hq
  | cons n names ih =>
    obtain ⟨hp, hopen, hq⟩ := follow_cons.mp hq
    exact follow_cons.mpr ⟨h.folder p hp, by rw [h.access, hopen], ih hq⟩

/-- What is out of reach stays out of reach. -/
theorem Kept.follow_refused {f g : Files} (h : Kept f g) {p : Place} {names : List String}
    {why : Refusal} (hr : f.follow p names = .error (.refused why)) :
    g.follow p names = .error (.refused why) := by
  induction names generalizing p with
  | nil => cases hr
  | cons n names ih =>
    rw [follow_cons_refused] at hr ⊢
    rw [h.access]
    exact ⟨h.folder p hr.1, hr.2.imp_right fun hrest => ⟨hrest.1, ih hrest.2⟩⟩

theorem Kept.start {f g : Files} (h : Kept f g) (path : String) : g.start path = f.start path := by
  unfold Files.start
  rw [h.here]

theorem Kept.place {f g : Files} (h : Kept f g) {path : String} {p : Place}
    (hp : f.place path = .ok p) : g.place path = .ok p := by
  rw [place_eq_ok] at hp ⊢
  rw [h.start]
  exact h.follow hp

/-- A change of what is no folder keeps a tree sound, if whatever is stored afterwards was
    stored before or has been put into a folder. -/
theorem Sound.of_kept {f g : Files} (hf : Sound f) (h : Kept f g)
    (hstored : ∀ p n, (g.at? (p ++ [n])).isSome = true →
      (f.at? (p ++ [n])).isSome = true ∨ f.at? p = some .folder) : Sound g where
  here := by
    rw [h.here]
    exact h.folder _ hf.here
  above p n hn := by
    rcases hstored p n hn with hn | hp
    · exact h.folder p (hf.above p n hn)
    · exact h.folder p hp
  access := h.access.trans hf.access

/-! ### Putting -/

theorem at?_put (f : Files) {p : Place} (hp : p ≠ []) (e : Entry) (q : Place) :
    (f.put p e).at? q = if q = p then some e else f.at? q := by
  by_cases hq : q = []
  · subst hq
    rw [if_neg (Ne.symm hp)]
    rfl
  · rw [at?_of_ne_nil _ hq, at?_of_ne_nil _ hq]
    show (f.entries.insert p e).get? q = _
    rw [Table.get?_insert]
    by_cases hpq : q = p
    · simp [hpq]
    · have hqp : (p == q) = false := beq_false_of_ne (Ne.symm hpq)
      simp [hpq, hqp]

/-- Putting something that is not in the place of a folder into a folder. -/
theorem kept_put {f : Files} {p : Place} (hp : p ≠ []) (hfree : f.at? p ≠ some .folder)
    (e : Entry) : Kept f (f.put p e) where
  here := rfl
  access := rfl
  folder q hq := by
    rw [at?_put f hp, if_neg, hq]
    rintro rfl
    exact hfree hq

theorem Sound.put {f : Files} (hf : Sound f) {d : Place} {n : String}
    (hd : f.at? d = some .folder) (hfree : f.at? (d ++ [n]) ≠ some .folder) (e : Entry) :
    Sound (f.put (d ++ [n]) e) := by
  apply hf.of_kept (kept_put (by simp) hfree e)
  intro p m hm
  rw [at?_put f (by simp)] at hm
  split at hm
  · rename_i heq
    obtain ⟨rfl, _⟩ := List.append_inj' heq rfl
    exact .inr hd
  · exact .inl hm

/-! ### Clearing -/

theorem at?_clear (f : Files) {p : Place} (hp : p ≠ []) (q : Place) :
    (f.clear p).at? q = if p <+: q then none else f.at? q := by
  by_cases hq : q = []
  · subst hq
    rw [if_neg (by simpa using hp)]
    rfl
  · rw [at?_of_ne_nil _ hq, at?_of_ne_nil _ hq]
    show (f.entries.filter _).get? q = _
    rw [Table.get?_filter]
    by_cases hpq : p <+: q
    · rw [if_pos hpq, List.isPrefixOf_iff_prefix.mpr hpq]
      rfl
    · have hno : p.isPrefixOf q = false :=
        Bool.eq_false_iff.mpr fun h => hpq (List.isPrefixOf_iff_prefix.mp h)
      rw [if_neg hpq, hno]
      rfl

/-- Clearing what is no folder clears nothing else. -/
theorem Sound.at?_clear {f : Files} (hf : Sound f) {p : Place} (hp : p ≠ [])
    (hfree : f.at? p ≠ some .folder) (q : Place) :
    (f.clear p).at? q = if q = p then none else f.at? q := by
  rw [Files.at?_clear f hp]
  by_cases hqp : q = p
  · rw [if_pos hqp, hqp, if_pos List.prefix_rfl]
  · rw [if_neg hqp]
    split
    · -- nothing is stored below what is no folder
      rename_i hpre
      obtain ⟨r, rfl⟩ := hpre
      have hr : r ≠ [] := by
        rintro rfl
        exact hqp (List.append_nil p)
      cases h : f.at? (p ++ r) with
      | none => rfl
      | some e => exact absurd (hf.above_append hr (by rw [h]; rfl)) hfree
    · rfl

theorem Sound.kept_clear {f : Files} (hf : Sound f) {p : Place} (hp : p ≠ [])
    (hfree : f.at? p ≠ some .folder) : Kept f (f.clear p) where
  here := rfl
  access := rfl
  folder q hq := by
    rw [hf.at?_clear hp hfree, if_neg, hq]
    rintro rfl
    exact hfree hq

theorem Sound.clear {f : Files} (hf : Sound f) {p : Place} (hp : p ≠ [])
    (hfree : f.at? p ≠ some .folder) : Sound (f.clear p) := by
  apply hf.of_kept (hf.kept_clear hp hfree)
  intro q n hn
  rw [hf.at?_clear hp hfree] at hn
  split at hn
  · cases hn
  · exact .inl hn

/-! ### Making folders -/

/-- What was stored is stored, relative paths start where they did, and the system lets one do
    the same. -/
structure Grown (f g : Files) : Prop where
  here : g.here = f.here
  access : g.access = f.access
  stored : ∀ q e, f.at? q = some e → g.at? q = some e

theorem Grown.kept {f g : Files} (h : Grown f g) : Kept f g :=
  ⟨h.here, h.access, fun q hq => h.stored q _ hq⟩

theorem Grown.trans {f g k : Files} (h₁ : Grown f g) (h₂ : Grown g k) : Grown f k :=
  ⟨h₂.here.trans h₁.here, h₂.access.trans h₁.access,
    fun q e he => h₂.stored q e (h₁.stored q e he)⟩

theorem ne_nil_of_at?_eq_none {f : Files} {p : Place} (h : f.at? p = none) : p ≠ [] := by
  rintro rfl
  cases h

/-- Putting something where nothing is stored. -/
theorem grown_put {f : Files} {p : Place} (hp : f.at? p = none) (e : Entry) :
    Grown f (f.put p e) where
  here := rfl
  access := rfl
  stored q e' hq := by
    rw [at?_put f (ne_nil_of_at?_eq_none hp), if_neg, hq]
    rintro rfl
    rw [hp] at hq
    cases hq

/-- The next folder is there, or it is made. -/
theorem makeFrom_cons {f g : Files} {p : Place} {n : String} {names : List String} :
    f.makeFrom p (n :: names) = .ok g ↔ f.access.refuses .look (onward p n) = none ∧
      (f.at? (onward p n) = some .folder ∧ f.makeFrom (onward p n) names = .ok g ∨
        f.at? (onward p n) = none ∧ f.access.refuses .write (onward p n) = none ∧
          (f.put (onward p n) .folder).makeFrom (onward p n) names = .ok g) := by
  rw [makeFrom]
  cases f.access.refuses .look (onward p n) with
  | some why => exact ⟨nofun, nofun⟩
  | none =>
    cases f.at? (onward p n) with
    | none =>
      cases f.access.refuses .write (onward p n) with
      | some why => exact ⟨nofun, by simp⟩
      | none => simp
    | some e =>
      cases e with
      | file bytes => exact ⟨nofun, by simp⟩
      | folder => simp

theorem grown_of_makeFrom {f g : Files} {p : Place} {names : List String}
    (h : f.makeFrom p names = .ok g) : Grown f g := by
  induction names generalizing f p with
  | nil =>
    cases h
    exact ⟨rfl, rfl, fun _ _ he => he⟩
  | cons n names ih =>
    obtain ⟨_, ⟨_, h⟩ | ⟨hnone, _, h⟩⟩ := makeFrom_cons.mp h
    · exact ih h
    · exact (grown_put hnone .folder).trans (ih h)

/-- What making a folder gives: all that was there, and the folder. -/
structure Made (f g : Files) (p d : Place) (names : List String) : Prop extends Grown f g where
  sound : Sound g
  follow : g.follow p names = .ok d
  folder : g.at? d = some .folder

theorem Sound.makeFrom {f g : Files} (hf : Sound f) {p : Place} (hp : f.at? p = some .folder)
    {names : List String} (h : f.makeFrom p names = .ok g) : ∃ d, Made f g p d names := by
  have hgrown := grown_of_makeFrom h
  suffices hmade : Sound g ∧ ∃ d, g.follow p names = .ok d ∧ g.at? d = some .folder by
    obtain ⟨hsound, d, hfollow, hfolder⟩ := hmade
    exact ⟨d, hgrown, hsound, hfollow, hfolder⟩
  clear hgrown
  induction names generalizing f p with
  | nil =>
    cases h
    exact ⟨hf, p, rfl, hp⟩
  | cons n names ih =>
    have hstored : g.at? p = some .folder := (grown_of_makeFrom h).stored p _ hp
    have hopen : g.access.refuses .look (onward p n) = none := by
      rw [(grown_of_makeFrom h).access, hf.refuses]
    obtain ⟨_, ⟨hq, h⟩ | ⟨hq, _, h⟩⟩ := makeFrom_cons.mp h
    · -- the next folder is there
      obtain ⟨hsound, d, hfollow, hfolder⟩ := ih hf hq h
      exact ⟨hsound, d, follow_cons.mpr ⟨hstored, hopen, hfollow⟩, hfolder⟩
    · -- the next folder is new, so the name does not go back
      have hn : n ≠ ".." := by
        rintro rfl
        rw [hf.onward_folder hp] at hq
        cases hq
      have honward : onward p n = p ++ [n] := if_neg hn
      have hput : (f.put (onward p n) .folder).at? (onward p n) = some .folder := by
        rw [at?_put f (ne_nil_of_at?_eq_none hq), if_pos rfl]
      have hnext : Sound (f.put (onward p n) .folder) := by
        rw [honward] at hq ⊢
        exact hf.put hp (by rw [hq]; nofun) .folder
      obtain ⟨hsound, d, hfollow, hfolder⟩ := ih hnext hput h
      exact ⟨hsound, d, follow_cons.mpr ⟨hstored, hopen, hfollow⟩, hfolder⟩

/-- A folder that is there is not made again. -/
theorem makeFrom_of_follow {f : Files} {p d : Place} {names : List String}
    (h : f.follow p names = .ok d) (hd : f.at? d = some .folder) :
    f.makeFrom p names = .ok f := by
  induction names generalizing p with
  | nil => rfl
  | cons n names ih =>
    obtain ⟨_, hopen, h⟩ := follow_cons.mp h
    -- the next place is the folder itself, or the path leads on from it
    have hnext : f.at? (onward p n) = some .folder := by
      cases names with
      | nil =>
        cases h
        exact hd
      | cons m names => exact (follow_cons.mp h).1
    exact makeFrom_cons.mpr ⟨hopen, .inl ⟨hnext, ih h⟩⟩

/-! ## Operations on paths -/

theorem makeFolder_of_place {f : Files} {path : String} {d : Place} (h : f.place path = .ok d)
    (hd : f.at? d = some .folder) : f.makeFolder path = .ok f := by
  unfold makeFolder
  rw [makeFrom_of_follow (place_eq_ok.mp h) hd]
  rfl

theorem makeFolder_eq_ok {f g : Files} {path : String} :
    f.makeFolder path = .ok g ↔ f.makeFrom (f.start path) (parts path) = .ok g := by
  unfold makeFolder
  cases f.makeFrom (f.start path) (parts path) with
  | error e => exact ⟨nofun, nofun⟩
  | ok g' => simp [Except.mapError]

theorem Sound.makeFolder {f g : Files} (hf : Sound f) {path : String}
    (h : f.makeFolder path = .ok g) : ∃ d, Made f g (f.start path) d (parts path) :=
  hf.makeFrom (start_folder hf path) (makeFolder_eq_ok.mp h)

theorem Made.place {f g : Files} {path : String} {d : Place}
    (h : Made f g (f.start path) d (parts path)) : g.place path = .ok d := by
  rw [place_eq_ok, h.toGrown.kept.start]
  exact h.follow

/-- The bytes of the file that a path leads to, if the system lets one read them. -/
theorem read_eq_ok {f : Files} {path : String} {bytes : List UInt8} :
    f.read path = .ok bytes ↔ ∃ p, f.place path = .ok p ∧ f.at? p = some (.file bytes)
      ∧ f.access.refuses .read p = none := by
  unfold read
  cases hfind : f.find path with
  | error fault =>
    refine ⟨nofun, ?_⟩
    rintro ⟨p, hplace, hat, _⟩
    rw [find_eq_ok.mpr ⟨p, hplace, hat⟩] at hfind
    cases hfind
  | ok e =>
    obtain ⟨p, hplace, hat⟩ := find_eq_ok.mp hfind
    rw [hplace]
    simp only [bind, Except.bind, Except.ok.injEq]
    cases e with
    | folder => simp [hat]
    | file bytes' =>
      unfold allow
      cases hread : f.access.refuses .read p with
      | some why => simp [hread]
      | none => simp [hat, hread, pure, Except.pure]

/-- A file is put where its path leads, unless a folder is there or the system refuses. -/
theorem write_eq_ok {f g : Files} {path : String} {bytes : List UInt8} :
    f.write path bytes = .ok g ↔ ∃ p, f.place path = .ok p ∧ f.at? p ≠ some .folder
      ∧ f.access.refuses .write p = none ∧ g = f.put p (.file bytes) := by
  unfold write
  cases f.place path with
  | error fault => simp [bind, Except.bind]
  | ok p =>
    simp only [bind, Except.bind, Except.ok.injEq]
    split
    · rename_i hfolder
      simp [hfolder]
    · rename_i hfree
      unfold allow
      cases hwrite : f.access.refuses .write p with
      | some why => simp [hwrite]
      | none =>
        have hfree : f.at? p ≠ some .folder := hfree
        simp [hfree, hwrite, pure, Except.pure, eq_comm (a := g)]

/-- What is deleted is a file, and its place is cleared. -/
theorem delete_eq_ok {f g : Files} {path : String} :
    f.delete path = .ok g ↔ ∃ p bytes, f.place path = .ok p ∧ f.at? p = some (.file bytes)
      ∧ f.access.refuses .write p = none ∧ g = f.clear p := by
  unfold delete
  cases hfind : f.find path with
  | error fault =>
    refine ⟨nofun, ?_⟩
    rintro ⟨p, bytes, hplace, hat, _⟩
    rw [find_eq_ok.mpr ⟨p, hplace, hat⟩] at hfind
    cases hfind
  | ok e =>
    obtain ⟨p, hplace, hat⟩ := find_eq_ok.mp hfind
    rw [hplace]
    simp only [bind, Except.bind, Except.ok.injEq]
    cases e with
    | folder => simp [hat]
    | file bytes' =>
      unfold allow
      cases hwrite : f.access.refuses .write p with
      | some why => simp [hwrite]
      | none => simp [hat, hwrite, pure, Except.pure, eq_comm]

theorem follow_ne_refused {f : Files} (hf : f.access = {}) (p : Place) (names : List String)
    (why : Refusal) : f.follow p names ≠ .error (.refused why) := by
  induction names generalizing p with
  | nil => nofun
  | cons n names ih =>
    intro h
    obtain ⟨_, hwhy | ⟨_, h⟩⟩ := follow_cons_refused.mp h
    · rw [refuses_of_access hf] at hwhy
      cases hwhy
    · exact ih _ h

/-- In a sound tree a path leads to something or it does not. -/
theorem Sound.exists_has {f : Files} (hf : Sound f) (path : String) :
    ∃ there, f.has path = .ok there := by
  cases hhas : f.has path with
  | error fault =>
    obtain ⟨why, _, hfollow⟩ := has_eq_error.mp hhas
    exact absurd hfollow (follow_ne_refused hf.access _ _ why)
  | ok there => exact ⟨there, rfl⟩

theorem Sound.has_eq {f : Files} (hf : Sound f) {path : String} {there : Bool}
    (h : there = true ↔ ∃ e, f.find path = .ok e) : f.has path = .ok there := by
  obtain ⟨found, hfound⟩ := hf.exists_has path
  have hthere : found = true ↔ there = true := by
    rw [h, ← has_eq_true, hfound, Except.ok.injEq]
  rw [hfound, Bool.eq_iff_iff.mpr hthere]

section Entry

variable {f : Files} {base n : String} {d : Place}

/-- Where nothing is refused, a name below a folder leads to what the folder has by the name. -/
theorem place_name (hf : f.access = {}) (hn : IsName n) (hplace : f.place base = .ok d)
    (hd : f.at? d = some .folder) : f.place (under base n) = .ok (d ++ [n]) :=
  (place_under hn).mpr ⟨d, hplace, hd, refuses_of_access hf _ _, rfl⟩

theorem find_under (hf : f.access = {}) (hn : IsName n) (hplace : f.place base = .ok d)
    (hd : f.at? d = some .folder) {e : Entry} (he : f.at? (d ++ [n]) = some e) :
    f.find (under base n) = .ok e :=
  find_eq_ok.mpr ⟨_, place_name hf hn hplace hd, he⟩

theorem read_under (hf : f.access = {}) (hn : IsName n) (hplace : f.place base = .ok d)
    (hd : f.at? d = some .folder) {bytes : List UInt8}
    (he : f.at? (d ++ [n]) = some (.file bytes)) : f.read (under base n) = .ok bytes :=
  read_eq_ok.mpr
    ⟨_, place_name hf hn hplace hd, he, refuses_of_access hf _ _⟩

theorem write_under (hf : f.access = {}) (hn : IsName n) (hplace : f.place base = .ok d)
    (hd : f.at? d = some .folder) (hfree : f.at? (d ++ [n]) ≠ some .folder)
    (bytes : List UInt8) : f.write (under base n) bytes = .ok (f.put (d ++ [n]) (.file bytes)) :=
  write_eq_ok.mpr
    ⟨_, place_name hf hn hplace hd, hfree, refuses_of_access hf _ _, rfl⟩

theorem delete_under (hf : f.access = {}) (hn : IsName n) (hplace : f.place base = .ok d)
    (hd : f.at? d = some .folder) {bytes : List UInt8}
    (he : f.at? (d ++ [n]) = some (.file bytes)) :
    f.delete (under base n) = .ok (f.clear (d ++ [n])) :=
  delete_eq_ok.mpr
    ⟨_, _, place_name hf hn hplace hd, he, refuses_of_access hf _ _, rfl⟩

/-- A path below a folder leads to something exactly if the folder has the name. -/
theorem find_under_iff (hf : Sound f) (hn : IsName n) :
    (∃ e, f.find (under base n) = .ok e) ↔ n ∈ f.names base := by
  rw [mem_names]
  constructor
  · rintro ⟨e, he⟩
    obtain ⟨p, hp, hpe⟩ := find_eq_ok.mp he
    obtain ⟨d, hd, hfolder, _, rfl⟩ := (place_under hn).mp hp
    exact ⟨d, hd, hfolder, hf.closed d, by rw [hpe]; rfl⟩
  · rintro ⟨d, hplace, hd, _, hsome⟩
    obtain ⟨e, he⟩ := Option.isSome_iff_exists.mp hsome
    exact ⟨e, find_under hf.access hn hplace hd he⟩

end Entry

end Files

end SymbolGraph
