import SymbolGraph.Proofs.Effects
import SymbolGraph.Session

/-! # Straight paths

    A path is straight if it never goes back to a folder above. In a sound tree such a path
    leads to something exactly if something is stored at the place that it means
    (`Files.find_straight`), so files that are reached by straight paths can be told from
    what is stored alone. Making a folder at a straight path makes nothing but folders on
    the way to it (`Files.at?_of_makeFolder_straight`).

    Resolved paths are straight, and resolving them again changes nothing, wherever that is
    done (`Path.absolute_absolute`).
-/

namespace SymbolGraph

namespace Path

/-! ## Resolving double dots -/

theorem resolveDots_skip {p : String} (hp : p = "" ∨ p = ".") (absolute : Bool)
    (done names : List String) :
    resolveDots absolute done (p :: names) = resolveDots absolute done names := by
  rw [resolveDots.eq_def]
  exact if_pos hp

theorem resolveDots_name {p : String} (hp : Files.IsName p) (absolute : Bool)
    (done names : List String) :
    resolveDots absolute done (p :: names) = resolveDots absolute (p :: done) names := by
  rw [resolveDots.eq_def]
  dsimp only
  rw [if_neg (not_or.mpr hp.1.2), if_neg hp.2]

/-- At the root a double dot stays there. -/
theorem resolveDots_back_nil (names : List String) :
    resolveDots true [] (".." :: names) = resolveDots true [] names := by
  rw [resolveDots.eq_def]
  rfl

theorem resolveDots_back_cons {q : String} (hq : q ≠ "..") (absolute : Bool)
    (done names : List String) :
    resolveDots absolute (q :: done) (".." :: names) = resolveDots absolute done names := by
  rw [resolveDots.eq_def]
  exact if_neg hq

/-- Components that are empty or single dots make no difference. -/
theorem resolveDots_filter (absolute : Bool) (done names : List String) :
    resolveDots absolute done (names.filter fun p => p ≠ "" && p ≠ ".")
      = resolveDots absolute done names := by
  induction names generalizing done with
  | nil => rfl
  | cons p names ih =>
    by_cases hp : p = "" ∨ p = "."
    · have hdrop : (p :: names).filter (fun p => p ≠ "" && p ≠ ".")
          = names.filter fun p => p ≠ "" && p ≠ "." := by
        apply List.filter_cons_of_neg
        rcases hp with rfl | rfl <;> decide
      rw [hdrop, ih, resolveDots_skip hp]
    · have hkeep : (p :: names).filter (fun p => p ≠ "" && p ≠ ".")
          = p :: names.filter fun p => p ≠ "" && p ≠ "." := by
        apply List.filter_cons_of_pos
        simpa [not_or] using hp
      rw [hkeep, resolveDots.eq_def, resolveDots.eq_def absolute done (p :: names)]
      simp only [ih]

/-- Names stay as they are. -/
theorem resolveDots_append_of_names {names : List String} (h : ∀ p ∈ names, Files.IsName p)
    (absolute : Bool) (done rest : List String) :
    resolveDots absolute done (names ++ rest)
      = resolveDots absolute (names.reverse ++ done) rest := by
  induction names generalizing done with
  | nil => rfl
  | cons p names ih =>
    rw [List.cons_append, resolveDots_name (h p List.mem_cons_self),
      ih fun q hq => h q (List.mem_cons_of_mem _ hq), List.reverse_cons, List.append_assoc]
    rfl

theorem resolveDots_of_names {done names : List String}
    (h : ∀ p ∈ names, Files.IsName p) (absolute : Bool) :
    resolveDots absolute done names = done.reverse ++ names := by
  have hall := resolveDots_append_of_names h absolute done []
  rw [List.append_nil] at hall
  rw [hall, resolveDots, List.reverse_append, List.reverse_reverse]

/-- Nothing but names is left, if the path starts at the root. -/
theorem isName_of_mem_resolveDots {done names : List String}
    (hdone : ∀ p ∈ done, Files.IsName p) (hnames : ∀ p ∈ names, IsPart p) :
    ∀ p ∈ resolveDots true done names, Files.IsName p := by
  induction names generalizing done with
  | nil =>
    intro p hp
    rw [resolveDots] at hp
    exact hdone p (List.mem_reverse.mp hp)
  | cons q names ih =>
    have hq := hnames q List.mem_cons_self
    have hrest : ∀ p ∈ names, IsPart p := fun p hp => hnames p (List.mem_cons_of_mem _ hp)
    by_cases hdots : q = ".."
    · -- a double dot takes back the name before it, if there is one
      rw [hdots]
      cases done with
      | nil =>
        rw [resolveDots_back_nil]
        exact ih nofun hrest
      | cons last done =>
        rw [resolveDots_back_cons (hdone last List.mem_cons_self).2]
        exact ih (fun p hp => hdone p (List.mem_cons_of_mem _ hp)) hrest
    · rw [resolveDots_name ⟨hq, hdots⟩]
      refine ih ?_ hrest
      intro p hp
      rcases List.mem_cons.mp hp with rfl | hp
      · exact ⟨hq, hdots⟩
      · exact hdone p hp

/-- The absolute path of some names. -/
def ofNames (names : List String) : String :=
  "/" ++ joinParts names

theorem isAbsolute_ofNames (names : List String) : isAbsolute (ofNames names) = true := by
  unfold isAbsolute ofNames
  rw [String.toList_append]
  rfl

theorem absolute_eq_ofNames (wd s : String) :
    ∃ names, absolute wd s = ofNames names ∧ ∀ p ∈ names, Files.IsName p := by
  unfold absolute
  dsimp only
  generalize (if isAbsolute s then s else wd ++ "/" ++ s) = full
  refine ⟨_, rfl, ?_⟩
  rw [← resolveDots_filter]
  exact isName_of_mem_resolveDots nofun fun p hp => isPart_of_mem_parts hp

theorem absolute_ofNames (wd : String) {names : List String} (h : ∀ p ∈ names, Files.IsName p) :
    absolute wd (ofNames names) = ofNames names := by
  have hparts : parts (ofNames names) = names := by
    unfold ofNames
    rw [parts_slash, parts_joinParts fun p hp => (h p hp).1]
  have hresolve : resolveDots true [] (split (ofNames names)) = names := by
    rw [← resolveDots_filter]
    show resolveDots true [] (parts (ofNames names)) = names
    rw [hparts, resolveDots_of_names h]
    rfl
  unfold absolute
  dsimp only
  rw [if_pos (isAbsolute_ofNames names), hresolve]
  rfl

/-- A resolved path is resolved already, in every working directory. -/
theorem absolute_absolute (wd wd' s : String) : absolute wd (absolute wd' s) = absolute wd' s := by
  obtain ⟨names, heq, hnames⟩ := absolute_eq_ofNames wd' s
  rw [heq, absolute_ofNames wd hnames]

theorem absolute_ne_empty (wd s : String) : absolute wd s ≠ "" := by
  obtain ⟨names, heq, _⟩ := absolute_eq_ofNames wd s
  rw [heq]
  intro hempty
  have habs := isAbsolute_ofNames names
  rw [hempty] at habs
  exact absurd habs (by decide)

/-! ## The folder of a path -/

theorem parts_parent (s : String) : parts (parent s) = (parts s).dropLast := by
  have hparts : ∀ p ∈ (parts s).dropLast, IsPart p :=
    fun p hp => isPart_of_mem_parts (List.dropLast_subset _ hp)
  unfold parent
  dsimp only
  split
  · rename_i hempty
    have hjoined := congrArg parts hempty
    rw [parts_root_append, parts_joinParts hparts] at hjoined
    rw [hjoined]
    decide
  · rw [parts_root_append, parts_joinParts hparts]

theorem isAbsolute_parent (s : String) : isAbsolute (parent s) = isAbsolute s := by
  have hparts : ∀ p ∈ (parts s).dropLast, IsPart p :=
    fun p hp => isPart_of_mem_parts (List.dropLast_subset _ hp)
  unfold parent
  dsimp only
  rcases root_cases s with ⟨hroot, habs⟩ | ⟨hroot, habs⟩ | ⟨hroot, habs⟩
  · rw [hroot, String.empty_append, habs]
    split
    · decide
    · exact isAbsolute_joinParts hparts
  · have hslash : isAbsolute ("/" ++ joinParts (parts s).dropLast) = true := isAbsolute_ofNames _
    rw [hroot, habs, if_neg, hslash]
    intro hempty
    rw [hempty] at hslash
    exact absurd hslash (by decide)
  · have hslash : isAbsolute ("//" ++ joinParts (parts s).dropLast) = true := by
      unfold isAbsolute
      rw [String.toList_append]
      rfl
    rw [hroot, habs, if_neg, hslash]
    intro hempty
    rw [hempty] at hslash
    exact absurd hslash (by decide)

/-! ## Straight paths -/

/-- A path that never goes back. -/
def IsStraight (path : String) : Prop :=
  ".." ∉ parts path

theorem IsStraight.under {base n : String} (h : IsStraight base) (hn : Files.IsName n) :
    IsStraight (under base n) := by
  unfold IsStraight
  rw [parts_under (isAbsolute_of_isPart hn.1), parts_of_isPart hn.1]
  intro hmem
  rcases List.mem_append.mp hmem with hmem | hmem
  · exact h hmem
  · exact hn.2 (List.mem_singleton.mp hmem).symm

end Path

namespace Files

open SymbolGraph.Path

variable {f g : Files} {path : String}

theorem spot_parent_under (f : Files) {base n : String} (hn : IsName n) :
    f.spot (parent (under base n)) = f.spot base := by
  have habs := isAbsolute_of_isPart hn.1
  have hstart : f.start (parent (under base n)) = f.start base := by
    unfold start
    rw [isAbsolute_parent, isAbsolute_under habs]
  unfold spot
  rw [hstart, parts_parent, parts_under habs, parts_of_isPart hn.1, List.dropLast_concat]

theorem isStraight_parent_under {base n : String} (h : IsStraight base) (hn : IsName n) :
    IsStraight (parent (under base n)) := by
  have habs := isAbsolute_of_isPart hn.1
  unfold IsStraight
  rw [parts_parent, parts_under habs, parts_of_isPart hn.1, List.dropLast_concat]
  exact h

theorem foldl_onward {names : List String} (h : ".." ∉ names) (p : Place) :
    names.foldl onward p = p ++ names := by
  induction names generalizing p with
  | nil => exact (List.append_nil p).symm
  | cons n names ih =>
    rw [List.mem_cons, not_or] at h
    have honward : onward p n = p ++ [n] := if_neg (Ne.symm h.1)
    rw [List.foldl_cons, ih h.2, honward, List.append_assoc]
    rfl

/-- A straight path means the place that its components lead to. -/
theorem spot_straight (f : Files) (h : IsStraight path) :
    f.spot path = f.start path ++ parts path :=
  foldl_onward h _

theorem follow_straight (hf : Sound f) {names : List String} (h : ".." ∉ names) {p : Place}
    (hp : f.at? p = some .folder) {e : Entry} (he : f.at? (p ++ names) = some e) :
    f.follow p names = .ok (p ++ names) := by
  induction names generalizing p with
  | nil =>
    rw [List.append_nil]
    rfl
  | cons n names ih =>
    rw [List.mem_cons, not_or] at h
    have honward : onward p n = p ++ [n] := if_neg (Ne.symm h.1)
    rw [List.append_cons] at he ⊢
    refine follow_cons.mpr ⟨hp, hf.refuses _ _, ?_⟩
    rw [honward]
    by_cases hnames : names = []
    · rw [hnames, List.append_nil]
      rfl
    · -- something is stored further on, so there is a folder here
      exact ih h.2 (hf.above_append hnames (by rw [he]; rfl)) he

/-- A straight path leads to what is stored at the place that it means. -/
theorem find_straight (hf : Sound f) (h : IsStraight path) {e : Entry} :
    f.find path = .ok e ↔ f.at? (f.spot path) = some e := by
  rw [find_eq_ok]
  constructor
  · rintro ⟨p, hp, he⟩
    rw [spot_of_place hp]
    exact he
  · intro he
    refine ⟨f.spot path, ?_, he⟩
    rw [place_eq_ok]
    rw [spot_straight f h] at he ⊢
    exact follow_straight hf h (start_folder hf path) he

theorem place_straight (hf : Sound f) (h : IsStraight path) {e : Entry}
    (he : f.at? (f.spot path) = some e) : f.place path = .ok (f.spot path) := by
  obtain ⟨p, hplace, _⟩ := find_eq_ok.mp ((find_straight hf h).mpr he)
  rw [hplace, spot_of_place hplace]

theorem has_straight (hf : Sound f) (h : IsStraight path) :
    f.has path = .ok (f.at? (f.spot path)).isSome := by
  apply hf.has_eq
  rw [Option.isSome_iff_exists]
  exact exists_congr fun e => (find_straight hf h).symm

theorem read_straight (hf : Sound f) (h : IsStraight path) {bytes : List UInt8}
    (hbytes : f.at? (f.spot path) = some (.file bytes)) : f.read path = .ok bytes :=
  read_eq_ok.mpr ⟨_, place_straight hf h hbytes, hbytes, hf.refuses _ _⟩

/-! ## Changes at straight paths -/

/-- A path leads to a folder, or to a place in a folder. -/
theorem folder_of_follow (hf : Sound f) {names : List String} {p q : Place}
    (hp : f.at? p = some .folder) (h : f.follow p names = .ok q) :
    f.at? q = some .folder ∨ ∃ d n, q = d ++ [n] ∧ f.at? d = some .folder := by
  induction names generalizing p with
  | nil =>
    cases h
    exact .inl hp
  | cons n names ih =>
    obtain ⟨_, _, h⟩ := follow_cons.mp h
    by_cases hn : n = ".."
    · rw [hn] at h
      exact ih (hf.onward_folder hp) h
    · have honward : onward p n = p ++ [n] := if_neg hn
      rw [honward] at h
      cases names with
      | nil =>
        cases h
        exact .inr ⟨p, n, rfl, hp⟩
      | cons m names =>
        -- the path goes on, so what it has come to is a folder
        exact ih (follow_cons.mp h).1 h

/-- Writing a file keeps a tree sound. -/
theorem Sound.write (hf : Sound f) {bytes : List UInt8} (h : f.write path bytes = .ok g) :
    Sound g := by
  obtain ⟨q, hplace, hfree, _, rfl⟩ := write_eq_ok.mp h
  rcases folder_of_follow hf (start_folder hf path) (place_eq_ok.mp hplace) with
    hq | ⟨d, n, rfl, hd⟩
  · exact absurd hq hfree
  · exact hf.put hd hfree _

/-- Making a folder makes nothing but folders on the way to it. -/
theorem at?_of_makeFrom_straight {names : List String} (hnames : ".." ∉ names) {p : Place}
    (h : f.makeFrom p names = .ok g) (q : Place) :
    g.at? q = f.at? q ∨ q <+: p ++ names ∧ f.at? q = none := by
  induction names generalizing f p with
  | nil =>
    cases h
    exact .inl rfl
  | cons n names ih =>
    rw [List.mem_cons, not_or] at hnames
    have honward : onward p n = p ++ [n] := if_neg (Ne.symm hnames.1)
    rw [List.append_cons]
    rw [makeFrom_cons, honward] at h
    obtain ⟨_, ⟨_, h⟩ | ⟨hnone, _, h⟩⟩ := h
    · exact ih hnames.2 h
    · -- a folder is made at the next place, which is on the way
      by_cases hq : q = p ++ [n]
      · rw [hq]
        exact .inr ⟨List.prefix_append _ _, hnone⟩
      · have hput : (f.put (p ++ [n]) .folder).at? q = f.at? q := by
          rw [at?_put f (by simp), if_neg hq]
        rw [← hput]
        exact ih hnames.2 h

theorem at?_of_makeFolder_straight (hpath : IsStraight path) (h : f.makeFolder path = .ok g)
    (q : Place) : g.at? q = f.at? q ∨ q <+: f.spot path ∧ f.at? q = none := by
  rw [spot_straight f hpath]
  exact at?_of_makeFrom_straight hpath (makeFolder_eq_ok.mp h) q

/-- Deleting a file takes away that file alone. -/
theorem Sound.delete (hf : Sound f) (h : f.delete path = .ok g) :
    Sound g ∧ ∀ q, g.at? q = if q = f.spot path then none else f.at? q := by
  obtain ⟨p, bytes, hplace, hbytes, _, rfl⟩ := delete_eq_ok.mp h
  have hp : p ≠ [] := by
    rintro rfl
    cases hbytes
  have hfree : f.at? p ≠ some .folder := by
    rw [hbytes]
    nofun
  rw [spot_of_place hplace]
  exact ⟨hf.clear hp hfree, hf.at?_clear hp hfree⟩

/-- A file at a straight path can be deleted. -/
theorem delete_straight (hf : Sound f) (h : IsStraight path) {bytes : List UInt8}
    (hbytes : f.at? (f.spot path) = some (.file bytes)) : ∃ g, f.delete path = .ok g :=
  ⟨f.clear (f.spot path),
    delete_eq_ok.mpr ⟨_, bytes, place_straight hf h hbytes, hbytes, hf.refuses _ _, rfl⟩⟩

/-- A folder at a straight path is not made again. -/
theorem makeFolder_straight (hf : Sound f) (h : IsStraight path)
    (hfolder : f.at? (f.spot path) = some .folder) : f.makeFolder path = .ok f :=
  makeFolder_of_place (place_straight hf h hfolder) hfolder

end Files

end SymbolGraph
