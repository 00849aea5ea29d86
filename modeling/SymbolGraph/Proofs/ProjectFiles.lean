import SymbolGraph.Discovery
import SymbolGraph.Proofs.StraightPaths

/-! # The files of a project

    The files of a project are given as paths from its folder. This module relates the paths to
    the places where the files are stored, and says what happens to the list when files are
    deleted: exactly these are gone from it, the others are listed in the same order, and what
    they hold is untouched (`Discovery.exists_without`).

    For that, paths must be told apart by the names in them, so no name may have a slash in it
    (`Files.Proper`).
-/

namespace SymbolGraph

namespace Files

open SymbolGraph.Path

/-- A tree as a disk holds it: everything is in a folder and has a name by which a path can lead
    to it. -/
structure Proper (f : Files) : Prop extends Sound f where
  names : ∀ p, (f.at? p).isSome = true → ∀ n ∈ p, IsName n

variable {f g : Files} {folder : String} {d r : Place}

/-- The names that lead to something below a place are told apart by the path they make. -/
theorem Proper.joinParts_inj (hf : f.Proper) {r' : Place} (h : (f.at? (d ++ r)).isSome = true)
    (h' : (f.at? (d ++ r')).isSome = true) (hsame : joinParts r = joinParts r') : r = r' := by
  have hparts : ∀ {q : Place}, (f.at? (d ++ q)).isSome = true → parts (joinParts q) = q := by
    intro q hq
    exact parts_joinParts fun n hn => (hf.names _ hq n (List.mem_append_right _ hn)).1
  rw [← hparts h, ← hparts h', hsame]

theorem proper_empty : Proper {} where
  toSound := sound_empty
  names p h := by
    by_cases hp : p = []
    · rw [hp]
      exact List.forall_mem_nil _
    · rw [at?_of_ne_nil _ hp] at h
      cases h

/-- Storing something in a folder under a name. -/
theorem Proper.put (hf : f.Proper) {n : String} (hn : IsName n) (hd : f.at? d = some .folder)
    (hfree : f.at? (d ++ [n]) ≠ some .folder) (e : Entry) : (f.put (d ++ [n]) e).Proper where
  toSound := hf.toSound.put hd hfree e
  names p hp := by
    rw [at?_put f (by simp)] at hp
    split at hp
    · rename_i hsame
      rw [hsame, List.forall_mem_append, List.forall_mem_singleton]
      exact ⟨hf.names d (by rw [hd]; rfl), hn⟩
    · exact hf.names p hp

/-- Removing something that is no folder. -/
theorem Proper.clear (hf : f.Proper) {p : Place} (hp : p ≠ []) (hfree : f.at? p ≠ some .folder) :
    (f.clear p).Proper where
  toSound := hf.toSound.clear hp hfree
  names q hq := by
    rw [hf.toSound.at?_clear hp hfree] at hq
    split at hq
    · cases hq
    · exact hf.names q hq

/-- A path below a folder leads to what is stored below the folder's place. -/
theorem place_under_joinParts (hf : Sound f) (hr : ∀ n ∈ r, IsName n)
    (hplace : f.place folder = .ok d) (hd : f.at? d = some .folder) {e : Entry}
    (he : f.at? (d ++ r) = some e) : f.place (under folder (joinParts r)) = .ok (d ++ r) := by
  have hparts : ∀ n ∈ r, IsPart n := fun n hn => (hr n hn).1
  have habs := isAbsolute_joinParts hparts
  have hstart : f.start (under folder (joinParts r)) = f.start folder := by
    unfold start
    rw [isAbsolute_under habs]
  have hback : ".." ∉ r := fun hmem => (hr ".." hmem).2 rfl
  rw [place_eq_ok] at hplace ⊢
  rw [hstart, parts_under habs, parts_joinParts hparts, follow_append, hplace]
  exact follow_straight hf hback hd he

end Files

namespace Discovery

open SymbolGraph.Files SymbolGraph.Path

variable {wanted : Filter} {f g : Files} {folder : String} {d : Place}

/-! ## Listing -/

/-- The wanted files that are listed below a folder, as sorted paths from there. -/
def found (wanted : Filter) (f : Files) (folder : String) : List String :=
  match f.folderAt folder with
  | .ok (some d) =>
    (((f.listed d).filter fun e => wanted.wants e.1 e.2).map fun e => joinParts e.1).mergeSort
      comesFirst
  | _ => []

theorem sift_of_access (hf : f.access = {}) (folder : String) (d : Place)
    (entries : List (Place × Entry)) :
    sift wanted f folder d entries
      = .ok ((entries.filter fun e => wanted.wants e.1 e.2).map fun e => joinParts e.1) := by
  induction entries with
  | nil => rfl
  | cons e entries ih =>
    have hallow : f.allow .look (under folder (joinParts e.1)) (d ++ e.1) = .ok () := by
      unfold Files.allow
      rw [refuses_of_access hf]
    rw [sift, ih, hallow, List.filter_cons]
    cases wanted.suits e.1 <;> cases wanted.wants e.1 e.2 <;> rfl

/-- Where nothing is refused, the files of a project are found. -/
theorem files_eq_found (hf : f.access = {}) (wanted : Filter) (folder : String) :
    files wanted f folder = .ok (found wanted f folder) := by
  unfold files found
  cases hfolder : f.folderAt folder with
  | error fault =>
    unfold folderAt place at hfolder
    cases hfollow : f.follow (f.start folder) (parts folder) with
    | ok p =>
      rw [hfollow] at hfolder
      cases hfolder
    | error r =>
      rw [hfollow] at hfolder
      cases r with
      | refused why => exact absurd hfollow (follow_ne_refused hf _ _ why)
      | _ => cases hfolder
  | ok place =>
    cases place with
    | none => rfl
    | some d =>
      show (sift wanted f folder d (f.listed d) >>= fun l => pure (l.mergeSort comesFirst)) = _
      rw [sift_of_access hf]
      rfl

/-- In a sound tree all that is stored below a folder is listed. -/
theorem mem_listed (hf : Sound f) {r : Place} {e : Entry} :
    (r, e) ∈ f.listed d ↔ r ≠ [] ∧ f.at? (d ++ r) = some e := by
  have hshows : f.shows d r = true := by
    unfold shows
    rw [List.all_eq_true]
    intro k _
    rw [hf.closed]
    rfl
  unfold listed
  rw [List.mem_filter, mem_below]
  exact and_iff_left hshows

/-- The files of a project are those below its folder that are wanted. -/
theorem mem_found (hf : Sound f) (hplace : f.place folder = .ok d) {file : String} :
    file ∈ found wanted f folder ↔ ∃ r bytes, r ≠ [] ∧ f.at? (d ++ r) = some (.file bytes) ∧
      wanted.wants r (.file bytes) = true ∧ joinParts r = file := by
  by_cases hd : f.at? d = some .folder
  · unfold found
    rw [folderAt_eq_some.mpr ⟨hplace, hd⟩]
    dsimp only
    rw [(List.mergeSort_perm _ _).mem_iff, List.mem_map]
    constructor
    · rintro ⟨⟨r, e⟩, hmem, rfl⟩
      obtain ⟨hlisted, hwants⟩ := List.mem_filter.mp hmem
      obtain ⟨hr, he⟩ := (mem_listed hf).mp hlisted
      cases e with
      | folder => cases hwants
      | file bytes => exact ⟨r, bytes, hr, he, hwants, rfl⟩
    · rintro ⟨r, bytes, hr, he, hwants, rfl⟩
      exact ⟨(r, .file bytes), List.mem_filter.mpr ⟨(mem_listed hf).mpr ⟨hr, he⟩, hwants⟩, rfl⟩
  · -- below what is no folder nothing is stored
    have hnone : found wanted f folder = [] := by
      unfold found
      split
      · rename_i d' hd'
        obtain ⟨hplace', hat⟩ := folderAt_eq_some.mp hd'
        rw [hplace] at hplace'
        cases hplace'
        exact absurd hat hd
      · rfl
    rw [hnone]
    refine ⟨nofun, ?_⟩
    rintro ⟨r, bytes, hr, he, _⟩
    exact absurd (hf.above_append hr (by rw [he]; rfl)) hd

/-- Files are found only if there is a folder. -/
theorem exists_place_of_mem_found {file : String} (h : file ∈ found wanted f folder) :
    ∃ d, f.place folder = .ok d := by
  unfold found at h
  split at h
  · rename_i d hd
    exact ⟨d, (folderAt_eq_some.mp hd).1⟩
  · cases h

/-- Where a file of a project is stored. -/
theorem exists_place (hf : f.Proper) {file : String} (h : file ∈ found wanted f folder) :
    ∃ d r bytes, f.place folder = .ok d ∧ joinParts r = file ∧
      f.place (under folder file) = .ok (d ++ r) ∧ d ++ r ≠ [] ∧
      f.at? (d ++ r) = some (.file bytes) := by
  obtain ⟨d, hplace⟩ := exists_place_of_mem_found h
  obtain ⟨r, bytes, hr, he, _, rfl⟩ := (mem_found hf.toSound hplace).mp h
  have hsome : (f.at? (d ++ r)).isSome = true := by rw [he]; rfl
  have hnames : ∀ n ∈ r, IsName n := fun n hn =>
    hf.names _ hsome n (List.mem_append_right _ hn)
  have hd := hf.above_append hr hsome
  exact ⟨d, r, bytes, hplace, rfl, place_under_joinParts hf.toSound hnames hplace hd he,
    by simp [hr], he⟩

/-- Every file of a project can be read. -/
theorem exists_read (hf : f.Proper) {file : String} (h : file ∈ found wanted f folder) :
    ∃ bytes, f.find (under folder file) = .ok (.file bytes) ∧
      f.read (under folder file) = .ok bytes := by
  obtain ⟨d, r, bytes, _, _, hplace, _, he⟩ := exists_place hf h
  exact ⟨bytes, find_eq_ok.mpr ⟨_, hplace, he⟩,
    read_eq_ok.mpr ⟨_, hplace, he, hf.toSound.refuses _ _⟩⟩

/-- No file is listed twice, and the list is in increasing order. -/
theorem found_increasing (hf : f.Proper) :
    (found wanted f folder).Pairwise fun a b => a < b := by
  unfold found
  split
  · rename_i d _
    apply increasing_mergeSort
    rw [List.nodup_iff_pairwise_ne, List.pairwise_map]
    refine (((f.pairwise_below d).filter _).filter _).imp_of_mem ?_
    intro a b ha hb hne hsame
    have hplaced : ∀ {c : Place × Entry},
        c ∈ (f.listed d).filter (fun c => wanted.wants c.1 c.2) →
          (f.at? (d ++ c.1)).isSome = true := by
      intro c hc
      rw [((mem_listed hf.toSound).mp (List.mem_filter.mp hc).1).2]
      rfl
    exact hne (hf.joinParts_inj (hplaced ha) (hplaced hb) hsame)
  · exact List.Pairwise.nil

theorem nodup_found (hf : f.Proper) : (found wanted f folder).Nodup :=
  nodup_of_increasing (found_increasing hf)

/-- Any increasing list of the same files is the list of files. -/
theorem found_eq (hf : f.Proper) {l : List String} (hl : l.Pairwise fun a b => a < b)
    (hmem : ∀ file, file ∈ found wanted f folder ↔ file ∈ l) : found wanted f folder = l := by
  have hperm : (found wanted f folder).Perm l :=
    (List.perm_ext_iff_of_nodup (nodup_found hf) (nodup_of_increasing hl)).mpr hmem
  exact hperm.eq_of_pairwise (fun a b _ _ hab hba => absurd hba (String.lt_asymm hab))
    (found_increasing hf) hl

/-! ## Deleting files -/

/-- The project without some of its files: the others are listed in the same order, and what
    they lead to is the same. -/
structure Without (wanted : Filter) (f g : Files) (folder : String) (gone : List String) :
    Prop where
  proper : g.Proper
  listed : found wanted g folder = (found wanted f folder).filter fun file => !gone.contains file
  find : ∀ file ∈ found wanted g folder, g.find (under folder file) = f.find (under folder file)

/-- What is in the files that are left is the same, too. -/
theorem Without.read (hf : f.Proper) {gone : List String} (h : Without wanted f g folder gone)
    {file : String} (hfile : file ∈ found wanted g folder) :
    g.read (under folder file) = f.read (under folder file) := by
  have hbefore : file ∈ found wanted f folder := by
    rw [h.listed] at hfile
    exact (List.mem_filter.mp hfile).1
  obtain ⟨bytes, hfind, hread⟩ := exists_read h.proper hfile
  obtain ⟨content, hfound, hcontent⟩ := exists_read hf hbefore
  rw [h.find file hfile, hfound] at hfind
  cases hfind
  rw [hread, hcontent]

/-- What is listed after a file was removed is what was listed and is not this file. -/
theorem mem_found_clear (hf : f.Proper) (hfolder : f.place folder = .ok d) (hne : d ++ r ≠ [])
    {bytes : List UInt8} (he : f.at? (d ++ r) = some (.file bytes)) {other : String} :
    other ∈ found wanted (f.clear (d ++ r)) folder ↔
      other ∈ found wanted f folder ∧ other ≠ joinParts r := by
  have hfree : f.at? (d ++ r) ≠ some .folder := by
    rw [he]
    nofun
  have hat := hf.toSound.at?_clear hne hfree
  have hkept := hf.toSound.kept_clear hne hfree
  rw [mem_found (hf.clear hne hfree).toSound (hkept.place hfolder), mem_found hf.toSound hfolder]
  constructor
  · rintro ⟨q, content, hq, hcontent, hwants, rfl⟩
    rw [hat] at hcontent
    split at hcontent
    · cases hcontent
    · rename_i hother
      refine ⟨⟨q, content, hq, hcontent, hwants, rfl⟩, ?_⟩
      intro hsame
      have hqr := hf.joinParts_inj (by rw [hcontent]; rfl) (by rw [he]; rfl) hsame
      exact hother (by rw [hqr])
  · rintro ⟨⟨q, content, hq, hcontent, hwants, rfl⟩, hother⟩
    refine ⟨q, content, hq, ?_, hwants, rfl⟩
    rw [hat, if_neg, hcontent]
    intro hsame
    rw [List.append_cancel_left hsame] at hother
    exact hother rfl

/-- One file of a project can be deleted. -/
theorem delete_file (hf : f.Proper) {file : String} (h : file ∈ found wanted f folder) :
    ∃ g, f.delete (under folder file) = .ok g ∧ Without wanted f g folder [file] := by
  obtain ⟨d, r, bytes, hfolder, rfl, hplace, hne, he⟩ := exists_place hf h
  have hfree : f.at? (d ++ r) ≠ some .folder := by
    rw [he]
    nofun
  have hproper : (f.clear (d ++ r)).Proper := hf.clear hne hfree
  have hmem : ∀ other, other ∈ found wanted (f.clear (d ++ r)) folder ↔
      other ∈ found wanted f folder ∧ other ≠ joinParts r :=
    fun _ => mem_found_clear hf hfolder hne he
  refine ⟨f.clear (d ++ r), ?_, hproper, ?_, ?_⟩
  · exact delete_eq_ok.mpr ⟨_, bytes, hplace, he, hf.toSound.refuses _ _, rfl⟩
  · apply found_eq hproper ((found_increasing hf).filter _)
    intro other
    rw [hmem, List.mem_filter]
    simp
  · intro other hother
    obtain ⟨_, _, content, _, _, hafter, _, hcontent⟩ := exists_place hproper hother
    obtain ⟨_, _, _, _, _, hbefore, _, _⟩ := exists_place hf ((hmem other).mp hother).1
    -- the path leads to the same place as before, and what is there now was there before
    have hkept : Kept f (f.clear (d ++ r)) := hf.toSound.kept_clear hne hfree
    have hp := Except.ok.inj ((hkept.place hbefore).symm.trans hafter)
    rw [find_eq_ok.mpr ⟨_, hafter, hcontent⟩, eq_comm, find_eq_ok]
    refine ⟨_, hbefore, ?_⟩
    rw [hf.toSound.at?_clear hne hfree] at hcontent
    split at hcontent
    · cases hcontent
    · rw [hp, hcontent]

/-- Files of a project can be deleted one after another. -/
theorem exists_without (hf : f.Proper) {gone : List String} (hnodup : gone.Nodup)
    (hgone : ∀ file ∈ gone, file ∈ found wanted f folder) :
    ∃ g, gone.foldlM (fun disk file => disk.delete (under folder file)) f = .ok g ∧
      Without wanted f g folder gone := by
  induction gone generalizing f with
  | nil =>
    refine ⟨f, rfl, hf, ?_, fun _ _ => rfl⟩
    exact (List.filter_eq_self.mpr fun _ _ => rfl).symm
  | cons file gone ih =>
    obtain ⟨hnew, hrest⟩ := List.nodup_cons.mp hnodup
    rw [List.forall_mem_cons] at hgone
    obtain ⟨g, hdelete, hone⟩ := delete_file hf hgone.1
    have hlisted : ∀ other ∈ gone, other ∈ found wanted g folder := by
      intro other hother
      rw [hone.listed, List.mem_filter]
      refine ⟨hgone.2 other hother, ?_⟩
      have hne : other ≠ file := fun hsame => hnew (hsame ▸ hother)
      simpa using hne
    obtain ⟨g', hdeletes, hall⟩ := ih hone.proper hrest hlisted
    refine ⟨g', ?_, hall.proper, ?_, ?_⟩
    · rw [List.foldlM_cons, hdelete]
      exact hdeletes
    · rw [hall.listed, hone.listed, List.filter_filter]
      apply List.filter_congr
      intro other _
      simp [Bool.and_comm]
    · intro other hother
      have hbefore : other ∈ found wanted g folder := by
        rw [hall.listed] at hother
        exact (List.mem_filter.mp hother).1
      rw [hall.find other hother, hone.find other hbefore]

end Discovery

end SymbolGraph
