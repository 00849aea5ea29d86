import SymbolGraph.Build
import SymbolGraph.Proofs.ProjectFiles

/-! # Which files are discovered

    The files of a project are found by going through the whole tree and testing the place of
    each file. This module says which paths that gives, in terms of the names on the way from the
    project's folder and of what the paths lead to.

    * `Path.HasSuffix` says what the suffix of a name is. `Path.hasSuffix_iff` holds the
      computation to it.
    * `Discovery.HasFile` says that names lead from a folder to a file, and
      `Discovery.Filter.Admits` that a filter lets them through.
    * `Discovery.discovered_files` is the main result: the list is the increasing list of these
      paths. It follows that where the project's folder is makes no difference, and that every
      file found by its usual suffix has a dialect.
-/

namespace SymbolGraph

/-! ## Suffixes -/

namespace Path

/-- The text `ext` follows the last dot of a name, and this dot is neither the first nor the last
    character. -/
def HasExtension (name : String) (ext : List Char) : Prop :=
  ∃ stem, name.toList = stem ++ '.' :: ext ∧ '.' ∉ ext ∧ stem ≠ [] ∧ ext ≠ []

/-- The suffix of a name is its extension with the dot before it, and empty without one. -/
def HasSuffix (name suffix : String) : Prop :=
  (∃ ext, HasExtension name ext ∧ suffix = String.ofList ('.' :: ext)) ∨
  ((¬ ∃ ext, HasExtension name ext) ∧ suffix = "")

theorem suffixOfName_of_hasExtension {name : String} {ext : List Char}
    (h : HasExtension name ext) : suffixOfName name = String.ofList ('.' :: ext) := by
  obtain ⟨stem, hname, hdot, hstem, hext⟩ := h
  -- seen from the end, the extension comes first and the dot stops it
  have htail : name.toList.reverse.takeWhile (· ≠ '.') = ext.reverse := by
    have hfree : ∀ c ∈ ext.reverse, decide (c ≠ '.') = true := by
      intro c hc
      rw [List.mem_reverse] at hc
      exact decide_eq_true fun hsame => hdot (hsame ▸ hc)
    rw [hname, List.reverse_append, List.reverse_cons, List.append_assoc,
      List.takeWhile_append_of_pos hfree]
    simp
  have hlength : name.toList.length = stem.length + 1 + ext.length := by
    rw [hname, List.length_append, List.length_cons]
    omega
  have hpos := List.length_pos_iff.mpr hstem
  unfold suffixOfName
  dsimp only
  rw [htail, List.reverse_reverse, hlength, if_neg]
  rintro (hempty | hfirst)
  · exact hext (List.isEmpty_iff.mp hempty)
  · omega

theorem hasExtension_of_suffixOfName {name : String} (h : suffixOfName name ≠ "") :
    ∃ ext, HasExtension name ext := by
  unfold suffixOfName at h
  dsimp only at h
  split at h
  · exact absurd rfl h
  · rename_i hdot
    rw [not_or] at hdot
    have hsplit := List.takeWhile_append_dropWhile (p := (· ≠ '.')) (l := name.toList.reverse)
    generalize hext : name.toList.reverse.takeWhile (· ≠ '.') = ext at hdot hsplit
    cases hrest : name.toList.reverse.dropWhile (· ≠ '.') with
    | nil =>
      -- without a dot the extension would be the whole name
      have hlength := congrArg List.length hsplit
      rw [hrest, List.append_nil, List.length_reverse] at hlength
      have hbefore := hdot.2
      rw [List.length_reverse] at hbefore
      omega
    | cons c stem =>
      have hc : c = '.' := by
        have hne : name.toList.reverse.dropWhile (· ≠ '.') ≠ [] := by
          rw [hrest]
          exact List.cons_ne_nil c stem
        have hhead := List.head_dropWhile_not _ hne
        simp only [hrest, List.head_cons] at hhead
        simpa using hhead
      have hname : name.toList = stem.reverse ++ '.' :: ext.reverse := by
        rw [← List.reverse_reverse name.toList, ← hsplit, hrest, hc]
        simp
      refine ⟨ext.reverse, stem.reverse, hname, ?_, ?_, ?_⟩
      · rw [List.mem_reverse, ← hext]
        intro hmem
        simpa using List.all_eq_true.mp List.all_takeWhile '.' hmem
      · intro hstem
        have hbefore := hdot.2
        rw [hname, hstem] at hbefore
        simp at hbefore
      · intro hnil
        exact hdot.1 (List.isEmpty_iff.mpr hnil)

theorem hasSuffix_iff {name suffix : String} :
    HasSuffix name suffix ↔ suffixOfName name = suffix := by
  constructor
  · rintro (⟨ext, hext, rfl⟩ | ⟨hnone, rfl⟩)
    · exact suffixOfName_of_hasExtension hext
    · by_contra hne
      exact hnone (hasExtension_of_suffixOfName hne)
  · intro h
    by_cases hext : ∃ ext, HasExtension name ext
    · obtain ⟨ext, hext⟩ := hext
      rw [suffixOfName_of_hasExtension hext] at h
      exact .inl ⟨ext, hext, h.symm⟩
    · refine .inr ⟨hext, ?_⟩
      by_contra hne
      rw [← h] at hne
      exact hext (hasExtension_of_suffixOfName hne)

/-- The suffix of a path is that of its last name. -/
theorem suffix_joinParts {r : List String} (hr : ∀ n ∈ r, IsPart n) {last : String}
    (hlast : r.getLast? = some last) : suffix (joinParts r) = suffixOfName last := by
  unfold suffix name
  rw [parts_joinParts hr, hlast]
  rfl

end Path

/-! ## Files below a folder -/

namespace Files

open SymbolGraph.Path

/-- Names lead from a folder to a file exactly if the file is stored below the folder's place. -/
theorem find_under_joinParts {f : Files} (hf : Sound f) {folder : String} {r : Place}
    (hne : r ≠ []) (hr : ∀ n ∈ r, IsName n) {bytes : List UInt8} :
    f.find (under folder (joinParts r)) = .ok (.file bytes) ↔
      ∃ d, f.place folder = .ok d ∧ f.at? (d ++ r) = some (.file bytes) := by
  have hparts : ∀ n ∈ r, IsPart n := fun n hn => (hr n hn).1
  have habs := isAbsolute_joinParts hparts
  have hback : ".." ∉ r := fun hmem => (hr ".." hmem).2 rfl
  rw [find_eq_ok]
  constructor
  · rintro ⟨p, hplace, hp⟩
    have hstart : f.start (under folder (joinParts r)) = f.start folder := by
      unfold start
      rw [isAbsolute_under habs]
    rw [place_eq_ok, hstart, parts_under habs, parts_joinParts hparts, follow_append] at hplace
    cases hfolder : f.follow (f.start folder) (parts folder) with
    | error e =>
      rw [hfolder] at hplace
      cases hplace
    | ok d =>
      rw [hfolder] at hplace
      -- no name goes back, so following the names appends them
      have hfrom : f.follow d r = .ok p := hplace
      have hspot : p = d ++ r := (foldl_of_follow hfrom).trans (foldl_onward hback d)
      exact ⟨d, place_eq_ok.mpr hfolder, hspot ▸ hp⟩
  · rintro ⟨d, hfolder, hp⟩
    have hd := hf.above_append hne (by rw [hp]; rfl)
    exact ⟨d ++ r, place_under_joinParts hf hr hfolder hd hp, hp⟩

end Files

namespace Discovery

open SymbolGraph.Files SymbolGraph.Path

/-- Names lead from a folder to a file. -/
structure HasFile (f : Files) (folder : String) (r : List String) : Prop where
  nonempty : r ≠ []
  names : ∀ n ∈ r, IsName n
  file : ∃ bytes, f.find (under folder (joinParts r)) = .ok (.file bytes)

/-- A filter lets names through: the last one has a wanted suffix, the others are not ignored, and
    none starts with a dot. -/
structure Filter.Admits (wanted : Filter) (r : List String) : Prop where
  suffix : ∃ last suffix, r.getLast? = some last ∧ HasSuffix last suffix ∧
    suffix ∈ wanted.suffixes
  folders : ∀ n ∈ r.dropLast, n ∉ wanted.ignored
  visible : ∀ n ∈ r, n.toList.head? ≠ some '.'

theorem Filter.wants_iff {wanted : Filter} {r : List String} (hr : r ≠ []) {bytes : List UInt8} :
    wanted.wants r (.file bytes) = true ↔ wanted.Admits r := by
  have hlast := List.getLast?_eq_some_getLast hr
  have hsuffix : (∃ last suffix, r.getLast? = some last ∧ HasSuffix last suffix ∧
      suffix ∈ wanted.suffixes) ↔ suffixOfName (r.getLast hr) ∈ wanted.suffixes := by
    simp [hlast, hasSuffix_iff]
  have hwants : wanted.wants r (.file bytes) = true ↔
      suffixOfName (r.getLast hr) ∈ wanted.suffixes ∧ (∀ n ∈ r.dropLast, n ∉ wanted.ignored) ∧
        ∀ n ∈ r, n.toList.head? ≠ some '.' := by
    unfold wants suits isHidden
    simp [hlast, and_assoc]
  rw [hwants, ← hsuffix]
  exact ⟨fun ⟨hs, hd, hv⟩ => ⟨hs, hd, hv⟩, fun h => ⟨h.suffix, h.folders, h.visible⟩⟩

variable {wanted : Filter} {f g : Files} {folder : String}

/-- The paths that are listed are those of the files that the filter lets through. -/
theorem mem_found_iff (hf : f.Proper) {file : String} :
    file ∈ found wanted f folder ↔
      ∃ r, HasFile f folder r ∧ wanted.Admits r ∧ joinParts r = file := by
  constructor
  · intro hfile
    obtain ⟨d, hplace⟩ := exists_place_of_mem_found hfile
    obtain ⟨r, bytes, hr, he, hwants, rfl⟩ := (mem_found hf.toSound hplace).mp hfile
    have hnames : ∀ n ∈ r, IsName n := fun n hn =>
      hf.names _ (by rw [he]; rfl) n (List.mem_append_right _ hn)
    have hfind := (find_under_joinParts hf.toSound hr hnames).mpr ⟨d, hplace, he⟩
    exact ⟨r, ⟨hr, hnames, bytes, hfind⟩, (Filter.wants_iff hr).mp hwants, rfl⟩
  · rintro ⟨r, ⟨hr, hnames, bytes, hfind⟩, hadmits, rfl⟩
    obtain ⟨d, hplace, he⟩ := (find_under_joinParts hf.toSound hr hnames).mp hfind
    exact (mem_found hf.toSound hplace).mpr ⟨r, bytes, hr, he, (Filter.wants_iff hr).mpr hadmits, rfl⟩

/-- Two folders with the same files below them give the same list, wherever they are. -/
theorem found_congr (hf : f.Proper) (hg : g.Proper) {folder' : String}
    (h : ∀ r, HasFile f folder r ↔ HasFile g folder' r) :
    found wanted f folder = found wanted g folder' := by
  apply found_eq hf (found_increasing hg)
  intro file
  rw [mem_found_iff hf, mem_found_iff hg]
  simp only [h]

/-! ## Dialects of the files that are found -/

/-- Every suffix that is wanted unless others are asked for has a dialect. -/
theorem exists_dialect {suffix : String} (h : suffix ∈ ({} : Filter).suffixes) :
    ∃ d, Source.Dialect.ofSuffix? suffix = some d := by
  rw [← Option.isSome_iff_exists]
  have hall : ∀ s ∈ ({} : Filter).suffixes, (Source.Dialect.ofSuffix? s).isSome = true := by decide
  exact hall suffix h

theorem exists_dialect_of_mem_found (hf : f.Proper)
    (hwanted : wanted.suffixes ⊆ ({} : Filter).suffixes) {file : String}
    (h : file ∈ found wanted f folder) :
    ∃ d, Source.Dialect.ofSuffix? (Path.suffix file) = some d := by
  obtain ⟨r, hfile, hadmits, rfl⟩ := (mem_found_iff hf).mp h
  obtain ⟨last, suffix, hlast, hsuffix, hmem⟩ := hadmits.suffix
  rw [suffix_joinParts (fun n hn => (hfile.names n hn).1) hlast, hasSuffix_iff.mp hsuffix]
  exact exists_dialect (hwanted hmem)

end Discovery

namespace Build

/-- A file with a dialect gives facts, unless the package for the dialect is missing. -/
theorem factsOf_of_dialect {f : Files} {folder file : String} {bytes : List UInt8}
    (hread : f.read (Path.under folder file) = .ok bytes) {d : Source.Dialect}
    (hd : Source.Dialect.ofSuffix? (Path.suffix file) = some d) (missing : List String) :
    (d.package ∉ missing → ∃ facts, factsOf missing f folder file = .ok facts) ∧
    (d.package ∈ missing →
      factsOf missing f folder file = .error (.grammar (.notInstalled d.package))) := by
  have hdialect : Extract.dialectOf missing file
      = if missing.contains d.package then .error (.notInstalled d.package) else .ok d := by
    unfold Extract.dialectOf
    rw [hd]
  unfold factsOf Extract.ofText
  rw [hread, hdialect]
  constructor
  · intro hpackage
    rw [if_neg (by simpa using hpackage)]
    exact ⟨_, rfl⟩
  · intro hpackage
    rw [if_pos (by simpa using hpackage)]
    rfl

end Build

namespace Discovery

open SymbolGraph.Files SymbolGraph.Path

/-- **The files that are discovered.** In a tree where nothing is refused the files of a project
    are found. The list of files is strictly increasing, and so has no path twice. A path is listed
    exactly if the names in it lead from the folder to a file, the last name has a wanted suffix,
    no other name is ignored, and none starts with a dot. Where the folder itself is makes no
    difference: two folders with the same files below them give the same list. If only usual
    suffixes are wanted, every file that is listed has a dialect, and it gives facts unless the
    package for this dialect is missing. -/
theorem discovered_files (wanted : Filter) (f : Files) (hf : f.Proper) (folder : String) :
    ∃ found, files wanted f folder = .ok found ∧
    found.Pairwise (fun a b => a < b) ∧
    found.Nodup ∧
    (∀ file, file ∈ found ↔ ∃ r, HasFile f folder r ∧ wanted.Admits r ∧ joinParts r = file) ∧
    (∀ (g : Files) (folder' : String), g.Proper →
      (∀ r, HasFile f folder r ↔ HasFile g folder' r) → files wanted g folder' = .ok found) ∧
    (wanted.suffixes ⊆ ({} : Filter).suffixes → ∀ file ∈ found,
      ∃ d, Source.Dialect.ofSuffix? (Path.suffix file) = some d ∧ ∀ missing,
        (d.package ∉ missing → ∃ facts, Build.factsOf missing f folder file = .ok facts) ∧
        (d.package ∈ missing → Build.factsOf missing f folder file
          = .error (.grammar (.notInstalled d.package)))) := by
  have hfound := files_eq_found hf.toSound.access wanted folder
  refine ⟨found wanted f folder, hfound, found_increasing hf,
    nodup_found hf, fun file => mem_found_iff hf, ?_, ?_⟩
  · intro g folder' hg hsame
    rw [files_eq_found hg.toSound.access, found_congr hf hg hsame]
  · intro hwanted file hfile
    obtain ⟨d, hd⟩ := exists_dialect_of_mem_found hf hwanted hfile
    obtain ⟨bytes, _, hread⟩ := exists_read hf hfile
    exact ⟨d, hd, Build.factsOf_of_dialect hread hd⟩

/-- A project in an ignored and hidden folder. A folder that is called like a source file is no
    file, but files in it are found. -/
theorem discovered_files_hidden_project :
    let project := ["node_modules", ".p"]
    let disk : Files := (((((({} : Files).put ["node_modules"] .folder).put project .folder).put
      (project ++ ["dist"]) .folder).put (project ++ ["dist", "x.js"]) (.file [])).put
      (project ++ ["build.js"]) .folder).put (project ++ ["build.js", "a.test.ts"]) (.file [])
    disk.Proper ∧ ∃ found, files {} disk "/node_modules/.p" = .ok found ∧
    "build.js/a.test.ts" ∈ found ∧ "build.js" ∉ found ∧ "dist/x.js" ∉ found ∧
    ∃ facts, Build.factsOf [] disk "/node_modules/.p" "build.js/a.test.ts" = .ok facts := by
  intro project disk
  have hnames : ∀ n ∈ ["node_modules", ".p", "dist", "x.js", "build.js", "a.test.ts"],
      IsName n := by
    unfold IsName IsPart
    decide
  have hdisk : disk.Proper := by
    have h₁ := proper_empty.put (d := []) (hnames "node_modules" (by decide)) rfl (by decide)
      .folder
    have h₂ := h₁.put (d := ["node_modules"]) (hnames ".p" (by decide)) rfl (by decide +kernel)
      .folder
    have h₃ := h₂.put (d := project) (hnames "dist" (by decide)) rfl (by decide +kernel) .folder
    have h₄ := h₃.put (d := project ++ ["dist"]) (hnames "x.js" (by decide)) rfl (by decide +kernel)
      (.file [])
    have h₅ := h₄.put (d := project) (hnames "build.js" (by decide)) rfl (by decide +kernel) .folder
    exact h₅.put (d := project ++ ["build.js"]) (hnames "a.test.ts" (by decide)) rfl
      (by decide +kernel) (.file [])
  obtain ⟨found, hfiles, _, _, hmem, _, hfacts⟩ := discovered_files {} disk hdisk "/node_modules/.p"
  -- the names in a path that is listed are its parts
  have hlisted : ∀ file ∈ found,
      HasFile disk "/node_modules/.p" (parts file) ∧ ({} : Filter).Admits (parts file) := by
    intro file hfile
    obtain ⟨r, hr, hadmits, rfl⟩ := (hmem file).mp hfile
    rw [parts_joinParts fun n hn => (hr.names n hn).1]
    exact ⟨hr, hadmits⟩
  have hfound : "build.js/a.test.ts" ∈ found := by
    have hfile : HasFile disk "/node_modules/.p" ["build.js", "a.test.ts"] :=
      ⟨by decide, fun n hn => hnames n (by revert n; decide), [], by decide +kernel⟩
    refine (hmem _).mpr ⟨_, hfile, ⟨⟨"a.test.ts", ".ts", rfl, ?_, by decide⟩, by decide, by decide⟩,
      by decide⟩
    exact .inl ⟨['t', 's'], ⟨['a', '.', 't', 'e', 's', 't'], by decide⟩, by decide⟩
  refine ⟨hdisk, found, hfiles, hfound, ?_, ?_, ?_⟩
  · intro hfolder
    obtain ⟨_, _, bytes, hbytes⟩ := (hlisted _ hfolder).1
    have hfind : disk.find (under "/node_modules/.p" (joinParts (parts "build.js")))
        = .ok .folder := by
      decide +kernel
    rw [hfind] at hbytes
    cases hbytes
  · intro hignored
    exact (hlisted _ hignored).2.folders "dist" (by decide +kernel) (by decide)
  · obtain ⟨d, _, hd⟩ := hfacts (List.Subset.refl _) _ hfound
    exact (hd []).1 (List.not_mem_nil)

end Discovery

end SymbolGraph
