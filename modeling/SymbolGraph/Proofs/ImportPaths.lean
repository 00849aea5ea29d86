import SymbolGraph.Graph.Resolver
import SymbolGraph.Proofs.Isolation

/-! # What relative imports mean

    A relative import names a file by segments that are followed from the folder of the
    importing file: empty segments and single dots stay, a double dot goes back to the folder
    above, and any other segment goes on (`Path.arrive?`). Segments that go back from the
    project's own folder leave the project.

    The resolver works on texts instead. It joins the folder and the source of the import,
    resolves the double dots, and tries endings after the result. Both agree except at one
    place (`Resolver.relative_import_segments`). A path with nothing left in it is written as a
    dot, and an ending after that dot makes no path of a file of the project. So an import that
    leads to the project's own folder is never resolved, not even if there is a file `index.js`
    in it (`Resolver.import_of_root`).
-/

namespace SymbolGraph

/-! ## Following segments -/

namespace Path

/-- One segment further from a place in a project. Nothing is reached from the project's own
    folder by going back. -/
def stepWithin (p : Place) (segment : String) : Option Place :=
  if segment = "" ∨ segment = "." then some p
  else if segment = ".." then (if p = [] then none else some p.dropLast)
  else some (p ++ [segment])

/-- Where segments lead from a place in a project, unless they leave the project on the way. -/
def arrive? (p : Place) : List String → Option Place
  | [] => some p
  | segment :: rest => (stepWithin p segment).bind (arrive? · rest)

/-- What a segment can do: stay, leave, go back, or go on. -/
theorem stepWithin_cases (p : Place) (segment : String) :
    ((segment = "" ∨ segment = ".") ∧ stepWithin p segment = some p) ∨
    (segment = ".." ∧ p = [] ∧ stepWithin p segment = none) ∨
    (segment = ".." ∧ p ≠ [] ∧ stepWithin p segment = some p.dropLast) ∨
    (segment ≠ "" ∧ segment ≠ "." ∧ segment ≠ ".." ∧
      stepWithin p segment = some (p ++ [segment])) := by
  unfold stepWithin
  by_cases hstay : segment = "" ∨ segment = "."
  · exact .inl ⟨hstay, if_pos hstay⟩
  · have hne := not_or.mp hstay
    rw [if_neg hstay]
    by_cases hback : segment = ".."
    · rw [if_pos hback]
      by_cases hroot : p = []
      · exact .inr (.inl ⟨hback, hroot, if_pos hroot⟩)
      · exact .inr (.inr (.inl ⟨hback, hroot, if_neg hroot⟩))
    · rw [if_neg hback]
      exact .inr (.inr (.inr ⟨hne.1, hne.2, hback, rfl⟩))

/-! ### Resolving double dots in a relative path -/

/-- Once a relative path has left, it stays away. -/
theorem resolveDots_left {done : List String} (hdone : done.getLast? = some "..")
    (segments : List String) : (resolveDots false done segments).head? = some ".." := by
  induction segments generalizing done with
  | nil => rw [resolveDots, List.head?_reverse, hdone]
  | cons p segments ih =>
    cases done with
    | nil => cases hdone
    | cons q more =>
      rw [resolveDots.eq_def]
      dsimp only
      split
      · exact ih hdone
      · split
        · split
          · exact ih (by rw [List.getLast?_cons_cons]; exact hdone)
          · -- a name is taken back, and the double dot at the front is still there
            rename_i hq
            cases more with
            | nil => exact absurd (Option.some.inj hdone) hq
            | cons r more => exact ih (by rw [List.getLast?_cons_cons] at hdone; exact hdone)
        · exact ih (by rw [List.getLast?_cons_cons]; exact hdone)

variable {p q : Place} {segments : List String}

/-- A segment that leads on in the project: resolving it does the same to the names so far. -/
theorem resolveDots_step {segment : String} (hp : ∀ n ∈ p, Files.IsName n)
    (hsegment : '/' ∉ segment.toList) (h : stepWithin p segment = some q) :
    (∀ n ∈ q, Files.IsName n) ∧ ∀ rest,
      resolveDots false p.reverse (segment :: rest) = resolveDots false q.reverse rest := by
  rcases stepWithin_cases p segment with ⟨hstay, hstep⟩ | ⟨_, _, hstep⟩ |
    ⟨rfl, hroot, hstep⟩ | ⟨hempty, hdot, hback, hstep⟩
  · obtain rfl : p = q := Option.some.inj (hstep.symm.trans h)
    exact ⟨hp, fun rest => resolveDots_skip hstay false _ rest⟩
  · rw [hstep] at h
    cases h
  · -- the name that the double dot takes back is the last one
    obtain rfl : p.dropLast = q := Option.some.inj (hstep.symm.trans h)
    refine ⟨fun n hn => hp n (List.dropLast_subset _ hn), fun rest => ?_⟩
    have hlast : p.getLast hroot ≠ ".." := (hp _ (List.getLast_mem hroot)).2
    have hreverse : p.reverse = p.getLast hroot :: p.dropLast.reverse := by
      have hsplit := congrArg List.reverse (List.dropLast_append_getLast hroot)
      simpa using hsplit.symm
    rw [hreverse, resolveDots_back_cons hlast]
  · obtain rfl : p ++ [segment] = q := Option.some.inj (hstep.symm.trans h)
    have hname : Files.IsName segment := ⟨⟨hsegment, hempty, hdot⟩, hback⟩
    refine ⟨?_, fun rest => ?_⟩
    · rw [List.forall_mem_append, List.forall_mem_singleton]
      exact ⟨hp, hname⟩
    · have hreverse : (p ++ [segment]).reverse = segment :: p.reverse := by simp
      rw [hreverse, resolveDots_name hname]

/-- A segment that leaves the project: a double dot is kept. -/
theorem resolveDots_leave {segment : String} (h : stepWithin p segment = none)
    (rest : List String) :
    resolveDots false p.reverse (segment :: rest) = resolveDots false [".."] rest := by
  rcases stepWithin_cases p segment with ⟨_, hstep⟩ | ⟨rfl, rfl, _⟩ | ⟨_, _, hstep⟩ |
    ⟨_, _, _, hstep⟩
  · rw [hstep] at h
    cases h
  · rw [List.reverse_nil, resolveDots.eq_def]
    rfl
  · rw [hstep] at h
    cases h
  · rw [hstep] at h
    cases h

/-- Resolving double dots leads where the segments lead, and to names only. -/
theorem resolveDots_of_arrive (hp : ∀ n ∈ p, Files.IsName n)
    (hsegments : ∀ n ∈ segments, '/' ∉ n.toList) (h : arrive? p segments = some q) :
    resolveDots false p.reverse segments = q ∧ ∀ n ∈ q, Files.IsName n := by
  induction segments generalizing p with
  | nil =>
    obtain rfl : p = q := Option.some.inj h
    rw [resolveDots, List.reverse_reverse]
    exact ⟨rfl, hp⟩
  | cons segment segments ih =>
    rw [List.forall_mem_cons] at hsegments
    obtain ⟨p', hstep, hrest⟩ := Option.bind_eq_some_iff.mp h
    obtain ⟨hp', heq⟩ := resolveDots_step hp hsegments.1 hstep
    rw [heq]
    exact ih hp' hsegments.2 hrest

/-- If the segments leave the project, a double dot is left at the front. -/
theorem resolveDots_of_leaving (hp : ∀ n ∈ p, Files.IsName n)
    (hsegments : ∀ n ∈ segments, '/' ∉ n.toList) (h : arrive? p segments = none) :
    (resolveDots false p.reverse segments).head? = some ".." := by
  induction segments generalizing p with
  | nil => cases h
  | cons segment segments ih =>
    rw [List.forall_mem_cons] at hsegments
    rw [arrive?] at h
    cases hstep : stepWithin p segment with
    | none =>
      rw [resolveDots_leave hstep]
      exact resolveDots_left rfl segments
    | some p' =>
      obtain ⟨hp', heq⟩ := resolveDots_step hp hsegments.1 hstep
      rw [hstep, Option.bind_some] at h
      rw [heq]
      exact ih hp' hsegments.2 h

/-! ### The folder of a file -/

theorem joinParts_append_singleton {names : List String} (hne : names ≠ []) (n : String) :
    joinParts (names ++ [n]) = joinParts names ++ "/" ++ n := by
  unfold joinParts
  rw [String.intercalate_append_of_ne_nil hne (List.cons_ne_nil _ _), String.intercalate_singleton]

/-- Joined names do not end in a slash. -/
theorem getLast?_joinParts {names : List String} (h : ∀ n ∈ names, IsPart n) :
    (joinParts names).toList.getLast? ≠ some '/' := by
  rcases List.eq_nil_or_concat' names with rfl | ⟨init, n, rfl⟩
  · decide
  · obtain ⟨front, hfront⟩ : ∃ front, (joinParts (init ++ [n])).toList = front ++ n.toList := by
      by_cases hinit : init = []
      · exact ⟨[], by simp [hinit, joinParts]⟩
      · exact ⟨_, by rw [joinParts_append_singleton hinit, String.toList_append]⟩
    have hn := h n (by simp)
    intro hslash
    rw [hfront, List.getLast?_append] at hslash
    cases hlast : n.toList.getLast? with
    | none => exact hn.2.1 (String.toList_eq_nil_iff.mp (List.getLast?_eq_none_iff.mp hlast))
    | some c =>
      rw [hlast] at hslash
      have hc : c = '/' := Option.some.inj hslash
      rw [hc] at hlast
      exact hn.1 (List.mem_of_getLast? hlast)

theorem joinParts_eq_empty_iff {names : List String} (h : ∀ n ∈ names, IsPart n) :
    joinParts names = "" ↔ names = [] := by
  constructor
  · intro hempty
    rw [← parts_joinParts h, hempty]
    rfl
  · rintro rfl
    rfl

/-- Seen from its end, a path is dropped up to a slash, and a name has none. -/
theorem dropWhile_name {n : String} (hn : '/' ∉ n.toList) (rest : List Char) :
    (n.toList.reverse ++ rest).dropWhile (· ≠ '/') = rest.dropWhile (· ≠ '/') := by
  apply List.dropWhile_append_of_pos
  intro c hc
  simp only [decide_eq_true_eq]
  rintro rfl
  exact hn (List.mem_reverse.mp hc)

/-- The folder of a file in a folder. -/
theorem directory_append {base n : String} (hbase : base ≠ "")
    (hlast : base.toList.getLast? ≠ some '/') (hn : '/' ∉ n.toList) :
    directory (base ++ "/" ++ n) = base := by
  obtain ⟨cs, c, hcs⟩ : ∃ cs c, base.toList = cs ++ [c] := by
    rcases List.eq_nil_or_concat' base.toList with hnil | hconcat
    · exact absurd (String.toList_eq_nil_iff.mp hnil) hbase
    · exact hconcat
  have hc : c ≠ '/' := by
    rintro rfl
    exact hlast (by rw [hcs]; simp)
  -- what is left of the path before the name, with the slash that ends it
  have hhead : ((base ++ "/" ++ n).toList.reverse.dropWhile (· ≠ '/')).reverse
      = cs ++ [c, '/'] := by
    have hreverse : (base ++ "/" ++ n).toList.reverse
        = n.toList.reverse ++ '/' :: c :: cs.reverse := by
      simp [String.toList_append, hcs]
    rw [hreverse, dropWhile_name hn]
    simp
  unfold directory
  dsimp only
  rw [hhead, if_neg (by simp [hc])]
  have hback : (cs ++ [c, '/']).reverse.dropWhile (· = '/') = (cs ++ [c]).reverse := by
    simp [hc]
  rw [hback, List.reverse_reverse, ← hcs, String.ofList_toList]

/-- The folder of joined names is that of all but the last. -/
theorem directory_joinParts {names : List String} (h : ∀ n ∈ names, IsPart n) {n : String}
    (hn : IsPart n) : directory (joinParts (names ++ [n])) = joinParts names := by
  by_cases hnil : names = []
  · -- a name by itself has no slash, and so no folder
    have hdrop := dropWhile_name hn.1 []
    rw [List.append_nil] at hdrop
    have hjoin : joinParts ([] ++ [n]) = n := by simp [joinParts]
    rw [hnil, hjoin]
    unfold directory
    dsimp only
    rw [hdrop]
    rfl
  · rw [joinParts_append_singleton hnil]
    refine directory_append ?_ (getLast?_joinParts h) hn.1
    rwa [Ne, joinParts_eq_empty_iff h]

/-- Names that are joined with a relative path come before its segments. -/
theorem split_joined {names : List String} (h : ∀ n ∈ names, IsPart n) {source : String}
    (hsource : isAbsolute source = false) :
    split (joined (joinParts names) source) = names ++ split source ∧
      isAbsolute (joined (joinParts names) source) = false := by
  unfold joined
  rw [hsource, if_neg Bool.false_ne_true]
  by_cases hnil : names = []
  · rw [if_pos ((joinParts_eq_empty_iff h).mpr hnil), hnil]
    exact ⟨rfl, hsource⟩
  · have hbase : joinParts names ≠ "" := by rwa [Ne, joinParts_eq_empty_iff h]
    have hlast : ((joinParts names).toList.getLast? == some '/') = false := by
      rw [beq_eq_false_iff_ne]
      exact getLast?_joinParts h
    rw [if_neg hbase, hlast, if_neg Bool.false_ne_true]
    constructor
    · rw [split_join, split_joinParts (fun n hn => (h n hn).1) hnil]
    · have habs := isAbsolute_joinParts h
      unfold isAbsolute at habs ⊢
      rw [String.toList_append, String.toList_append]
      cases hchars : (joinParts names).toList with
      | nil => exact absurd (String.toList_eq_nil_iff.mp hchars) hbase
      | cons c cs =>
        rw [hchars] at habs
        exact habs

theorem normalised_of_relative {s : String} (h : isAbsolute s = false) :
    normalised s = (let body := joinParts (resolveDots false [] (split s))
      if body = "" then "." else body) := by
  have hroot : root s = "" := by
    rcases root_cases s with ⟨hroot, _⟩ | ⟨_, habs⟩ | ⟨_, habs⟩
    · exact hroot
    · rw [h] at habs
      cases habs
    · rw [h] at habs
      cases habs
  unfold normalised
  rw [hroot, h, String.empty_append]

end Path

/-! ## The files of a project -/

namespace Discovery

open SymbolGraph.Path

/-- The path of a file as it is listed for a project: the names that lead to it from the
    project's folder, none of them hidden, with slashes between them. -/
def IsListed (file : String) : Prop :=
  ∃ names, names ≠ [] ∧ joinParts names = file ∧ ∀ n ∈ names, IsPart n ∧ isHidden n = false

/-- The files of a project are listed so. -/
theorem isListed_of_mem_found {wanted : Filter} {f : Files} {folder file : String}
    (hf : f.Proper) (h : file ∈ found wanted f folder) : IsListed file := by
  obtain ⟨d, hplace⟩ := exists_place_of_mem_found h
  obtain ⟨names, bytes, hne, hat, hwants, rfl⟩ := (mem_found hf.toSound hplace).mp h
  refine ⟨names, hne, rfl, ?_⟩
  intro n hn
  have hsome : (f.at? (d ++ names)).isSome = true := by rw [hat]; rfl
  have hname := hf.names _ hsome n (List.mem_append_right _ hn)
  have hshown : names.any isHidden = false := by
    unfold Filter.wants at hwants
    simp only [Bool.and_eq_true, Bool.not_eq_true'] at hwants
    exact hwants.2
  exact ⟨hname.1, by simpa using List.any_eq_false.mp hshown n hn⟩

/-- A listed file has a name, and a folder that names lead to. -/
theorem IsListed.exists_folder {file : String} (h : IsListed file) :
    ∃ names n, joinParts (names ++ [n]) = file ∧ ∀ m ∈ names ++ [n], Files.IsName m := by
  obtain ⟨names, hne, rfl, hnames⟩ := h
  have hall : ∀ m ∈ names, Files.IsName m := by
    intro m hm
    obtain ⟨hpart, hhidden⟩ := hnames m hm
    refine ⟨hpart, ?_⟩
    rintro rfl
    exact absurd hhidden (by decide)
  rcases List.eq_nil_or_concat' names with hnil | ⟨init, n, rfl⟩
  · exact absurd hnil hne
  · exact ⟨init, n, rfl, hall⟩

/-- The path of a listed file does not start with a dot. -/
theorem IsListed.head_ne_dot {file : String} (h : IsListed file) :
    file.toList.head? ≠ some '.' := by
  obtain ⟨names, hne, rfl, hnames⟩ := h
  cases names with
  | nil => exact absurd rfl hne
  | cons n names =>
    obtain ⟨hpart, hhidden⟩ := hnames n List.mem_cons_self
    rw [head?_joinParts hpart.2.1]
    simpa [isHidden] using hhidden

end Discovery

/-- The facts that a project is linked from are those of files that are listed so. What its
    relative imports mean is therefore told by `Resolver.relative_import_segments`. -/
theorem Build.isListed_of_build {x : Extractor} {limit : Int} {disk : Files} {now folder : String}
    {b : Built} (hdisk : disk.Proper) (h : build x limit disk now folder = .ok b) :
    ∀ file ∈ b.report.facts.keys, Discovery.IsListed file := by
  obtain ⟨files, hfiles, _, rfl⟩ := build_eq_ok.mp h
  rw [Discovery.files_eq_found hdisk.toSound.access] at hfiles
  cases hfiles
  intro file hfile
  have hkeys : (link now folder (collect x limit disk folder
      (Discovery.found {} disk folder))).report.facts.keys.Sublist
        (Discovery.found {} disk folder) :=
    keys_sublist Outcome.facts? (Discovery.nodup_found hdisk)
  exact Discovery.isListed_of_mem_found hdisk (hkeys.subset hfile)

namespace Resolver

open SymbolGraph.Path

/-- The files that an import of a place may mean, in the order in which they are looked for:
    a file of that name, or one that stands for the folder. The project's own folder has no
    name that a file could have. -/
def importCandidates (place : Place) : List String :=
  (if place = [] then [] else [".js", ".ts", ".jsx", ".tsx"].map (joinParts place ++ ·))
    ++ ["index.js", "index.ts"].map fun n => joinParts (place ++ [n])

/-- The path that endings are tried after: the folder of the importing file with the segments
    of the source followed, and a dot if nothing is left of it. -/
theorem importBase_eq {importer source : String} (himporter : Discovery.IsListed importer)
    (hsource : source.toList.head? = some '.') :
    (∀ n ∈ (split importer).dropLast, Files.IsName n) ∧
      normalised (joined (directory importer) source)
        = (let left := resolveDots false (split importer).dropLast.reverse (split source)
          if joinParts left = "" then "." else joinParts left) := by
  obtain ⟨names, n, rfl, hall⟩ := himporter.exists_folder
  have hnames : ∀ m ∈ names, Files.IsName m := fun m hm => hall m (List.mem_append_left _ hm)
  have hparts : ∀ m ∈ names, IsPart m := fun m hm => (hnames m hm).1
  have hn : IsPart n := (hall n (by simp)).1
  have hfolder : (split (joinParts (names ++ [n]))).dropLast = names := by
    rw [split_joinParts (fun m hm => (hall m hm).1.1) (by simp), List.dropLast_concat]
  have hrelative : isAbsolute source = false := by
    unfold isAbsolute
    rw [hsource]
    rfl
  obtain ⟨hsplit, habs⟩ := split_joined hparts hrelative
  have hresolve := resolveDots_append_of_names hnames false [] (split source)
  rw [List.append_nil] at hresolve
  rw [hfolder, directory_joinParts hparts hn, normalised_of_relative habs, hsplit, hresolve]
  exact ⟨hnames, rfl⟩

section
variable {r : Resolver}

/-- No file is found after a path that starts with a dot. -/
theorem find?_of_dot (hfiles : ∀ file ∈ r.files.keys, Discovery.IsListed file) {base : String}
    (hbase : base.toList.head? = some '.') :
    (endings.map (base ++ ·)).find? r.files.contains = none := by
  rw [List.find?_eq_none]
  intro file hfile hthere
  obtain ⟨ending, _, rfl⟩ := List.mem_map.mp hfile
  apply (hfiles _ (Table.mem_keys.mpr hthere)).head_ne_dot
  rw [String.toList_append, List.head?_append, hbase]
  rfl

/-- The endings after the path of a place make the candidates for it. -/
theorem endings_eq_importCandidates {place : Place} (hplace : place ≠ []) :
    endings.map (joinParts place ++ ·) = importCandidates place := by
  unfold importCandidates endings
  rw [if_neg hplace]
  simp only [List.map_cons, List.map_nil, joinParts_append_singleton hplace, String.append_assoc,
    List.cons_append, List.nil_append]
  rfl

end

/-- **What a relative import means.** In a project whose files are listed as projects list
    theirs, let the segments of the source be followed from the folder of the importing file.
    If they lead to a place below the project's folder, the import means the first file of the
    project among the candidates for that place, if there is one. If they lead to the project's
    own folder, or out of the project, it means no file. -/
theorem relative_import_segments (r : Resolver)
    (hfiles : ∀ file ∈ r.files.keys, Discovery.IsListed file) {importer source : String}
    (himporter : importer ∈ r.files.keys) (hsource : source.toList.head? = some '.') :
    let arrived := arrive? (split importer).dropLast (split source)
    (∀ place, arrived = some place → place ≠ [] →
      r.importedFile? importer source = (importCandidates place).find? r.files.contains) ∧
    (arrived = some [] → r.importedFile? importer source = none) ∧
    (arrived = none → r.importedFile? importer source = none) := by
  intro arrived
  obtain ⟨hnames, hbase⟩ := importBase_eq (hfiles _ himporter) hsource
  dsimp only at hbase
  have hslash : ∀ n ∈ split source, '/' ∉ n.toList := by
    intro n hn
    obtain ⟨cs, hcs, rfl⟩ := List.mem_map.mp hn
    rw [String.toList_ofList]
    exact not_mem_of_mem_splitOn hcs
  have hlookup : r.importedFile? importer source = (endings.map
      (normalised (joined (directory importer) source) ++ ·)).find? r.files.contains := by
    unfold importedFile?
    rw [hsource]
    rfl
  rw [hlookup, hbase]
  refine ⟨?_, ?_, ?_⟩
  · intro place hplace hne
    obtain ⟨hresolve, hall⟩ := resolveDots_of_arrive hnames hslash hplace
    have hbody : joinParts place ≠ "" := by
      rwa [Ne, joinParts_eq_empty_iff fun n hn => (hall n hn).1]
    rw [hresolve, if_neg hbody, endings_eq_importCandidates hne]
  · -- nothing is left of the path, which is written as a dot
    intro hplace
    obtain ⟨hresolve, _⟩ := resolveDots_of_arrive hnames hslash hplace
    rw [hresolve]
    exact find?_of_dot hfiles rfl
  · -- what is left of the path starts with a double dot, and that with a dot
    intro hleft
    have hhead := resolveDots_of_leaving hnames hslash hleft
    obtain ⟨rest, hrest⟩ := List.head?_eq_some_iff.mp hhead
    have hdot : (joinParts (".." :: rest)).toList.head? = some '.' :=
      head?_joinParts (by decide) rest
    have hbody : joinParts (".." :: rest) ≠ "" := by
      intro hempty
      rw [hempty] at hdot
      cases hdot
    rw [hrest, if_neg hbody]
    exact find?_of_dot hfiles hdot

/-- A project with a file in its own folder that stands for the folder. -/
def smallProject : Resolver where
  files := Table.ofList [("index.js", {}), ("main.js", {}), ("lib/x.ts", {}), ("src/app.js", {}),
    ("src/widgets/index.ts", {})]
  names := Table.empty

theorem isListed_smallProject : ∀ file ∈ smallProject.files.keys, Discovery.IsListed file := by
  have hkeys : smallProject.files.keys
      = ["index.js", "main.js", "lib/x.ts", "src/app.js", "src/widgets/index.ts"] := by decide
  rw [hkeys]
  simp only [List.forall_mem_cons]
  exact ⟨⟨["index.js"], by decide, by decide, by decide⟩,
    ⟨["main.js"], by decide, by decide, by decide⟩,
    ⟨["lib", "x.ts"], by decide, by decide, by decide⟩,
    ⟨["src", "app.js"], by decide, by decide, by decide⟩,
    ⟨["src", "widgets", "index.ts"], by decide, by decide, by decide⟩, nofun⟩

/-- Segments that go back two folders and on into another lead to a file there. Three folders
    back is out of the project. -/
theorem relative_import_segments_back :
    (∀ file ∈ smallProject.files.keys, Discovery.IsListed file) ∧
    "src/widgets/index.ts" ∈ smallProject.files.keys ∧
    arrive? (split "src/widgets/index.ts").dropLast (split ".././/../lib/x") = some ["lib", "x"] ∧
    smallProject.importedFile? "src/widgets/index.ts" ".././/../lib/x" = some "lib/x.ts" ∧
    smallProject.importedFile? "src/widgets/index.ts" "../../../lib/x" = none := by
  have hmem : "src/widgets/index.ts" ∈ smallProject.files.keys := by decide
  have harrive : arrive? (split "src/widgets/index.ts").dropLast (split ".././/../lib/x")
      = some ["lib", "x"] := by decide
  refine ⟨isListed_smallProject, hmem, harrive, ?_, ?_⟩
  · have hmeans := relative_import_segments smallProject isListed_smallProject hmem
      (show ".././/../lib/x".toList.head? = some '.' by decide)
    rw [hmeans.1 ["lib", "x"] harrive (by decide)]
    decide
  · have hmeans := relative_import_segments smallProject isListed_smallProject hmem
      (show "../../../lib/x".toList.head? = some '.' by decide)
    exact hmeans.2.2 (by decide)

/-- An import that leads to the project's own folder means no file, although the first
    candidate for it is a file of the project. -/
theorem import_of_root :
    (∀ file ∈ smallProject.files.keys, Discovery.IsListed file) ∧
    ∀ q ∈ [("main.js", "."), ("main.js", "./"), ("src/app.js", "..")],
      q.1 ∈ smallProject.files.keys ∧
      arrive? (split q.1).dropLast (split q.2) = some [] ∧
      (importCandidates []).find? smallProject.files.contains = some "index.js" ∧
      smallProject.importedFile? q.1 q.2 = none := by
  refine ⟨isListed_smallProject, ?_⟩
  decide

end Resolver

end SymbolGraph
