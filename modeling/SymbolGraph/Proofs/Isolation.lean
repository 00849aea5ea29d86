import SymbolGraph.Proofs.BuiltGraphs
import SymbolGraph.Proofs.ProjectFiles

/-! # Files that give no facts

    Files of a project that are too large are skipped, and whatever goes wrong with one of the
    others is caught. The graph is then the same as if these files had never been there
    (`Build.failures_isolated`).

    There are two halves. The facts of a report depend on the files that were read only, so a
    report without the other entries has the same facts (`Report.facts_read`). And the files of
    these entries can be deleted: what becomes of the files that are left depends on each of them
    alone, so the project without the others gives just that report (`Build.collect_without`).
-/

namespace SymbolGraph

namespace Build

/-! ## Reports -/

namespace Report

/-- The entries of a report about which something is told. -/
def telling {α : Type} (view : Outcome → Option α) (r : Report) : Report :=
  r.filter fun e => (view e.2).isSome

variable {α : Type} {view : Outcome → Option α} {r : Report}

theorem map_fst_gathered (view : Outcome → Option α) (r : Report) :
    (r.filterMap fun e => (view e.2).map fun v => (e.1, v)).map (·.1)
      = (r.telling view).map (·.1) := by
  induction r with
  | nil => rfl
  | cons e r ih =>
    unfold telling at ih ⊢
    cases hview : view e.2 with
    | none =>
      rw [List.filterMap_cons_none (by rw [hview]; rfl), ih,
        List.filter_cons_of_neg (by simp [hview])]
    | some v =>
      rw [List.filterMap_cons_some (by rw [hview]; rfl), List.map_cons, ih,
        List.filter_cons_of_pos (by simp [hview]), List.map_cons]

theorem entries_gather (h : (r.map (·.1)).Nodup) :
    (r.gather view).entries = r.filterMap fun e => (view e.2).map fun v => (e.1, v) := by
  apply Table.entries_ofList
  rw [map_fst_gathered]
  have hnodup : ((r.telling view).map (·.1)).Nodup := h.sublist (List.filter_sublist.map _)
  exact hnodup.imp beq_false_of_ne

/-- What is told of different files is told in their order. -/
theorem keys_gather (h : (r.map (·.1)).Nodup) :
    (r.gather view).keys = (r.telling view).map (·.1) := by
  unfold Table.keys
  rw [entries_gather h, map_fst_gathered]

theorem get?_gather (h : (r.map (·.1)).Nodup) {file : String} {v : α} :
    (r.gather view).get? file = some v ↔ ∃ o, (file, o) ∈ r ∧ view o = some v := by
  rw [Table.get?_eq_some_iff, entries_gather h, List.mem_filterMap]
  constructor
  · rintro ⟨⟨name, o⟩, hmem, htold⟩
    obtain ⟨w, hview, hpair⟩ := Option.map_eq_some_iff.mp htold
    cases hpair
    exact ⟨o, hmem, hview⟩
  · rintro ⟨o, hmem, hview⟩
    exact ⟨(file, o), hmem, by rw [hview]; rfl⟩

theorem mem_skipped {file : String} :
    file ∈ r.skipped ↔ ∃ o, (file, o) ∈ r ∧ o.isSkipped = true := by
  unfold skipped
  rw [List.mem_map]
  constructor
  · rintro ⟨⟨name, o⟩, hmem, rfl⟩
    exact ⟨o, List.mem_filter.mp hmem⟩
  · rintro ⟨o, hmem⟩
    exact ⟨(file, o), List.mem_filter.mpr hmem, rfl⟩

/-! ### Three parts -/

/-- Every file was read, was skipped or failed. -/
theorem split_perm (r : Report) :
    (r.telling Outcome.facts? ++ r.filter (·.2.isSkipped) ++ r.telling Outcome.message?).Perm r := by
  induction r with
  | nil => exact .refl _
  | cons e r ih =>
    obtain ⟨file, o⟩ := e
    unfold telling at ih ⊢
    cases o with
    | read f => exact ih.cons _
    | skipped size => exact (List.perm_middle.append_right _).trans (ih.cons _)
    | failed message => exact List.perm_middle.trans (ih.cons _)

/-- A file without facts was skipped or failed. -/
theorem facts?_eq_none_iff (o : Outcome) :
    o.facts? = none ↔ o.isSkipped = true ∨ o.message?.isSome = true := by
  cases o <;> simp [Outcome.facts?, Outcome.isSkipped, Outcome.message?]

/-- The part of a report about the files that were read. -/
def read (r : Report) : Report :=
  r.telling Outcome.facts?

/-- The files that were read are all that the facts depend on. -/
theorem facts_read (r : Report) : r.read.facts = r.facts := by
  unfold facts gather read telling
  rw [List.filterMap_filter]
  congr 1
  apply List.filterMap_congr
  rintro ⟨file, o⟩ _
  cases o <;> rfl

theorem skipped_read (r : Report) : r.read.skipped = [] := by
  unfold skipped read telling
  rw [List.filter_filter, List.map_eq_nil_iff, List.filter_eq_nil_iff]
  rintro ⟨file, o⟩ _
  cases o <;> exact nofun

theorem errors_read (r : Report) : r.read.errors = {} := by
  have hnone : (r.read.filterMap fun e => e.2.message?.map fun m => (e.1, m)) = [] := by
    unfold read telling
    rw [List.filterMap_filter, List.filterMap_eq_nil_iff]
    rintro ⟨file, o⟩ _
    cases o <;> rfl
  unfold errors gather
  rw [hnone]
  rfl

end Report

/-! ## What becomes of files -/

/-- Whether what an extractor gives for a file depends on nothing that is stored but the
    file. -/
def Extractor.IsLocal (x : Extractor) : Prop :=
  ∀ disk disk' folder file,
    disk.find (Path.under folder file) = disk'.find (Path.under folder file) →
    disk.read (Path.under folder file) = disk'.read (Path.under folder file) →
    x disk folder file = x disk' folder file

/-- Source files are read one by one. -/
theorem isLocal_sourceExtractor (missing : List String) : (sourceExtractor missing).IsLocal := by
  intro disk disk' folder file _ h
  unfold sourceExtractor factsOf
  dsimp only
  rw [h]

section
variable {x : Extractor} {limit : Int} {disk disk' : Files} {folder : String}
  {files : List String}

theorem outcome_congr (hx : x.IsLocal) {file : String}
    (hfind : disk.find (Path.under folder file) = disk'.find (Path.under folder file))
    (hread : disk.read (Path.under folder file) = disk'.read (Path.under folder file)) :
    outcome x limit disk folder file = outcome x limit disk' folder file := by
  rw [outcome_eq, outcome_eq, hfind, hx disk disk' folder file hfind hread]

theorem map_fst_collect : (collect x limit disk folder files).map (·.1) = files := by
  unfold collect
  rw [List.map_map]
  exact List.map_id' files

theorem mem_collect {file : String} {o : Outcome} : (file, o) ∈ collect x limit disk folder files ↔
    file ∈ files ∧ outcome x limit disk folder file = o := by
  unfold collect
  rw [List.mem_map]
  constructor
  · rintro ⟨name, hname, hpair⟩
    cases hpair
    exact ⟨hname, rfl⟩
  · rintro ⟨hfile, rfl⟩
    exact ⟨file, hfile, rfl⟩

/-- A report has one entry for each file. -/
theorem exists_mem_collect (wanted : Outcome → Prop) {file : String} :
    (∃ o, (file, o) ∈ collect x limit disk folder files ∧ wanted o) ↔
      file ∈ files ∧ wanted (outcome x limit disk folder file) := by
  constructor
  · rintro ⟨o, hmem, ho⟩
    obtain ⟨hfile, rfl⟩ := mem_collect.mp hmem
    exact ⟨hfile, ho⟩
  · rintro ⟨hfile, ho⟩
    exact ⟨_, mem_collect.mpr ⟨hfile, rfl⟩, ho⟩

theorem nodup_collect (h : files.Nodup) :
    ((collect x limit disk folder files).map (·.1)).Nodup := by
  rw [map_fst_collect]
  exact h

/-- What becomes of a file that is there: it is skipped exactly if it is too large, and otherwise
    what the extractor gives decides. -/
theorem outcome_of_find {file : String} {bytes : List UInt8}
    (h : disk.find (Path.under folder file) = .ok (.file bytes)) :
    ((outcome x limit disk folder file).isSkipped = true ↔ limit < bytes.length) ∧
    (∀ message, (outcome x limit disk folder file).message? = some message ↔
      bytes.length ≤ limit ∧ x disk folder file = .error message) ∧
    (∀ f, (outcome x limit disk folder file).facts? = some f ↔
      bytes.length ≤ limit ∧ x disk folder file = .ok f) := by
  by_cases hsize : limit < bytes.length
  · have hlarge : ¬ (bytes.length : Int) ≤ limit := Int.not_le.mpr hsize
    have hout : outcome x limit disk folder file = .skipped bytes.length := by
      rw [outcome_eq, h]
      exact if_pos hsize
    simp [hout, Outcome.isSkipped, Outcome.message?, Outcome.facts?, hsize, hlarge]
  · have hsmall : (bytes.length : Int) ≤ limit := Int.not_lt.mp hsize
    cases hgiven : x disk folder file with
    | ok f =>
      have hout : outcome x limit disk folder file = .read f := by
        rw [outcome_eq, h]
        exact (if_neg hsize).trans (by rw [hgiven])
      simp [hout, Outcome.isSkipped, Outcome.message?, Outcome.facts?, hsmall]
    | error message =>
      have hout : outcome x limit disk folder file = .failed message := by
        rw [outcome_eq, h]
        exact (if_neg hsize).trans (by rw [hgiven])
      simp [hout, Outcome.isSkipped, Outcome.message?, Outcome.facts?, hsmall]

theorem keys_sublist {α : Type} (view : Outcome → Option α) (h : files.Nodup) :
    ((collect x limit disk folder files).gather view).keys.Sublist files := by
  have hsub : ((collect x limit disk folder files).gather view).keys.Sublist
      ((collect x limit disk folder files).map (·.1)) := by
    rw [Report.keys_gather (nodup_collect h)]
    exact List.filter_sublist.map _
  rwa [map_fst_collect] at hsub

theorem skipped_sublist : (collect x limit disk folder files).skipped.Sublist files := by
  have hsub : (collect x limit disk folder files).skipped.Sublist
      ((collect x limit disk folder files).map (·.1)) := List.filter_sublist.map _
  rwa [map_fst_collect] at hsub

theorem mem_skipped_collect {file : String} : file ∈ (collect x limit disk folder files).skipped ↔
    file ∈ files ∧ (outcome x limit disk folder file).isSkipped = true :=
  Report.mem_skipped.trans (exists_mem_collect _)

theorem get?_gather_collect {α : Type} {view : Outcome → Option α} (h : files.Nodup)
    {file : String} {v : α} :
    ((collect x limit disk folder files).gather view).get? file = some v ↔
      file ∈ files ∧ view (outcome x limit disk folder file) = some v :=
  (Report.get?_gather (nodup_collect h)).trans (exists_mem_collect _)

/-- The files of a report that were not read. -/
def Report.unread (r : Report) : List String :=
  r.skipped ++ r.errors.keys

theorem mem_unread (h : files.Nodup) {file : String} :
    file ∈ (collect x limit disk folder files).unread ↔
      file ∈ files ∧ (outcome x limit disk folder file).facts? = none := by
  unfold Report.unread Report.errors
  rw [List.mem_append, mem_skipped_collect, Table.mem_keys, ← Table.isSome_get?,
    Option.isSome_iff_exists, Report.facts?_eq_none_iff, and_or_left, Option.isSome_iff_exists]
  simp only [get?_gather_collect h, exists_and_left]

/-- The files fall into those that were read and those that were not. -/
theorem keys_perm (h : files.Nodup) :
    ((collect x limit disk folder files).facts.keys
      ++ (collect x limit disk folder files).unread).Perm files := by
  have hall := (collect x limit disk folder files).split_perm.map (·.1)
  rw [map_fst_collect, List.map_append, List.map_append, ← Report.keys_gather (nodup_collect h),
    ← Report.keys_gather (nodup_collect h), List.append_assoc] at hall
  exact hall

/-- The three parts into which the files fall, each in the order of the files. -/
theorem collect_parts (x : Extractor) (limit : Int) (disk : Files) (folder : String)
    (h : files.Nodup) :
    let r := collect x limit disk folder files
    (r.facts.keys.Sublist files ∧ r.skipped.Sublist files ∧ r.errors.keys.Sublist files) ∧
    (r.facts.keys ++ r.unread).Perm files ∧ r.length = files.length :=
  ⟨⟨keys_sublist _ h, skipped_sublist, keys_sublist _ h⟩, keys_perm h, List.length_map _⟩

/-- The files that were read, in their order. -/
theorem keys_facts (h : files.Nodup) : (collect x limit disk folder files).facts.keys
    = files.filter fun file => !(collect x limit disk folder files).unread.contains file := by
  have hread : ((collect x limit disk folder files).telling Outcome.facts?).map (·.1)
      = files.filter fun file => (outcome x limit disk folder file).facts?.isSome := by
    unfold Report.telling collect
    simp only [List.filter_map, List.map_map, Function.comp_def, List.map_id']
  unfold Report.facts
  rw [Report.keys_gather (nodup_collect h), hread]
  apply List.filter_congr
  intro file hfile
  rw [Bool.eq_iff_iff, Bool.not_eq_true', Bool.eq_false_iff, ne_eq, List.contains_iff_mem,
    mem_unread h, Option.isSome_iff_ne_none]
  exact ⟨fun hsome hmem => hsome hmem.2, fun hnot hnone => hnot ⟨hfile, hnone⟩⟩

/-- What a report says about each file that is there. -/
theorem fate (h : files.Nodup) {file : String} (hfile : file ∈ files) {bytes : List UInt8}
    (hfound : disk.find (Path.under folder file) = .ok (.file bytes)) :
    let r := collect x limit disk folder files
    (file ∈ r.skipped ↔ limit < bytes.length) ∧
    (∀ message, r.errors.get? file = some message ↔
      bytes.length ≤ limit ∧ x disk folder file = .error message) ∧
    (∀ f, r.facts.get? file = some f ↔ bytes.length ≤ limit ∧ x disk folder file = .ok f) := by
  intro r
  obtain ⟨hskipped, hfailed, hread⟩ := outcome_of_find hfound
  refine ⟨?_, ?_, ?_⟩
  · exact mem_skipped_collect.trans ((and_iff_right hfile).trans hskipped)
  · intro message
    exact (get?_gather_collect h).trans ((and_iff_right hfile).trans (hfailed message))
  · intro f
    exact (get?_gather_collect h).trans ((and_iff_right hfile).trans (hread f))

/-- The files that were not read can be deleted. What is found then are the files that were
    read, and what becomes of each is the same. -/
theorem collect_without (hx : x.IsLocal) (limit : Int) (hdisk : disk.Proper) (folder : String)
    (wanted : Discovery.Filter) :
    let files := Discovery.found wanted disk folder
    let r := collect x limit disk folder files
    ∃ rest, r.unread.foldlM (fun d file => d.delete (Path.under folder file)) disk = .ok rest ∧
      rest.Proper ∧ Discovery.found wanted rest folder = r.facts.keys ∧
      (∀ file ∈ r.facts.keys,
        rest.find (Path.under folder file) = disk.find (Path.under folder file)) ∧
      collect x limit rest folder (Discovery.found wanted rest folder) = r.read := by
  intro files r
  have hnodup : files.Nodup := Discovery.nodup_found hdisk
  have hunread : r.unread.Nodup :=
    (List.nodup_append.mp ((keys_perm hnodup).nodup_iff.mpr hnodup)).2.1
  obtain ⟨rest, hdelete, hwithout⟩ := Discovery.exists_without hdisk hunread
    fun file hfile => ((mem_unread hnodup).mp hfile).1
  have hfiles : Discovery.found wanted rest folder = r.facts.keys := by
    rw [hwithout.listed]
    exact (keys_facts hnodup).symm
  refine ⟨rest, hdelete, hwithout.proper, hfiles, ?_, ?_⟩
  · rw [← hfiles]
    exact hwithout.find
  · -- each file that is left has the outcome that it has in the report
    have hsame : ∀ e ∈ r.read, (e.1, outcome x limit rest folder e.1) = e := by
      rintro ⟨file, o⟩ he
      have hfile : file ∈ Discovery.found wanted rest folder := by
        rw [hfiles]
        unfold Report.facts
        rw [Report.keys_gather (nodup_collect hnodup)]
        exact List.mem_map.mpr ⟨_, he, rfl⟩
      obtain ⟨_, rfl⟩ := mem_collect.mp (List.mem_filter.mp he).1
      rw [outcome_congr hx (hwithout.find file hfile) (hwithout.read hdisk hfile)]
    rw [hfiles]
    unfold Report.facts
    rw [Report.keys_gather (nodup_collect hnodup)]
    unfold collect
    rw [List.map_map]
    exact (List.map_congr_left hsame).trans (List.map_id' r.read)

end

/-! ## The graph of what was read -/

/-- Adding symbols and edges goes on in the same way whatever the metadata is. -/
theorem run_setMetadata (m : Metadata) (nodes : List Symbol) (edges : List Edge) (s : Store) :
    ({ s with metadata := m } : Store).run (nodes.map Resolver.addition ++ edges.map .addEdge)
      = { s.run (nodes.map Resolver.addition ++ edges.map .addEdge) with metadata := m } := by
  induction nodes generalizing s with
  | cons node nodes ih => exact ih (s.apply (Resolver.addition node))
  | nil =>
    induction edges generalizing s with
    | nil => rfl
    | cons e edges ih => exact ih (s.apply (.addEdge e))

/-- When a graph is built shows in its metadata only. -/
theorem graph_later (now now' folder : String) (facts : Table String Facts) :
    graph now' folder facts
      = { graph now folder facts with metadata := ⟨.str now', .str now', .str folder⟩ } := by
  have hbuild : (Resolver.build ⟨facts, {}⟩ (Store.empty now')).2
      = { (Resolver.build ⟨facts, {}⟩ (Store.empty now)).2 with
          metadata := ⟨.str now', .str now', .null⟩ } := by
    rw [Resolver.build_eq_run_scan, Resolver.build_eq_run_scan]
    exact run_setMetadata ⟨.str now', .str now', .null⟩ _ _ (Store.empty now)
  unfold graph
  rw [hbuild]
  rfl

/-- Linking the files that were read gives the same graph. -/
theorem link_read (now now' folder : String) (r : Report) :
    (link now' folder r.read).report.facts = r.facts ∧
    (link now' folder r.read).store
      = { (link now folder r).store with metadata := ⟨.str now', .str now', .str folder⟩ } ∧
    (link now' folder r.read).stats = { (link now folder r).stats with
      fileCount := r.read.length, skipped := [], errors := {} } := by
  have hstore : (link now' folder r.read).store
      = { (link now folder r).store with metadata := ⟨.str now', .str now', .str folder⟩ } := by
    unfold link
    rw [Report.facts_read]
    exact graph_later now now' folder r.facts
  refine ⟨Report.facts_read r, hstore, ?_⟩
  have hstats : (link now' folder r.read).stats = {
      nodeCount := (link now' folder r.read).store.nodeCount
      edgeCount := (link now' folder r.read).store.edgeCount
      fileCount := r.read.length, skipped := r.read.skipped, errors := r.read.errors } := rfl
  rw [hstats, hstore, Report.skipped_read, Report.errors_read]
  rfl

/-- **Files that give no facts are isolated.** Let what is read off a file depend on this file
    alone, and let there be any limit for the size of files. The files of a project are found once
    each, and they fall into three parts, each in the order in which they were found: the keys of
    the facts, the skipped files, and the files with an error. A file is skipped exactly if it is
    larger than the limit. Otherwise it has an error exactly if reading it fails, with the message
    of that, and facts exactly if reading it gives them. All files are counted, and the graph is
    that of the facts. Building fails only if these facts cannot be linked.

    The files that were skipped or failed can be deleted. What is found then are the keys of the
    facts. Building goes the same way at any time. The graph is the same in all its parts and in
    the same order, but for the metadata that tell the time, and nothing is skipped or fails. -/
theorem failures_isolated (x : Extractor) (hx : x.IsLocal) (limit : Int) (disk : Files)
    (hdisk : disk.Proper) (now folder : String) :
    ∃ files, Discovery.files {} disk folder = .ok files ∧
    let b := link now folder (collect x limit disk folder files)
    let facts := b.report.facts
    build x limit disk now folder
      = (if Resolver.isFit ⟨facts, {}⟩ then .ok b else .error (.malformed .unfit)) ∧
    files.Nodup ∧
    (facts.keys.Sublist files ∧ b.stats.skipped.Sublist files ∧ b.stats.errors.keys.Sublist files) ∧
    (facts.keys ++ (b.stats.skipped ++ b.stats.errors.keys)).Perm files ∧
    b.stats.fileCount = files.length ∧ b.store = graph now folder facts ∧
    (∀ file ∈ files, ∃ bytes, disk.read (Path.under folder file) = .ok bytes ∧
      (file ∈ b.stats.skipped ↔ limit < bytes.length) ∧
      (∀ message, b.stats.errors.get? file = some message ↔
        bytes.length ≤ limit ∧ x disk folder file = .error message) ∧
      (∀ f, facts.get? file = some f ↔ bytes.length ≤ limit ∧ x disk folder file = .ok f)) ∧
    ∃ rest, (b.stats.skipped ++ b.stats.errors.keys).foldlM
        (fun d file => d.delete (Path.under folder file)) disk = .ok rest ∧
      Discovery.files {} rest folder = .ok facts.keys ∧
      (∀ file ∈ facts.keys,
        rest.find (Path.under folder file) = disk.find (Path.under folder file)) ∧
      ∀ now', let b' := link now' folder (collect x limit rest folder facts.keys)
        build x limit rest now' folder
          = (if Resolver.isFit ⟨facts, {}⟩ then .ok b' else .error (.malformed .unfit)) ∧
        b'.report.facts = facts ∧
        b'.store = { b.store with metadata := ⟨.str now', .str now', .str folder⟩ } ∧
        b'.stats = { b.stats with fileCount := facts.keys.length, skipped := [], errors := {} } := by
  have hfound := Discovery.files_eq_found hdisk.toSound.access {} folder
  have hnodup : (Discovery.found {} disk folder).Nodup := Discovery.nodup_found hdisk
  obtain ⟨rest, hdelete, hrest, hfiles, hfind, hcollect⟩ :=
    collect_without hx limit hdisk folder {}
  have hparts := collect_parts x limit disk folder hnodup
  have hthere : ∀ file ∈ Discovery.found {} disk folder, ∃ bytes,
      disk.find (Path.under folder file) = .ok (.file bytes) ∧
      disk.read (Path.under folder file) = .ok bytes := fun _ => Discovery.exists_read hdisk
  have hlisted := Discovery.files_eq_found hrest.toSound.access {} folder
  generalize Discovery.found {} disk folder = files at *
  refine ⟨files, hfound, ?_⟩
  -- all that matters from here on is the report
  obtain ⟨r, hr⟩ : ∃ r, collect x limit disk folder files = r := ⟨_, rfl⟩
  rw [hfiles] at hlisted hcollect
  rw [hr] at hparts hdelete hlisted hfind hcollect ⊢
  obtain ⟨hsublists, hperm, hlength⟩ := hparts
  intro b facts
  have hb : b = link now folder r := rfl
  have hfacts : facts = r.facts := rfl
  clear_value facts b
  subst hfacts hb
  refine ⟨?_, hnodup, hsublists, hperm, hlength, rfl, ?_, rest, hdelete, hlisted, hfind, ?_⟩
  · rw [build_of_files hfound, hr, assemble_eq]
  · intro file hfile
    obtain ⟨bytes, hcontent, hbytes⟩ := hthere file hfile
    refine ⟨bytes, hbytes, ?_⟩
    subst hr
    exact fate hnodup hfile hcontent
  · intro now'
    have hkeys : r.facts.keys = r.read.map (·.1) := by
      rw [← hr]
      exact Report.keys_gather (nodup_collect hnodup)
    obtain ⟨hsame, hstore, hstats⟩ := link_read now now' folder r
    rw [build_of_files hlisted, hcollect, assemble_eq, show r.read.facts = r.facts from hsame,
      hkeys, List.length_map]
    exact ⟨rfl, hsame, hstore, hstats⟩

/-- A project with a file that is too large, one whose grammar is missing, and two that are
    read. -/
theorem failures_isolated_two_read :
    let x := sourceExtractor ["tree_sitter_typescript"]
    let content (text : String) : Entry := .file (Text.Utf8.encode text)
    let disk : Files := ((((((({} : Files).put ["p"] .folder).put ["p", "b.ts"] (content "f()")).put
      ["p", "sub"] .folder).put ["p", "sub", "d.mjs"] (content "g()")).put
      ["p", "large.js"] (content "// a comment")).put ["p", "a.js"] (content "f()")).put
      ["p", "notes.txt"] (content "none")
    x.IsLocal ∧ disk.Proper ∧
    Discovery.files {} disk "/p" = .ok ["a.js", "b.ts", "large.js", "sub/d.mjs"] ∧
    ∃ b, build x 5 disk "t0" "/p" = .ok b ∧
      b.stats.skipped = ["large.js"] ∧ b.stats.errors.keys = ["b.ts"] ∧ b.stats.fileCount = 4 ∧
      ∃ rest, ["large.js", "b.ts"].foldlM (fun d file => d.delete (Path.under "/p" file)) disk
          = .ok rest ∧
        Discovery.files {} rest "/p" = .ok ["a.js", "sub/d.mjs"] ∧
        ∃ b', build x 5 rest "t1" "/p" = .ok b' ∧
          b'.store = { b.store with metadata := ⟨.str "t1", .str "t1", .str "/p"⟩ } := by
  intro x content disk
  have hx : x.IsLocal := isLocal_sourceExtractor _
  have hnames : ∀ n ∈ ["p", "b.ts", "sub", "d.mjs", "large.js", "a.js", "notes.txt"],
      Files.IsName n := by
    unfold Files.IsName Path.IsPart
    decide
  have hdisk : disk.Proper := by
    have h₁ := Files.proper_empty.put (d := []) (hnames "p" (by decide)) rfl (by decide) .folder
    have h₂ := h₁.put (d := ["p"]) (hnames "b.ts" (by decide)) rfl (by decide +kernel) (content "f()")
    have h₃ := h₂.put (d := ["p"]) (hnames "sub" (by decide)) rfl (by decide +kernel) .folder
    have h₄ := h₃.put (d := ["p", "sub"]) (hnames "d.mjs" (by decide)) rfl (by decide +kernel)
      (content "g()")
    have h₅ := h₄.put (d := ["p"]) (hnames "large.js" (by decide)) rfl (by decide +kernel)
      (content "// a comment")
    have h₆ := h₅.put (d := ["p"]) (hnames "a.js" (by decide)) rfl (by decide +kernel) (content "f()")
    exact h₆.put (d := ["p"]) (hnames "notes.txt" (by decide)) rfl (by decide +kernel)
      (content "none")
  have hfiles : Discovery.files {} disk "/p" = .ok ["a.js", "b.ts", "large.js", "sub/d.mjs"] := by
    rw [Discovery.files_eq_found hdisk.toSound.access]
    congr 1
    apply Discovery.found_eq hdisk (by decide +kernel)
    have hlisted : ((disk.listed ["p"]).filter fun e => ({} : Discovery.Filter).wants e.1 e.2).map
        (fun e => Path.joinParts e.1) = ["b.ts", "sub/d.mjs", "large.js", "a.js"] := by
      decide +kernel
    have hfolder : disk.folderAt "/p" = .ok (some ["p"]) :=
      Files.folderAt_eq_some.mpr ⟨by decide +kernel, by decide +kernel⟩
    intro file
    unfold Discovery.found
    rw [hfolder]
    dsimp only
    rw [(List.mergeSort_perm _ _).mem_iff, hlisted]
    exact (show List.Perm _ _ by decide).mem_iff
  obtain ⟨files, hfound, hbuild, _, _, _, hcount, _, _, rest, hdelete, hrest, _, hlater⟩ :=
    failures_isolated x hx 5 disk hdisk "t0" "/p"
  obtain rfl : ["a.js", "b.ts", "large.js", "sub/d.mjs"] = files :=
    Except.ok.inj (hfiles.symm.trans hfound)
  have hskipped : (collect x 5 disk "/p" ["a.js", "b.ts", "large.js", "sub/d.mjs"]).skipped
      = ["large.js"] := by decide +kernel
  have herrors : (collect x 5 disk "/p" ["a.js", "b.ts", "large.js", "sub/d.mjs"]).errors.keys
      = ["b.ts"] := by decide +kernel
  have hkeys : (collect x 5 disk "/p" ["a.js", "b.ts", "large.js", "sub/d.mjs"]).facts.keys
      = ["a.js", "sub/d.mjs"] := by decide +kernel
  have hfit : Resolver.isFit
      ⟨(collect x 5 disk "/p" ["a.js", "b.ts", "large.js", "sub/d.mjs"]).facts, {}⟩ = true := by
    decide +kernel
  obtain ⟨hrebuild, _, hstore, _⟩ := hlater "t1"
  refine ⟨hx, hdisk, hfiles, _, hbuild.trans (if_pos hfit), hskipped, herrors, hcount, rest, ?_, ?_,
    _, hrebuild.trans (if_pos hfit), hstore⟩
  · have hdelete : (List.append
        (collect x 5 disk "/p" ["a.js", "b.ts", "large.js", "sub/d.mjs"]).skipped
        (collect x 5 disk "/p" ["a.js", "b.ts", "large.js", "sub/d.mjs"]).errors.keys).foldlM
        (fun d file => d.delete (Path.under "/p" file)) disk = .ok rest := hdelete
    rw [hskipped, herrors] at hdelete
    exact hdelete
  · exact hrest.trans (congrArg Except.ok hkeys)

end Build

end SymbolGraph
