import SymbolGraph.Proofs.BuiltDocuments
import SymbolGraph.Proofs.Calls
import SymbolGraph.Proofs.DocumentGrammar
import SymbolGraph.Proofs.ProjectFiles

/-! # Analyzing with any entry in the cache

    The entry of a project may be missing, be unreadable, or hold any bytes. It counts if it can
    be read, its bytes spell a text, the text is a document, and the document describes a graph
    (`Cache.Decodes`); everything else is as if there were no entry. So as long as the entry can
    be written, analyzing a project has two ways to go (`Session.analyze_recovers`):

    * the entry counts and is wanted, and its graph is taken, whatever the project's files are;
    * the graph of the project is built from its files and written, and the entry counts from
      now on.

    Nothing that is wrong with the entry, or with the contents of a file, stands in the way. But
    the second way needs to know the files of the project. If the system refuses to look at one
    that is listed, this is not caught, and analyzing fails (`Session.analyze_of_closed_folder`).

    Either way the entry holds the graph of the session, and what a later call finds depends
    on the bytes of the entry alone (`Cache.offers_congr`).
-/

namespace SymbolGraph

/-! ## Entries that count -/

/-- A text describes a graph if it is that of a document which does. -/
theorem Store.ofText_eq_ok {text : String} {g : Store} :
    ofText text = .ok g ↔ ∃ doc, Json.parse text = .ok doc ∧ ofDocument doc = .ok g := by
  unfold ofText
  cases hparse : Json.parse text with
  | error e =>
    constructor
    · intro h
      cases e <;> cases h
    · rintro ⟨doc, hdoc, _⟩
      cases hdoc
  | ok doc =>
    dsimp only
    constructor
    · intro h
      cases hread : ofDocument doc with
      | error fault =>
        rw [hread] at h
        cases h
      | ok s =>
        rw [hread] at h
        cases h
        exact ⟨doc, rfl, hread⟩
    · rintro ⟨doc', hdoc, hread⟩
      cases hdoc
      rw [hread]

namespace Cache

/-- The bytes of a project's entry spell the document of a graph. -/
def Decodes (c : Cache) (f : Files) (project : String) (g : Store) : Prop :=
  ∃ text doc, f.readText (c.entryPath project) = .ok text ∧ Json.parse text = .ok doc ∧
    Store.ofDocument doc = .ok g

/-- The entry of a project can be written: its folder is there or can be made, and no folder is
    in its place. -/
def CanWrite (c : Cache) (f : Files) (project : String) : Prop :=
  ∃ f', f.makeFolder c.folder = .ok f' ∧ ∀ bytes, ∃ g, f'.write (c.entryPath project) bytes = .ok g

section
variable {c : Cache} {f : Files} {project : String} {g : Store}

/-- The cache offers the graph that the entry holds, if it holds one. -/
theorem offers_eq_some_iff : c.offers f project = some g ↔ c.Decodes f project g := by
  constructor
  · intro h
    have hlookup : c.lookup f project = .ok (some g) := by
      unfold offers at h
      split at h
      · rename_i found hfound
        rw [hfound, h]
      · cases h
    obtain ⟨text, htext, hof⟩ := readText_of_lookup hlookup
    obtain ⟨doc, hparse, hdoc⟩ := Store.ofText_eq_ok.mp hof
    exact ⟨text, doc, htext, hparse, hdoc⟩
  · rintro ⟨text, doc, htext, hparse, hdoc⟩
    unfold offers
    rw [lookup_of_readText htext, Store.ofText_eq_ok.mpr ⟨doc, hparse, hdoc⟩]

/-- What the cache offers depends on the bytes of the entry alone. -/
theorem offers_congr {f f' : Files}
    (h : f'.read (c.entryPath project) = f.read (c.entryPath project)) :
    c.offers f' project = c.offers f project := by
  have htext : f'.readText (c.entryPath project) = f.readText (c.entryPath project) := by
    unfold Files.readText
    rw [h]
  apply Option.ext
  intro g
  rw [offers_eq_some_iff, offers_eq_some_iff]
  unfold Decodes
  rw [htext]

end

end Cache

/-! ## Writing an entry -/

namespace Files

variable {f g : Files} {path : String} {bytes : List UInt8}

/-- What is written is found. -/
theorem find_of_write (h : f.write path bytes = .ok g) : g.find path = .ok (.file bytes) := by
  obtain ⟨p, hplace, hfree, _, rfl⟩ := write_eq_ok.mp h
  have hp : p ≠ [] := by
    rintro rfl
    exact hfree rfl
  have hat : (f.put p (.file bytes)).at? p = some (.file bytes) := by
    rw [at?_put f hp, if_pos rfl]
  exact find_eq_ok.mpr ⟨p, (kept_put hp hfree _).place hplace, hat⟩

/-- Writing changes nothing in what the system lets one do. -/
theorem access_of_write (h : f.write path bytes = .ok g) : g.access = f.access := by
  obtain ⟨_, _, _, _, rfl⟩ := write_eq_ok.mp h
  rfl

/-- A file that can be read has the bytes that are stored. -/
theorem read_of_find (h : f.find path = .ok (.file bytes))
    (hread : ∃ content, f.read path = .ok content) : f.read path = .ok bytes := by
  obtain ⟨content, hcontent⟩ := hread
  obtain ⟨p, hplace, hat, _⟩ := read_eq_ok.mp hcontent
  rw [find_eq_ok.mpr ⟨p, hplace, hat⟩] at h
  cases h
  exact hcontent

/-- A file can be read where nothing is refused. -/
theorem read_of_access (hf : f.access = {}) (h : f.find path = .ok (.file bytes)) :
    f.read path = .ok bytes := by
  obtain ⟨p, hplace, hat⟩ := find_eq_ok.mp h
  exact read_eq_ok.mpr ⟨p, hplace, hat, refuses_of_access hf _ _⟩

end Files

namespace Cache

section
variable {c : Cache} {f g : Files} {project : String} {s : Store}

theorem CanWrite.writeEntry (h : c.CanWrite f project) (s : Store) :
    ∃ g, c.writeEntry f project s = .ok g := by
  obtain ⟨f', hmake, hwrite⟩ := h
  obtain ⟨g, hg⟩ := hwrite (entryBytes s)
  refine ⟨g, ?_⟩
  unfold Cache.writeEntry
  rw [hmake, Except.bind]
  exact hg

/-- If an entry can be written, the system lets one look whether it is there. -/
theorem CanWrite.exists_has (h : c.CanWrite f project) :
    ∃ there, f.has (c.entryPath project) = .ok there := by
  obtain ⟨f', hmake, hwrite⟩ := h
  obtain ⟨g, hg⟩ := hwrite []
  obtain ⟨p, hplace, _⟩ := Files.write_eq_ok.mp hg
  have hkept := (Files.grown_of_makeFrom (Files.makeFolder_eq_ok.mp hmake)).kept
  cases hhas : f.has (c.entryPath project) with
  | ok there => exact ⟨there, rfl⟩
  | error fault =>
    -- what is out of reach stays so when the folder is made, and then it cannot be written
    obtain ⟨why, _, hrefused⟩ := Files.has_eq_error.mp hhas
    rw [Files.place_eq_ok, hkept.start, hkept.follow_refused hrefused] at hplace
    cases hplace

/-- An entry can be written into a folder that is there, unless a folder is in its place or the
    system refuses. -/
theorem canWrite_of_place {d : Place} (hplace : f.place c.folder = .ok d)
    (hd : f.at? d = some .folder) (hfree : f.at? (d ++ [entryName project]) ≠ some .folder)
    (hopen : ∀ act, f.access.refuses act (d ++ [entryName project]) = none) :
    c.CanWrite f project := by
  refine ⟨f, Files.makeFolder_of_place hplace hd, ?_⟩
  intro bytes
  have hentry := (Files.place_under (isName_entryName project)).mpr
    ⟨d, hplace, hd, hopen .look, rfl⟩
  exact ⟨_, Files.write_eq_ok.mpr ⟨_, hentry, hfree, hopen .write, rfl⟩⟩

/-- An entry that is written can be read where nothing is refused. -/
theorem read_of_writeEntry (hf : f.access = {}) (h : c.writeEntry f project s = .ok g) :
    g.read (c.entryPath project) = .ok (entryBytes s) := by
  obtain ⟨f', hmake, hwrite⟩ := exists_of_writeEntry h
  have hgrown := Files.grown_of_makeFrom (Files.makeFolder_eq_ok.mp hmake)
  have haccess : g.access = {} := ((Files.access_of_write hwrite).trans hgrown.access).trans hf
  exact Files.read_of_access haccess (Files.find_of_write hwrite)

/-- An entry that is written, and can be read, holds the graph that is read from its document. -/
theorem offers_of_writeEntry (hs : Legible s) (h : c.writeEntry f project s = .ok g)
    (hread : ∃ bytes, g.read (c.entryPath project) = .ok bytes) :
    c.offers g project = some s.reread := by
  obtain ⟨f', _, hwrite⟩ := exists_of_writeEntry h
  have htext := Files.readText_of_read (Json.allPlain_pretty s.toDocument)
    (Files.read_of_find (Files.find_of_write hwrite) hread)
  rw [offers_eq_some_iff]
  exact ⟨_, _, htext, hs.parses, Store.ofDocument_toDocument hs.filable⟩

end

end Cache

/-! ## Calls that find a graph -/

namespace Session

/-- Analyzing takes the saved graph: it is wanted, and the entry holds one. -/
def Takes (t : Tools) (f : Files) (force : Bool) (project : String) : Prop :=
  force = false ∧ ∃ g, t.cache.Decodes f project g

section
variable {t : Tools} {w : Workspace} {path p : String} {g : Store}

/-- The graph that the entry holds is found if it is wanted. -/
theorem consult_of_offers {f : Files} (h : t.cache.offers f p = some g) :
    consult t f false p = .ok (some g) := by
  obtain ⟨text, _, htext, _⟩ := Cache.offers_eq_some_iff.mp h
  rw [consult_of_has (Files.has_of_readText htext), if_neg Bool.false_ne_true, h]

/-- A saved graph is found exactly if it is taken. -/
theorem exists_consult_iff {f : Files} {force : Bool} :
    (∃ g, consult t f force p = .ok (some g)) ↔ Takes t f force p := by
  constructor
  · rintro ⟨g, h⟩
    refine ⟨?_, g, Cache.offers_eq_some_iff.mp (offers_of_consult h)⟩
    cases force with
    | true => cases h
    | false => rfl
  · rintro ⟨rfl, g, h⟩
    exact ⟨g, consult_of_offers (Cache.offers_eq_some_iff.mpr h)⟩

/-- If the entry can be written, looking for a saved graph does not fail. -/
theorem consult_ne_error {f : Files} (h : t.cache.CanWrite f p) (force : Bool) (e : Failure) :
    consult t f force p ≠ .error e := by
  obtain ⟨there, hthere⟩ := h.exists_has
  rw [consult_of_has hthere]
  nofun

theorem analyze_of_offers (s : Session) (hkey : w.files.key path = p)
    (h : t.cache.offers w.files p = some g) :
    ∃ w', (analyze t s path false).run w = (.ok (s.become g p, .cached g.summary), w') ∧
      w'.files = w.files := by
  subst hkey
  have hfound := consult_of_offers h
  rcases analyze_cases t s path false w with ⟨g', w', hg', hrun, hfiles⟩ |
    ⟨_, _, _, hnone, _⟩ | ⟨e, _, herror | ⟨hnone, _⟩, _⟩
  · rw [hfound] at hg'
    cases hg'
    exact ⟨w', hrun, hfiles⟩
  · rw [hfound] at hnone
    cases hnone
  · rw [hfound] at herror
    cases herror
  · rw [hfound] at hnone
    cases hnone

theorem loadCached_of_offers (s : Session) (hkey : w.files.key path = p)
    (h : t.cache.offers w.files p = some g) :
    ∃ w', (loadCached t s path).run w = (.ok (s.become g p, .loaded g.summary), w') ∧
      w'.files = w.files := by
  subst hkey
  rcases loadCached_cases t s path w with ⟨g', w', hg', hrun, hfiles⟩ | ⟨hnone, _⟩
  · rw [h] at hg'
    cases hg'
    exact ⟨w', hrun, hfiles⟩
  · rw [h] at hnone
    cases hnone

/-- Every session that works with a cache finds what its entry holds. -/
theorem finds_entry {f : Files} (h : t.cache.offers f p = some g) {t₂ : Tools} (s₂ : Session)
    {path₂ : String} {w₂ : Workspace} (hcache : t₂.cache = t.cache) (hkey : w₂.files.key path₂ = p)
    (hread : w₂.files.read (t.cache.entryPath p) = f.read (t.cache.entryPath p)) :
    (∃ w₃, (loadCached t₂ s₂ path₂).run w₂ = (.ok (s₂.become g p, .loaded g.summary), w₃)) ∧
      ∃ w₃, (analyze t₂ s₂ path₂ false).run w₂
        = (.ok (s₂.become g p, .cached g.summary), w₃) := by
  have hoffers : t₂.cache.offers w₂.files p = some g := by
    rw [hcache, Cache.offers_congr hread, h]
  obtain ⟨w₃, hload, _⟩ := loadCached_of_offers s₂ hkey hoffers
  obtain ⟨w₄, hanalyze, _⟩ := analyze_of_offers s₂ hkey hoffers
  exact ⟨⟨w₃, hload⟩, w₄, hanalyze⟩

/-! ## Analyzing -/

/-- A project whose files are known is built. -/
theorem exists_built (hx : t.extractor.IsFaithful) (s : Session) {files : List String}
    (h : Discovery.files {} w.files p = .ok files) : ∃ g, s.built t w p = .ok g := by
  unfold built Build.saved
  rw [Build.build_of_faithful (x := (s.options t).extractor) hx _ h]
  exact ⟨_, rfl⟩

/-- A project whose files are not known is not built. -/
theorem built_of_fault (s : Session) {fault : Files.Fault}
    (h : Discovery.files {} w.files p = .error fault) : s.built t w p = .error (.file fault) := by
  unfold built Build.saved
  rw [Build.build_of_fault h]
  rfl

/-- If the files of a project are not known and no saved graph is taken, analyzing fails, and no
    file changes. -/
theorem analyze_of_fault (s : Session) {force : Bool}
    (hwrite : t.cache.CanWrite w.files (w.files.key path))
    (htakes : ¬ Takes t w.files force (w.files.key path)) {fault : Files.Fault}
    (h : Discovery.files {} w.files (w.files.key path) = .error fault) :
    ∃ w', (analyze t s path force).run w = (.error (.file fault), w') ∧ w'.files = w.files := by
  have hbuilt := built_of_fault (t := t) s h
  rcases analyze_cases t s path force w with ⟨g, _, hfound, _⟩ | ⟨g, _, _, _, hstored, _⟩ |
    ⟨e, w', herror | ⟨_, hstored⟩, hrun, hfiles⟩
  · exact absurd (exists_consult_iff.mp ⟨g, hfound⟩) htakes
  · rw [(stored_eq_ok.mp hstored).1] at hbuilt
    cases hbuilt
  · exact absurd herror (consult_ne_error hwrite force e)
  · unfold stored at hstored
    rw [hbuilt] at hstored
    cases hstored
    refine ⟨w', hrun, ?_⟩
    rcases hfiles with hfiles | ⟨⟨g, hg⟩, _⟩
    · exact hfiles
    · rw [hbuilt] at hg
      cases hg

end

/-- What there is after a project was analyzed: the session has the graph `g`, which was taken
    or built as `a` says, and it can be found again. -/
structure Recovers (t : Tools) (s : Session) (path : String) (force : Bool) (w : Workspace)
    (g : Store) (a : Analyzed) (w' : Workspace) : Prop where
  /-- The saved graph is taken exactly if it is wanted and the entry holds one. -/
  cached_iff : a.isCached = true ↔ Takes t w.files force (w.files.key path)
  /-- Then no file changes, and the outcome would be the same with any other files that have the
      same entry. -/
  taken : a.isCached = true → t.cache.Decodes w.files (w.files.key path) g ∧ w'.files = w.files ∧
    ∀ v : Workspace, v.files.key path = w.files.key path →
      v.files.read (t.cache.entryPath (w.files.key path))
        = w.files.read (t.cache.entryPath (w.files.key path)) →
      ∃ v', (analyze t s path force).run v = (.ok (s.become g (w.files.key path), a), v') ∧
        v'.files = v.files
  /-- Otherwise the graph is built from the files as they are, and written. -/
  built : a.isCached = false → s.stored t w (w.files.key path) = .ok (g, w'.files)
  /-- If the entry can be read, any session that works with the cache finds the same graph in it,
      whatever has become of the other files. -/
  later : (∃ bytes, w'.files.read (t.cache.entryPath (w.files.key path)) = .ok bytes) →
    ∀ (t₂ : Tools) (s₂ : Session) (path₂ : String) (w₂ : Workspace), t₂.cache = t.cache →
      w₂.files.key path₂ = w.files.key path →
      w₂.files.read (t.cache.entryPath (w.files.key path))
        = w'.files.read (t.cache.entryPath (w.files.key path)) →
      ∃ g₂, g₂.SameGraph g ∧
        (∃ w₃, (loadCached t₂ s₂ path₂).run w₂
          = (.ok (s₂.become g₂ (w.files.key path), .loaded g₂.summary), w₃)) ∧
        ∃ w₃, (analyze t₂ s₂ path₂ false).run w₂
          = (.ok (s₂.become g₂ (w.files.key path), .cached g₂.summary), w₃)

section
variable {t : Tools} {w w' : Workspace} {path : String} {g : Store}

/-- The saved graph is taken. -/
theorem recovers_of_offers (s : Session) (h : t.cache.offers w.files (w.files.key path) = some g)
    (hfiles : w'.files = w.files) :
    Recovers t s path false w g (.cached g.summary) w' where
  cached_iff := ⟨fun _ => ⟨rfl, g, Cache.offers_eq_some_iff.mp h⟩, fun _ => rfl⟩
  taken := by
    intro _
    refine ⟨Cache.offers_eq_some_iff.mp h, hfiles, ?_⟩
    intro v hkey hread
    exact analyze_of_offers s hkey ((Cache.offers_congr hread).trans h)
  built := nofun
  later := by
    intro _ t₂ s₂ path₂ w₂ hcache hkey hread
    rw [hfiles] at hread
    exact ⟨g, Store.sameGraph_refl g, finds_entry h s₂ hcache hkey hread⟩

/-- The graph is built and written, and the entry holds what is read from its document. -/
theorem recovers_of_stored (hx : t.extractor.IsFaithful) (s : Session) {force : Bool}
    (htakes : ¬ Takes t w.files force (w.files.key path))
    (h : s.stored t w (w.files.key path) = .ok (g, w'.files)) (stats : Build.Stats) :
    Recovers t s path force w g (.built stats) w' where
  cached_iff := ⟨nofun, fun ht => absurd ht htakes⟩
  taken := nofun
  built _ := h
  later := by
    intro hreadable t₂ s₂ path₂ w₂ hcache hkey hread
    obtain ⟨hbuilt, hentry⟩ := stored_eq_ok.mp h
    have hlegible : Cache.Legible g := Build.legible_saved hx hbuilt
    have hoffers := Cache.offers_of_writeEntry hlegible hentry hreadable
    exact ⟨g.reread, hlegible.coherent.sameGraph_reread,
      finds_entry hoffers s₂ hcache hkey hread⟩

end

/-- **Analyzing recovers.** Whatever the entry of a project holds, whether or not there is one
    and whether or not it can be read, analyzing the project takes the saved graph or builds and
    saves a new one, and the graph can be found again (`Session.Recovers`). For that the entry
    must be one that can be written, and the system must let one find the project's files unless
    the saved graph is taken. If it does not, analyzing fails for this reason alone, and no file
    changes. -/
theorem analyze_recovers (t : Tools) (hx : t.extractor.IsFaithful) (s : Session) (path : String)
    (force : Bool) (w : Workspace) (hwrite : t.cache.CanWrite w.files (w.files.key path)) :
    let p := w.files.key path
    (Takes t w.files force p ∨ (∃ files, Discovery.files {} w.files p = .ok files) →
      ∃ g a w', (analyze t s path force).run w = (.ok (s.become g p, a), w') ∧
        Recovers t s path force w g a w') ∧
    (¬ Takes t w.files force p → ∀ fault, Discovery.files {} w.files p = .error fault →
      ∃ w', (analyze t s path force).run w = (.error (.file fault), w') ∧ w'.files = w.files) := by
  intro p
  refine ⟨?_, fun htakes _ hfault => analyze_of_fault s hwrite htakes hfault⟩
  intro hgiven
  have htakes_of_none : consult t w.files force p = .ok none → ¬ Takes t w.files force p := by
    intro hnone htakes
    obtain ⟨g, hfound⟩ := exists_consult_iff.mpr htakes
    rw [hnone] at hfound
    cases hfound
  rcases analyze_cases t s path force w with ⟨g, w', hfound, hrun, hfiles⟩ |
    ⟨g, stats, w', hnone, hstored, hrun⟩ | ⟨e, w', herror | ⟨hnone, hstored⟩, _⟩
  · -- the entry holds a graph, and it is taken
    obtain ⟨rfl, _⟩ := exists_consult_iff.mp ⟨g, hfound⟩
    exact ⟨g, _, w', hrun, recovers_of_offers s (offers_of_consult hfound) hfiles⟩
  · exact ⟨g, _, w', hrun, recovers_of_stored hx s (htakes_of_none hnone) hstored stats⟩
  · exact absurd herror (consult_ne_error hwrite force e)
  · -- the files are known, so a graph is built, and it can be written
    obtain ⟨files, hknown⟩ := hgiven.resolve_left (htakes_of_none hnone)
    obtain ⟨g, hbuilt⟩ := exists_built hx s hknown
    obtain ⟨f, hentry⟩ := hwrite.writeEntry g
    rw [stored_eq_ok.mpr ⟨hbuilt, hentry⟩] at hstored
    cases hstored

/-- An entry with a byte that spells no character: the project is built, and another session,
    which would read no file at all, loads what was built. -/
theorem analyze_recovers_stray_byte :
    let t : Tools := { settings := ⟨"/home", "/c", 1000⟩ }
    let t₂ : Tools := { settings := ⟨"/other", "/c", 0⟩ }
    let source := Text.Utf8.encode "function f() {}"
    let w : Workspace := { files := { entries := Table.ofList [(["c"], .folder),
      (["c", Cache.entryName "/p"], .file [0xff]), (["p"], .folder),
      (["p", "a.js"], .file source)] }, now := "t1" }
    t.extractor.IsFaithful ∧ t.cache.CanWrite w.files "/p" ∧
    (¬ Takes t w.files false "/p") ∧ (∃ files, Discovery.files {} w.files "/p" = .ok files) ∧
    ∃ g a w', ({} : Session).built t w "/p" = .ok g ∧
      (analyze t {} "/p" false).run w = (.ok (({} : Session).become g "/p", a), w') ∧
      a.isCached = false ∧
      ∃ g₂ w₃, g₂.SameGraph g ∧ (loadCached t₂ {} "/p").run w'
        = (.ok (({} : Session).become g₂ "/p", .loaded g₂.summary), w₃) := by
  intro t t₂ source w
  have hx : t.extractor.IsFaithful := Build.isFaithful_sourceExtractor []
  have hkey : ∀ f : Files, f.key "/p" = "/p" := by
    intro f
    rw [Files.key_of_isAbsolute (by decide)]
    decide
  have hwrite : t.cache.CanWrite w.files "/p" :=
    Cache.canWrite_of_place (d := ["c"]) (by decide +kernel) (by decide +kernel)
      (by decide +kernel) fun _ => rfl
  have hcorrupted : ¬ ∃ saved, t.cache.Decodes w.files "/p" saved := by
    have hread : w.files.read (t.cache.entryPath "/p") = .ok [0xff] :=
      Files.read_under rfl (Cache.isName_entryName "/p") (d := ["c"]) (by decide +kernel)
        (by decide +kernel) (by decide +kernel)
    rintro ⟨saved, text, _, htext, _⟩
    unfold Files.readText at htext
    rw [hread] at htext
    simp only [Except.mapError, bind, Except.bind, Text.Utf8.decode_stray_byte] at htext
    cases htext
  have htakes : ¬ Takes t w.files false "/p" := fun h => hcorrupted h.2
  have hknown : ∃ files, Discovery.files {} w.files "/p" = .ok files :=
    ⟨_, Discovery.files_eq_found rfl {} "/p"⟩
  have hrecovers := analyze_recovers t hx {} "/p" false w
  rw [hkey w.files] at hrecovers
  obtain ⟨g, a, w', hrun, h⟩ := (hrecovers hwrite).1 (.inr hknown)
  have ha : a.isCached = false := by
    rw [Bool.eq_false_iff]
    intro ha
    have htaken := h.cached_iff.mp ha
    rw [hkey w.files] at htaken
    exact htakes htaken
  have hstored := h.built ha
  have hlater := h.later
  rw [hkey w.files] at hstored hlater
  obtain ⟨hbuilt, hentry⟩ := stored_eq_ok.mp hstored
  obtain ⟨g₂, hsame, ⟨w₃, hload⟩, _⟩ := hlater ⟨_, Cache.read_of_writeEntry rfl hentry⟩ t₂ {} "/p"
    w' rfl (hkey w'.files) rfl
  exact ⟨hx, hwrite, htakes, hknown, g, a, w', hbuilt, hrun, ha, g₂, w₃, hsame, hload⟩

/-- Not every project can be analyzed. A folder with a source file may be listed, and the file in
    it be out of reach; then the files of the project are not known, and analyzing fails. -/
theorem analyze_of_closed_folder :
    let t : Tools := { settings := ⟨"/home", "/c", 1000⟩ }
    let access : Files.Access :=
      { refuses _ place := if ["p", "sub"].isPrefixOf place.dropLast then some .denied else none }
    let w : Workspace := { files := { entries := Table.ofList [(["c"], .folder), (["p"], .folder),
      (["p", "sub"], .folder), (["p", "sub", "a.js"], .file [])], access := access } }
    t.cache.CanWrite w.files "/p" ∧
    (∀ force, ∃ w', (analyze t {} "/p" force).run w
      = (.error (.file ⟨.refused .denied, "/p/sub/a.js"⟩), w')) ∧
    ¬ ∀ (s : Session) (path : String) (force : Bool), t.cache.CanWrite w.files (w.files.key path) →
      ∃ r w', (analyze t s path force).run w = (.ok r, w') := by
  intro t access w
  have hkey : w.files.key "/p" = "/p" := by
    rw [Files.key_of_isAbsolute (by decide)]
    decide
  have hfolder : w.files.place t.cache.folder = .ok ["c"] := by decide +kernel
  have hfree : w.files.at? (["c"] ++ [Cache.entryName "/p"]) = none := by decide +kernel
  have hwrite : t.cache.CanWrite w.files "/p" :=
    Cache.canWrite_of_place hfolder (by decide +kernel) (by rw [hfree]; nofun) fun _ => rfl
  have hfault : Discovery.files {} w.files "/p"
      = .error ⟨.refused .denied, "/p/sub/a.js"⟩ := by decide +kernel
  have htakes : ∀ force, ¬ Takes t w.files force "/p" := by
    -- there is no entry
    rintro force ⟨_, g, text, _, htext, _⟩
    obtain ⟨bytes, hread⟩ := Files.exists_read_of_readText htext
    obtain ⟨p, hplace, hat, _⟩ := Files.read_eq_ok.mp hread
    obtain ⟨d, hd, _, _, rfl⟩ := (Files.place_under (Cache.isName_entryName "/p")).mp hplace
    have hd : w.files.place t.cache.folder = .ok d := hd
    rw [hfolder] at hd
    cases hd
    rw [hfree] at hat
    cases hat
  have hfails : ∀ force, ∃ w', (analyze t {} "/p" force).run w
      = (.error (.file ⟨.refused .denied, "/p/sub/a.js"⟩), w') := by
    intro force
    rw [← hkey] at hwrite hfault
    obtain ⟨w', hrun, _⟩ := analyze_of_fault {} hwrite (by rw [hkey]; exact htakes force) hfault
    exact ⟨w', hrun⟩
  refine ⟨hwrite, hfails, ?_⟩
  intro hall
  obtain ⟨w', hrun⟩ := hfails true
  obtain ⟨r, w'', hok⟩ := hall {} "/p" true (by rw [hkey]; exact hwrite)
  rw [hrun] at hok
  cases hok

end Session

end SymbolGraph
