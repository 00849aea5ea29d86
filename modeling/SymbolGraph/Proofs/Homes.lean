import SymbolGraph.Command.Run
import SymbolGraph.Proofs.Calls
import SymbolGraph.Proofs.JsonText
import SymbolGraph.Proofs.StraightPaths

/-! # What is kept at home

    The program keeps two things in its home folder: the saved graphs, in a folder of their
    own, and the file with the current project. Each is changed by operations of its own, and
    what is said here of the one is said with the other left as it is.

    * `Tools.Housed` says what the two hold: the entries of the folder are graphs of projects
      that can be read, and the file keeps the current project.
    * The operations keep that, and change the current project and the entries as they
      should: `Housed.set`, `Housed.writeEntry`, `Housed.delete` and `Housed.deleteAll`.
    * What happens elsewhere makes no difference (`Tools.Spares`).
-/

namespace SymbolGraph

/-! ## The file of the current project -/

namespace CurrentProject

variable {c : CurrentProject} {f : Files}

/-- The bytes of the file for a project. -/
def bytes (project : Option String) : List UInt8 :=
  Text.Utf8.encode (document project).pretty

theorem ofText_document (project : Option String) :
    ofText (document project).pretty = .ok (Json.optText project) := by
  have hsimple : (document project).isSimple = true := by cases project <;> rfl
  unfold ofText
  rw [Json.parse_pretty hsimple]
  rfl

theorem lookup_of_absent (hf : f.Sound) (hfile : Path.IsStraight c.file)
    (h : f.at? (f.spot c.file) = none) : c.lookup f = .ok .null := by
  unfold lookup
  rw [Files.has_straight hf hfile, h]
  rfl

theorem lookup_of_bytes (hf : f.Sound) (hfile : Path.IsStraight c.file) {project : Option String}
    (h : f.at? (f.spot c.file) = some (.file (bytes project))) :
    c.lookup f = .ok (Json.optText project) := by
  have htext : f.readText c.file = .ok (document project).pretty :=
    Files.readText_of_read (Json.allPlain_pretty _) (Files.read_straight hf hfile h)
  unfold lookup
  rw [Files.has_straight hf hfile, h, htext]
  exact ofText_document project

/-- Setting the project writes the file, once its folder is there. -/
theorem set_gives {f' g : Files} {w : Workspace} {project : Option String}
    (hmake : w.files.makeFolder (Path.parent c.file) = .ok f')
    (hwrite : f'.write c.file (bytes project) = .ok g) :
    (c.set project).Gives w () fun f => f = g := by
  have hfolder : (Work.change (·.makeFolder (Path.parent c.file))).run w
      = (.ok (), { w with files := f' }) := Work.run_change hmake
  have hrun : (Work.writeText c.file (document project).pretty).run { w with files := f' }
      = (.ok (), { w with files := g }) := Work.run_change hwrite
  refine ⟨{ w with files := g }, ?_, rfl, rfl⟩
  unfold set
  rw [Work.run_bind hfolder, hrun]

end CurrentProject

/-! ## The home folder -/

namespace Tools

/-- The place of the home folder. -/
def home (t : Tools) (f : Files) : Place :=
  f.spot t.settings.base

/-- The saved graphs are in a folder below the home, and the path of the home does not go
    back: the folders on the way of such a path are made with the home, and they could be in
    the home and have the name of an entry. -/
structure IsHomed (t : Tools) : Prop where
  straight : Path.IsStraight t.settings.base
  cache : t.settings.cache = Path.under t.settings.base "cache"

theorem isName_cache : Files.IsName "cache" := by
  refine ⟨⟨?_, ?_, ?_⟩, ?_⟩ <;> decide

theorem isName_state : Files.IsName "state.json" := by
  refine ⟨⟨?_, ?_, ?_⟩, ?_⟩ <;> decide

theorem home_congr (t : Tools) {f g : Files} (h : g.here = f.here) : t.home g = t.home f :=
  Files.spot_congr h _

theorem spot_state (t : Tools) (f : Files) :
    f.spot (Command.state t).file = t.home f ++ ["state.json"] :=
  Files.spot_under f isName_state

theorem spot_parent_state (t : Tools) (f : Files) :
    f.spot (Path.parent (Command.state t).file) = t.home f :=
  Files.spot_parent_under f isName_state

namespace IsHomed

variable {t : Tools} (h : IsHomed t)
include h

theorem straight_state : Path.IsStraight (Command.state t).file :=
  h.straight.under isName_state

theorem straight_parent_state : Path.IsStraight (Path.parent (Command.state t).file) :=
  Files.isStraight_parent_under h.straight isName_state

theorem straight_cache : Path.IsStraight t.cache.folder := by
  show Path.IsStraight t.settings.cache
  rw [h.cache]
  exact h.straight.under isName_cache

theorem spot_cache (f : Files) : f.spot t.cache.folder = t.home f ++ ["cache"] := by
  show f.spot t.settings.cache = _
  rw [h.cache]
  exact Files.spot_under f isName_cache

theorem straight_entry {n : String} (hn : Files.IsName n) :
    Path.IsStraight (Path.under t.cache.folder n) :=
  h.straight_cache.under hn

theorem spot_entry (f : Files) {n : String} (hn : Files.IsName n) :
    f.spot (Path.under t.cache.folder n) = t.home f ++ ["cache", n] := by
  rw [Files.spot_under f hn, h.spot_cache, List.append_assoc]
  rfl

end IsHomed

/-- The current project and the saved graphs are as before, and so is the place where they
    are kept. -/
structure Spares (t : Tools) (f g : Files) : Prop where
  sound : g.Sound
  home : t.home g = t.home f
  entry : ∀ n, g.at? (t.home f ++ ["cache", n]) = f.at? (t.home f ++ ["cache", n])
  state : g.at? (t.home f ++ ["state.json"]) = f.at? (t.home f ++ ["state.json"])

/-- A file that is written elsewhere. -/
theorem spares_of_write (t : Tools) {f g : Files} (hf : f.Sound) {path : String}
    {bytes : List UInt8} (hpath : ¬ t.home f <+: f.spot path) (h : f.write path bytes = .ok g) :
    t.Spares f g := by
  obtain ⟨hhere, hput⟩ := Files.at?_of_write h
  have hother : ∀ r, g.at? (t.home f ++ r) = f.at? (t.home f ++ r) := by
    intro r
    rw [hput, if_neg]
    intro heq
    exact hpath (heq ▸ List.prefix_append _ _)
  exact ⟨hf.write h, t.home_congr hhere, fun _ => hother _, hother _⟩

/-- The folder of the saved graphs is made, with the folders above it. -/
theorem spares_of_makeFolder {t : Tools} (ht : IsHomed t) {f g : Files} (hf : f.Sound)
    (h : f.makeFolder t.cache.folder = .ok g) : t.Spares f g := by
  obtain ⟨d, hmade⟩ := hf.makeFolder h
  have hother : ∀ r, ¬ r <+: ["cache"] → g.at? (t.home f ++ r) = f.at? (t.home f ++ r) := by
    intro r hr
    rcases Files.at?_of_makeFolder_straight ht.straight_cache h (t.home f ++ r) with
      heq | ⟨hpre, _⟩
    · exact heq
    · rw [ht.spot_cache] at hpre
      exact absurd ((List.prefix_append_right_inj _).mp hpre) hr
  exact ⟨hmade.sound, t.home_congr hmade.here, fun n => hother _ (by simp), hother _ (by simp)⟩

/-! ## What the home holds -/

/-- The entries are saved graphs of some projects that can be read, and the file keeps the
    current project; while there is none, it may be missing. -/
structure Housed (t : Tools) (P : Set String) (f : Files) (current : Option String) : Prop where
  sound : f.Sound
  entry : ∀ n e, f.at? (t.home f ++ ["cache", n]) = some e →
    ∃ p ∈ P, n = Cache.entryName p ∧ ∃ s, Cache.Legible s ∧ e = .file (Cache.entryBytes s)
  state : f.at? (t.home f ++ ["state.json"]) = some (.file (CurrentProject.bytes current)) ∨
    f.at? (t.home f ++ ["state.json"]) = none ∧ current = none

/-- There is an entry of a project. -/
def Stocks (t : Tools) (f : Files) (p : String) : Prop :=
  (f.at? (t.home f ++ ["cache", Cache.entryName p])).isSome = true

theorem Spares.stocks {t : Tools} {f g : Files} (h : t.Spares f g) {p : String} :
    t.Stocks g p ↔ t.Stocks f p := by
  unfold Stocks
  rw [h.home, h.entry]

namespace Housed

variable {t : Tools} {P : Set String} {f g : Files} {current : Option String} {p : String}

/-- A home with nothing in it. -/
theorem of_empty (hf : f.Sound) (h : ∀ r, r ≠ [] → f.at? (t.home f ++ r) = none) :
    Housed t P f none where
  sound := hf
  entry n e he := by
    rw [h _ (by simp)] at he
    cases he
  state := .inr ⟨h _ (by simp), rfl⟩

theorem of_spares (h : Housed t P f current) (hspares : t.Spares f g) : Housed t P g current where
  sound := hspares.sound
  entry n e he := by
    rw [hspares.home, hspares.entry] at he
    exact h.entry n e he
  state := by
    rw [hspares.home, hspares.state]
    exact h.state

/-! ### Looking -/

theorem lookup_state (ht : IsHomed t) (h : Housed t P f current) :
    (Command.state t).lookup f = .ok (Json.optText current) := by
  rcases h.state with hbytes | ⟨habsent, rfl⟩
  · rw [← t.spot_state] at hbytes
    exact CurrentProject.lookup_of_bytes h.sound ht.straight_state hbytes
  · rw [← t.spot_state] at habsent
    exact CurrentProject.lookup_of_absent h.sound ht.straight_state habsent

/-- An entry can be read, whatever project it was saved for. -/
theorem lookup_entry (ht : IsHomed t) (h : Housed t P f current) (hp : t.Stocks f p) :
    ∃ s, t.cache.lookup f p = .ok (some s) := by
  obtain ⟨e, he⟩ := Option.isSome_iff_exists.mp hp
  obtain ⟨_, _, _, s, hs, rfl⟩ := h.entry _ _ he
  have hn := Cache.isName_entryName p
  rw [← ht.spot_entry f hn] at he
  have htext : f.readText (t.cache.entryPath p) = .ok s.toDocument.pretty :=
    Files.readText_of_read (Json.allPlain_pretty _)
      (Files.read_straight h.sound (ht.straight_entry hn) he)
  have hhas : f.has (t.cache.entryPath p) = .ok true := by
    unfold Cache.entryPath
    rw [Files.has_straight h.sound (ht.straight_entry hn), he]
    rfl
  refine ⟨s.reread, ?_⟩
  unfold Cache.lookup
  dsimp only
  rw [hhas, htext]
  dsimp only
  rw [hs.ofText]

theorem stocks_of_offers (ht : IsHomed t) (hf : f.Sound) {s : Store}
    (h : t.cache.offers f p = some s) : t.Stocks f p := by
  have hn := Cache.isName_entryName p
  have hhas := Files.has_straight hf (ht.straight_entry hn)
  unfold Cache.offers Cache.lookup Cache.entryPath at h
  dsimp only at h
  rw [hhas, ht.spot_entry f hn] at h
  unfold Stocks
  -- nothing is offered where nothing is stored
  cases hsome : (f.at? (t.home f ++ ["cache", Cache.entryName p])).isSome with
  | true => rfl
  | false =>
    rw [hsome] at h
    cases h

/-- The home is there if something is in it. -/
theorem folder_of_stocks (hf : f.Sound) (h : t.Stocks f p) :
    f.at? (t.home f) = some .folder :=
  hf.above_append (by simp) h

/-! ### Setting the current project -/

theorem no_folder_state (h : Housed t P f current) :
    f.at? (t.home f ++ ["state.json"]) ≠ some .folder := by
  rcases h.state with hstate | ⟨hstate, _⟩
  · rw [hstate]
    nofun
  · rw [hstate]
    nofun

/-- The project can be set once the home is there, and the saved graphs stay. -/
theorem set (ht : IsHomed t) {w : Workspace} (h : Housed t P w.files current)
    (hhome : w.files.at? (t.home w.files) = some .folder) (project : Option String) :
    ((Command.state t).set project).Gives w () fun g =>
      Housed t P g project ∧ ∀ p, t.Stocks g p ↔ t.Stocks w.files p := by
  -- the home is there, so no folder is made, and the file is all that changes
  have hmake : w.files.makeFolder (Path.parent (Command.state t).file) = .ok w.files := by
    apply Files.makeFolder_straight h.sound ht.straight_parent_state
    rw [t.spot_parent_state]
    exact hhome
  have hwrite : w.files.write (Command.state t).file (CurrentProject.bytes project)
      = .ok (w.files.put (t.home w.files ++ ["state.json"]) (.file (CurrentProject.bytes project))) :=
    Files.write_under h.sound.access isName_state
      (Files.place_straight h.sound ht.straight hhome) hhome
      h.no_folder_state _
  obtain ⟨hhere, hput⟩ := Files.at?_of_write hwrite
  have hsound := h.sound.write hwrite
  obtain ⟨w', hrun, hnow, hfiles⟩ := CurrentProject.set_gives hmake hwrite
  rw [← hfiles] at hhere hput hsound
  rw [t.spot_state] at hput
  have hentry : ∀ n, w'.files.at? (t.home w.files ++ ["cache", n])
      = w.files.at? (t.home w.files ++ ["cache", n]) := by
    intro n
    rw [hput, if_neg (by simp)]
  refine ⟨w', hrun, hnow, ⟨hsound, ?_, .inl ?_⟩, ?_⟩
  · intro n e he
    rw [t.home_congr hhere, hentry] at he
    exact h.entry n e he
  · rw [t.home_congr hhere, hput, if_pos rfl]
  · intro p
    unfold Stocks
    rw [t.home_congr hhere, hentry]

/-! ### Writing and deleting entries -/

theorem writeEntry (ht : IsHomed t) (h : Housed t P f current) (hp : p ∈ P) {s : Store}
    (hs : Cache.Legible s) (hwrite : t.cache.writeEntry f p s = .ok g) :
    Housed t P g current ∧ t.Stocks g p ∧ ∀ q, t.Stocks f q → t.Stocks g q := by
  obtain ⟨f', hmake, hwrite⟩ := Cache.exists_of_writeEntry hwrite
  have hspares : t.Spares f f' := spares_of_makeFolder ht h.sound hmake
  -- from here on only the entry itself changes
  have h' : Housed t P f' current := h.of_spares hspares
  obtain ⟨hhere, hput⟩ := Files.at?_of_write hwrite
  have hhome := t.home_congr hhere
  unfold Cache.entryPath at hput
  rw [ht.spot_entry f' (Cache.isName_entryName p)] at hput
  have hnew : g.at? (t.home g ++ ["cache", Cache.entryName p])
      = some (.file (Cache.entryBytes s)) := by
    rw [hhome, hput, if_pos rfl]
  refine ⟨⟨h'.sound.write hwrite, ?_, ?_⟩, ?_, ?_⟩
  · intro n e he
    rw [hhome, hput] at he
    split at he
    · rename_i heq
      cases he
      exact ⟨p, hp, by simpa using heq, s, hs, rfl⟩
    · exact h'.entry n e he
  · rw [hhome, hput, if_neg (by simp)]
    exact h'.state
  · unfold Stocks
    rw [hnew]
    rfl
  · intro q hq
    unfold Stocks
    rw [hhome, hput]
    split
    · rfl
    · exact hspares.stocks.mpr hq

/-- What has the name of an entry is an entry, so it can be deleted, and the rest stays. -/
theorem exists_delete_name (ht : IsHomed t) (h : Housed t P f current) {n : String}
    (hn : (f.at? (t.home f ++ ["cache", n])).isSome = true) :
    ∃ g, f.delete (Path.under t.cache.folder n) = .ok g ∧ Housed t P g current ∧
      g.here = f.here ∧ ∀ m, g.at? (t.home f ++ ["cache", m])
        = if m = n then none else f.at? (t.home f ++ ["cache", m]) := by
  obtain ⟨e, he⟩ := Option.isSome_iff_exists.mp hn
  obtain ⟨p, _, rfl, s, _, rfl⟩ := h.entry _ _ he
  have hname := Cache.isName_entryName p
  rw [← ht.spot_entry f hname] at he
  obtain ⟨g, hdelete⟩ := Files.delete_straight h.sound (ht.straight_entry hname) he
  obtain ⟨hhere, _⟩ := Files.losing_of_delete hdelete
  obtain ⟨hsound, hrest⟩ := h.sound.delete hdelete
  have hhome := t.home_congr hhere
  rw [ht.spot_entry f hname] at hrest
  have hentry : ∀ m, g.at? (t.home f ++ ["cache", m])
      = if m = Cache.entryName p then none else f.at? (t.home f ++ ["cache", m]) := by
    intro m
    rw [hrest]
    simp
  refine ⟨g, hdelete, ⟨hsound, ?_, ?_⟩, hhere, hentry⟩
  · intro m e he
    rw [hhome, hentry] at he
    split at he
    · cases he
    · exact h.entry m e he
  · rw [hhome, hrest, if_neg (by simp)]
    exact h.state

/-- Deleting the entry of a project always succeeds, and no other project loses its own. -/
theorem delete (ht : IsHomed t) (hP : Set.InjOn Cache.projectHash P) {w : Workspace}
    (h : Housed t P w.files current) (hp : p ∈ P) :
    ∃ found, (t.cache.delete p).Gives w found fun g => Housed t P g current ∧
      ∀ q ∈ P, q ≠ p → t.Stocks w.files q → t.Stocks g q := by
  have hn := Cache.isName_entryName p
  have hhas : w.files.has (t.cache.entryPath p)
      = .ok (w.files.at? (t.home w.files ++ ["cache", Cache.entryName p])).isSome := by
    unfold Cache.entryPath
    rw [Files.has_straight h.sound (ht.straight_entry hn), ht.spot_entry w.files hn]
  unfold Cache.delete Work.Gives
  dsimp only
  rw [Work.run_bind (Work.run_has hhas)]
  cases hthere : (w.files.at? (t.home w.files ++ ["cache", Cache.entryName p])).isSome with
  | false => exact ⟨false, w, rfl, rfl, h, fun q _ _ hq => hq⟩
  | true =>
    have hsome : t.Stocks w.files p := hthere
    obtain ⟨g, hdelete, hhoused, hhere, hentry⟩ := h.exists_delete_name ht hsome
    refine ⟨true, { w with files := g, journal := w.journal ++
      [⟨.info, "storage", s!"Graph deleted: {t.cache.entryPath p}"⟩] }, ?_, rfl, hhoused, ?_⟩
    · have hchange : (Work.change (·.delete (t.cache.entryPath p))).run w
          = (.ok (), { w with files := g }) := Work.run_change hdelete
      rw [if_neg (by simp), Work.run_bind hchange, Work.run_bind (Work.run_record _ _)]
      rfl
    · intro q hq hne hstocks
      unfold Stocks
      rw [t.home_congr hhere, hentry, if_neg]
      · exact hstocks
      · -- entries of one name would be those of projects with one digest
        intro heq
        exact hne (hP hq hp (Cache.projectHash_of_entryName heq))

/-- Entries are deleted one after another. -/
theorem deleteNames (ht : IsHomed t) {names : List String} (hnodup : names.Nodup) {w : Workspace}
    (h : Housed t P w.files current)
    (hnames : ∀ n ∈ names, (w.files.at? (t.home w.files ++ ["cache", n])).isSome = true) :
    (t.cache.deleteNames names).Gives w () fun g => Housed t P g current := by
  induction names generalizing w with
  | nil => exact ⟨w, rfl, rfl, h⟩
  | cons n names ih =>
    rw [List.nodup_cons] at hnodup
    obtain ⟨g, hdelete, hhoused, hhere, hentry⟩ :=
      h.exists_delete_name ht (hnames n List.mem_cons_self)
    have hrest : ∀ m ∈ names,
        (g.at? (t.home g ++ ["cache", m])).isSome = true := by
      intro m hm
      rw [t.home_congr hhere, hentry, if_neg]
      · exact hnames m (List.mem_cons_of_mem _ hm)
      · -- no name comes twice, so none is deleted before its turn
        rintro rfl
        exact hnodup.1 hm
    obtain ⟨w', hrun, hnow, hw'⟩ := ih hnodup.2 (w := { w with files := g }) hhoused hrest
    refine ⟨w', ?_, hnow, hw'⟩
    have hchange : (Work.change (·.delete (Path.under t.cache.folder n))).run w
        = (.ok (), { w with files := g }) := Work.run_change hdelete
    unfold Cache.deleteNames
    rw [Work.run_bind hchange]
    exact hrun

/-- Deleting all entries always succeeds. -/
theorem deleteAll (ht : IsHomed t) {w : Workspace} (h : Housed t P w.files current) :
    ∃ count, t.cache.deleteAll.Gives w count fun g => Housed t P g current := by
  have hnames : ∀ n ∈ t.cache.entryNames w.files,
      (w.files.at? (t.home w.files ++ ["cache", n])).isSome = true := by
    intro n hn
    have hn := (List.mem_filter.mp ((List.mergeSort_perm _ _).mem_iff.mp hn)).1
    obtain ⟨d, hplace, _, _, hn⟩ := Files.mem_names.mp hn
    rw [← Files.spot_of_place hplace, ht.spot_cache, List.append_assoc] at hn
    exact hn
  obtain ⟨w', hrun, hnow, hw'⟩ := h.deleteNames ht (t.cache.nodup_entryNames w.files) hnames
  refine ⟨(t.cache.entryNames w.files).length, w', ?_, hnow, hw'⟩
  obtain ⟨there, hthere⟩ := h.sound.exists_has t.cache.folder
  unfold Cache.deleteAll
  rw [Work.run_bind (Cache.run_names hthere), Work.run_bind hrun]
  rfl

end Housed

end Tools

end SymbolGraph
