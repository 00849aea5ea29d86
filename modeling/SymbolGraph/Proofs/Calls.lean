import SymbolGraph.Proofs.BuiltGraphs
import SymbolGraph.Proofs.Effects
import SymbolGraph.Session

/-! # The calls of a session

    A session analyzes a project, or loads its saved graph. What comes of a call depends on
    the files and the clock: the saved graph is taken if the cache offers one
    (`Session.consult`), and otherwise, if the project is analyzed, one is built and written
    (`Session.stored`). Each of these can fail, and so can the call then. Here each call is
    described by the cases that there are, with the result and the files of each
    (`Session.analyze_cases`, `Session.loadCached_cases`).
-/

namespace SymbolGraph

/-- The path that a project is known by. -/
def Files.key (f : Files) (path : String) : String :=
  Path.absolute f.workingFolder path

/-- An absolute path means the same project in every working folder. -/
theorem Files.key_of_isAbsolute {path : String} (h : Path.isAbsolute path = true) (f : Files) :
    f.key path = Path.absolute "/" path := by
  unfold Files.key Path.absolute
  rw [if_pos h, if_pos h]

namespace Cache

/-- The saved graph of a project, if it can be read. -/
def offers (c : Cache) (f : Files) (project : String) : Option Store :=
  match c.lookup f project with
  | .ok found => found
  | .error _ => none

/-- The files after the graph of a project is written. -/
def writeEntry (c : Cache) (f : Files) (project : String) (s : Store) : Except Files.Fault Files :=
  (f.makeFolder c.folder).bind (·.write (c.entryPath project) (entryBytes s))

/-- If the system lets one look for an entry, all that can be wrong with it is that it is
    corrupted. -/
theorem lookup_cases (c : Cache) {f : Files} {project : String} {there : Bool}
    (h : f.has (c.entryPath project) = .ok there) :
    (∃ found, c.lookup f project = .ok found) ∨
      ∃ fault, c.lookup f project = .error (.corrupted fault) := by
  unfold lookup
  dsimp only
  rw [h]
  cases there with
  | false => exact .inl ⟨none, rfl⟩
  | true =>
    cases f.readText (c.entryPath project) with
    | error e => exact .inr ⟨_, rfl⟩
    | ok text =>
      dsimp only
      cases Store.ofText text with
      | ok s => exact .inl ⟨some s, rfl⟩
      | error reason => exact .inr ⟨_, rfl⟩

/-- What is looked up is read from the text of the entry. -/
theorem readText_of_lookup {c : Cache} {f : Files} {project : String} {s : Store}
    (h : c.lookup f project = .ok (some s)) :
    ∃ text, f.readText (c.entryPath project) = .ok text ∧ Store.ofText text = .ok s := by
  unfold lookup at h
  dsimp only at h
  split at h
  · cases h
  · cases h
  · split at h
    · cases h
    · rename_i text htext
      refine ⟨text, htext, ?_⟩
      split at h
      · rename_i found hfound
        cases h
        exact hfound
      · cases h

/-- Loading gives what is looked up, and leaves records only. -/
theorem run_load (c : Cache) (project : String) (w : Workspace) : ∃ journal,
    (c.load project).run w = (c.lookup w.files project, { w with journal := journal }) := by
  unfold load
  rw [Work.run_bind (Work.run_get w)]
  cases c.lookup w.files project with
  | error e => exact ⟨w.journal, rfl⟩
  | ok found => cases found <;> exact ⟨_, rfl⟩

theorem exists_of_writeEntry {c : Cache} {f g : Files} {project : String} {s : Store}
    (h : c.writeEntry f project s = .ok g) :
    ∃ f', f.makeFolder c.folder = .ok f' ∧
      f'.write (c.entryPath project) (entryBytes s) = .ok g := by
  unfold writeEntry at h
  cases hmake : f.makeFolder c.folder with
  | error fault =>
    rw [hmake] at h
    cases h
  | ok f' =>
    rw [hmake, Except.bind] at h
    exact ⟨f', rfl, h⟩

/-- What saving does: the graph is written with its stamps, or there is a fault, and then
    at most the folder is made. -/
theorem save_cases (c : Cache) (s : Store) (project : String) (w : Workspace) :
    (∃ g w', c.writeEntry w.files project (stamped s project w.now) = .ok g ∧
      (c.save s project).run w = (.ok (stamped s project w.now, c.entryPath project), w') ∧
      w'.files = g) ∨
    (∃ fault w', c.writeEntry w.files project (stamped s project w.now) = .error fault ∧
      (c.save s project).run w = (.error (.file fault), w') ∧
      (w'.files = w.files ∨ w.files.makeFolder c.folder = .ok w'.files)) := by
  have hentry : c.writeEntry w.files project (stamped s project w.now)
      = (w.files.makeFolder c.folder).bind
        (·.write (c.entryPath project) (entryBytes (stamped s project w.now))) := rfl
  rw [hentry]
  unfold Cache.save
  cases hmake : w.files.makeFolder c.folder with
  | error fault =>
    refine .inr ⟨fault, w, rfl, ?_, .inl rfl⟩
    rw [Work.run_bind_eq, Work.run_change_error hmake]
  | ok f =>
    rw [Work.run_bind (Work.run_change hmake), Work.run_bind (Work.run_get _), Except.bind]
    generalize stamped s project w.now = g
    cases hwrite : f.write (c.entryPath project) (entryBytes g) with
    | error fault =>
      have hrun : (Work.writeText (c.entryPath project) g.toDocument.pretty).run
          { w with files := f } = (.error (.file fault), { w with files := f }) :=
        Work.run_change_error hwrite
      rw [Work.run_bind_eq, hrun]
      exact .inr ⟨fault, { w with files := f }, rfl, rfl, .inr rfl⟩
    | ok f' =>
      have hrun : (Work.writeText (c.entryPath project) g.toDocument.pretty).run
          { w with files := f } = (.ok (), { w with files := f' }) := Work.run_change hwrite
      rw [Work.run_bind hrun, Work.run_bind (Work.run_record _ _)]
      exact .inl ⟨f', _, rfl, rfl, rfl⟩

end Cache

/-! ## Building in a workspace -/

theorem Work.run_ofExcept {α : Type} (x : Except Failure α) (w : Workspace) :
    (Work.ofExcept x).run w = (x, w) := by
  cases x <;> rfl

/-- Building leaves records and gives what is built. -/
theorem Build.run_build (o : Options) (folder : String) (w : Workspace) : ∃ journal,
    (run o folder).run w
      = (build o.extractor o.limit w.files w.now folder, { w with journal := journal }) := by
  unfold run build
  rw [Work.run_bind (Work.run_get w), Work.run_bind_eq, Work.run_ofExcept]
  cases survey o.extractor o.limit w.files folder with
  | error e => exact ⟨w.journal, rfl⟩
  | ok r =>
    dsimp only
    rw [Work.run_bind (Work.run_record _ w), Work.run_bind_eq, Work.run_ofExcept]
    cases hbuilt : assemble w.now folder r with
    | error e =>
      refine ⟨_, Prod.ext ?_ rfl⟩
      exact hbuilt.symm
    | ok b =>
      dsimp only
      rw [Work.run_bind (Work.run_record _ _)]
      refine ⟨_, Prod.ext ?_ rfl⟩
      exact hbuilt.symm

namespace Session

/-! ## Building and saving -/

/-- The graph that is built for a project, as it is saved. -/
def built (t : Tools) (s : Session) (w : Workspace) (project : String) : Except Failure Store :=
  Build.saved (s.options t) w.files w.now project

/-- The graph that is built and saved for a project, and the files after that. -/
def stored (t : Tools) (s : Session) (w : Workspace) (project : String) :
    Except Failure (Store × Files) := do
  let g ← s.built t w project
  let files ← (t.cache.writeEntry w.files project g).mapError .file
  return (g, files)

theorem stored_eq_ok {t : Tools} {s : Session} {w : Workspace} {project : String} {g : Store}
    {f : Files} : s.stored t w project = .ok (g, f) ↔
      s.built t w project = .ok g ∧ t.cache.writeEntry w.files project g = .ok f := by
  unfold stored
  cases s.built t w project with
  | error e => simp [bind, Except.bind]
  | ok g' =>
    cases hwrite : t.cache.writeEntry w.files project g' with
    | error fault =>
      simp only [bind, Except.bind, hwrite, Except.mapError, reduceCtorEq, Except.ok.injEq,
        false_iff]
      rintro ⟨rfl, hf⟩
      rw [hwrite] at hf
      cases hf
    | ok f' =>
      simp only [bind, Except.bind, hwrite, Except.mapError, pure, Except.pure, Except.ok.injEq,
        Prod.mk.injEq]
      constructor
      · rintro ⟨rfl, rfl⟩
        exact ⟨rfl, hwrite⟩
      · rintro ⟨rfl, hf⟩
        rw [hwrite] at hf
        cases hf
        exact ⟨rfl, rfl⟩

/-- What rebuilding does: the session has the graph that was built if it could be built and
    saved. If a graph was built and not saved, at most the folder is made. -/
theorem rebuild_cases (t : Tools) (s : Session) (project : String) (w : Workspace) :
    (∃ g stats w', s.stored t w project = .ok (g, w'.files) ∧
      (rebuild t s project).run w = (.ok (s.become g project, .built stats), w')) ∨
    (∃ e w', s.stored t w project = .error e ∧ (rebuild t s project).run w = (.error e, w') ∧
      (w'.files = w.files ∨ (∃ g, s.built t w project = .ok g) ∧
        w.files.makeFolder t.cache.folder = .ok w'.files)) := by
  obtain ⟨journal, hrun⟩ := Build.run_build (s.options t) project w
  unfold rebuild stored built Build.saved
  rw [Work.run_bind_eq, hrun]
  cases Build.build (s.options t).extractor (s.options t).limit w.files w.now project with
  | error e => exact .inr ⟨e, _, rfl, rfl, .inl rfl⟩
  | ok b =>
    dsimp only
    rw [Work.run_bind_eq]
    rcases t.cache.save_cases b.store project { w with journal := journal } with
      ⟨g, w', hwrite, hsave, hfiles⟩ | ⟨fault, w', hwrite, hsave, hfiles⟩
    · have hwrite : t.cache.writeEntry w.files project (Cache.stamped b.store project w.now)
          = .ok g := hwrite
      rw [hsave]
      refine .inl ⟨Cache.stamped b.store project w.now, b.stats, w', ?_, rfl⟩
      simp only [Except.map, bind, Except.bind, hwrite, hfiles, Except.mapError]
      rfl
    · have hwrite : t.cache.writeEntry w.files project (Cache.stamped b.store project w.now)
          = .error fault := hwrite
      rw [hsave]
      refine .inr ⟨.file fault, w', ?_, rfl, hfiles.imp_right fun hmake => ⟨⟨_, rfl⟩, hmake⟩⟩
      simp only [Except.map, bind, Except.bind, hwrite, Except.mapError]

/-! ## Looking for a saved graph -/

/-- The saved graph that analyzing a project takes, if one is wanted and there is one that can be
    read. -/
def consult (t : Tools) (f : Files) (force : Bool) (project : String) :
    Except Failure (Option Store) :=
  if force then .ok none
  else match t.cache.lookup f project with
    | .error (.corrupted _) => .ok none
    | found => found

/-- Analyzing looks for a saved graph first. One that cannot be read is recorded. -/
theorem run_consult (t : Tools) (force : Bool) (project : String) (w : Workspace) :
    ∃ journal, (if force then pure none else savedOrRecorded t project : Work (Option Store)).run w
      = (consult t w.files force project, { w with journal := journal }) := by
  unfold consult
  cases force with
  | true => exact ⟨w.journal, rfl⟩
  | false =>
    obtain ⟨journal, hload⟩ := t.cache.run_load project w
    rw [if_neg Bool.false_ne_true, if_neg Bool.false_ne_true]
    unfold savedOrRecorded
    rw [Work.run_bind (Work.run_get w)]
    cases hlookup : t.cache.lookup w.files project with
    | ok found =>
      rw [hlookup] at hload
      exact ⟨journal, hload⟩
    | error e =>
      rw [hlookup] at hload
      cases e with
      | corrupted fault =>
        dsimp only
        rw [Work.run_bind (Work.run_record _ _)]
        exact ⟨_, rfl⟩
      | _ => exact ⟨journal, hload⟩

/-- If the system lets one look for the entry of a project, what the cache offers is found. -/
theorem consult_of_has {t : Tools} {f : Files} {project : String} {there : Bool}
    (h : f.has (t.cache.entryPath project) = .ok there) (force : Bool) :
    consult t f force project = .ok (if force then none else t.cache.offers f project) := by
  unfold consult Cache.offers
  cases force with
  | true => rfl
  | false =>
    rw [if_neg Bool.false_ne_true, if_neg Bool.false_ne_true]
    rcases t.cache.lookup_cases h with ⟨found, hlookup⟩ | ⟨fault, hlookup⟩
    · rw [hlookup]
    · rw [hlookup]

/-- A saved graph that is taken is offered. -/
theorem offers_of_consult {t : Tools} {f : Files} {force : Bool} {project : String} {g : Store}
    (h : consult t f force project = .ok (some g)) : t.cache.offers f project = some g := by
  unfold consult at h
  unfold Cache.offers
  split at h
  · cases h
  · split at h
    · cases h
    · rw [h]

/-! ## The calls -/

theorem run_projectKey (path : String) (w : Workspace) :
    (projectKey path).run w = (.ok (w.files.key path), w) := rfl

/-- Use the graph that was found, or build one. -/
def settle (t : Tools) (s : Session) (project : String) : Option Store →
    Work (Session × Analyzed)
  | some store => pure (s.become store project, .cached store.summary)
  | none => rebuild t s project

/-- What analyzing does: the session has the saved graph that was found, or else the graph
    that was built if it could be built and saved. It fails if the system does not let one look
    for a saved graph, or if none is found and none can be built and saved. -/
theorem analyze_cases (t : Tools) (s : Session) (path : String) (force : Bool) (w : Workspace) :
    let p := w.files.key path
    (∃ g w', consult t w.files force p = .ok (some g) ∧
      (analyze t s path force).run w = (.ok (s.become g p, .cached g.summary), w') ∧
      w'.files = w.files) ∨
    (∃ g stats w', consult t w.files force p = .ok none ∧
      s.stored t w p = .ok (g, w'.files) ∧
      (analyze t s path force).run w = (.ok (s.become g p, .built stats), w')) ∨
    (∃ e w', (consult t w.files force p = .error e ∨
        consult t w.files force p = .ok none ∧ s.stored t w p = .error e) ∧
      (analyze t s path force).run w = (.error e, w') ∧
      (w'.files = w.files ∨ (∃ g, s.built t w p = .ok g) ∧
        w.files.makeFolder t.cache.folder = .ok w'.files)) := by
  have hanalyze : analyze t s path force = projectKey path >>= fun p =>
      (if force then pure none else savedOrRecorded t p) >>= s.settle t p := by
    unfold analyze
    cases force <;> rfl
  dsimp only
  rw [hanalyze, Work.run_bind (run_projectKey path w)]
  generalize w.files.key path = p
  obtain ⟨journal, hrun⟩ := run_consult t force p w
  rw [Work.run_bind_eq, hrun]
  cases consult t w.files force p with
  | error e => exact .inr (.inr ⟨e, _, .inl rfl, rfl, .inl rfl⟩)
  | ok found =>
    cases found with
    | some g => exact .inl ⟨g, _, rfl, rfl, rfl⟩
    | none =>
      rcases rebuild_cases t s p { w with journal := journal } with
        ⟨g, stats, w', hstored, hrebuild⟩ | ⟨e, w', hstored, hrebuild, hfiles⟩
      · exact .inr (.inl ⟨g, stats, w', rfl, hstored, hrebuild⟩)
      · exact .inr (.inr ⟨e, w', .inr ⟨rfl, hstored⟩, hrebuild, hfiles⟩)

/-- What loading does: the session has the saved graph if it could be read, and otherwise it
    stays as it is. -/
theorem loadCached_cases (t : Tools) (s : Session) (path : String) (w : Workspace) :
    let p := w.files.key path
    (∃ g w', t.cache.offers w.files p = some g ∧
      (loadCached t s path).run w = (.ok (s.become g p, .loaded g.summary), w') ∧
      w'.files = w.files) ∨
    (t.cache.offers w.files p = none ∧
      ((∃ l w', (loadCached t s path).run w = (.ok (s, l), w') ∧ w'.files = w.files ∧
        ∀ summary, l ≠ .loaded summary) ∨
      ∃ e w', t.cache.lookup w.files p = .error e ∧
        (loadCached t s path).run w = (.error e, w') ∧ w'.files = w.files)) := by
  dsimp only
  unfold loadCached Cache.offers
  rw [Work.run_bind (run_projectKey path w), Work.run_bind (Work.run_get w)]
  generalize w.files.key path = p
  obtain ⟨journal, hload⟩ := t.cache.run_load p w
  cases hlookup : t.cache.lookup w.files p with
  | ok found =>
    rw [hlookup] at hload
    dsimp only
    rw [Work.run_bind hload]
    cases found with
    | none => exact .inr ⟨rfl, .inl ⟨.absent, _, rfl, rfl, nofun⟩⟩
    | some g => exact .inl ⟨g, _, rfl, rfl, rfl⟩
  | error e =>
    rw [hlookup] at hload
    cases e with
    | corrupted fault =>
      -- a saved graph that cannot be read is recorded
      refine .inr ⟨rfl, .inl ⟨.corrupted fault.reason, ?_⟩⟩
      dsimp only
      rw [Work.run_bind (Work.run_record _ _)]
      exact ⟨_, rfl, rfl, nofun⟩
    | _ =>
      dsimp only
      rw [Work.run_bind_eq, hload]
      exact .inr ⟨rfl, .inr ⟨_, _, rfl, rfl, rfl⟩⟩

theorem clearCache_losing (t : Tools) (path : Option String) :
    (clearCache t path).Has .losing := by
  unfold clearCache
  cases path with
  | none => exact (t.cache.deleteAll_losing).bind fun _ => Work.has_pure _
  | some path =>
    have hkey : (projectKey path).Has .losing := Work.has_get.bind fun _ => Work.has_pure _
    exact hkey.bind fun p => (t.cache.delete_losing p).bind fun _ => Work.has_pure _

end Session

end SymbolGraph
