import SymbolGraph.Proofs.BuiltDocuments
import SymbolGraph.Proofs.Homes
import SymbolGraph.Proofs.Queries

/-! # The current project can be opened

    Commands keep the current project in one file and the saved graphs in others. Analyzing
    and loading a project set the first after the second, and clearing takes away graphs
    before the current project is forgotten, so between the two steps of a command they may
    not fit together. After every command they do: the current project has a saved graph that
    can be read.

    * `Tools.Tidy` is the invariant. Each command keeps it: `Tidy.runAnalyze`,
      `Tidy.runLoad`, `Tidy.runClearCache`, and `Tidy.of_reading` for those that ask.
    * `Command.perform` is what a number of command lines do, with anything happening to
      other files in between.
    * `Command.current_project_run` is the main result.
-/

namespace SymbolGraph

open Work

/-! ## The invariant -/

namespace Tools

/-- A project that is known by its resolved path and has a saved graph. -/
structure Remembers (t : Tools) (P : Set String) (f : Files) (p : String) : Prop where
  mem : p ∈ P
  resolved : ∀ wd, Path.absolute wd p = p
  nonempty : p ≠ ""
  stocked : t.Stocks f p

/-- What is kept at home is in order, and the current project has a saved graph. -/
structure Tidy (t : Tools) (P : Set String) (f : Files) (current : Option String) : Prop
    extends Housed t P f current where
  remembers : ∀ p, current = some p → t.Remembers P f p

variable {t : Tools} {P : Set String} {w : Workspace} {current : Option String}

theorem remembers_key {f g : Files} {path : String} (hmem : f.key path ∈ P)
    (hstocked : t.Stocks g (f.key path)) : t.Remembers P g (f.key path) where
  mem := hmem
  resolved wd := Path.absolute_absolute wd _ path
  nonempty := Path.absolute_ne_empty _ path
  stocked := hstocked

theorem Housed.tidy_none {f : Files} (h : Housed t P f none) : Tidy t P f none where
  toHoused := h
  remembers p hp := by cases hp

namespace Tidy

theorem of_spares {f g : Files} (h : Tidy t P f current) (hspares : t.Spares f g) :
    Tidy t P g current where
  toHoused := h.toHoused.of_spares hspares
  remembers p hp := { h.remembers p hp with
    stocked := hspares.stocks.mpr (h.remembers p hp).stocked }

/-! ### What the current project offers -/

theorem lookup_current (ht : IsHomed t) {f : Files} {p : String} (h : Tidy t P f (some p)) :
    ∃ s, t.cache.lookup f p = .ok (some s) :=
  h.lookup_entry ht (h.remembers p rfl).stocked

theorem opens (ht : IsHomed t) {p : String} (h : Tidy t P w.files (some p)) :
    ∃ session store w', (Command.openProject t none).run w = (.ok (session, store), w') ∧
      session.project = some p := by
  obtain ⟨s, hs⟩ := h.lookup_current ht
  have hp := h.remembers p rfl
  have hoffers : t.cache.offers w.files p = some s := by
    unfold Cache.offers
    rw [hs]
  obtain ⟨w', hrun, _⟩ := Command.openProject_current (h.lookup_state ht) hp.nonempty
    (hp.resolved _) hoffers
  exact ⟨_, _, w', hrun, rfl⟩

/-! ### Making a project the current one -/

/-- A project with a saved graph is made the current one. -/
theorem set (ht : IsHomed t) {p : String} (h : Housed t P w.files current)
    (hp : t.Stocks w.files p) :
    ∃ w', ((Command.state t).set (some p)).run w = (.ok (), w') ∧
      (t.Remembers P w.files p → Tidy t P w'.files (some p)) := by
  obtain ⟨w', hrun, _, hhoused, hstocks⟩ :=
    h.set ht (Housed.folder_of_stocks h.sound hp) (some p)
  refine ⟨w', hrun, fun hremembers => ⟨hhoused, ?_⟩⟩
  rintro q ⟨⟩
  exact { hremembers with stocked := (hstocks p).mpr hp }

theorem runAnalyze (ht : IsHomed t) (hx : t.extractor.IsFaithful) (h : Tidy t P w.files current)
    {path : String} (hkey : w.files.key path ∈ P) (force json : Bool) :
    ∃ current', Tidy t P ((Command.runAnalyze t path force json).run w).2.files current' := by
  -- what follows once the graph of the project has been saved
  have hset : ∀ {s : Store} {result : Analyzed} {w' : Workspace},
      (Session.analyze t {} path force).run w
        = (.ok (({} : Session).become s (w.files.key path), result), w') →
      Housed t P w'.files current → t.Stocks w'.files (w.files.key path) →
      ∃ current', Tidy t P ((Command.runAnalyze t path force json).run w).2.files current' := by
    intro s result w' hrun hhoused hstocks
    obtain ⟨w'', hset, htidy⟩ := set ht hhoused hstocks
    have htidy := htidy (remembers_key hkey hstocks)
    refine ⟨some (w.files.key path), ?_⟩
    unfold Command.runAnalyze
    rw [run_bind hrun]
    dsimp only [Session.become]
    rw [run_bind hset]
    cases json with
    | true => exact htidy
    | false => exact htidy
  rcases Session.analyze_cases t {} path force w with ⟨g, w', hconsult, hrun, hfiles⟩ |
    ⟨g, stats, w', _, hstored, hrun⟩ | ⟨e, w', _, hrun, hfiles⟩
  · -- a saved graph was found
    apply hset hrun
    · rw [hfiles]
      exact h.toHoused
    · rw [hfiles]
      exact Housed.stocks_of_offers ht h.sound (Session.offers_of_consult hconsult)
  · -- a graph was built and saved
    obtain ⟨hbuilt, hwrite⟩ := Session.stored_eq_ok.mp hstored
    obtain ⟨hhoused, hstocks, _⟩ := h.writeEntry ht hkey (Build.legible_saved hx hbuilt) hwrite
    exact hset hrun hhoused hstocks
  · -- nothing was saved, and the current project is the same
    refine ⟨current, ?_⟩
    unfold Command.runAnalyze
    rw [run_bind_eq, hrun]
    show Tidy t P w'.files current
    rcases hfiles with hfiles | ⟨_, hmake⟩
    · rw [hfiles]
      exact h
    · exact h.of_spares (spares_of_makeFolder ht h.sound hmake)

end Tidy

end Tools

namespace Command

/-- Whether a command has done what it was to do. -/
def succeeded : Except Failure Output → Bool
  | .ok output => output.exit == 0
  | .error _ => false

end Command

namespace Tools.Tidy

variable {t : Tools} {P : Set String} {w : Workspace} {current : Option String}

/-- Loading makes the project the current one, or fails and changes nothing. -/
theorem runLoad (ht : IsHomed t) (h : Tidy t P w.files current) (path : String) :
    let r := (Command.runLoad t path).run w
    (Command.succeeded r.1 = true ∧
      (w.files.key path ∈ P → Tidy t P r.2.files (some (w.files.key path)))) ∨
    Command.succeeded r.1 = false ∧ r.2.files = w.files := by
  dsimp only
  unfold Command.runLoad
  rcases Session.loadCached_cases t {} path w with ⟨g, w', hoffers, hrun, hfiles⟩ |
    ⟨_, ⟨l, w', hrun, hfiles, hl⟩ | ⟨e, w', _, hrun, hfiles⟩⟩
  · have hhoused : Housed t P w'.files current := by
      rw [hfiles]
      exact h.toHoused
    have hstocks : t.Stocks w'.files (w.files.key path) := by
      rw [hfiles]
      exact Housed.stocks_of_offers ht h.sound hoffers
    obtain ⟨w'', hset, htidy⟩ := set ht hhoused hstocks
    refine .inl ?_
    rw [run_bind hrun]
    dsimp only [Session.become]
    rw [run_bind hset]
    exact ⟨rfl, fun hkey => htidy (remembers_key hkey hstocks)⟩
  · rw [run_bind hrun]
    cases l with
    | loaded summary => exact absurd rfl (hl summary)
    | absent => exact .inr ⟨rfl, hfiles⟩
    | corrupted reason => exact .inr ⟨rfl, hfiles⟩
  · rw [run_bind_eq, hrun]
    exact .inr ⟨rfl, hfiles⟩

/-! ### Clearing saved graphs -/

/-- The current project is forgotten; its file is there, so it can be written. -/
theorem unload (ht : IsHomed t) {p : String} (h : Housed t P w.files (some p)) :
    ∃ w', (Command.state t).unload.run w = (.ok (), w') ∧ Tidy t P w'.files none := by
  have hhome : w.files.at? (t.home w.files) = some .folder := by
    rcases h.state with hstate | ⟨_, hnone⟩
    · exact h.sound.above _ _ (by rw [hstate]; rfl)
    · cases hnone
  obtain ⟨w', hrun, _, hhoused, _⟩ := h.set ht hhome none
  exact ⟨w', hrun, hhoused.tidy_none⟩

/-- What follows once graphs have been deleted: the current project is forgotten, or it was
    not one of those that were cleared and is kept. -/
theorem after_clearing (ht : IsHomed t) (h : Housed t P w.files current) {path : Option String}
    {k : Unit → Work Command.Output} (hk : ∀ u, (k u).Has .none)
    (hcurrent : ∀ p, current = some p → p ≠ "" ∧
      (path.all (fun path => w.files.key path == p) = false → t.Remembers P w.files p)) :
    ∃ current', Tidy t P ((do
      if ← Command.clearsCurrent (← (Command.state t).get) path then (Command.state t).unload
      k ()).run w).2.files current' := by
  have hget : (Command.state t).get.run w = (.ok (Json.optText current), w) := by
    rw [CurrentProject.run_get, h.lookup_state ht]
    rfl
  rw [run_bind hget]
  cases current with
  | none =>
    have hclears : (Command.clearsCurrent (Json.optText none) path).run w = (.ok false, w) := rfl
    refine ⟨none, ?_⟩
    have hfiles : ((k ()).run w).2.files = w.files := hk () w
    rw [run_bind hclears, if_neg Bool.false_ne_true, hfiles]
    exact h.tidy_none
  | some p =>
    obtain ⟨hne, hremembers⟩ := hcurrent p rfl
    have hsome : Json.isEmpty (Json.optText (some p)) = false := by
      show Json.isEmpty (.str p) = false
      unfold Json.isEmpty
      simpa using hne
    have hclears : (Command.clearsCurrent (Json.optText (some p)) path).run w
        = (.ok (path.all fun path => w.files.key path == p), w) := by
      unfold Command.clearsCurrent
      rw [hsome]
      cases path with
      | none => rfl
      | some path => rfl
    rw [run_bind hclears]
    dsimp only
    cases hall : path.all fun path => w.files.key path == p with
    | true =>
      obtain ⟨w', hrun, htidy⟩ := unload ht h
      refine ⟨none, ?_⟩
      have hfiles : ((k ()).run w').2.files = w'.files := hk () w'
      rw [if_pos rfl, run_bind hrun, hfiles]
      exact htidy
    | false =>
      refine ⟨some p, ?_⟩
      have hfiles : ((k ()).run w).2.files = w.files := hk () w
      rw [if_neg Bool.false_ne_true, hfiles]
      refine ⟨h, ?_⟩
      rintro q ⟨⟩
      exact hremembers hall

/-- Deleting succeeds, and other projects keep their saved graphs. -/
theorem clearCache (ht : IsHomed t) (hP : Set.InjOn Cache.projectHash P)
    (h : Housed t P w.files current) {path : Option String}
    (hkey : ∀ p, path = some p → w.files.key p ∈ P) :
    ∃ result w', (Session.clearCache t path).run w = (.ok result, w') ∧
      Housed t P w'.files current ∧
      ∀ q ∈ P, path.all (fun path => w.files.key path == q) = false → t.Stocks w.files q →
        t.Stocks w'.files q := by
  unfold Session.clearCache
  cases path with
  | none =>
    obtain ⟨count, w', hrun, _, hhoused⟩ := h.deleteAll ht
    refine ⟨.all count, w', ?_, hhoused, fun q _ hall => by cases hall⟩
    rw [run_bind hrun]
    rfl
  | some path =>
    obtain ⟨found, w', hrun, _, hhoused, hkeep⟩ := h.delete ht hP (hkey path rfl)
    refine ⟨.one found, w', ?_, hhoused, ?_⟩
    · dsimp only
      rw [run_bind (Session.run_projectKey path w), run_bind hrun]
      rfl
    · intro q hq hall hstocks
      apply hkeep q hq _ hstocks
      rintro rfl
      rw [Option.all_some, beq_self_eq_true] at hall
      cases hall

theorem runClearCache (ht : IsHomed t) (hP : Set.InjOn Cache.projectHash P)
    (h : Tidy t P w.files current) {path : Option String}
    (hkey : ∀ p, path = some p → w.files.key p ∈ P) :
    ∃ current', Tidy t P ((Command.runClearCache t path).run w).2.files current' := by
  obtain ⟨result, w', hrun, hhoused, hkeep⟩ := clearCache ht hP h.toHoused hkey
  have hlosing := Session.clearCache_losing t path w
  rw [hrun] at hlosing
  -- the current project is compared after the graphs are gone, which moves no path
  have hsame : ∀ path, w'.files.key path = w.files.key path := by
    intro path
    unfold Files.key Files.workingFolder
    rw [show w'.files.here = w.files.here from hlosing.1]
  unfold Command.runClearCache
  rw [run_bind hrun]
  refine after_clearing ht hhoused (k := fun _ => pure (Command.answer [result.message]))
    (fun _ => has_pure _) ?_
  intro p hp
  have hremembers := h.remembers p hp
  refine ⟨hremembers.nonempty, fun hall => ?_⟩
  simp only [hsame] at hall
  exact { hremembers with stocked := hkeep p hremembers.mem hall hremembers.stocked }

/-! ### All commands -/

theorem of_reading (h : Tidy t P w.files current) {c : Command} (hc : c.isReading = true)
    (hwritten : ∀ q, c.written? t w = some q → ¬ t.home w.files <+: q) :
    Tidy t P ((c.run t).run w).2.files current := by
  rcases c.run_files hc t w with hfiles | ⟨path, bytes, hwrites, hwrite⟩
  · rw [hfiles]
    exact h
  · exact h.of_spares (t.spares_of_write h.sound (hwritten _ hwrites) hwrite)

end Tools.Tidy

namespace Tools.Tidy

variable {t : Tools} {P : Set String} {w : Workspace} {current : Option String}

/-- There is no current project, or it can be opened. -/
theorem current_opens (ht : IsHomed t) (h : Tidy t P w.files current) :
    (Command.state t).lookup w.files = .ok .null ∨
      ∃ p s, (Command.state t).lookup w.files = .ok (.str p) ∧
        t.cache.lookup w.files p = .ok (some s) ∧
        ∃ session store w', (Command.openProject t none).run w = (.ok (session, store), w') ∧
          session.project = some p := by
  have hlookup := h.lookup_state ht
  cases current with
  | none => exact .inl hlookup
  | some p =>
    obtain ⟨s, hs⟩ := h.lookup_current ht
    exact .inr ⟨p, s, hlookup, hs, h.opens ht⟩

/-- Without a project that is given, no command fails for want of a saved graph. -/
theorem not_lacksGraph (ht : IsHomed t) (h : Tidy t P w.files current) {c : Command}
    (hc : c.asked? = some none) {e : Failure} (he : ((c.run t).run w).1 = .error e) :
    ¬ Command.LacksGraph e := by
  intro hlacks
  have hopen := (Command.run_asks hc).error he hlacks
  have hlookup := h.lookup_state ht
  cases current with
  | none =>
    -- that there is no project is another message
    rw [Command.openProject_none hlookup] at hopen
    cases hopen
    exact Command.not_lacksGraph_refused (by decide +kernel) hlacks
  | some p =>
    obtain ⟨session, store, w', hrun, _⟩ := h.opens ht
    rw [hrun] at hopen
    cases hopen

/-- A failed attempt to load a project changes nothing. -/
theorem files_of_failed_load (ht : IsHomed t) (h : Tidy t P w.files current) (path : String)
    (hfailed : Command.succeeded (((Command.load path).run t).run w).1 = false) :
    (((Command.load path).run t).run w).2.files = w.files := by
  have hload := h.runLoad ht path
  unfold Command.run at hfailed ⊢
  dsimp only at hfailed hload ⊢
  rcases hload with ⟨hsucc, _⟩ | ⟨_, hfiles⟩
  · rw [hsucc] at hfailed
    cases hfailed
  · exact hfiles

end Tools.Tidy

namespace Command

/-- The path by which a command names a project to change something for it. -/
def path? : Command → Option String
  | .analyze path _ _ => some path
  | .load path => some path
  | .clearCache path => path
  | _ => none

/-- **One command.** -/
theorem tidy_run {t : Tools} {P : Set String} {w : Workspace} {current : Option String}
    (ht : t.IsHomed) (hx : t.extractor.IsFaithful) (hP : Set.InjOn Cache.projectHash P)
    (h : t.Tidy P w.files current) {c : Command}
    (hpath : ∀ path, c.path? = some path → w.files.key path ∈ P)
    (hwritten : ∀ q, c.written? t w = some q → ¬ t.home w.files <+: q) :
    ∃ current', t.Tidy P ((c.run t).run w).2.files current' := by
  cases hc : c.isReading with
  | true => exact ⟨current, h.of_reading hc hwritten⟩
  | false =>
    unfold Command.run
    cases c with
    | analyze path force json => exact h.runAnalyze ht hx (hpath path rfl) force json
    | load path =>
      dsimp only
      rcases h.runLoad ht path with ⟨_, htidy⟩ | ⟨_, hfiles⟩
      · exact ⟨_, htidy (hpath path rfl)⟩
      · refine ⟨current, ?_⟩
        rw [hfiles]
        exact h
    | clearCache path => exact h.runClearCache ht hP fun p hp => hpath p hp
    | _ => cases hc

/-! ## Command lines -/

/-- Something that happens: a command line, or anything else that leaves another
    workspace. -/
inductive Event where
  | line (words : List String)
  | change (w : Workspace)

/-- The command that a command line runs. A line that is not understood runs none, and
    neither does one that asks for help or for the version. -/
def ofLine (f : Files) (words : List String) : Option Command :=
  match request f words with
  | .ok (.run _ c) => some c
  | _ => none

/-- The workspace after something has happened. -/
def step (t : Tools) (w : Workspace) : Event → Workspace
  | .line words =>
    match ofLine w.files words with
    | some c => ((c.run t).run w).2
    | none => w
  | .change u => u

/-- The workspace after some things have happened. -/
def perform (t : Tools) (w : Workspace) (es : List Event) : Workspace :=
  es.foldl (step t) w

/-- The project that is named by what happens. -/
def project? (w : Workspace) : Event → Option String
  | .line words => ((ofLine w.files words).bind path?).map w.files.key
  | .change _ => none

/-- The projects that are named. -/
def projects (t : Tools) (w : Workspace) : List Event → List String
  | [] => []
  | e :: es => (project? w e).toList ++ projects t (step t w e) es

/-- What may happen: exports are not written to the home, and nothing but commands changes
    the current project and the saved graphs. -/
def Allowed (t : Tools) (w : Workspace) : Event → Prop
  | .line words => ∀ c q, ofLine w.files words = some c → c.written? t w = some q →
      ¬ t.home w.files <+: q
  | .change u => t.Spares w.files u.files

/-- A line that exports nothing may happen. -/
theorem allowed_line {t : Tools} {w : Workspace} {words : List String}
    (h : (ofLine w.files words).all (fun c => (c.written? t w).isNone) = true) :
    Allowed t w (.line words) := by
  intro c q hline hwritten
  rw [hline, Option.all_some, hwritten] at h
  cases h

section
variable {t : Tools} {P : Set String} {w : Workspace} {current : Option String}

theorem tidy_step (ht : t.IsHomed) (hx : t.extractor.IsFaithful)
    (hP : Set.InjOn Cache.projectHash P) (h : t.Tidy P w.files current) {e : Event}
    (hproject : ∀ p, project? w e = some p → p ∈ P)
    (hallowed : Allowed t w e) :
    ∃ current', t.Tidy P (step t w e).files current' := by
  cases e with
  | change u => exact ⟨current, h.of_spares hallowed⟩
  | line words =>
    dsimp only [step]
    cases hline : ofLine w.files words with
    | none => exact ⟨current, h⟩
    | some c =>
      dsimp only [project?] at hproject
      rw [hline, Option.bind_some] at hproject
      refine tidy_run ht hx hP h (fun path hpath => hproject _ ?_) (hallowed c · hline)
      rw [hpath]
      rfl

/-- **Any number of commands.** -/
theorem tidy_perform (ht : t.IsHomed) (hx : t.extractor.IsFaithful)
    (hP : Set.InjOn Cache.projectHash P) (h : t.Tidy P w.files current) {es : List Event}
    (hprojects : ∀ p ∈ projects t w es, p ∈ P)
    (hallowed : ∀ before e rest, es = before ++ e :: rest → Allowed t (perform t w before) e) :
    ∃ current', t.Tidy P (perform t w es).files current' := by
  induction es generalizing w current with
  | nil => exact ⟨current, h⟩
  | cons e es ih =>
    obtain ⟨current', hstep⟩ := tidy_step ht hx hP h (e := e)
      (fun p hp => hprojects p (by rw [projects, hp]; exact List.mem_cons_self))
      (hallowed [] e es rfl)
    exact ih hstep (fun p hp => hprojects p (by rw [projects]; exact List.mem_append_right _ hp))
      fun before e' rest heq => hallowed (e :: before) e' rest (by rw [heq]; rfl)

end

/-! ## After any commands -/

/-- Nothing is stored below a place. -/
theorem at?_of_below {f : Files} {p : Place} (h : f.below p = []) {r : Place} (hr : r ≠ []) :
    f.at? (p ++ r) = none := by
  cases hget : f.at? (p ++ r) with
  | none => rfl
  | some e =>
    have hmem := Files.mem_below.mpr ⟨hr, hget⟩
    rw [h] at hmem
    cases hmem

/-- What a command that asks leaves in the home. -/
theorem home_of_reading {t : Tools} {w : Workspace} {c : Command} (hc : c.isReading = true)
    (hwritten : ∀ q, c.written? t w = some q → ¬ t.home w.files <+: q) {q : Place}
    (hq : t.home w.files <+: q) : ((c.run t).run w).2.files.at? q = w.files.at? q := by
  rcases c.run_files hc t w with hfiles | ⟨path, bytes, hwrites, hwrite⟩
  · rw [hfiles]
  · rw [(Files.at?_of_write hwrite).2, if_neg]
    rintro rfl
    exact hwritten _ hwrites hq

/-- **The current project can be opened.** Start with nothing in the home, and run any command
    lines. Let what is read of files be fit to be kept, as it is for source files, let nothing
    else change the current project and the saved graphs, let exports be written elsewhere, and
    let the projects that are named have different digests. Then:

    * there is no current project, or there is one, it has a saved graph that can be read, and
      it is opened by commands that are given no project;
    * a command that is given no project never fails because a saved graph is missing or cannot
      be read;
    * loading a project that fails changes no file;
    * a command that asks, whether it fails or not, changes nothing in the home. -/
theorem current_project_run (t : Tools) (ht : t.IsHomed) (hx : t.extractor.IsFaithful)
    (w : Workspace) (hw : w.files.Sound) (hempty : w.files.below (t.home w.files) = [])
    (es : List Event) (hP : Set.InjOn Cache.projectHash {p | p ∈ projects t w es})
    (hallowed : ∀ before e rest, es = before ++ e :: rest → Allowed t (perform t w before) e) :
    let v := perform t w es
    ((state t).lookup v.files = .ok .null ∨
      ∃ p s, (state t).lookup v.files = .ok (.str p) ∧ t.cache.lookup v.files p = .ok (some s) ∧
        ∃ session store v', (openProject t none).run v = (.ok (session, store), v') ∧
          session.project = some p) ∧
    (∀ c : Command, c.asked? = some none → ∀ e, ((c.run t).run v).1 = .error e →
      ¬ LacksGraph e) ∧
    (∀ path, succeeded (((Command.load path).run t).run v).1 = false →
      (((Command.load path).run t).run v).2.files = v.files) ∧
    (∀ c : Command, c.isReading = true →
      (∀ q, c.written? t v = some q → ¬ t.home v.files <+: q) →
      ∀ q, t.home v.files <+: q → ((c.run t).run v).2.files.at? q = v.files.at? q) := by
  intro v
  -- an empty home is in order, and every event keeps it so
  have hstart : t.Tidy {p | p ∈ projects t w es} w.files none :=
    (Tools.Housed.of_empty hw fun r hr => at?_of_below hempty hr).tidy_none
  obtain ⟨current, htidy⟩ : ∃ current, t.Tidy {p | p ∈ projects t w es} v.files current :=
    tidy_perform ht hx hP hstart (fun p hp => hp) hallowed
  clear_value v
  exact ⟨htidy.current_opens ht, fun c hc e he => htidy.not_lacksGraph ht hc he,
    fun path hfailed => htidy.files_of_failed_load ht path hfailed,
    fun c hc hwritten q hq => home_of_reading hc hwritten hq⟩

/-- A project is analyzed, and the saved graph of another one is cleared: the first is still
    the current project, there is a saved graph of it, and looking for a symbol of it does
    not fail for want of one. -/
theorem current_project_run_kept :
    let t : Tools := { settings := ⟨"/home", "/home/cache", 1000⟩ }
    let source := Text.Utf8.encode "function f() {}"
    let w : Workspace :=
      { files := (({} : Files).put ["p"] .folder).put ["p", "a.js"] (.file source) }
    let v := perform t w [.line ["analyze", "/p"], .line ["clear-cache", "/q"]]
    (state t).lookup v.files = .ok (.str "/p") ∧
    (∃ s, t.cache.lookup v.files "/p" = .ok (some s)) ∧
    ∀ e, (((Command.find "f" none {}).run t).run v).1 = .error e → ¬ LacksGraph e := by
  intro t source w v
  have hhomed : t.IsHomed := ⟨by show ".." ∉ Path.parts "/home"; decide, by decide +kernel⟩
  have hsound : w.files.Sound := by
    have hfolder : (({} : Files).put ["p"] .folder).Sound :=
      Files.sound_empty.put (d := []) (n := "p") rfl (by decide) _
    exact hfolder.put (d := ["p"]) (n := "a.js") (by decide) (by decide) _
  have hprojects : projects t w [.line ["analyze", "/p"], .line ["clear-cache", "/q"]]
      = ["/p", "/q"] := by decide +kernel
  have hdigests : Cache.projectHash "/p" ≠ Cache.projectHash "/q" := by decide +kernel
  have hP : Set.InjOn Cache.projectHash {p | p ∈ projects t w
      [.line ["analyze", "/p"], .line ["clear-cache", "/q"]]} := by
    rw [hprojects]
    intro p hp q hq heq
    rcases List.mem_pair.mp hp with rfl | rfl <;> rcases List.mem_pair.mp hq with rfl | rfl
    · rfl
    · exact absurd heq hdigests
    · exact absurd heq.symm hdigests
    · rfl
  have hallowed : ∀ before e rest,
      [Event.line ["analyze", "/p"], .line ["clear-cache", "/q"]] = before ++ e :: rest →
      Allowed t (perform t w before) e := by
    intro before e rest heq
    rcases before with _ | ⟨b, _ | ⟨c, before⟩⟩
    · obtain ⟨rfl, _⟩ := List.cons.inj heq
      exact allowed_line (by decide +kernel)
    · obtain ⟨rfl, hrest⟩ := List.cons.inj heq
      rw [List.append_eq, List.nil_append] at hrest
      obtain ⟨rfl, _⟩ := List.cons.inj hrest
      exact allowed_line (by decide +kernel)
    · simp at heq
  -- composed, because fields of workspaces are compared by running the commands once more
  have hstate : ((fun f => ((state t).lookup f).toOption.bind Key.ofJson?) ∘ Workspace.files) v
      = some (.str "/p") := by
    decide +kernel
  obtain ⟨hcurrent, hfind, _⟩ := current_project_run t hhomed (Build.isFaithful_sourceExtractor [])
    w hsound (by decide +kernel) _ hP hallowed
  have hv : v = perform t w [.line ["analyze", "/p"], .line ["clear-cache", "/q"]] := rfl
  rw [← hv] at hcurrent hfind
  clear_value v
  rw [Function.comp_apply] at hstate
  rcases hcurrent with hnull | ⟨p, s, hp, hs, _⟩
  · rw [hnull] at hstate
    cases hstate
  · rw [hp] at hstate
    obtain rfl : p = "/p" := Key.str.inj (Option.some.inj hstate)
    exact ⟨hp, ⟨s, hs⟩, fun e he => hfind (.find "f" none {}) rfl e he⟩

end Command

end SymbolGraph
