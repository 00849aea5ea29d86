import Mathlib.Logic.Function.Basic
import SymbolGraph.Command.Run
import SymbolGraph.Proofs.BuiltDocuments
import SymbolGraph.Proofs.Calls

/-! # Sessions that share saved graphs

    Any number of sessions work in one workspace and share the saved graphs, while files
    come and go. A session has a graph and a project, or neither. They are set together, by
    a call of the session that succeeds, and by nothing else.

    * `Room` holds the workspace and the sessions, and `Room.step` is one call of a session,
      or anything else that happens to the workspace.
    * `Room.yields` says what a call gives a session, from the files and the clock alone:
      the saved graph if it can be read, or the graph that is built if it can be saved.
      `Room.pair_step` says that a step sets the graph and the project of a session to that,
      if there is something, and otherwise leaves them.
    * `Cache.Genuine` says that the entries of the cache are what was saved for their
      projects. Calls keep it (`Room.Honest.step`), so what a session gets is the graph that
      was built for its project, now or by an earlier call.
    * `Room.sessions_run` is the main result.
-/

namespace SymbolGraph

/-! ## Questions -/

/-- A question about the graph of a session. -/
inductive Query where
  | find (query : String) (kind : Option String)
  | dependencies (id : Key) (depth : Int)
  | dependents (id : Key) (depth : Int)
  | callGraph (name : String) (depth : Int)
  | fileSymbols (file : Key)
  | stats

/-- The answer that a graph gives to a question. -/
def Store.answer (s : Store) : Query → Except Malformed Json
  | .find query kind => (s.findSymbol query kind).map fun hits => .arr (hits.map (·.toJson))
  | .dependencies id depth => .ok (.arr ((s.dependencies id depth).map (·.toJson)))
  | .dependents id depth => .ok (.arr ((s.dependents id depth).map (·.toJson)))
  | .callGraph name depth => (s.callGraph name depth).map Command.callGraphJson
  | .fileSymbols file =>
    (s.fileSymbols file).map fun found => .arr (found.map fun e => e.2.toJsonWithId e.1.toJson)
  | .stats => s.stats.map (·.toJson)

/-- The answer that a session gives to a question. -/
def Session.ask (s : Session) (q : Query) : Except Failure Json := do
  let g ← s.graph
  (g.answer q).mapError .malformed

/-- A session complains that there is no graph exactly if it has none. -/
theorem Session.ask_eq_notLoaded (s : Session) (q : Query) :
    s.ask q = .error .notLoaded ↔ s.store = none := by
  unfold ask graph
  cases s.store with
  | none => exact ⟨fun _ => rfl, fun _ => rfl⟩
  | some g =>
    refine ⟨fun h => ?_, fun h => by cases h⟩
    have h : (g.answer q).mapError Failure.malformed = .error .notLoaded := h
    cases hq : g.answer q <;> rw [hq] at h <;> cases h

/-- The graph and the project of a session. -/
def Session.pair (s : Session) : Option Store × Option String :=
  (s.store, s.project)

/-! ## Entries that were saved -/

namespace Cache

/-- The entries of some projects are the texts of graphs that were saved for them. -/
def Genuine (c : Cache) (P : Set String) (saved : List (String × Store)) (f : Files) : Prop :=
  ∀ p ∈ P, ∀ bytes, f.at? (f.spot (c.entryPath p)) = some (.file bytes) →
    ∃ s, (p, s) ∈ saved ∧ bytes = entryBytes s

namespace Genuine

variable {c : Cache} {P : Set String} {saved : List (String × Store)} {f g : Files}

theorem mono (h : Genuine c P saved f) {more : List (String × Store)} (hmore : saved ⊆ more) :
    Genuine c P more f := by
  intro p hp bytes hbytes
  obtain ⟨s, hs, heq⟩ := h p hp bytes hbytes
  exact ⟨s, hmore hs, heq⟩

/-- No file is new. -/
theorem of_files (h : Genuine c P saved f) (hhere : g.here = f.here)
    (hfiles : ∀ q bytes, g.at? q = some (.file bytes) → f.at? q = some (.file bytes)) :
    Genuine c P saved g := by
  intro p hp bytes hbytes
  rw [Files.spot_congr hhere] at hbytes
  exact h p hp bytes (hfiles _ _ hbytes)

/-- Writing the entry of a project, with what is saved for it. -/
theorem writeEntry (hP : Set.InjOn projectHash P) (h : Genuine c P saved f) {p : String}
    (hp : p ∈ P) {s : Store} (hwrite : c.writeEntry f p s = .ok g) :
    Genuine c P (saved ++ [(p, s)]) g := by
  obtain ⟨f', hmake, hwrite⟩ := exists_of_writeEntry hwrite
  obtain ⟨hhere, hfiles⟩ := Files.at?_of_makeFolder hmake
  obtain ⟨hhere', hput⟩ := Files.at?_of_write hwrite
  have h' : Genuine c P saved f' := h.of_files hhere hfiles
  intro q hq bytes hbytes
  rw [hput, Files.spot_congr hhere'] at hbytes
  by_cases hqp : q = p
  · -- the entry that was written
    rw [hqp, if_pos rfl] at hbytes
    cases hbytes
    exact ⟨s, by rw [hqp]; simp, rfl⟩
  · -- another project has another entry, which is as before
    have hne : f'.spot (c.entryPath q) ≠ f'.spot (c.entryPath p) := by
      unfold entryPath
      rw [Files.spot_under f' (isName_entryName q), Files.spot_under f' (isName_entryName p)]
      intro heq
      have hname := List.singleton_inj.mp (List.append_cancel_left heq)
      exact hqp (hP hq hp (projectHash_of_entryName hname))
    rw [if_neg hne] at hbytes
    obtain ⟨u, hu, heq⟩ := h' q hq bytes hbytes
    exact ⟨u, List.mem_append_left _ hu, heq⟩

/-- What the cache offers for a project is a graph that was saved for it, as it is read. -/
theorem offers (h : Genuine c P saved f) (hlegible : ∀ x ∈ saved, Legible x.2) {p : String}
    (hp : p ∈ P) {t : Store} (ht : c.offers f p = some t) :
    ∃ s, (p, s) ∈ saved ∧ t = s.reread := by
  have hlookup : c.lookup f p = .ok (some t) := by
    unfold Cache.offers at ht
    split at ht
    · rename_i hfound
      rw [hfound, ht]
    · cases ht
  obtain ⟨text, htext, hof⟩ := readText_of_lookup hlookup
  -- the text is that of the file, and the file that of a saved graph
  cases hread : f.read (c.entryPath p) with
  | error fault =>
    unfold Files.readText at htext
    rw [hread] at htext
    cases htext
  | ok bytes =>
    obtain ⟨s, hs, rfl⟩ := h p hp bytes (Files.at?_spot_of_read hread)
    have hpretty := Files.readText_of_read (Json.allPlain_pretty _) hread
    rw [hpretty] at htext
    cases htext
    rw [(hlegible _ hs).ofText] at hof
    cases hof
    exact ⟨s, hs, rfl⟩

end Genuine

end Cache

/-! ## Sessions at work -/

/-- A workspace and the sessions that work in it, each known by its number. -/
structure Room where
  workspace : Workspace
  sessions : Nat → Session

namespace Room

/-- A call of a session, or anything else that happens to the workspace. -/
inductive Action where
  | analyze (i : Nat) (path : String) (force : Bool)
  | load (i : Nat) (path : String)
  | clear (i : Nat) (path : Option String)
  | list (i : Nat)
  | ask (i : Nat) (q : Query)
  | disturb (w : Workspace)

/-- Sessions that have done nothing yet, each with its own limit. -/
def opened (w : Workspace) (limits : Nat → Option Int) : Room :=
  ⟨w, fun i => { limit := limits i }⟩

/-- The room with another session under a number. -/
def setSession (r : Room) (i : Nat) (s : Session) : Room :=
  { r with sessions := Function.update r.sessions i s }

/-- The room after work, with what the work gives if it succeeds. -/
def after {α : Type} (r : Room) (x : Work α) (use : α → Room → Room) : Room :=
  match x.run r.workspace with
  | (.ok a, w) => use a { r with workspace := w }
  | (.error _, w) => { r with workspace := w }

section
variable (tools : Nat → Tools)

/-- The room after a call. -/
def step (r : Room) : Action → Room
  | .analyze i path force =>
    r.after (Session.analyze (tools i) (r.sessions i) path force) fun a r => r.setSession i a.1
  | .load i path =>
    r.after (Session.loadCached (tools i) (r.sessions i) path) fun a r => r.setSession i a.1
  | .clear i path => r.after (Session.clearCache (tools i) path) fun _ r => r
  | .list i => r.after (tools i).cache.list fun _ r => r
  | .ask _ _ => r
  | .disturb w => { r with workspace := w }

/-- The room after some calls, the first one first. -/
def run (r : Room) (as : List Action) : Room :=
  as.foldl (step tools) r

/-- Whether a call of a session reports success: analyzing does if it does not fail, loading
    if a graph was loaded. Other calls do not count. -/
def succeeds (r : Room) (i : Nat) : Action → Bool
  | .analyze j path force =>
    j == i &&
      match ((Session.analyze (tools j) (r.sessions j) path force).run r.workspace).1 with
      | .ok _ => true
      | .error _ => false
  | .load j path =>
    j == i &&
      match ((Session.loadCached (tools j) (r.sessions j) path).run r.workspace).1 with
      | .ok (_, .loaded _) => true
      | _ => false
  | _ => false

/-! ### What a call is meant to give -/

/-- The project that a call is for. -/
def project? (r : Room) : Action → Option String
  | .analyze _ path _ | .load _ path => some (r.workspace.files.key path)
  | _ => none

/-- The graph that a call builds and saves, with its project. -/
def saved? (r : Room) : Action → Option (String × Store)
  | .analyze i path force =>
    let p := r.workspace.files.key path
    match Session.consult (tools i) r.workspace.files force p with
    | .ok none => ((r.sessions i).stored (tools i) r.workspace p).toOption.map fun e => (p, e.1)
    | _ => none
  | _ => none

/-- The graph that a call finds, with its project. -/
def found? (r : Room) : Action → Option (String × Store)
  | .analyze i path force =>
    let p := r.workspace.files.key path
    match Session.consult (tools i) r.workspace.files force p with
    | .ok found => found.map (p, ·)
    | .error _ => none
  | .load i path =>
    let p := r.workspace.files.key path
    ((tools i).cache.offers r.workspace.files p).map (p, ·)
  | _ => none

/-- The session that makes a call. -/
def Action.session? : Action → Option Nat
  | .analyze i .. | .load i _ | .clear i _ | .list i | .ask i _ => some i
  | .disturb _ => none

/-- What a call gives a session: what it finds, or else what it builds and saves. -/
def yields (r : Room) (i : Nat) (a : Action) : Option (String × Store) :=
  if a.session? = some i then (r.found? tools a).or (r.saved? tools a) else none

/-- What the latest call of a session that succeeded has given it. -/
def latest (r : Room) (i : Nat) : List Action → Option (String × Store)
  | [] => none
  | a :: as => (latest (r.step tools a) i as).or (r.yields tools i a)

/-- All graphs that are built and saved, with their projects. -/
def saves (r : Room) : List Action → List (String × Store)
  | [] => []
  | a :: as => (r.saved? tools a).toList ++ saves (r.step tools a) as

/-- The projects that calls are for. -/
def projects (r : Room) : List Action → List String
  | [] => []
  | a :: as => (r.project? a).toList ++ projects (r.step tools a) as

end

/-! ## One call -/

section
variable {tools : Nat → Tools} {r : Room}

theorem after_ok {α : Type} {x : Work α} {a : α} {w : Workspace}
    (h : x.run r.workspace = (.ok a, w)) (use : α → Room → Room) :
    r.after x use = use a { r with workspace := w } := by
  unfold after
  rw [h]

theorem after_error {α : Type} {x : Work α} {e : Failure} {w : Workspace}
    (h : x.run r.workspace = (.error e, w)) (use : α → Room → Room) :
    r.after x use = { r with workspace := w } := by
  unfold after
  rw [h]

theorem setSession_sessions (r : Room) (i : Nat) (s : Session) (j : Nat) :
    (r.setSession i s).sessions j = if i = j then s else r.sessions j := by
  show Function.update r.sessions i s j = _
  by_cases h : i = j
  · rw [if_pos h, h, Function.update_self]
  · rw [if_neg h, Function.update_of_ne (Ne.symm h)]

end

/-- No file is new. -/
def NoNewFile (f g : Files) : Prop :=
  g.here = f.here ∧ ∀ q bytes, g.at? q = some (.file bytes) → f.at? q = some (.file bytes)

/-- What a step can do: a call finds a graph, or builds and saves one, and the session has
    it then, or nothing is given to any session. -/
inductive Outcome (tools : Nat → Tools) (r : Room) (a : Action) : Prop
  | found (i : Nat) (p : String) (g : Store) (w : Workspace)
      (session : a.session? = some i) (project : r.project? a = some p)
      (found : r.found? tools a = some (p, g)) (saved : r.saved? tools a = none)
      (offers : (tools i).cache.offers r.workspace.files p = some g)
      (step : r.step tools a
        = { r with workspace := w }.setSession i ((r.sessions i).become g p))
      (files : w.files = r.workspace.files)
      (succeeds : ∀ j, r.succeeds tools j a = (i == j))
  | built (i : Nat) (p : String) (o : Build.Options) (g : Store) (w : Workspace)
      (session : a.session? = some i) (project : r.project? a = some p)
      (found : r.found? tools a = none) (saved : r.saved? tools a = some (p, g))
      (extractor : o.extractor = (tools i).extractor)
      (built : Build.saved o r.workspace.files r.workspace.now p = .ok g)
      (write : (tools i).cache.writeEntry r.workspace.files p g = .ok w.files)
      (step : r.step tools a
        = { r with workspace := w }.setSession i ((r.sessions i).become g p))
      (succeeds : ∀ j, r.succeeds tools j a = (i == j))
  | nothing (w : Workspace)
      (found : r.found? tools a = none) (saved : r.saved? tools a = none)
      (step : r.step tools a = { r with workspace := w })
      (files : a = .disturb w ∨ NoNewFile r.workspace.files w.files)
      (succeeds : ∀ j, r.succeeds tools j a = false)

section
variable (tools : Nat → Tools) (r : Room)

theorem outcome_analyze (i : Nat) (path : String) (force : Bool) :
    Outcome tools r (.analyze i path force) := by
  rcases Session.analyze_cases (tools i) (r.sessions i) path force r.workspace with
    ⟨g, w, hconsult, hrun, hfiles⟩ | ⟨g, stats, w, hconsult, hstored, hrun⟩ |
      ⟨e, w, hfailed, hrun, hfiles⟩
  · refine .found i (r.workspace.files.key path) g w rfl rfl ?_ ?_
      (Session.offers_of_consult hconsult) ?_ hfiles ?_
    · rw [found?, hconsult]
      rfl
    · rw [saved?, hconsult]
    · rw [step, after_ok hrun]
    · intro j
      rw [succeeds, hrun, Bool.and_true]
  · obtain ⟨hbuilt, hwrite⟩ := Session.stored_eq_ok.mp hstored
    refine .built i (r.workspace.files.key path) _ g w rfl rfl ?_ ?_ rfl hbuilt hwrite ?_ ?_
    · rw [found?, hconsult]
      rfl
    · rw [saved?, hconsult]
      dsimp only
      rw [hstored]
      rfl
    · rw [step, after_ok hrun]
    · intro j
      rw [succeeds, hrun, Bool.and_true]
  · refine .nothing w ?_ ?_ ?_ (.inr ?_) ?_
    · rcases hfailed with hconsult | ⟨hconsult, _⟩
      · rw [found?, hconsult]
      · rw [found?, hconsult]
        rfl
    · rcases hfailed with hconsult | ⟨hconsult, hstored⟩
      · rw [saved?, hconsult]
      · rw [saved?, hconsult]
        dsimp only
        rw [hstored]
        rfl
    · rw [step, after_error hrun]
    · rcases hfiles with hfiles | ⟨_, hmake⟩
      · rw [hfiles]
        exact ⟨rfl, fun _ _ h => h⟩
      · exact Files.at?_of_makeFolder hmake
    · intro j
      rw [succeeds, hrun, Bool.and_false]

theorem outcome_load (i : Nat) (path : String) : Outcome tools r (.load i path) := by
  rcases Session.loadCached_cases (tools i) (r.sessions i) path r.workspace with
    ⟨g, w, hoffers, hrun, hfiles⟩ | ⟨hoffers, ⟨l, w, hrun, hfiles, hloaded⟩ |
      ⟨e, w, _, hrun, hfiles⟩⟩
  · refine .found i (r.workspace.files.key path) g w rfl rfl ?_ rfl hoffers ?_ hfiles ?_
    · rw [found?, hoffers]
      rfl
    · rw [step, after_ok hrun]
    · intro j
      rw [succeeds, hrun, Bool.and_true]
  · refine .nothing w ?_ rfl ?_ (.inr ?_) ?_
    · rw [found?, hoffers]
      rfl
    · -- the session is set to itself
      rw [step, after_ok hrun]
      show { r with workspace := w }.setSession i (r.sessions i) = _
      unfold setSession
      rw [Function.update_eq_self]
    · rw [hfiles]
      exact ⟨rfl, fun _ _ h => h⟩
    · intro j
      rw [succeeds, hrun]
      cases l with
      | loaded summary => exact absurd rfl (hloaded summary)
      | absent | corrupted => exact Bool.and_false _
  · refine .nothing w ?_ rfl ?_ (.inr ?_) ?_
    · rw [found?, hoffers]
      rfl
    · rw [step, after_error hrun]
    · rw [hfiles]
      exact ⟨rfl, fun _ _ h => h⟩
    · intro j
      rw [succeeds, hrun, Bool.and_false]

/-- Work that is not for a session gives nothing to any. -/
theorem step_of_after {α : Type} (x : Work α) :
    (r.after x fun _ r => r) = { r with workspace := (x.run r.workspace).2 } := by
  unfold after
  split
  · rename_i hrun
    rw [hrun]
  · rename_i hrun
    rw [hrun]

theorem outcome (a : Action) : Outcome tools r a := by
  cases a with
  | analyze i path force => exact outcome_analyze tools r i path force
  | load i path => exact outcome_load tools r i path
  | clear i path =>
    have hlosing := Session.clearCache_losing (tools i) path r.workspace
    exact .nothing _ rfl rfl (step_of_after r _)
      (.inr ⟨hlosing.1, fun q _ => hlosing.2 q _⟩) fun _ => rfl
  | list i =>
    refine .nothing _ rfl rfl (step_of_after r (tools i).cache.list) (.inr ?_) fun _ => rfl
    rw [show ((tools i).cache.list.run r.workspace).2.files = _ from
      (tools i).cache.list_none r.workspace]
    exact ⟨rfl, fun _ _ h => h⟩
  | ask i q => exact .nothing r.workspace rfl rfl rfl (.inr ⟨rfl, fun _ _ h => h⟩) fun _ => rfl
  | disturb w => exact .nothing w rfl rfl rfl (.inl rfl) fun _ => rfl

end

/-! ### The pair of a session -/

/-- The pair of a session that has been given something. -/
def pairOf (given : String × Store) : Option Store × Option String :=
  (some given.2, some given.1)

section
variable {tools : Nat → Tools} {r : Room}

/-- A step sets the pair of a session to what it is given, or leaves it. -/
theorem pair_step (i : Nat) (a : Action) :
    ((r.step tools a).sessions i).pair
      = ((r.yields tools i a).map pairOf).getD (r.sessions i).pair := by
  unfold yields
  cases outcome tools r a with
  | found j p g w hsession hproject hfound hsaved hoffers hstep hfiles hsucceeds =>
    -- only the session that makes the call is set
    rw [hstep, setSession_sessions, hsession, hfound]
    by_cases hij : j = i
    · rw [if_pos hij, if_pos (by rw [hij])]
      rfl
    · rw [if_neg hij, if_neg (by simpa using hij)]
      rfl
  | built j p o g w hsession hproject hfound hsaved _ _ hwrite hstep hsucceeds =>
    rw [hstep, setSession_sessions, hsession, hfound, hsaved]
    by_cases hij : j = i
    · rw [if_pos hij, if_pos (by rw [hij])]
      rfl
    · rw [if_neg hij, if_neg (by simpa using hij)]
      rfl
  | nothing w hfound hsaved hstep hfiles hsucceeds =>
    rw [hstep, hfound, hsaved]
    split <;> rfl

/-- A call reports success exactly if it gives something. -/
theorem isSome_yields (i : Nat) (a : Action) :
    (r.yields tools i a).isSome = r.succeeds tools i a := by
  unfold yields
  cases outcome tools r a with
  | found j p g w hsession hproject hfound hsaved hoffers hstep hfiles hsucceeds =>
    rw [hsession, hfound, hsucceeds]
    by_cases hij : j = i <;> simp [hij]
  | built j p o g w hsession hproject hfound hsaved _ _ hwrite hstep hsucceeds =>
    rw [hsession, hfound, hsaved, hsucceeds]
    by_cases hij : j = i <;> simp [hij]
  | nothing w hfound hsaved hstep hfiles hsucceeds =>
    rw [hfound, hsaved, hsucceeds]
    split <;> rfl

/-- After some calls a session has what its latest success has given it. -/
theorem pair_run (i : Nat) (as : List Action) :
    ((r.run tools as).sessions i).pair
      = ((r.latest tools i as).map pairOf).getD (r.sessions i).pair := by
  induction as generalizing r with
  | nil => rfl
  | cons a as ih =>
    show (((r.step tools a).run tools as).sessions i).pair = _
    rw [ih, pair_step, latest]
    cases latest tools (r.step tools a) i as with
    | some given => rfl
    | none => rfl

/-- There is a latest success exactly if there is a success. -/
theorem isSome_latest (i : Nat) (as : List Action) :
    (r.latest tools i as).isSome = true ↔
      ∃ before a rest, as = before ++ a :: rest ∧ (r.run tools before).succeeds tools i a = true := by
  induction as generalizing r with
  | nil =>
    refine ⟨fun h => (by cases h), ?_⟩
    rintro ⟨before, a, rest, heq, _⟩
    cases before <;> cases heq
  | cons a as ih =>
    rw [latest, Option.isSome_or, Bool.or_eq_true, ih, isSome_yields]
    constructor
    · rintro (⟨before, b, rest, rfl, hsucc⟩ | hsucc)
      · exact ⟨a :: before, b, rest, rfl, hsucc⟩
      · exact ⟨[], a, as, rfl, hsucc⟩
    · rintro ⟨before, b, rest, heq, hsucc⟩
      cases before with
      | nil =>
        cases heq
        exact .inr hsucc
      | cons c before =>
        cases heq
        exact .inl ⟨before, b, rest, rfl, hsucc⟩

end

/-! ## Graphs of their projects -/

/-- The entries are genuine, what was saved was built for its project, and every session
    has a graph that was saved for its project. -/
structure Honest (c : Cache) (P : Set String) (r : Room) (saved : List (String × Store)) :
    Prop where
  genuine : c.Genuine P saved r.workspace.files
  built : ∀ x ∈ saved, ∃ o disk now, o.extractor.IsFaithful ∧ Build.saved o disk now x.1 = .ok x.2
  held : ∀ i p g, (r.sessions i).pair = (some g, some p) → ∃ s, (p, s) ∈ saved ∧ g.SameGraph s

section
variable {tools : Nat → Tools} {c : Cache} {P : Set String} {r : Room}
  {saved : List (String × Store)}

theorem honest_opened {w : Workspace} (h : c.Genuine P [] w.files) (limits : Nat → Option Int) :
    Honest c P (opened w limits) [] where
  genuine := h
  built _ hx := by cases hx
  held _ _ _ hpair := by cases hpair

/-- What was saved can be read. -/
theorem Honest.legible (h : Honest c P r saved) : ∀ x ∈ saved, Cache.Legible x.2 := by
  intro x hx
  obtain ⟨o, disk, now, hx, hbuilt⟩ := h.built x hx
  exact Build.legible_saved hx hbuilt

/-- Only the session that is given a graph has to be looked at. -/
theorem Honest.held_set (h : Honest c P r saved) {j : Nat} {p : String} {g s : Store}
    (hs : (p, s) ∈ saved) (hsame : g.SameGraph s) (w : Workspace) (i : Nat) (q : String)
    (u : Store) (hpair : (({ r with workspace := w }.setSession j
      ((r.sessions j).become g p)).sessions i).pair = (some u, some q)) :
    ∃ s, (q, s) ∈ saved ∧ u.SameGraph s := by
  rw [setSession_sessions] at hpair
  split at hpair
  · cases hpair
    exact ⟨s, hs, hsame⟩
  · exact h.held i q u hpair

/-- A graph that was built is saved, too. -/
theorem Honest.grow (h : Honest c P r saved) {p : String} {g : Store}
    (hbuilt : ∃ o disk now, o.extractor.IsFaithful ∧ Build.saved o disk now p = .ok g) :
    Honest c P r (saved ++ [(p, g)]) where
  genuine := h.genuine.mono (List.subset_append_left _ _)
  built := by
    intro x hx
    rcases List.mem_append.mp hx with hx | hx
    · exact h.built x hx
    · rw [List.mem_singleton.mp hx]
      exact hbuilt
  held i q u hpair := (h.held i q u hpair).imp fun _ hs => ⟨List.mem_append_left _ hs.1, hs.2⟩

/-- **One call.** -/
theorem Honest.step (hcache : ∀ i, (tools i).cache = c)
    (hx : ∀ i, (tools i).extractor.IsFaithful) (hP : Set.InjOn Cache.projectHash P)
    (h : Honest c P r saved) {a : Action} (hproject : ∀ p, r.project? a = some p → p ∈ P)
    (hrely : ∀ w, a = .disturb w → c.Genuine P saved w.files) :
    Honest c P (r.step tools a) (saved ++ (r.saved? tools a).toList) := by
  cases outcome tools r a with
  | found i p g w _ hp _ hsaved hoffers hstep hfiles _ =>
    rw [hsaved, hstep, Option.toList_none, List.append_nil]
    rw [hcache] at hoffers
    obtain ⟨s, hs, rfl⟩ := h.genuine.offers h.legible (hproject p hp) hoffers
    refine ⟨?_, h.built, h.held_set hs (h.legible _ hs).coherent.sameGraph_reread w⟩
    show c.Genuine P saved w.files
    rw [hfiles]
    exact h.genuine
  | built i p o g w _ hp _ hsaved hextractor hbuilt hwrite hstep _ =>
    rw [hcache] at hwrite
    have hgrown := h.grow ⟨o, _, _, hextractor ▸ hx i, hbuilt⟩
    rw [hsaved, hstep, Option.toList_some]
    exact ⟨h.genuine.writeEntry hP (hproject p hp) hwrite, hgrown.built,
      hgrown.held_set (List.mem_append_right _ List.mem_cons_self) (Store.sameGraph_refl _) w⟩
  | nothing w _ hsaved hstep hfiles _ =>
    rw [hsaved, hstep, Option.toList_none, List.append_nil]
    refine ⟨?_, h.built, h.held⟩
    -- what others do is genuine by assumption, and a call that gives nothing adds no file
    rcases hfiles with rfl | ⟨hhere, hfiles⟩
    · exact hrely w rfl
    · exact h.genuine.of_files hhere hfiles

/-- **Any calls.** -/
theorem Honest.run (hcache : ∀ i, (tools i).cache = c)
    (hx : ∀ i, (tools i).extractor.IsFaithful) (hP : Set.InjOn Cache.projectHash P)
    {as : List Action} (h : Honest c P r saved)
    (hprojects : ∀ p ∈ r.projects tools as, p ∈ P)
    (hrely : ∀ before w rest, as = before ++ .disturb w :: rest →
      c.Genuine P (saved ++ r.saves tools before) w.files) :
    Honest c P (r.run tools as) (saved ++ r.saves tools as) := by
  induction as generalizing r saved with
  | nil =>
    rw [saves, List.append_nil]
    exact h
  | cons a as ih =>
    have hone := h.step hcache hx hP (a := a)
      (fun p hp => hprojects p (by rw [projects, hp]; exact List.mem_cons_self))
      (fun w hw => by
        have := hrely [] w as (by rw [hw]; rfl)
        rwa [saves, List.append_nil] at this)
    have hrest := ih hone
      (fun p hp => hprojects p (by rw [projects]; exact List.mem_append_right _ hp))
      (fun before w rest heq => by
        have := hrely (a :: before) w rest (by rw [heq]; rfl)
        rwa [saves, ← List.append_assoc] at this)
    rw [saves, ← List.append_assoc]
    exact hrest

/-- What a session has in an honest room. -/
theorem Honest.pair (h : Honest c P r saved) {i : Nat} {p : String} {g : Store}
    (hpair : (r.sessions i).pair = (some g, some p)) :
    g.metadata.projectPath = .str p ∧ g.projectHash = .str (Cache.projectHash p) ∧
    (∀ e ∈ g.edges.toList, g.nodes.contains e.dst = true) ∧
    ∃ s, (p, s) ∈ saved ∧ g.SameGraph s := by
  obtain ⟨s, hs, hsame⟩ := h.held i p g hpair
  obtain ⟨o, disk, now, _, hbuilt⟩ := h.built _ hs
  obtain ⟨hproject, hhash⟩ := Build.stamps_saved hbuilt
  refine ⟨?_, ?_, ?_, s, hs, hsame⟩
  · rw [hsame.metadata, hproject]
  · rw [hsame.projectHash, hhash]
  · intro e he
    rw [hsame.nodes]
    exact Build.contains_dst_saved hbuilt (hsame.edges.mem_iff.mp he)

end

/-! ## After any calls -/

/-- **Sessions that share saved graphs.** After any calls of any sessions, with anything
    happening to the files in between, the graph and the project of a session are those that
    its latest success has given it, and there are none exactly if it had no success. The
    next call sets them together if it is a call of this session that reports success, and
    otherwise leaves them. Questions are refused for want of a graph exactly if there is none.

    If no entry of the cache is ever anything but a graph that was saved for its project by
    one of these calls, what is read of files is fit to be kept, as it is for source files, and
    the digests of the projects differ, then the graph of a session is
    that of its project: it has the stamps of the project, its edges end at its symbols, and it
    is the graph that one of the calls has built for the project. -/
theorem sessions_run (tools : Nat → Tools) (w : Workspace) (limits : Nat → Option Int)
    (as : List Action) :
    let start := opened w limits
    let r := start.run tools as
    (∀ i, (r.sessions i).pair = ((start.latest tools i as).map pairOf).getD (none, none)) ∧
    (∀ i, (r.sessions i).pair = (none, none) ↔ ¬ ∃ before a rest, as = before ++ a :: rest ∧
      (start.run tools before).succeeds tools i a = true) ∧
    (∀ i a, r.succeeds tools i a = true → ∃ given, r.yields tools i a = some given ∧
      ((r.step tools a).sessions i).pair = pairOf given) ∧
    (∀ i a, r.succeeds tools i a = false →
      ((r.step tools a).sessions i).pair = (r.sessions i).pair) ∧
    (∀ i q, (r.sessions i).ask q = .error .notLoaded ↔ (r.sessions i).pair = (none, none)) ∧
    (∀ c, (∀ i, (tools i).cache = c) → (∀ i, (tools i).extractor.IsFaithful) →
      Set.InjOn Cache.projectHash {p | p ∈ start.projects tools as} →
      c.Genuine {p | p ∈ start.projects tools as} [] w.files →
      (∀ before u rest, as = before ++ .disturb u :: rest →
        c.Genuine {p | p ∈ start.projects tools as} (start.saves tools before) u.files) →
      ∀ i p g, (r.sessions i).pair = (some g, some p) →
        g.metadata.projectPath = .str p ∧ g.projectHash = .str (Cache.projectHash p) ∧
        (∀ e ∈ g.edges.toList, g.nodes.contains e.dst = true) ∧
        ∃ s, (p, s) ∈ start.saves tools as ∧ g.SameGraph s) := by
  intro start r
  have hpair : ∀ i, (r.sessions i).pair
      = ((start.latest tools i as).map pairOf).getD (none, none) := fun i => pair_run i as
  -- the graph alone tells whether there is a pair
  have hnone : ∀ i, (r.sessions i).pair = (none, none) ↔ (start.latest tools i as) = none := by
    intro i
    rw [hpair i]
    cases start.latest tools i as with
    | none => exact ⟨fun _ => rfl, fun _ => rfl⟩
    | some given => exact ⟨nofun, nofun⟩
  have hstore : ∀ i, (r.sessions i).store = none ↔ (r.sessions i).pair = (none, none) := by
    intro i
    have hi := hpair i
    cases hlatest : start.latest tools i as with
    | none =>
      rw [hlatest] at hi
      exact ⟨fun _ => hi, fun h => congrArg Prod.fst h⟩
    | some given =>
      rw [hlatest] at hi
      have hsome : (r.sessions i).store = some given.2 := congrArg Prod.fst hi
      rw [hsome, hi]
      exact ⟨nofun, nofun⟩
  refine ⟨hpair, ?_, ?_, ?_, ?_, ?_⟩
  · intro i
    rw [hnone, ← isSome_latest, Bool.not_eq_true, Option.isSome_eq_false_iff, Option.isNone_iff_eq_none]
  · intro i a hsucc
    rw [← isSome_yields] at hsucc
    obtain ⟨given, hgiven⟩ := Option.isSome_iff_exists.mp hsucc
    refine ⟨given, hgiven, ?_⟩
    rw [pair_step, hgiven]
    rfl
  · intro i a hsucc
    rw [← isSome_yields, Option.isSome_eq_false_iff, Option.isNone_iff_eq_none] at hsucc
    rw [pair_step, hsucc]
    rfl
  · intro i q
    rw [Session.ask_eq_notLoaded, hstore]
  · intro c hcache hx hP hgenuine hrely i p g hpg
    exact ((honest_opened hgenuine limits).run hcache hx hP (fun p hp => hp) hrely).pair hpg

/-- A session loads before there is a saved graph and fails, time passes, another session
    analyzes the project, and the first one clears the saved graphs: the second session still
    has the graph of the project, and the first one has none. -/
theorem sessions_run_cleared :
    let settings : Settings := ⟨"/home", "/home/cache", 1000⟩
    let tools : Nat → Tools := fun _ => { settings := settings }
    let source := Text.Utf8.encode "function f() {}"
    let w : Workspace :=
      { files := { entries := Table.ofList [(["p"], .folder), (["p", "a.js"], .file source)] } }
    let as : List Action := [.load 1 "/p", .disturb { w with now := "t1" }, .analyze 0 "/p" false,
      .clear 1 none]
    let r := (opened w fun _ => none).run tools as
    (r.sessions 1).pair = (none, none) ∧
    ∃ g, (r.sessions 0).pair = (some g, some "/p") ∧ g.metadata.projectPath = .str "/p" ∧
      g.projectHash = .str (Cache.projectHash "/p") := by
  intro settings tools source w as r
  obtain ⟨hpair, _, _, _, _, hgraphs⟩ := sessions_run tools w (fun _ => none) as
  -- the actions need not be run to compare rooms
  have hr : r = (opened w fun _ => none).run tools as := rfl
  rw [← hr] at hpair hgraphs
  clear_value r
  have hprojects : (opened w fun _ => none).projects tools as = ["/p", "/p"] := by decide +kernel
  have hmem : ∀ p ∈ (opened w fun _ => none).projects tools as, p = "/p" := by
    rw [hprojects]
    decide
  have hgenuine : (tools 0).cache.Genuine {p | p ∈ (opened w fun _ => none).projects tools as} []
      w.files := by
    have hnone : w.files.at? (w.files.spot ((tools 0).cache.entryPath "/p")) = none := by
      decide +kernel
    intro p hp bytes hbytes
    rw [hmem p hp, hnone] at hbytes
    cases hbytes
  have hlatest : ((opened w fun _ => none).latest tools 0 as).map (·.1) = some "/p" := by
    decide +kernel
  have hfailed : ((opened w fun _ => none).latest tools 1 as).map (·.1) = none := by
    decide +kernel
  refine ⟨?_, ?_⟩
  · rw [hpair 1, Option.map_eq_none_iff.mp hfailed]
    rfl
  · obtain ⟨⟨p, g⟩, hgiven, hp⟩ := Option.map_eq_some_iff.mp hlatest
    obtain rfl : p = "/p" := hp
    have hg : (r.sessions 0).pair = (some g, some "/p") := by
      rw [hpair 0, hgiven]
      rfl
    have hfacts := hgraphs (tools 0).cache (fun _ => rfl)
      (fun _ => Build.isFaithful_sourceExtractor []) (by
      intro p hp q hq _
      rw [hmem p hp, hmem q hq]) hgenuine (by
      intro before u rest heq
      have hu : Action.disturb u ∈ as := by
        rw [heq]
        simp
      have hu : u = { w with now := "t1" } := by simpa [as] using hu
      rw [hu]
      exact hgenuine.mono (List.nil_subset _)) 0 "/p" g hg
    exact ⟨g, hg, hfacts.1, hfacts.2.1⟩

end Room

end SymbolGraph
