import SymbolGraph.Command.Run
import SymbolGraph.Proofs.Calls

/-! # Commands that ask

    A command that asks something opens the project it is given, or else the current one,
    and shows what it finds in the saved graph. What it does after the project is open is
    calm (`Work.Calm`): it leaves the files alone and fails only where a value has the wrong
    form. So whatever it tells about a saved graph that is missing or cannot be read comes
    from opening the project (`Command.Asks.error`), and only the file of an export is ever
    written (`Command.run_files`).
-/

namespace SymbolGraph

/-! ## Calm work -/

/-- Whether a failure turns down what was asked for, rather than being about files or the
    form of values. -/
def Failure.isRefusal : Failure → Bool
  | .corrupted _ | .notLoaded | .refused _ => true
  | _ => false

namespace Work

/-- Nothing is refused. -/
def Obliges {α : Type} (x : Work α) : Prop :=
  ∀ w e, (x.run w).1 = .error e → e.isRefusal = false

/-- Files stay as they are, and nothing is refused. -/
structure Calm {α : Type} (x : Work α) : Prop where
  quiet : x.Has .none
  obliges : x.Obliges

variable {α β : Type}

theorem Obliges.bind {x : Work α} {k : α → Work β} (hx : x.Obliges) (hk : ∀ a, (k a).Obliges) :
    (x >>= k).Obliges := by
  intro w e he
  have hw := hx w
  rw [run_bind_eq] at he
  rcases hrun : x.run w with ⟨r, w'⟩
  rw [hrun] at he hw
  cases r with
  | ok a => exact hk a w' e he
  | error e' =>
    cases he
    exact hw e rfl

theorem calm_pure (a : α) : (pure a : Work α).Calm :=
  ⟨has_pure a, fun _ _ he => by cases he⟩

theorem calm_throw {e : Failure} (he : e.isRefusal = false) : (throw e : Work α).Calm := by
  refine ⟨has_throw e, fun w e' he' => ?_⟩
  cases he'
  exact he

theorem calm_get : (get : Work Workspace).Calm :=
  ⟨has_get, fun _ _ he => by cases he⟩

theorem Calm.bind {x : Work α} {k : α → Work β} (hx : x.Calm) (hk : ∀ a, (k a).Calm) :
    (x >>= k).Calm :=
  ⟨hx.quiet.bind fun a => (hk a).quiet, hx.obliges.bind fun a => (hk a).obliges⟩

theorem calm_mapM {k : α → Work β} (hk : ∀ a, (k a).Calm) (l : List α) : (l.mapM k).Calm := by
  induction l with
  | nil => exact calm_pure _
  | cons a l ih =>
    rw [List.mapM_cons]
    exact (hk a).bind fun _ => ih.bind fun _ => calm_pure _

/-- A change of files that fails says so. -/
theorem change_obliges (op : Files → Except Files.Fault Files) : (change op).Obliges := by
  intro w e he
  cases hop : op w.files with
  | ok g =>
    rw [run_change hop] at he
    cases he
  | error fault =>
    rw [run_change_error hop] at he
    cases he
    rfl

end Work

namespace CurrentProject

theorem get_quiet (c : CurrentProject) : c.get.Has .none :=
  Work.has_get.bind fun _ => Work.has_ofExcept _

theorem run_get (c : CurrentProject) (w : Workspace) :
    c.get.run w = (Work.ofExcept (c.lookup w.files)).run w := rfl

end CurrentProject

namespace Command

open Work

theorem wellFormed_calm {α : Type} (x : Except Malformed α) : (wellFormed x).Calm := by
  cases x with
  | ok a => exact calm_pure a
  | error fault => exact calm_throw rfl

theorem gridText_calm (t : Tools) (g : Screen.Grid) : (gridText t g).Calm := by
  unfold gridText
  split
  · exact calm_pure _
  · exact calm_throw rfl

theorem cellText_calm (v : Json) : (cellText v).Calm := by
  unfold cellText
  split
  · exact calm_pure _
  · exact calm_pure _
  · exact calm_throw rfl

theorem connectionsGrid_calm (title : String) (cs : List Connection) :
    (connectionsGrid title cs).Calm :=
  (calm_mapM (fun _ => (cellText_calm _).bind fun _ => (cellText_calm _).bind fun _ =>
    (cellText_calm _).bind fun _ => calm_pure _) cs).bind fun _ => calm_pure _

theorem callText_calm (t : Tools) (e : CallEntry) : (callText t e).Calm := by
  unfold callText
  split
  · exact calm_pure _
  · exact (cellText_calm _).bind fun _ => (connectionsGrid_calm _ _).bind fun _ =>
      gridText_calm _ _

/-! ## Opening a project -/

/-- What is told about a project whose saved graph cannot be opened. -/
def notOpened (l : Loaded) (path : String) : String :=
  s!"{l.message}: {path}. Run 'jsg analyze {path}'."

/-- What is told if no project is current. -/
def noProject : String :=
  "No project loaded. Use 'jsg analyze <path>' or 'jsg load <path>'."

/-- A failure for want of a saved graph that can be read. -/
def LacksGraph (e : Failure) : Prop :=
  (∃ fault, e = .corrupted fault) ∨ ∃ l path, e = .refused (notOpened l path)

theorem take_append {s : String} (h : 4 ≤ s.toList.length) (rest : String) :
    (s ++ rest).toList.take 4 = s.toList.take 4 := by
  rw [String.toList_append, List.take_append_of_le_length h]

/-- The messages about a project that cannot be opened are told by how they start. -/
theorem take_notOpened (l : Loaded) (path : String) :
    (notOpened l path).toList.take 4 ∈ ["No c".toList, "Cach".toList, "Grap".toList] := by
  have hmessage : ∃ rest, notOpened l path = l.message ++ rest := by
    refine ⟨": " ++ (path ++ (". Run 'jsg analyze " ++ (path ++ "'."))), ?_⟩
    unfold notOpened
    simp only [toString, String.append_assoc]
  obtain ⟨rest, hrest⟩ := hmessage
  rw [hrest]
  -- four characters are enough, though two messages start with "No"
  cases l with
  | absent =>
    rw [show Loaded.absent.message = "No cached graph found for this project" from rfl,
      take_append (by decide)]
    decide
  | corrupted reason =>
    rw [show (Loaded.corrupted reason).message = "Cached graph is corrupted: " ++ reason from rfl,
      String.append_assoc, take_append (by decide)]
    decide
  | loaded summary =>
    rw [show (Loaded.loaded summary).message = "Graph loaded from cache" from rfl,
      take_append (by decide)]
    decide

theorem not_lacksGraph_refused {message : String}
    (h : message.toList.take 4 ∉ ["No c".toList, "Cach".toList, "Grap".toList]) :
    ¬ LacksGraph (.refused message) := by
  rintro (⟨fault, heq⟩ | ⟨l, path, heq⟩)
  · cases heq
  · cases heq
    exact h (take_notOpened l path)

theorem not_lacksGraph_of_not_refusal {e : Failure} (h : e.isRefusal = false) :
    ¬ LacksGraph e := by
  rintro (⟨fault, rfl⟩ | ⟨l, path, rfl⟩) <;> cases h

section
variable (t : Tools)

theorem loadCached_quiet (s : Session) (path : String) : (Session.loadCached t s path).Has .none := by
  intro w
  rcases Session.loadCached_cases t s path w with ⟨_, w', _, hrun, hfiles⟩ |
    ⟨_, ⟨_, w', hrun, hfiles, _⟩ | ⟨_, w', _, hrun, hfiles⟩⟩ <;>
  · rw [hrun]
    exact hfiles

theorem projectPath_quiet (project : Option String) : (projectPath t project).Has .none := by
  unfold projectPath
  cases project with
  | some path => exact has_pure _
  | none =>
    refine (state t).get_quiet.bind fun current => ?_
    dsimp only
    split
    · exact (has_throw _).bind fun _ => by split <;> first | exact has_pure _ | exact has_throw _
    · split <;> first | exact has_pure _ | exact has_throw _

theorem openProject_quiet (project : Option String) : (openProject t project).Has .none := by
  refine (projectPath_quiet t project).bind fun path => (loadCached_quiet t {} path).bind ?_
  rintro ⟨session, result⟩
  dsimp only
  split
  · exact has_pure _
  · exact has_throw _

variable {t} {w : Workspace}

/-- Without a current project none is opened. -/
theorem openProject_none (h : (state t).lookup w.files = .ok .null) :
    (openProject t none).run w = (.error (.refused noProject), w) := by
  have hpath : (projectPath t none).run w = (.error (.refused noProject), w) := by
    unfold projectPath
    dsimp only
    rw [run_bind_eq, CurrentProject.run_get, h]
    rfl
  unfold openProject
  rw [run_bind_eq, hpath]

/-- The current project is opened if there is a saved graph of it. -/
theorem openProject_current {p : String} {g : Store}
    (h : (state t).lookup w.files = .ok (.str p)) (hp : p ≠ "") (hkey : w.files.key p = p)
    (hoffers : t.cache.offers w.files p = some g) :
    ∃ w', (openProject t none).run w = (.ok ({ store := some g, project := some p }, g), w') ∧
      w'.files = w.files := by
  have hsome : Json.isEmpty (.str p) = false := by
    unfold Json.isEmpty
    simpa using hp
  have hpath : (projectPath t none).run w = (.ok p, w) := by
    unfold projectPath
    dsimp only
    rw [run_bind_eq, CurrentProject.run_get, h]
    show (if Json.isEmpty (.str p) then _ else _ : Work String).run w = _
    rw [hsome]
    rfl
  rcases Session.loadCached_cases t {} p w with ⟨g', w', hg', hrun, hfiles⟩ | ⟨hnone, _⟩
  · rw [hkey] at hg' hrun
    rw [hoffers] at hg'
    cases hg'
    refine ⟨w', ?_, hfiles⟩
    unfold openProject
    rw [run_bind hpath, run_bind hrun]
    rfl
  · rw [hkey, hoffers] at hnone
    cases hnone

end

/-! ## Questions about a project -/

/-- The project of a command that asks something about one, where one is given. -/
def asked? : Command → Option (Option String)
  | .find _ _ o | .dependencies _ _ o | .dependents _ _ o | .callGraph _ _ o | .fileSymbols _ o
  | .stats o => some o.project
  | .exportGraph _ _ _ project => some project
  | _ => none

/-- The work refuses something else, or opens a project and goes on from there. -/
inductive Asks (t : Tools) (project : Option String) (Goes : Work Output → Prop) :
    Work Output → Prop
  | opens {k : Session × Store → Work Output} (hk : ∀ a, Goes (k a)) :
    Asks t project Goes (openProject t project >>= k)
  | refuses {message : String} (h : ¬ LacksGraph (.refused message)) {k : PUnit → Work Output} :
    Asks t project Goes (throw (.refused message) >>= k)

section
variable (t : Tools)

theorem runFind_asks (query : String) (kind : Option String) (o : QueryOptions) :
    Asks t o.project Calm (runFind t query kind o) := by
  unfold runFind
  dsimp only
  split
  · exact .refuses (not_lacksGraph_refused (by decide +kernel))
  · refine .opens fun x => (wellFormed_calm _).bind fun hits => ?_
    split
    · exact calm_pure _
    · split
      · exact calm_pure _
      · exact (calm_mapM (fun _ => (cellText_calm _).bind fun _ => calm_pure _) _).bind fun _ =>
          (gridText_calm _ _).bind fun _ => calm_pure _

theorem runConnections_asks (title field nothing id : String) (depth : Int) (o : QueryOptions)
    (find : Store → List Connection) :
    Asks t o.project Calm (runConnections t title field nothing id depth o find) := by
  refine .opens fun x => ?_
  dsimp only
  split
  · exact calm_pure _
  · split
    · exact calm_pure _
    · exact (connectionsGrid_calm _ _).bind fun _ => (gridText_calm _ _).bind fun _ => calm_pure _

theorem runCallGraph_asks (name : String) (depth : Int) (o : QueryOptions) :
    Asks t o.project Calm (runCallGraph t name depth o) := by
  refine .opens fun x => (wellFormed_calm _).bind fun entries => ?_
  split
  · exact calm_pure _
  · split
    · exact calm_pure _
    · exact (calm_mapM (callText_calm t) _).bind fun _ => calm_pure _

theorem runFileSymbols_asks (file : String) (o : QueryOptions) :
    Asks t o.project Calm (runFileSymbols t file o) := by
  refine .opens fun x => (wellFormed_calm _).bind fun found => ?_
  split
  · exact calm_pure _
  · split
    · exact calm_pure _
    · exact (calm_mapM (fun _ => (cellText_calm _).bind fun _ => calm_pure _) _).bind fun _ =>
        (gridText_calm _ _).bind fun _ => calm_pure _

theorem runStats_asks (o : QueryOptions) : Asks t o.project Calm (runStats t o) := by
  refine .opens fun x => (wellFormed_calm _).bind fun stats => ?_
  split
  · exact calm_pure _
  · exact (wellFormed_calm _).bind fun _ => calm_pure _

/-! ### Exports -/

/-- The path of the file that an export is written to. -/
def exportPath (f : Files) (format : String) (output : Option String) (session : Session) : String :=
  match output with
  | some path => Path.spelled path
  | none =>
    let name := Path.name (session.project.getD "project")
    let name := if name = "" then "project" else name
    Path.under f.workingFolder s!"{name}_graph.{format}"

/-- Show a graph and write it. -/
def exportTo (store : Store) (focus format path : String) : Work Output := do
  let text ← wellFormed (
    if format = "html" then Html.render store focus else Dot.render store focus)
  Work.writeText path text
  return answer [s!"Exported graph to {path}"]

theorem exportTo_obliges (store : Store) (focus format path : String) :
    (exportTo store focus format path).Obliges :=
  (wellFormed_calm _).obliges.bind fun _ => (change_obliges _).bind fun _ =>
    (calm_pure _).obliges

/-- An export opens a project and writes one file. -/
theorem runExport_cases (focus format : String) (output project : Option String) :
    (∃ k : PUnit → Work Output, runExport t focus format output project
      = throw (.refused "Format must be one of: html, dot") >>= k) ∨
    runExport t focus format output project = openProject t project >>= fun x =>
      get >>= fun w => exportTo x.2 focus (Text.lower format)
        (exportPath w.files (Text.lower format) output x.1) := by
  unfold runExport
  dsimp only
  split
  · exact .inl ⟨_, rfl⟩
  · refine .inr (bind_congr ?_)
    rintro ⟨session, store⟩
    cases output with
    | some path => rfl
    | none =>
      simp only [pure_bind]
      rfl

theorem runExport_asks (focus format : String) (output project : Option String) :
    Asks t project Obliges (runExport t focus format output project) := by
  rcases runExport_cases t focus format output project with ⟨k, hrun⟩ | hrun
  · rw [hrun]
    exact .refuses (not_lacksGraph_refused (by decide +kernel))
  · rw [hrun]
    exact .opens fun x => calm_get.obliges.bind fun _ => exportTo_obliges _ _ _ _

end

/-! ## Commands as a whole -/

section
variable {t : Tools} {project : Option String} {x : Work Output}

theorem Asks.mono (h : Asks t project Calm x) : Asks t project Obliges x := by
  cases h with
  | opens hk => exact .opens fun a => (hk a).obliges
  | refuses h => exact .refuses h

theorem Asks.quiet (h : Asks t project Calm x) : x.Has .none := by
  cases h with
  | opens hk => exact (openProject_quiet t project).bind fun a => (hk a).quiet
  | refuses h => exact fun w => rfl

/-- A failure for want of a saved graph comes from opening the project. -/
theorem Asks.error (h : Asks t project Obliges x) {w : Workspace} {e : Failure}
    (he : (x.run w).1 = .error e) (hlacks : LacksGraph e) :
    ((openProject t project).run w).1 = .error e := by
  cases h with
  | refuses h =>
    rw [run_bind_eq] at he
    cases he
    exact absurd hlacks h
  | opens hk =>
    rw [run_bind_eq] at he
    rcases hrun : (openProject t project).run w with ⟨r, w'⟩
    rw [hrun] at he
    cases r with
    | error e' =>
      cases he
      rfl
    | ok a =>
      -- once the project is open, nothing is refused
      exact absurd hlacks (not_lacksGraph_of_not_refusal (hk a w' e he))

/-- Whether a command leaves the current project and the saved graphs to others. -/
def isReading : Command → Bool
  | .analyze .. | .load _ | .clearCache _ => false
  | _ => true

/-- The place of the file that a command is to write. -/
def written? (t : Tools) (w : Workspace) : Command → Option Place
  | .exportGraph _ format output project =>
    match ((openProject t project).run w).1 with
    | .ok (session, _) =>
      some (w.files.spot (exportPath w.files (Text.lower format) output session))
    | .error _ => none
  | _ => none

theorem run_asks {c : Command} (h : c.asked? = some project) :
    Asks t project Obliges (c.run t) := by
  unfold Command.run
  cases c with
  | find query kind o =>
    cases h
    exact (runFind_asks t query kind o).mono
  | dependencies id depth o =>
    cases h
    exact (runConnections_asks t _ _ _ id depth o _).mono
  | dependents id depth o =>
    cases h
    exact (runConnections_asks t _ _ _ id depth o _).mono
  | callGraph name depth o =>
    cases h
    exact (runCallGraph_asks t name depth o).mono
  | fileSymbols file o =>
    cases h
    exact (runFileSymbols_asks t file o).mono
  | stats o =>
    cases h
    exact (runStats_asks t o).mono
  | exportGraph focus format output project =>
    cases h
    exact runExport_asks t focus format output project
  | _ => cases h

theorem runListCached_quiet (t : Tools) (json : Bool) : (runListCached t json).Has .none := by
  refine t.cache.list_none.bind fun graphs => ?_
  dsimp only
  split
  · exact has_pure _
  · split
    · exact has_pure _
    · exact (state t).get_quiet.bind fun _ => (gridText_calm _ _).quiet.bind fun _ => has_pure _

theorem runExport_files (t : Tools) (focus format : String) (output project : Option String)
    (w : Workspace) :
    let c := Command.exportGraph focus format output project
    let g := ((runExport t focus format output project).run w).2.files
    g = w.files ∨ ∃ path bytes, written? t w c = some (w.files.spot path) ∧
      w.files.write path bytes = .ok g := by
  dsimp only
  rcases runExport_cases t focus format output project with ⟨k, hrun⟩ | hrun
  · rw [hrun]
    exact .inl rfl
  · have hquiet : ((openProject t project).run w).2.files = w.files :=
      openProject_quiet t project w
    rw [hrun, run_bind_eq, written?]
    rcases hopen : (openProject t project).run w with ⟨r, w'⟩
    rw [hopen] at hquiet
    have hquiet : w'.files = w.files := hquiet
    cases r with
    | error e => exact .inl hquiet
    | ok a =>
      obtain ⟨session, store⟩ := a
      dsimp only
      rw [run_bind (run_get w'), hquiet]
      generalize exportPath w.files (Text.lower format) output session = path
      unfold exportTo
      rw [run_bind_eq]
      -- the text is found without a change, and is then written
      generalize hshown : wellFormed _ = shown
      have hcalm : shown.Calm := by
        rw [← hshown]
        exact wellFormed_calm _
      have hsame : (shown.run w').2.files = w'.files := hcalm.quiet w'
      rcases hrun' : shown.run w' with ⟨r, w''⟩
      rw [hrun', hquiet] at hsame
      have hsame : w''.files = w.files := hsame
      cases r with
      | error e => exact .inl hsame
      | ok text =>
        dsimp only
        rw [run_bind_eq]
        unfold writeText
        cases hwrite : w''.files.write path (Text.Utf8.encode text) with
        | error fault =>
          rw [run_change_error hwrite]
          exact .inl hsame
        | ok g =>
          rw [run_change hwrite]
          rw [hsame] at hwrite
          exact .inr ⟨path, _, rfl, hwrite⟩

/-- A command that reads changes nothing, unless it writes an export. -/
theorem run_files {c : Command} (hc : c.isReading = true) (t : Tools) (w : Workspace) :
    let g := ((c.run t).run w).2.files
    g = w.files ∨ ∃ path bytes, c.written? t w = some (w.files.spot path) ∧
      w.files.write path bytes = .ok g := by
  unfold Command.run
  cases c with
  | listCached json => exact .inl (runListCached_quiet t json w)
  | currentProject => exact .inl (((state t).get_quiet.bind fun _ => has_pure _ :
      (runCurrentProject t).Has .none) w)
  | find query kind o => exact .inl ((runFind_asks t query kind o).quiet w)
  | dependencies id depth o => exact .inl ((runConnections_asks t _ _ _ id depth o _).quiet w)
  | dependents id depth o => exact .inl ((runConnections_asks t _ _ _ id depth o _).quiet w)
  | callGraph name depth o => exact .inl ((runCallGraph_asks t name depth o).quiet w)
  | fileSymbols file o => exact .inl ((runFileSymbols_asks t file o).quiet w)
  | stats o => exact .inl ((runStats_asks t o).quiet w)
  | exportGraph focus format output project =>
    exact runExport_files t focus format output project w
  | _ => cases hc

end

end Command

end SymbolGraph
