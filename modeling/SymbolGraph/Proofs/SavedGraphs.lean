import Mathlib.Logic.Function.Basic
import SymbolGraph.Proofs.Entries
import SymbolGraph.Proofs.JsonText

/-! # The cache as a map of graphs

    Graphs are made, changed and saved for projects, and the cache is asked for them, in
    any order. Saving changes the graph itself: it stamps it with the project, the digest
    and the time. So a graph that is saved for two projects is stamped twice, and the
    first entry must keep the first stamps.

    * `Bench` holds the files and the graphs that are worked on, and `Bench.step` is one
      operation.
    * `Bench.live` says which graph was saved last for each project and not deleted since.
      It looks at the operations and the graphs, never at the files.
    * `Bench.Agrees` is the invariant, `Bench.agrees_step` the step and `Bench.agrees_run`
      the run.
    * `Bench.answers_run` is the main result: after any run, the cache answers as the map
      `Bench.live` does.
-/

namespace SymbolGraph

/-- A workspace and the graphs that are worked on. A graph is known by its number, so
    changes of it are seen under every project it is saved for. -/
structure Bench where
  workspace : Workspace
  graphs : Nat → Store

namespace Bench

/-! ## Operations -/

/-- An operation of the cache, a change of a graph, or a new time on the clock. -/
inductive Action where
  | create (i : Nat)
  | change (i : Nat) (c : Change)
  | save (i : Nat) (project : String)
  | load (i : Nat) (project : String)
  | delete (project : String)
  | deleteAll
  | list
  | tick (now : String)

namespace Action

/-- The project that an operation is for. -/
def project? : Action → Option String
  | .save _ p | .load _ p | .delete p => some p
  | _ => none

/-- Whether an operation makes no symbol whose file cannot be looked up. -/
def isFit : Action → Bool
  | .change _ c => c.isFit
  | _ => true

/-- Whether an operation is meant to leave the entry of a project alone. -/
def spares (p : String) : Action → Bool
  | .save _ q | .delete q => q ≠ p
  | .deleteAll => false
  | _ => true

end Action

/-- The bench with a graph under a number. -/
def setGraph (b : Bench) (i : Nat) (s : Store) : Bench :=
  { b with graphs := Function.update b.graphs i s }

/-- The bench after work, with what was done to the graphs if the work succeeds. -/
def after {α : Type} (b : Bench) (x : Work α) (use : α → Bench → Bench) : Bench :=
  match x.run b.workspace with
  | (.ok a, w) => use a { b with workspace := w }
  | (.error _, w) => { b with workspace := w }

/-- The bench after an operation. -/
def step (c : Cache) (b : Bench) : Action → Bench
  | .create i => b.setGraph i (Store.empty b.workspace.now)
  | .change i d => b.setGraph i ((b.graphs i).apply d)
  | .save i p => b.after (c.save (b.graphs i) p) fun r b => b.setGraph i r.1
  | .load i p => b.after (c.load p) fun r b => r.elim b (b.setGraph i)
  | .delete p => b.after (c.delete p) fun _ b => b
  | .deleteAll => b.after c.deleteAll fun _ b => b
  | .list => b.after c.list fun _ b => b
  | .tick now => { b with workspace := { b.workspace with now := now } }

/-- The bench after some operations, the first one first. -/
def run (c : Cache) (b : Bench) (as : List Action) : Bench :=
  as.foldl (step c) b

/-- A bench with new graphs only. -/
def opened (w : Workspace) : Bench :=
  ⟨w, fun _ => Store.empty w.now⟩

/-! ### What the cache should hold -/

/-- The graph that an operation saves, as it is saved. -/
def saved? (b : Bench) : Action → Option Store
  | .save i p => some (Cache.stamped (b.graphs i) p b.workspace.now)
  | _ => none

/-- The saved graphs after an operation. -/
def record (b : Bench) (m : Table String Store) : Action → Table String Store
  | .save i p => m.insert p (Cache.stamped (b.graphs i) p b.workspace.now)
  | .delete p => m.filter (· != p)
  | .deleteAll => {}
  | .create _ | .change .. | .load .. | .list | .tick _ => m

/-- For each project the graph that was saved last and not deleted since, as it was when
    it was saved. -/
def live (c : Cache) (b : Bench) (m : Table String Store) : List Action → Table String Store
  | [] => m
  | a :: as => live c (b.step c a) (b.record m a) as

/-- All graphs that are saved, as they are saved. -/
def saves (c : Cache) (b : Bench) : List Action → List Store
  | [] => []
  | a :: as => (b.saved? a).toList ++ saves c (b.step c a) as

/-! ## The invariant -/

/-- The files stand for a map, and all graphs can be written and read. -/
structure Agrees (c : Cache) (P : Set String) (b : Bench) (m : Table String Store) : Prop where
  holds : c.Holds b.workspace.files m
  paths : ∀ p, m.contains p = true → p ∈ P
  legible : ∀ p s, m.get? p = some s → Cache.Legible s
  stamp : ∀ p s, m.get? p = some s → s.metadata.projectPath = .str p
  graphs : ∀ i, (b.graphs i).Regular

theorem agrees_opened {c : Cache} {w : Workspace} (h : c.IsFresh w.files) (P : Set String) :
    Agrees c P (opened w) {} where
  holds := .fresh h rfl
  paths _ hp := by cases hp
  legible _ _ hs := by cases hs
  stamp _ _ hs := by cases hs
  graphs _ := Store.regular_empty w.now

/-! ### One operation -/

theorem after_gives {α : Type} {b : Bench} {x : Work α} {a : α} {Q : Files → Prop}
    (h : x.Gives b.workspace a Q) (use : α → Bench → Bench) :
    ∃ w, b.after x use = use a { b with workspace := w } ∧ w.now = b.workspace.now ∧
      Q w.files := by
  obtain ⟨w, hrun, hnow, hQ⟩ := h
  refine ⟨w, ?_, hnow, hQ⟩
  unfold after
  rw [hrun]

theorem graphs_after {α : Type} (b : Bench) (x : Work α) :
    (b.after x fun _ b => b).graphs = b.graphs := by
  unfold after
  split <;> rfl

/-- What is in the map after an operation was there before, or has just been saved. -/
theorem record_cases {b : Bench} {m : Table String Store} {a : Action} {p : String} {s : Store}
    (h : (b.record m a).get? p = some s) : m.get? p = some s ∨
      ∃ i, a = .save i p ∧ s = Cache.stamped (b.graphs i) p b.workspace.now := by
  cases a with
  | save i q =>
    rw [record, Table.get?_insert] at h
    split at h
    · rename_i hqp
      rw [beq_iff_eq.mp hqp] at h ⊢
      exact .inr ⟨i, rfl, (Option.some.inj h).symm⟩
    · exact .inl h
  | delete q =>
    rw [record, Table.get?_filter] at h
    split at h
    · exact .inl h
    · cases h
  | deleteAll => cases h
  | create | change | load | list | tick => exact .inl h

/-- An operation that is meant to leave the entry of a project alone does so. -/
theorem get?_record {b : Bench} {m : Table String Store} {a : Action} {p : String}
    (h : a.spares p = true) : (b.record m a).get? p = m.get? p := by
  cases a with
  | save i q =>
    have hqp : q ≠ p := of_decide_eq_true h
    rw [record, Table.get?_insert, if_neg (by simpa using hqp)]
  | delete q =>
    have hqp : q ≠ p := of_decide_eq_true h
    rw [record, Table.get?_filter, if_pos (by simpa using Ne.symm hqp)]
  | deleteAll => cases h
  | create | change | load | list | tick => rfl

section Step

variable {c : Cache} {P : Set String} {b : Bench} {m : Table String Store}

theorem Agrees.paths_record (h : Agrees c P b m) {a : Action}
    (hpath : ∀ p, a.project? = some p → p ∈ P) {p : String}
    (hp : (b.record m a).contains p = true) : p ∈ P := by
  rw [← Table.isSome_get?] at hp
  obtain ⟨s, hs⟩ := Option.isSome_iff_exists.mp hp
  rcases record_cases hs with hs | ⟨i, rfl, _⟩
  · exact h.paths p (Table.contains_of_get? hs)
  · exact hpath p rfl

/-- What the files stand for changes as the map does. -/
theorem Agrees.holds_step (hP : Set.InjOn Cache.projectHash P) (h : Agrees c P b m) {a : Action}
    (hpath : ∀ p, a.project? = some p → p ∈ P) :
    c.Holds (b.step c a).workspace.files (b.record m a) := by
  cases a with
  | create | change | tick => exact h.holds
  | save i p =>
    obtain ⟨w, hafter, _, holds⟩ :=
      after_gives (h.holds.save hP h.paths (hpath p rfl) (b.graphs i)) fun r b => b.setGraph i r.1
    rw [step, record, hafter]
    exact holds
  | load i p =>
    -- loading may set a graph, but leaves the files alone
    obtain ⟨w, hafter, _, hfiles⟩ := after_gives
      (h.holds.load hP h.paths (hpath p rfl) (h.legible p)) fun r b => r.elim b (b.setGraph i)
    have holds : c.Holds w.files m := by
      rw [hfiles]
      exact h.holds
    rw [step, record, hafter]
    cases (m.get? p).map Store.reread with
    | none => exact holds
    | some t => exact holds
  | delete p =>
    obtain ⟨w, hafter, _, holds⟩ :=
      after_gives (h.holds.delete hP h.paths (hpath p rfl)) fun _ b => b
    rw [step, record, hafter]
    exact holds
  | deleteAll =>
    obtain ⟨w, hafter, _, holds⟩ := after_gives (h.holds.deleteAll hP h.paths) fun _ b => b
    rw [step, record, hafter]
    exact holds
  | list =>
    obtain ⟨there, hthere⟩ := h.holds.sound.exists_has c.folder
    obtain ⟨w, hafter, _, hfiles⟩ := after_gives (Cache.list_gives hthere) fun _ b => b
    rw [step, record, hafter]
    show c.Holds w.files m
    rw [hfiles]
    exact h.holds

theorem regular_setGraph (hb : ∀ i, (b.graphs i).Regular) {i : Nat} {s : Store} (hs : s.Regular)
    (j : Nat) : ((b.setGraph i s).graphs j).Regular := by
  show (Function.update b.graphs i s j).Regular
  by_cases hj : j = i
  · rw [hj, Function.update_self]
    exact hs
  · rw [Function.update_of_ne hj]
    exact hb j

/-- The graphs that are worked on stay regular. -/
theorem Agrees.graphs_step (hP : Set.InjOn Cache.projectHash P) (h : Agrees c P b m) {a : Action}
    (hpath : ∀ p, a.project? = some p → p ∈ P) (hfit : a.isFit = true) (j : Nat) :
    ((b.step c a).graphs j).Regular := by
  cases a with
  | create i => exact regular_setGraph h.graphs (Store.regular_empty _) j
  | change i d => exact regular_setGraph h.graphs ((h.graphs i).apply hfit) j
  | save i p =>
    obtain ⟨w, hafter, _, _⟩ :=
      after_gives (h.holds.save hP h.paths (hpath p rfl) (b.graphs i)) fun r b => b.setGraph i r.1
    have hstamped : (Cache.stamped (b.graphs i) p b.workspace.now).Regular :=
      (h.graphs i).apply (c := .stamp p b.workspace.now) rfl
    rw [step, hafter]
    exact regular_setGraph h.graphs hstamped j
  | load i p =>
    obtain ⟨w, hafter, _, _⟩ := after_gives
      (h.holds.load hP h.paths (hpath p rfl) (h.legible p)) fun r b => r.elim b (b.setGraph i)
    rw [step, hafter]
    cases hget : m.get? p with
    | none => exact h.graphs j
    | some s => exact regular_setGraph h.graphs (h.legible p s hget).toRegular.reread j
  | delete | deleteAll | list =>
    rw [step, graphs_after]
    exact h.graphs j
  | tick => exact h.graphs j

/-- **One operation.** The files stand for the map after it, if the graph that it saves can
    be read from its text. -/
theorem agrees_step (hP : Set.InjOn Cache.projectHash P) (h : Agrees c P b m) {a : Action}
    (hpath : ∀ p, a.project? = some p → p ∈ P) (hfit : a.isFit = true)
    (hparses : ∀ s, b.saved? a = some s → Json.parse s.toDocument.pretty = .ok s.toDocument) :
    Agrees c P (b.step c a) (b.record m a) := by
  refine ⟨h.holds_step hP hpath, fun _ => h.paths_record hpath, ?_, ?_,
    h.graphs_step hP hpath hfit⟩
  · -- stamping a graph is one more change of it
    intro p s hs
    rcases record_cases hs with hs | ⟨i, rfl, rfl⟩
    · exact h.legible p s hs
    · exact ⟨(h.graphs i).apply (c := .stamp p b.workspace.now) rfl, hparses _ rfl⟩
  · intro p s hs
    rcases record_cases hs with hs | ⟨i, rfl, rfl⟩
    · exact h.stamp p s hs
    · rfl

/-- **Any run of operations.** -/
theorem agrees_run (hP : Set.InjOn Cache.projectHash P) (h : Agrees c P b m) {as : List Action}
    (hpaths : ∀ a ∈ as, ∀ p, a.project? = some p → p ∈ P)
    (hfit : ∀ a ∈ as, a.isFit = true)
    (hparses : ∀ s ∈ b.saves c as, Json.parse s.toDocument.pretty = .ok s.toDocument) :
    Agrees c P (b.run c as) (b.live c m as) := by
  induction as generalizing b m with
  | nil => exact h
  | cons a as ih =>
    refine ih (agrees_step hP h (hpaths a List.mem_cons_self) (hfit a List.mem_cons_self) ?_)
      ?_ ?_ ?_
    · intro s hs
      apply hparses
      rw [saves, hs]
      exact List.mem_cons_self
    · exact fun a' ha' => hpaths a' (List.mem_cons_of_mem _ ha')
    · exact fun a' ha' => hfit a' (List.mem_cons_of_mem _ ha')
    · intro s hs
      apply hparses
      rw [saves]
      exact List.mem_append_right _ hs

end Step

/-! ## What the cache answers -/

/-- The result of work on the bench. -/
def answer {α : Type} (b : Bench) (x : Work α) : Except Failure α :=
  (x.run b.workspace).1

theorem answer_of_gives {α : Type} {b : Bench} {x : Work α} {a : α} {Q : Files → Prop}
    (h : x.Gives b.workspace a Q) : b.answer x = .ok a := by
  obtain ⟨w, hrun, _⟩ := h
  unfold answer
  rw [hrun]

/-- The cache answers as a map does. -/
structure Answers (c : Cache) (P : Set String) (b : Bench) (m : Table String Store) : Prop where
  /-- Saving succeeds. -/
  save : ∀ i, ∀ p ∈ P, b.answer (c.save (b.graphs i) p)
    = .ok (Cache.stamped (b.graphs i) p b.workspace.now, c.entryPath p)
  /-- Loading gives the graph of the map, with all that it had when it was saved. -/
  load_live : ∀ p ∈ P, ∀ s, m.get? p = some s →
    ∃ t, b.answer (c.load p) = .ok (some t) ∧ t.SameGraph s ∧ t.metadata.projectPath = .str p
  load_none : ∀ p ∈ P, m.get? p = none → b.answer (c.load p) = .ok none
  /-- Operations for other projects do not change what loading gives. -/
  load_step : ∀ a : Action, (∀ q, a.project? = some q → q ∈ P) → ∀ p ∈ P, a.spares p = true →
    (b.step c a).answer (c.load p) = b.answer (c.load p)
  /-- Deleting tells whether loading would have given a graph. -/
  delete : ∀ p ∈ P, ∃ r, b.answer (c.load p) = .ok r ∧ b.answer (c.delete p) = .ok r.isSome
  deleteAll : b.answer c.deleteAll = .ok m.size
  /-- Listing tells of each project of the map once, in the order of the entries' names,
      and counts what loading would give. -/
  list : ∃ l, b.answer c.list = .ok l ∧ l.Pairwise (fun g h => g.file < h.file) ∧
    (l.map (·.projectPath)).Perm (m.keys.map .str) ∧
    ∀ g ∈ l, ∃ p t, m.contains p = true ∧ g.file = Cache.entryName p ∧ g.projectPath = .str p ∧
      b.answer (c.load p) = .ok (some t) ∧ g.nodeCount = t.nodeCount ∧ g.edgeCount = t.edgeCount

section Answers

variable {c : Cache} {P : Set String} {b : Bench} {m : Table String Store}

theorem Agrees.answer_load (hP : Set.InjOn Cache.projectHash P) (h : Agrees c P b m) {p : String}
    (hp : p ∈ P) : b.answer (c.load p) = .ok ((m.get? p).map Store.reread) :=
  answer_of_gives (h.holds.load hP h.paths hp (h.legible p))

theorem Agrees.load_step (hP : Set.InjOn Cache.projectHash P) (h : Agrees c P b m) {a : Action}
    (hpath : ∀ q, a.project? = some q → q ∈ P) {p : String} (hp : p ∈ P)
    (hspares : a.spares p = true) : (b.step c a).answer (c.load p) = b.answer (c.load p) := by
  -- loading reads the graph of the map, and the operation has left that one alone
  have hget : (b.record m a).get? p = m.get? p := get?_record hspares
  have hstep : (b.step c a).answer (c.load p) = .ok (((b.record m a).get? p).map Store.reread) := by
    apply answer_of_gives
    apply (h.holds_step hP hpath).load hP (fun _ => h.paths_record hpath) hp
    rw [hget]
    exact h.legible p
  rw [hstep, hget, h.answer_load hP hp]

theorem Agrees.listed (hP : Set.InjOn Cache.projectHash P) (h : Agrees c P b m) :
    ∃ l, b.answer c.list = .ok l ∧ l.Pairwise (fun g h => g.file < h.file) ∧
      (l.map (·.projectPath)).Perm (m.keys.map .str) ∧
      ∀ g ∈ l, ∃ p t, m.contains p = true ∧ g.file = Cache.entryName p ∧ g.projectPath = .str p ∧
        b.answer (c.load p) = .ok (some t) ∧ g.nodeCount = t.nodeCount ∧
        g.edgeCount = t.edgeCount := by
  have hperm := h.holds.listing_perm hP h.paths h.legible
  obtain ⟨there, hthere⟩ := h.holds.sound.exists_has c.folder
  refine ⟨c.listing b.workspace.files, answer_of_gives (Cache.list_gives hthere),
    c.listing_increasing _, ?_, ?_⟩
  · have hprojects : (m.entries.map fun e => Cache.summary e.1 e.2).map (·.projectPath)
        = m.keys.map .str := by
      unfold Table.keys
      rw [List.map_map, List.map_map]
      apply List.map_congr_left
      intro e he
      exact h.stamp e.1 e.2 (Table.get?_of_mem he)
    rw [← hprojects]
    exact hperm.map _
  · intro g hg
    obtain ⟨e, he, rfl⟩ := List.mem_map.mp (hperm.mem_iff.mp hg)
    have hget : m.get? e.1 = some e.2 := Table.get?_of_mem he
    have hcontains := Table.contains_of_get? hget
    have hcoherent := (h.legible _ _ hget).coherent
    have hsame := hcoherent.sameGraph_reread
    refine ⟨e.1, e.2.reread, hcontains, rfl, h.stamp _ _ hget, ?_, ?_, ?_⟩
    · rw [h.answer_load hP (h.paths _ hcontains), hget]
      rfl
    · unfold Store.nodeCount
      rw [hsame.nodes]
      rfl
    · rw [hsame.edgeCount_eq, ← hcoherent.length_edgeList]
      rfl

theorem Agrees.answers (hP : Set.InjOn Cache.projectHash P) (h : Agrees c P b m) :
    Answers c P b m where
  save i p hp := answer_of_gives (h.holds.save hP h.paths hp (b.graphs i))
  load_live p hp s hs := by
    have hsame := (h.legible p s hs).coherent.sameGraph_reread
    refine ⟨s.reread, ?_, hsame, ?_⟩
    · rw [h.answer_load hP hp, hs]
      rfl
    · rw [hsame.metadata]
      exact h.stamp p s hs
  load_none p hp hnone := by
    rw [h.answer_load hP hp, hnone]
    rfl
  load_step a hpath p hp hspares := h.load_step hP hpath hp hspares
  delete p hp := by
    refine ⟨_, h.answer_load hP hp, ?_⟩
    rw [Option.isSome_map, Table.isSome_get?]
    exact answer_of_gives (h.holds.delete hP h.paths hp)
  deleteAll := answer_of_gives (h.holds.deleteAll hP h.paths)
  list := h.listed hP

end Answers

/-- **The cache is a map of graphs.** After any run of operations from an empty folder, the
    cache answers as the map of the graphs that were saved last and not deleted since. This
    rests on two things: the digests of the projects in use differ, and the text of each
    document that is saved can be read as that document. -/
theorem answers_run (c : Cache) (w : Workspace) (hfresh : c.IsFresh w.files) (P : Set String)
    (hP : Set.InjOn Cache.projectHash P) (as : List Action)
    (hpaths : ∀ a ∈ as, ∀ p, a.project? = some p → p ∈ P) (hfit : ∀ a ∈ as, a.isFit = true)
    (hparses : ∀ s ∈ (opened w).saves c as,
      Json.parse s.toDocument.pretty = .ok s.toDocument) :
    Answers c P ((opened w).run c as) ((opened w).live c {} as) :=
  (agrees_run hP (agrees_opened hfresh P) hpaths hfit hparses).answers hP

/-- One graph is saved for two projects and changed in between, the first entry is loaded
    and then deleted. The folder is made by the first save. -/
theorem answers_shared_graph :
    let c : Cache := ⟨"/home/cache"⟩
    let node : Symbol := ⟨.str "f", .str "a.js", .int 1, .function (.arr []) (.bool false) (.bool true)⟩
    let as : List Action := [.list, .change 0 (.addNode (.str "x") node), .save 0 "/a", .tick "t1",
      .change 0 (.addEdge ⟨.str "x", .str "y", .str "calls"⟩), .save 0 "/b", .load 1 "/a",
      .delete "/a"]
    ((opened {}).live c {} as).keys = ["/b"] ∧
      Answers c {"/a", "/b"} ((opened {}).run c as) ((opened {}).live c {} as) := by
  intro c node as
  have hfresh : c.IsFresh {} := by
    refine ⟨⟨rfl, ?_, rfl⟩, by decide +kernel⟩
    intro p n hn
    rw [Files.at?_of_ne_nil _ (by simp)] at hn
    cases hn
  have hP : Set.InjOn Cache.projectHash {"/a", "/b"} := by
    have hne : Cache.projectHash "/a" ≠ Cache.projectHash "/b" := by decide +kernel
    rintro p (rfl | rfl) q (rfl | rfl) h
    · rfl
    · exact absurd h hne
    · exact absurd h.symm hne
    · rfl
  have hpaths : ∀ a ∈ as, ∀ p, a.project? = some p → p ∈ ({"/a", "/b"} : Set String) := by
    have hall : ∀ a ∈ as, ∀ p ∈ a.project?, p = "/a" ∨ p = "/b" := by decide
    exact fun a ha p hp => hall a ha p hp
  have hsimple : ∀ s ∈ (opened {}).saves c as, s.toDocument.isSimple = true := by decide +kernel
  exact ⟨by decide +kernel, answers_run c {} hfresh {"/a", "/b"} hP as hpaths (by decide)
    fun s hs => Json.parse_pretty (hsimple s hs)⟩

end Bench

end SymbolGraph
