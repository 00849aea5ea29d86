import SymbolGraph.Proofs.Entries

/-! # What work does to files

    Work may fail half way, and what it did before stays done. An `Effect` says what the
    files can have become whatever came of the work: it relates the files before and after,
    and is kept by doing one thing after another. So the effect of a piece of work follows
    from those of its parts, and success and failure need not be told apart.

    Two effects are used: files stay as they are (`Effect.none`), and files may be lost
    (`Effect.losing`). Where a path leads is told by its names alone (`Files.spot`), as long
    as it leads anywhere, so what is stored there can be followed through all changes.
-/

namespace SymbolGraph

/-! ## Effects -/

/-- How files can change. -/
structure Effect where
  rel : Files → Files → Prop
  refl : ∀ f, rel f f
  trans : ∀ {f g h}, rel f g → rel g h → rel f h

namespace Effect

/-- Files stay as they are. -/
def none : Effect where
  rel f g := g = f
  refl _ := rfl
  trans h₁ h₂ := h₂.trans h₁

/-- Nothing is stored that was not stored before. -/
def losing : Effect where
  rel f g := g.here = f.here ∧ ∀ q e, g.at? q = some e → f.at? q = some e
  refl _ := ⟨rfl, fun _ _ h => h⟩
  trans h₁ h₂ := ⟨h₂.1.trans h₁.1, fun q e h => h₁.2 q e (h₂.2 q e h)⟩

end Effect

namespace Work

/-- Whatever comes of the work, the files have changed in this way. -/
def Has {α : Type} (x : Work α) (E : Effect) : Prop :=
  ∀ w, E.rel w.files (x.run w).2.files

theorem run_bind_eq {α β : Type} (x : Work α) (k : α → Work β) (w : Workspace) :
    (x >>= k).run w = match x.run w with
      | (.ok a, w') => (k a).run w'
      | (.error e, w') => (.error e, w') := by
  show (match x.run w with
    | (r, w') => ExceptT.bindCont k r w') = _
  rcases x.run w with ⟨r, w'⟩
  cases r <;> rfl

theorem run_change_error {op : Files → Except Files.Fault Files} {w : Workspace}
    {fault : Files.Fault} (h : op w.files = .error fault) :
    (change op).run w = (.error (.file fault), w) := by
  unfold change
  rw [run_bind (run_get w), h]
  rfl

variable {α β : Type} {E : Effect}

theorem has_pure (a : α) : (pure a : Work α).Has E :=
  fun w => E.refl w.files

theorem has_throw (e : Failure) : (throw e : Work α).Has E :=
  fun w => E.refl w.files

theorem has_get : (get : Work Workspace).Has E :=
  fun w => E.refl w.files

theorem has_record (rs : List Record) : (record rs).Has E :=
  fun w => E.refl w.files

theorem has_ofExcept (x : Except Failure α) : (ofExcept x).Has E := by
  cases x with
  | ok a => exact has_pure a
  | error e => exact has_throw e

theorem Has.bind {x : Work α} {k : α → Work β} (hx : x.Has E) (hk : ∀ a, (k a).Has E) :
    (x >>= k).Has E := by
  intro w
  have hw := hx w
  rw [run_bind_eq]
  rcases hrun : x.run w with ⟨r, w'⟩
  rw [hrun] at hw
  cases r with
  | ok a => exact E.trans hw (hk a w')
  | error e =>
    -- nothing follows, and what was done stays done
    exact hw

/-- Looking whether something is there changes nothing. -/
theorem has_has (path : String) : (has path).Has E :=
  has_get.bind fun _ => has_ofExcept _

theorem has_change {op : Files → Except Files.Fault Files}
    (h : ∀ f g, op f = .ok g → E.rel f g) : (change op).Has E := by
  intro w
  cases hop : op w.files with
  | ok g =>
    rw [run_change hop]
    exact h w.files g hop
  | error fault =>
    rw [run_change_error hop]
    exact E.refl w.files

end Work

/-! ## Where paths lead -/

namespace Files

/-- The place that a path means, whether there is something on the way or not. -/
def spot (f : Files) (path : String) : Place :=
  (Path.parts path).foldl onward (f.start path)

theorem foldl_of_follow {f : Files} {p q : Place} {names : List String}
    (h : f.follow p names = .ok q) : q = names.foldl onward p := by
  induction names generalizing p with
  | nil => exact (Except.ok.inj h).symm
  | cons n names ih =>
    obtain ⟨_, _, h⟩ := follow_cons.mp h
    exact ih h

/-- A path that leads somewhere leads to the place that it means. -/
theorem spot_of_place {f : Files} {path : String} {q : Place} (h : f.place path = .ok q) :
    f.spot path = q :=
  (foldl_of_follow (place_eq_ok.mp h)).symm

theorem spot_under (f : Files) {base n : String} (hn : IsName n) :
    f.spot (Path.under base n) = f.spot base ++ [n] := by
  have habs : Path.isAbsolute n = false := Path.isAbsolute_of_isPart hn.1
  have hstart : f.start (Path.under base n) = f.start base := by
    unfold start
    rw [Path.isAbsolute_under habs]
  have honward : ∀ p, onward p n = p ++ [n] := fun p => if_neg hn.2
  unfold spot
  rw [hstart, Path.parts_under habs, Path.parts_of_isPart hn.1, List.foldl_append, List.foldl_cons,
    List.foldl_nil, honward]

theorem spot_congr {f g : Files} (h : g.here = f.here) (path : String) :
    g.spot path = f.spot path := by
  unfold spot start
  rw [h]

theorem at?_spot_of_read {f : Files} {path : String} {bytes : List UInt8}
    (h : f.read path = .ok bytes) : f.at? (f.spot path) = some (.file bytes) := by
  obtain ⟨p, hplace, hat, _⟩ := read_eq_ok.mp h
  rw [spot_of_place hplace, hat]

/-! ### Changes of files -/

/-- Making folders makes no files. -/
theorem at?_of_makeFrom {f g : Files} {p : Place} {names : List String}
    (h : f.makeFrom p names = .ok g) : g.here = f.here ∧
      ∀ q bytes, g.at? q = some (.file bytes) → f.at? q = some (.file bytes) := by
  induction names generalizing f p with
  | nil =>
    cases h
    exact ⟨rfl, fun _ _ hq => hq⟩
  | cons n names ih =>
    obtain ⟨_, ⟨_, h⟩ | ⟨hnone, _, h⟩⟩ := makeFrom_cons.mp h
    · exact ih h
    · -- a folder is made here
      obtain ⟨hhere, hfiles⟩ := ih h
      refine ⟨hhere, fun q bytes hq => ?_⟩
      have hput := hfiles q bytes hq
      rw [at?_put f (ne_nil_of_at?_eq_none hnone)] at hput
      split at hput
      · cases hput
      · exact hput

theorem at?_of_makeFolder {f g : Files} {path : String} (h : f.makeFolder path = .ok g) :
    g.here = f.here ∧ ∀ q bytes, g.at? q = some (.file bytes) → f.at? q = some (.file bytes) :=
  at?_of_makeFrom (makeFolder_eq_ok.mp h)

/-- Writing a file changes what is at the place that its path means. -/
theorem at?_of_write {f g : Files} {path : String} {bytes : List UInt8}
    (h : f.write path bytes = .ok g) : g.here = f.here ∧
      ∀ q, g.at? q = if q = f.spot path then some (.file bytes) else f.at? q := by
  obtain ⟨p, hplace, hfree, _, rfl⟩ := write_eq_ok.mp h
  have hp : p ≠ [] := by
    rintro rfl
    exact hfree rfl
  rw [spot_of_place hplace]
  exact ⟨rfl, at?_put f hp _⟩

/-- Deleting a file is a loss. -/
theorem losing_of_delete {f g : Files} {path : String} (h : f.delete path = .ok g) :
    Effect.losing.rel f g := by
  obtain ⟨p, bytes, _, hbytes, _, rfl⟩ := delete_eq_ok.mp h
  have hp : p ≠ [] := by
    rintro rfl
    cases hbytes
  refine ⟨rfl, fun q e hq => ?_⟩
  rw [at?_clear f hp] at hq
  split at hq
  · cases hq
  · exact hq

end Files

/-! ## What the operations of the cache do -/

namespace Cache

theorem delete_losing (c : Cache) (project : String) : (c.delete project).Has .losing := by
  unfold Cache.delete
  refine (Work.has_has _).bind fun there => ?_
  split
  · exact Work.has_pure _
  · exact (Work.has_change fun f g h => Files.losing_of_delete h).bind fun _ =>
      (Work.has_record _).bind fun _ => Work.has_pure _

theorem deleteNames_losing (c : Cache) (names : List String) :
    (c.deleteNames names).Has .losing := by
  induction names with
  | nil => exact Work.has_pure _
  | cons n names ih =>
    exact (Work.has_change fun f g h => Files.losing_of_delete h).bind fun _ => ih

theorem names_has (c : Cache) {E : Effect} : c.names.Has E := by
  unfold Cache.names
  refine (Work.has_has _).bind fun there => ?_
  split
  · exact Work.has_pure _
  · exact Work.has_get.bind fun _ => Work.has_pure _

theorem deleteAll_losing (c : Cache) : c.deleteAll.Has .losing :=
  c.names_has.bind fun _ => (c.deleteNames_losing _).bind fun _ => Work.has_pure _

theorem tell_none (c : Cache) (name : String) : (c.tell name).Has .none := by
  unfold Cache.tell
  refine Work.has_get.bind fun w => ?_
  split
  · exact Work.has_pure _
  · split
    · exact (Work.has_record _).bind fun _ => Work.has_pure _
    · exact Work.has_throw _

theorem tellAll_none (c : Cache) (names : List String) : (c.tellAll names).Has .none := by
  induction names with
  | nil => exact Work.has_pure _
  | cons name names ih => exact (c.tell_none name).bind fun _ => ih.bind fun _ => Work.has_pure _

theorem list_none (c : Cache) : c.list.Has .none :=
  c.names_has.bind fun _ => c.tellAll_none _

end Cache

end SymbolGraph
