import SymbolGraph.Proofs.Entries
import SymbolGraph.Proofs.JsonText

/-! # Which documents can be read

    Reading a document checks nothing in advance. It looks up the fields that it needs, goes
    through lists, and uses values as ids and files, and it stops at the first thing that
    cannot be done. Which documents get through is therefore spread over all of its steps.
    Here it is said in one place, as a grammar:

    * `Store.IsDocument` is the grammar, from the whole document down to the fields of its
      items. It is written with a few forms (`IsObject`, `IsListOf`, `MayHave`, `HasKey`) and
      does not mention reading.
    * `Store.readNode_ok_iff`, `Store.readEdge_ok_iff` and `Store.readFileEntry_ok_iff` say that
      an item is read exactly if it has its form, whatever was read before it.
    * `Store.Blames` says what is wrong with a document when a fault is reported, and
      `Store.ofDocument_error` that no fault is reported otherwise.
    * `Store.ofDocument_grammar` is the main result.
-/

namespace SymbolGraph

/-! ## Steps that may fail -/

theorem bind_eq_ok {ε α β : Type} {x : Except ε α} {f : α → Except ε β} {b : β} :
    x >>= f = .ok b ↔ ∃ a, x = .ok a ∧ f a = .ok b := by
  cases x with
  | error e => exact ⟨nofun, nofun⟩
  | ok a =>
    constructor
    · intro h
      exact ⟨a, rfl, h⟩
    · rintro ⟨_, ha, h⟩
      cases ha
      exact h

theorem bind_eq_error {ε α β : Type} {x : Except ε α} {f : α → Except ε β} {e : ε} :
    x >>= f = .error e ↔ x = .error e ∨ ∃ a, x = .ok a ∧ f a = .error e := by
  cases x with
  | error e' =>
    constructor
    · intro h
      cases h
      exact .inl rfl
    · rintro (h | ⟨_, ha, _⟩)
      · cases h
        rfl
      · cases ha
  | ok a =>
    constructor
    · intro h
      exact .inr ⟨a, rfl, h⟩
    · rintro (h | ⟨_, ha, h⟩)
      · cases h
      · cases ha
        exact h

/-- Two steps succeed exactly if the first one does and the second one does with its result. -/
theorem exists_bind_ok {ε α β : Type} {x : Except ε α} {f : α → Except ε β} :
    (∃ b, x >>= f = .ok b) ↔ ∃ a, x = .ok a ∧ ∃ b, f a = .ok b := by
  simp only [bind_eq_ok]
  constructor
  · rintro ⟨b, a, ha, hb⟩
    exact ⟨a, ha, b, hb⟩
  · rintro ⟨a, ha, b, hb⟩
    exact ⟨b, a, ha, hb⟩

/-- Going through a list succeeds exactly if every item has the form that a step needs. -/
theorem foldlM_ok_iff {σ : Type} {read : σ → Json → Except Malformed σ} {form : Json → Prop}
    (h : ∀ s item, (∃ t, read s item = .ok t) ↔ form item) (items : List Json) (s : σ) :
    (∃ t, items.foldlM read s = .ok t) ↔ ∀ item ∈ items, form item := by
  induction items generalizing s with
  | nil => exact ⟨nofun, fun _ => ⟨s, rfl⟩⟩
  | cons item items ih =>
    rw [List.foldlM_cons, exists_bind_ok, List.forall_mem_cons, ← h s item]
    constructor
    · rintro ⟨u, hu, ht⟩
      exact ⟨⟨u, hu⟩, (ih u).mp ht⟩
    · rintro ⟨⟨u, hu⟩, hrest⟩
      exact ⟨u, hu, (ih u).mpr hrest⟩

/-- Going through a list fails only at an item. -/
theorem foldlM_error {σ : Type} {read : σ → Json → Except Malformed σ} {items : List Json} {s : σ}
    {e : Malformed} (h : items.foldlM read s = .error e) :
    ∃ item ∈ items, ∃ u, read u item = .error e := by
  induction items generalizing s with
  | nil => cases h
  | cons item items ih =>
    rw [List.foldlM_cons, bind_eq_error] at h
    rcases h with h | ⟨u, _, h⟩
    · exact ⟨item, List.mem_cons_self, s, h⟩
    · obtain ⟨other, hmem, hother⟩ := ih h
      exact ⟨other, List.mem_cons_of_mem _ hmem, hother⟩

/-- A value that is neither a list nor an object. -/
def Json.IsScalar : Json → Prop
  | .arr _ | .obj _ => False
  | _ => True

/-! ## Symbols -/

theorem Kind.ofName?_eq_some {s : String} {k : Kind} : ofName? s = some k ↔ s = k.name := by
  constructor
  · intro h
    have hfound := List.find?_some (p := fun k : Kind => decide (k.name = s)) h
    exact (of_decide_eq_true hfound).symm
  · rintro rfl
    exact ofName?_name k

namespace Symbol

theorem kindOf_eq_ok {v : Json} {k : Kind} : kindOf v = .ok k ↔ v = .str k.name := by
  constructor
  · intro h
    unfold kindOf at h
    split at h
    · split at h
      · rename_i s k' hk
        cases h
        rw [Kind.ofName?_eq_some.mp hk]
      · cases h
    · cases h
    · cases h
    · cases h
  · rintro rfl
    unfold kindOf
    dsimp only
    rw [Kind.ofName?_name]

/-- A kind is refused because it is a list or an object, or because it is not known. -/
theorem kindOf_error {v : Json} {e : Malformed} (h : kindOf v = .error e) :
    e = .unfit ∨ e = .missing v ∧ ∀ k : Kind, v ≠ .str k.name := by
  have hunknown : ∀ k : Kind, v ≠ .str k.name := by
    intro k hk
    rw [kindOf_eq_ok.mpr hk] at h
    cases h
  unfold kindOf at h
  split at h
  · split at h
    · cases h
    · exact .inr ⟨(Except.error.inj h).symm, hunknown⟩
  · exact .inl (Except.error.inj h).symm
  · exact .inl (Except.error.inj h).symm
  · exact .inr ⟨(Except.error.inj h).symm, hunknown⟩

/-- The fields from which a symbol is read, and the symbol. -/
theorem ofFields_eq_ok {fields : List (String × Json)} {node : Symbol} :
    ofFields fields = .ok node ↔ ∃ kind name file line,
      Json.field? "kind" fields = some (.str kind.name) ∧ (∀ f ∈ fields, f.1 ∈ allowed kind) ∧
      Json.field? "name" fields = some name ∧ Json.field? "file" fields = some file ∧
      Json.field? "line" fields = some line ∧ node = ⟨name, file, line, detailsOf kind fields⟩ := by
  have hknown : ∀ kind, fields.any (fun f => !(allowed kind).contains f.1) = false
      ↔ ∀ f ∈ fields, f.1 ∈ allowed kind := by
    intro kind
    simp only [List.any_eq_false, Bool.not_eq_true', Bool.not_eq_false, List.contains_iff_mem]
  unfold ofFields
  cases Json.field? "kind" fields with
  | none =>
    refine ⟨nofun, ?_⟩
    rintro ⟨_, _, _, _, h, _⟩
    cases h
  | some value =>
    dsimp only
    rw [bind_eq_ok]
    constructor
    · rintro ⟨kind, hkind, h⟩
      rw [kindOf_eq_ok] at hkind
      split at h
      · cases h
      · rename_i hall
        rw [Bool.not_eq_true, hknown] at hall
        split at h
        · rename_i name file line hname hfile hline
          cases h
          exact ⟨kind, name, file, line, congrArg some hkind, hall, hname, hfile, hline, rfl⟩
        · cases h
    · rintro ⟨kind, name, file, line, hkind, hall, hname, hfile, hline, rfl⟩
      refine ⟨kind, kindOf_eq_ok.mpr (Option.some.inj hkind), ?_⟩
      rw [(hknown kind).mpr hall, hname, hfile, hline]
      rfl

/-- A field that symbols need is missing only if it is the kind, or the kind is unknown. -/
theorem ofFields_error {fields : List (String × Json)} {e : Malformed}
    (h : ofFields fields = .error e) :
    e = .unfit ∨ e = .missing (.str "kind") ∧ Json.field? "kind" fields = none ∨
      ∃ value, Json.field? "kind" fields = some value ∧ e = .missing value ∧
        ∀ k : Kind, value ≠ .str k.name := by
  unfold ofFields at h
  cases hkind : Json.field? "kind" fields with
  | none =>
    rw [hkind] at h
    exact .inr (.inl ⟨(Except.error.inj h).symm, rfl⟩)
  | some value =>
    rw [hkind] at h
    dsimp only at h
    rw [bind_eq_error] at h
    rcases h with h | ⟨kind, _, h⟩
    · rcases kindOf_error h with he | ⟨he, hunknown⟩
      · exact .inl he
      · exact .inr (.inr ⟨value, rfl, he, hunknown⟩)
    · left
      split at h
      · exact (Except.error.inj h).symm
      · split at h
        · cases h
        · exact (Except.error.inj h).symm

end Symbol

namespace Store

/-! ## The grammar -/

/-- An object whose fields have a form. -/
def IsObject (form : List (String × Json) → Prop) (v : Json) : Prop :=
  ∃ fields, v = .obj fields ∧ form fields

/-- A list whose items have a form. -/
def IsListOf (form : Json → Prop) (v : Json) : Prop :=
  ∃ items, v = .arr items ∧ ∀ item ∈ items, form item

/-- There is a field of a name. -/
def Has (name : String) (fields : List (String × Json)) : Prop :=
  ∃ v, Json.field? name fields = some v

/-- There is a field of a name, with a value that can stand for an id or a file. -/
def HasKey (name : String) (fields : List (String × Json)) : Prop :=
  ∃ v, Json.field? name fields = some v ∧ v.IsScalar

/-- A field of a name is not there, or counts as absent, or has a form. -/
def MayHave (name : String) (form : Json → Prop) (fields : List (String × Json)) : Prop :=
  ∀ v, Json.field? name fields = some v → v.isEmpty = true ∨ form v

/-- The fields that tell about symbols of a kind. -/
def fieldNames : Kind → List String
  | .function => ["name", "file", "line", "params", "is_async", "is_generator"]
  | .klass => ["name", "file", "line", "superclass", "methods", "properties"]
  | .variable => ["name", "file", "line", "declaration"]

/-- The fields of an item that describes a symbol. -/
structure NodeFields (fields : List (String × Json)) : Prop where
  id : HasKey "id" fields
  /-- The kind is known, and no field is there that symbols of this kind do not have. -/
  kind : ∃ kind : Kind, Json.field? "kind" fields = some (.str kind.name) ∧
    ∀ f ∈ fields, f.1 = "id" ∨ f.1 = "kind" ∨ f.1 ∈ fieldNames kind
  name : Has "name" fields
  file : HasKey "file" fields
  line : Has "line" fields

/-- The fields of an item that describes an edge. -/
structure EdgeFields (fields : List (String × Json)) : Prop where
  src : HasKey "from" fields
  dst : HasKey "to" fields
  type : Has "type" fields

/-- Ids in a list, or something else that can be gone through: the characters of a text, or
    the names of an object's fields. -/
def AreIds : Json → Prop
  | .str _ | .obj _ => True
  | .arr items => ∀ item ∈ items, item.IsScalar
  | _ => False

/-- The fields of an item that lists the ids of a file. -/
structure FileFields (fields : List (String × Json)) : Prop where
  file : HasKey "file" fields
  ids : ∃ v, Json.field? "nodeIds" fields = some v ∧ AreIds v

/-- The fields of a document. -/
structure DocumentFields (fields : List (String × Json)) : Prop where
  metadata : MayHave "metadata" (IsObject fun _ => True) fields
  nodes : MayHave "nodes" (IsListOf (IsObject NodeFields)) fields
  edges : MayHave "edges" (IsListOf (IsObject EdgeFields)) fields
  fileIndex : MayHave "fileIndex" (IsListOf (IsObject FileFields)) fields

/-- A document that can be read. -/
def IsDocument : Json → Prop :=
  IsObject DocumentFields

/-! ## Values and fields -/

theorem keyOf_ok_iff {v : Json} : (∃ k, keyOf v = .ok k) ↔ v.IsScalar := by
  cases v with
  | arr | obj => exact ⟨nofun, nofun⟩
  | null | bool | int | real | str => exact ⟨fun _ => trivial, fun _ => ⟨_, rfl⟩⟩

theorem keyOf_error {v : Json} {e : Malformed} (h : keyOf v = .error e) : e = .unfit := by
  unfold keyOf at h
  split at h
  · cases h
  · exact (Except.error.inj h).symm

theorem needed_eq_ok {fields : List (String × Json)} {name : String} {v : Json} :
    needed fields name = .ok v ↔ Json.field? name fields = some v := by
  unfold needed
  cases Json.field? name fields with
  | none => exact ⟨nofun, nofun⟩
  | some w => exact ⟨fun h => congrArg some (Except.ok.inj h), fun h => congrArg _ (Option.some.inj h)⟩

theorem needed_error {fields : List (String × Json)} {name : String} {e : Malformed}
    (h : needed fields name = .error e) :
    e = .missing (.str name) ∧ Json.field? name fields = none := by
  unfold needed at h
  split at h
  · cases h
  · rename_i hnone
    exact ⟨(Except.error.inj h).symm, hnone⟩

theorem fieldsOf_eq_ok {v : Json} {fields : List (String × Json)} :
    fieldsOf v = .ok fields ↔ v = .obj fields := by
  cases v with
  | obj fs => exact ⟨fun h => congrArg _ (Except.ok.inj h), fun h => congrArg _ (Json.obj.inj h)⟩
  | null | bool | int | real | str | arr => exact ⟨nofun, nofun⟩

theorem fieldsOf_error {v : Json} {e : Malformed} (h : fieldsOf v = .error e) : e = .unfit := by
  unfold fieldsOf at h
  split at h
  · cases h
  · exact (Except.error.inj h).symm

/-! ## Items -/

/-- The names that an item for a symbol may have. -/
theorem mem_allowed_iff {kind : Kind} {name : String} :
    name ∈ Symbol.allowed kind ↔ name = "id" ∨ name = "kind" ∨ name ∈ fieldNames kind := by
  have hallowed : Symbol.allowed kind = "id" :: "kind" :: fieldNames kind := by
    cases kind <;> rfl
  rw [hallowed, List.mem_cons, List.mem_cons]

theorem readNode_ok_iff (s : Store) (item : Json) :
    (∃ t, readNode s item = .ok t) ↔ IsObject NodeFields item := by
  unfold readNode
  simp only [exists_bind_ok, fieldsOf_eq_ok, needed_eq_ok]
  constructor
  · rintro ⟨fields, rfl, v, hid, node, hnode, k, hk, f, hf, _⟩
    obtain ⟨kind, name, file, line, hkind, hknown, hname, hfile, hline, rfl⟩ :=
      Symbol.ofFields_eq_ok.mp hnode
    exact ⟨fields, rfl, {
      id := ⟨v, hid, keyOf_ok_iff.mp ⟨k, hk⟩⟩
      kind := ⟨kind, hkind, fun x hx => mem_allowed_iff.mp (hknown x hx)⟩
      name := ⟨name, hname⟩
      file := ⟨file, hfile, keyOf_ok_iff.mp ⟨f, hf⟩⟩
      line := ⟨line, hline⟩ }⟩
  · rintro ⟨fields, rfl, h⟩
    obtain ⟨v, hid, hv⟩ := h.id
    obtain ⟨kind, hkind, hknown⟩ := h.kind
    obtain ⟨name, hname⟩ := h.name
    obtain ⟨file, hfile, hf⟩ := h.file
    obtain ⟨line, hline⟩ := h.line
    obtain ⟨k, hk⟩ := keyOf_ok_iff.mpr hv
    obtain ⟨f, hf⟩ := keyOf_ok_iff.mpr hf
    have hnode : Symbol.ofFields fields = .ok ⟨name, file, line, Symbol.detailsOf kind fields⟩ :=
      Symbol.ofFields_eq_ok.mpr ⟨kind, name, file, line, hkind,
        fun x hx => mem_allowed_iff.mpr (hknown x hx), hname, hfile, hline, rfl⟩
    exact ⟨fields, rfl, v, hid, _, hnode, k, hk, f, hf, _, rfl⟩

theorem readEdge_ok_iff (s : Store) (item : Json) :
    (∃ t, readEdge s item = .ok t) ↔ IsObject EdgeFields item := by
  unfold readEdge
  simp only [exists_bind_ok, fieldsOf_eq_ok, needed_eq_ok]
  constructor
  · rintro ⟨fields, rfl, src, hsrc, dst, hdst, type, htype, k, hk, j, hj, _⟩
    exact ⟨fields, rfl, ⟨src, hsrc, keyOf_ok_iff.mp ⟨k, hk⟩⟩, ⟨dst, hdst, keyOf_ok_iff.mp ⟨j, hj⟩⟩,
      ⟨type, htype⟩⟩
  · rintro ⟨fields, rfl, ⟨src, hsrc, hk⟩, ⟨dst, hdst, hj⟩, ⟨type, htype⟩⟩
    obtain ⟨k, hk⟩ := keyOf_ok_iff.mpr hk
    obtain ⟨j, hj⟩ := keyOf_ok_iff.mpr hj
    exact ⟨fields, rfl, src, hsrc, dst, hdst, type, htype, k, hk, j, hj, _, rfl⟩

theorem mapM_keyOf_ok_iff {items : List Json} :
    (∃ ks, items.mapM keyOf = .ok ks) ↔ ∀ item ∈ items, item.IsScalar := by
  induction items with
  | nil => exact ⟨nofun, fun _ => ⟨[], rfl⟩⟩
  | cons item items ih =>
    rw [List.mapM_cons, exists_bind_ok, List.forall_mem_cons, ← keyOf_ok_iff, ← ih]
    simp only [exists_bind_ok]
    constructor
    · rintro ⟨k, hk, ks, hks, _⟩
      exact ⟨⟨k, hk⟩, ks, hks⟩
    · rintro ⟨⟨k, hk⟩, ks, hks⟩
      exact ⟨k, hk, ks, hks, _, rfl⟩

theorem mapM_keyOf_error {items : List Json} {e : Malformed} (h : items.mapM keyOf = .error e) :
    e = .unfit := by
  induction items with
  | nil => cases h
  | cons item items ih =>
    rw [List.mapM_cons, bind_eq_error] at h
    rcases h with h | ⟨k, _, h⟩
    · exact keyOf_error h
    · rcases bind_eq_error.mp h with h | ⟨ks, _, h⟩
      · exact ih h
      · cases h

theorem idsOf_ok_iff {v : Json} : (∃ ks, idsOf v = .ok ks) ↔ AreIds v := by
  cases v with
  | arr items => exact mapM_keyOf_ok_iff
  | str | obj => exact ⟨fun _ => trivial, fun _ => ⟨_, rfl⟩⟩
  | null | bool | int | real => exact ⟨nofun, nofun⟩

theorem idsOf_error {v : Json} {e : Malformed} (h : idsOf v = .error e) : e = .unfit := by
  cases v with
  | arr items => exact mapM_keyOf_error h
  | str | obj => cases h
  | null | bool | int | real => exact (Except.error.inj h).symm

theorem readFileEntry_ok_iff (s : Store) (item : Json) :
    (∃ t, readFileEntry s item = .ok t) ↔ IsObject FileFields item := by
  unfold readFileEntry
  simp only [exists_bind_ok, fieldsOf_eq_ok, needed_eq_ok]
  constructor
  · rintro ⟨fields, rfl, file, hfile, v, hv, ids, hids, k, hk, _⟩
    exact ⟨fields, rfl, ⟨file, hfile, keyOf_ok_iff.mp ⟨k, hk⟩⟩, ⟨v, hv, idsOf_ok_iff.mp ⟨ids, hids⟩⟩⟩
  · rintro ⟨fields, rfl, ⟨file, hfile, hk⟩, ⟨v, hv, hids⟩⟩
    obtain ⟨k, hk⟩ := keyOf_ok_iff.mpr hk
    obtain ⟨ids, hids⟩ := idsOf_ok_iff.mpr hids
    exact ⟨fields, rfl, file, hfile, v, hv, ids, hids, k, hk, _, rfl⟩

/-! ## Parts of a document -/

/-- The items of a part: none if the part is not there or counts as absent, and otherwise
    those of a list. -/
theorem itemsOf_eq_ok {fields : List (String × Json)} {name : String} {items : List Json} :
    itemsOf fields name = .ok items ↔
      items = [] ∧ (∀ v, Json.field? name fields = some v → v.isEmpty = true) ∨
      items ≠ [] ∧ Json.field? name fields = some (.arr items) := by
  unfold itemsOf Json.fieldOrNull
  cases hfield : Json.field? name fields with
  | none =>
    constructor
    · intro h
      exact .inl ⟨(Except.ok.inj h).symm, nofun⟩
    · rintro (⟨rfl, _⟩ | ⟨_, h⟩)
      · rfl
      · cases h
  | some v =>
    dsimp only [Option.getD_some]
    by_cases hempty : v.isEmpty = true
    · rw [if_pos hempty]
      constructor
      · intro h
        refine .inl ⟨(Except.ok.inj h).symm, ?_⟩
        rintro _ ⟨⟩
        exact hempty
      · rintro (⟨rfl, _⟩ | ⟨hne, h⟩)
        · rfl
        · cases h
          exact absurd (List.isEmpty_iff.mp hempty) hne
    · rw [if_neg hempty]
      cases v with
      | arr l =>
        constructor
        · intro h
          cases h
          refine .inr ⟨?_, rfl⟩
          rintro rfl
          exact hempty rfl
        · rintro (⟨_, h⟩ | ⟨_, h⟩)
          · exact absurd (h _ rfl) hempty
          · cases h
            rfl
      | null | bool | int | real | str | obj =>
        refine ⟨nofun, ?_⟩
        rintro (⟨_, h⟩ | ⟨_, h⟩)
        · exact absurd (h _ rfl) hempty
        · cases h

theorem itemsOf_error {fields : List (String × Json)} {name : String} {e : Malformed}
    (h : itemsOf fields name = .error e) : e = .unfit := by
  unfold itemsOf at h
  dsimp only at h
  split at h
  · cases h
  · split at h
    · cases h
    · exact (Except.error.inj h).symm

/-- A part is read exactly if it may be there in the way it is. -/
theorem part_ok_iff {read : Store → Json → Except Malformed Store} {form : Json → Prop}
    (h : ∀ s item, (∃ t, read s item = .ok t) ↔ form item) (fields : List (String × Json))
    (name : String) (s : Store) :
    (∃ items, itemsOf fields name = .ok items ∧ ∃ t, items.foldlM read s = .ok t) ↔
      MayHave name (IsListOf form) fields := by
  simp only [foldlM_ok_iff h]
  constructor
  · rintro ⟨items, hitems, hforms⟩ v hv
    rcases itemsOf_eq_ok.mp hitems with ⟨_, habsent⟩ | ⟨_, hlist⟩
    · exact .inl (habsent v hv)
    · rw [hlist] at hv
      cases hv
      exact .inr ⟨items, rfl, hforms⟩
  · intro hmay
    by_cases habsent : ∀ v, Json.field? name fields = some v → v.isEmpty = true
    · exact ⟨[], itemsOf_eq_ok.mpr (.inl ⟨rfl, habsent⟩), nofun⟩
    · simp only [not_forall] at habsent
      obtain ⟨v, hv, hne⟩ := habsent
      rcases hmay v hv with hempty | ⟨items, rfl, hforms⟩
      · exact absurd hempty hne
      · refine ⟨items, itemsOf_eq_ok.mpr (.inr ⟨?_, hv⟩), hforms⟩
        rintro rfl
        exact hne rfl

theorem metadataOf_ok_iff {fields : List (String × Json)} :
    (∃ m, metadataOf fields = .ok m) ↔ MayHave "metadata" (IsObject fun _ => True) fields := by
  unfold metadataOf Json.fieldOrNull MayHave
  cases hfield : Json.field? "metadata" fields with
  | none => exact ⟨nofun, fun _ => ⟨_, rfl⟩⟩
  | some v =>
    dsimp only [Option.getD_some]
    by_cases hempty : v.isEmpty = true
    · rw [if_pos hempty]
      refine ⟨?_, fun _ => ⟨_, rfl⟩⟩
      rintro _ _ ⟨⟩
      exact .inl hempty
    · rw [if_neg hempty]
      cases v with
      | obj m =>
        refine ⟨?_, fun _ => ⟨_, rfl⟩⟩
        rintro _ _ ⟨⟩
        exact .inr ⟨m, rfl, trivial⟩
      | null | bool | int | real | str | arr =>
        refine ⟨nofun, fun h => ?_⟩
        rcases h _ rfl with h | ⟨_, h, _⟩
        · exact absurd h hempty
        · cases h

theorem metadataOf_error {fields : List (String × Json)} {e : Malformed}
    (h : metadataOf fields = .error e) : e = .fieldless := by
  unfold metadataOf at h
  dsimp only at h
  split at h
  · cases h
  · split at h
    · cases h
    · exact (Except.error.inj h).symm

/-- A document is read exactly if it is one of the grammar. -/
theorem ofDocument_ok_iff (doc : Json) : (∃ s, ofDocument doc = .ok s) ↔ IsDocument doc := by
  cases doc with
  | obj fields =>
    unfold ofDocument
    simp only [exists_bind_ok]
    constructor
    · rintro ⟨m, hm, nodes, hnodes, s, hs, edges, hedges, t, ht, files, hfiles, hu⟩
      exact ⟨fields, rfl, {
        metadata := metadataOf_ok_iff.mp ⟨m, hm⟩
        nodes := (part_ok_iff readNode_ok_iff fields "nodes" _).mp ⟨nodes, hnodes, s, hs⟩
        edges := (part_ok_iff readEdge_ok_iff fields "edges" s).mp ⟨edges, hedges, t, ht⟩
        fileIndex := (part_ok_iff readFileEntry_ok_iff fields "fileIndex" t).mp
          ⟨files, hfiles, hu⟩ }⟩
    · rintro ⟨_, ⟨⟩, h⟩
      obtain ⟨m, hm⟩ := metadataOf_ok_iff.mpr h.metadata
      obtain ⟨nodes, hnodes, s, hs⟩ := (part_ok_iff readNode_ok_iff fields "nodes" _).mpr h.nodes
      obtain ⟨edges, hedges, t, ht⟩ := (part_ok_iff readEdge_ok_iff fields "edges" s).mpr h.edges
      obtain ⟨files, hfiles, hu⟩ :=
        (part_ok_iff readFileEntry_ok_iff fields "fileIndex" t).mpr h.fileIndex
      exact ⟨m, hm, nodes, hnodes, s, hs, edges, hedges, t, ht, files, hfiles, hu⟩
  | null | bool | int | real | str | arr => exact ⟨nofun, nofun⟩

/-! ## What is wrong with a document -/

/-- An item of a list that is a part of a document. -/
def InPart (name : String) (item : Json) (fields : List (String × Json)) : Prop :=
  ∃ items, Json.field? name fields = some (.arr items) ∧ item ∈ items

/-- An item has no field of a name that it needs. -/
def ItemLacks (needs : List String) (key item : Json) : Prop :=
  IsObject (fun fields => ∃ name ∈ needs, key = .str name ∧ Json.field? name fields = none) item

/-- An item for a symbol has no id or no kind, or is of a kind that is not known. -/
def NodeLacks (key item : Json) : Prop :=
  ItemLacks ["id", "kind"] key item ∨
    IsObject (fun fields => Json.field? "kind" fields = some key ∧
      ∀ kind : Kind, key ≠ .str kind.name) item

/-- Some item of a document lacks a field of this name, or is of this kind, which is not
    known. -/
def Lacks (key : Json) (fields : List (String × Json)) : Prop :=
  ∃ item, InPart "nodes" item fields ∧ NodeLacks key item ∨
    InPart "edges" item fields ∧ ItemLacks ["from", "to", "type"] key item ∨
    InPart "fileIndex" item fields ∧ ItemLacks ["file", "nodeIds"] key item

/-- What a fault says about a document. -/
def Blames (doc : Json) : Malformed → Prop
  | .notADocument => ¬ IsObject (fun _ => True) doc
  | .fieldless => IsObject (fun fields => ¬ MayHave "metadata" (IsObject fun _ => True) fields) doc
  | .missing key => IsObject (Lacks key) doc
  | .unfit => IsObject (MayHave "metadata" (IsObject fun _ => True)) doc

theorem readNode_error {s : Store} {item : Json} {e : Malformed} (h : readNode s item = .error e) :
    e = .unfit ∨ ∃ key, e = .missing key ∧ NodeLacks key item := by
  unfold readNode at h
  rcases bind_eq_error.mp h with h | ⟨fields, hfields, h⟩
  · exact .inl (fieldsOf_error h)
  rw [fieldsOf_eq_ok] at hfields
  rcases bind_eq_error.mp h with h | ⟨id, _, h⟩
  · obtain ⟨rfl, hnone⟩ := needed_error h
    exact .inr ⟨_, rfl, .inl ⟨fields, hfields, "id", by simp, rfl, hnone⟩⟩
  rcases bind_eq_error.mp h with h | ⟨node, _, h⟩
  · rcases Symbol.ofFields_error h with he | ⟨rfl, hnone⟩ | ⟨value, hvalue, rfl, hunknown⟩
    · exact .inl he
    · exact .inr ⟨_, rfl, .inl ⟨fields, hfields, "kind", by simp, rfl, hnone⟩⟩
    · exact .inr ⟨value, rfl, .inr ⟨fields, hfields, hvalue, hunknown⟩⟩
  rcases bind_eq_error.mp h with h | ⟨k, _, h⟩
  · exact .inl (keyOf_error h)
  rcases bind_eq_error.mp h with h | ⟨f, _, h⟩
  · exact .inl (keyOf_error h)
  · cases h

theorem readEdge_error {s : Store} {item : Json} {e : Malformed} (h : readEdge s item = .error e) :
    e = .unfit ∨ ∃ key, e = .missing key ∧ ItemLacks ["from", "to", "type"] key item := by
  unfold readEdge at h
  rcases bind_eq_error.mp h with h | ⟨fields, hfields, h⟩
  · exact .inl (fieldsOf_error h)
  rw [fieldsOf_eq_ok] at hfields
  rcases bind_eq_error.mp h with h | ⟨src, _, h⟩
  · obtain ⟨rfl, hnone⟩ := needed_error h
    exact .inr ⟨_, rfl, fields, hfields, "from", by simp, rfl, hnone⟩
  rcases bind_eq_error.mp h with h | ⟨dst, _, h⟩
  · obtain ⟨rfl, hnone⟩ := needed_error h
    exact .inr ⟨_, rfl, fields, hfields, "to", by simp, rfl, hnone⟩
  rcases bind_eq_error.mp h with h | ⟨type, _, h⟩
  · obtain ⟨rfl, hnone⟩ := needed_error h
    exact .inr ⟨_, rfl, fields, hfields, "type", by simp, rfl, hnone⟩
  rcases bind_eq_error.mp h with h | ⟨k, _, h⟩
  · exact .inl (keyOf_error h)
  rcases bind_eq_error.mp h with h | ⟨j, _, h⟩
  · exact .inl (keyOf_error h)
  · cases h

theorem readFileEntry_error {s : Store} {item : Json} {e : Malformed}
    (h : readFileEntry s item = .error e) :
    e = .unfit ∨ ∃ key, e = .missing key ∧ ItemLacks ["file", "nodeIds"] key item := by
  unfold readFileEntry at h
  rcases bind_eq_error.mp h with h | ⟨fields, hfields, h⟩
  · exact .inl (fieldsOf_error h)
  rw [fieldsOf_eq_ok] at hfields
  rcases bind_eq_error.mp h with h | ⟨file, _, h⟩
  · obtain ⟨rfl, hnone⟩ := needed_error h
    exact .inr ⟨_, rfl, fields, hfields, "file", by simp, rfl, hnone⟩
  rcases bind_eq_error.mp h with h | ⟨v, _, h⟩
  · obtain ⟨rfl, hnone⟩ := needed_error h
    exact .inr ⟨_, rfl, fields, hfields, "nodeIds", by simp, rfl, hnone⟩
  rcases bind_eq_error.mp h with h | ⟨ids, _, h⟩
  · exact .inl (idsOf_error h)
  rcases bind_eq_error.mp h with h | ⟨k, _, h⟩
  · exact .inl (keyOf_error h)
  · cases h

/-- A key is missing in a part only if an item of it lacks the key. -/
theorem part_error {read : Store → Json → Except Malformed Store} (lacks : Json → Json → Prop)
    (h : ∀ {s item e}, read s item = .error e → e = .unfit ∨ ∃ key, e = .missing key ∧ lacks key item)
    {fields : List (String × Json)} {name : String} {items : List Json} {s : Store} {e : Malformed}
    (hitems : itemsOf fields name = .ok items) (he : items.foldlM read s = .error e) :
    e = .unfit ∨ ∃ key, e = .missing key ∧ ∃ item, InPart name item fields ∧ lacks key item := by
  obtain ⟨item, hmem, u, hread⟩ := foldlM_error he
  have hlist : Json.field? name fields = some (.arr items) := by
    rcases itemsOf_eq_ok.mp hitems with ⟨rfl, _⟩ | ⟨_, hlist⟩
    · cases hmem
    · exact hlist
  rcases h hread with hunfit | ⟨key, hkey, hlacks⟩
  · exact .inl hunfit
  · exact .inr ⟨key, hkey, item, ⟨items, hlist, hmem⟩, hlacks⟩

/-- The fault for which a document is refused is one of the document. -/
theorem ofDocument_error {doc : Json} {e : Malformed} (h : ofDocument doc = .error e) :
    Blames doc e := by
  cases doc with
  | obj fields =>
    unfold ofDocument at h
    rcases bind_eq_error.mp h with h | ⟨m, hm, h⟩
    · -- only the metadata is asked for fields without being looked at first
      cases metadataOf_error h
      refine ⟨fields, rfl, fun hmay => ?_⟩
      obtain ⟨m, hm⟩ := metadataOf_ok_iff.mpr hmay
      rw [hm] at h
      cases h
    have hmetadata := metadataOf_ok_iff.mp ⟨m, hm⟩
    -- every later step blames a value, or an item that lacks a key
    suffices hrest : e = .unfit ∨ ∃ key, e = .missing key ∧ Lacks key fields by
      rcases hrest with rfl | ⟨key, rfl, hlacks⟩
      · exact ⟨fields, rfl, hmetadata⟩
      · exact ⟨fields, rfl, hlacks⟩
    rcases bind_eq_error.mp h with h | ⟨nodes, hnodes, h⟩
    · exact .inl (itemsOf_error h)
    rcases bind_eq_error.mp h with h | ⟨s, _, h⟩
    · exact (part_error NodeLacks readNode_error hnodes h).imp_right fun ⟨key, hkey, item, hitem⟩ =>
        ⟨key, hkey, item, .inl hitem⟩
    rcases bind_eq_error.mp h with h | ⟨edges, hedges, h⟩
    · exact .inl (itemsOf_error h)
    rcases bind_eq_error.mp h with h | ⟨t, _, h⟩
    · exact (part_error (ItemLacks _) readEdge_error hedges h).imp_right
        fun ⟨key, hkey, item, hitem⟩ => ⟨key, hkey, item, .inr (.inl hitem)⟩
    rcases bind_eq_error.mp h with h | ⟨files, hfiles, h⟩
    · exact .inl (itemsOf_error h)
    · exact (part_error (ItemLacks _) readFileEntry_error hfiles h).imp_right
        fun ⟨key, hkey, item, hitem⟩ => ⟨key, hkey, item, .inr (.inr hitem)⟩
  | null | bool | int | real | str | arr =>
    cases h
    rintro ⟨_, h, _⟩
    cases h

end Store

/-! ## Documents in the cache -/

/-- The name of the error that a fault counts as. -/
def Malformed.errorName : Malformed → String
  | .missing _ => "KeyError"
  | .notADocument | .unfit => "TypeError"
  | .fieldless => "AttributeError"

/-- A fault is described by the name of its error, with or without more about it. -/
theorem Malformed.exists_description (e : Malformed) :
    ∃ more, e.description = e.errorName ++ more := by
  cases e with
  | notADocument => exact ⟨"('cache document must be a JSON object')", rfl⟩
  | missing key => exact ⟨"(" ++ key.shown ++ ")", rfl⟩
  | unfit => exact ⟨"", rfl⟩
  | fieldless => exact ⟨"", rfl⟩

/-- A file whose text can be read can be read. -/
theorem Files.exists_read_of_readText {f : Files} {path text : String}
    (h : f.readText path = .ok text) : ∃ bytes, f.read path = .ok bytes := by
  unfold readText at h
  cases hread : f.read path with
  | error fault =>
    rw [hread] at h
    cases h
  | ok bytes => exact ⟨bytes, rfl⟩

/-- A file whose text can be read is there. -/
theorem Files.has_of_readText {f : Files} {path text : String} (h : f.readText path = .ok text) :
    f.has path = .ok true := by
  obtain ⟨bytes, hread⟩ := exists_read_of_readText h
  obtain ⟨p, hplace, hat, _⟩ := read_eq_ok.mp hread
  exact has_eq_true.mpr ⟨_, find_eq_ok.mpr ⟨p, hplace, hat⟩⟩

/-- Looking up an entry whose text can be read is reading a graph from the text. -/
theorem Cache.lookup_of_readText {c : Cache} {f : Files} {project text : String}
    (h : f.readText (c.entryPath project) = .ok text) :
    c.lookup f project = match Store.ofText text with
      | .ok s => .ok (some s)
      | .error reason => .error (.corrupted ⟨c.entryPath project, reason⟩) := by
  unfold lookup
  dsimp only
  cases hof : Store.ofText text with
  | ok s =>
    rw [Files.has_of_readText h, h]
    dsimp only
    rw [hof]
  | error reason =>
    rw [Files.has_of_readText h, h]
    dsimp only
    rw [hof]

/-- A document that is refused makes its entry a corrupted one. -/
theorem Cache.run_load_of_refused {c : Cache} {project text : String} {w : Workspace} {doc : Json}
    {e : Malformed} (htext : w.files.readText (c.entryPath project) = .ok text)
    (hparse : Json.parse text = .ok doc) (hrefused : Store.ofDocument doc = .error e) :
    (c.load project).run w
      = (.error (.corrupted ⟨c.entryPath project, s!"malformed document ({e.description})"⟩), w) := by
  have hlookup : c.lookup w.files project
      = .error (.corrupted ⟨c.entryPath project, s!"malformed document ({e.description})"⟩) := by
    rw [lookup_of_readText htext]
    unfold Store.ofText
    rw [hparse]
    dsimp only
    rw [hrefused]
  unfold load
  rw [Work.run_bind (Work.run_get w), hlookup]
  rfl

/-- **Documents that can be read.** A document is read exactly if it is one of the grammar. Any
    other one is refused for a fault that it has: it is no object, its metadata has no fields, an
    item lacks a key, or some value does not fit. The entry of the cache with such a document is
    reported as corrupted, with the name of the error, and nothing is changed. -/
theorem Store.ofDocument_grammar (doc : Json) :
    ((∃ s, ofDocument doc = .ok s) ↔ IsDocument doc) ∧
    (¬ IsDocument doc → ∃ fault, ofDocument doc = .error fault ∧ Blames doc fault ∧
      fault.errorName ∈ ["KeyError", "TypeError", "AttributeError"] ∧
      ∀ (c : Cache) (project text : String) (w : Workspace),
        w.files.readText (c.entryPath project) = .ok text → Json.parse text = .ok doc →
        ∃ more, (c.load project).run w = (.error (.corrupted ⟨c.entryPath project,
          "malformed document (" ++ (fault.errorName ++ more) ++ ")"⟩), w)) := by
  refine ⟨ofDocument_ok_iff doc, fun hdoc => ?_⟩
  cases hread : ofDocument doc with
  | ok s => exact absurd ((ofDocument_ok_iff doc).mp ⟨s, hread⟩) hdoc
  | error fault =>
    refine ⟨fault, rfl, ofDocument_error hread, ?_, ?_⟩
    · cases fault <;> simp [Malformed.errorName]
    · intro c project text w htext hparse
      obtain ⟨more, hmore⟩ := fault.exists_description
      refine ⟨more, ?_⟩
      rw [← hmore]
      exact Cache.run_load_of_refused htext hparse hread

/-- An item with a list for an id and without a kind: that there is no kind is found first, and
    the entry is reported as corrupted. -/
theorem Store.ofDocument_grammar_no_kind :
    let doc := Json.obj [("nodes", .arr [.obj [("id", .arr [])]])]
    let c : Cache := ⟨"/c"⟩
    let w : Workspace := { files := { entries := Table.ofList [(["c"], .folder),
      (["c", Cache.entryName "/p"], .file (Text.Utf8.encode doc.pretty))] } }
    ¬ IsDocument doc ∧ w.files.readText (c.entryPath "/p") = .ok doc.pretty ∧
    Json.parse doc.pretty = .ok doc ∧
    ∃ more, (c.load "/p").run w = (.error (.corrupted ⟨c.entryPath "/p",
      "malformed document (" ++ ("KeyError" ++ more) ++ ")"⟩), w) := by
  intro doc c w
  have hrefused : ofDocument doc = .error (.missing (.str "kind")) := rfl
  have hdoc : ¬ IsDocument doc := by
    rw [← (ofDocument_grammar doc).1, hrefused]
    exact nofun
  have hread : w.files.read (c.entryPath "/p") = .ok (Text.Utf8.encode doc.pretty) :=
    Files.read_under rfl (Cache.isName_entryName "/p") (d := ["c"]) (by decide +kernel)
      (by decide +kernel) (by decide +kernel)
  have htext := Files.readText_of_read (Json.allPlain_pretty doc) hread
  have hparse : Json.parse doc.pretty = .ok doc := Json.parse_pretty rfl
  obtain ⟨fault, hfault, _, _, hload⟩ := (ofDocument_grammar doc).2 hdoc
  rw [hrefused] at hfault
  cases hfault
  exact ⟨hdoc, htext, hparse, hload c "/p" _ w htext hparse⟩

end SymbolGraph
