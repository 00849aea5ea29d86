import Mathlib.Data.Set.Function
import SymbolGraph.Cache
import SymbolGraph.Proofs.Folders
import SymbolGraph.Proofs.Rereading
import SymbolGraph.Proofs.SavedText

/-! # The entries of the cache

    The cache is meant as a map from projects to graphs. `Cache.Holds` says that the
    files of a disk stand for such a map: the folder has one file for each project of the
    map, under the name made from the digest of its path, and nothing else. The folder
    itself need not be there yet while the map is empty.

    Each operation finds entries in its own way. Loading and deleting go by the name of a
    project's entry, listing and deleting all by the names in the folder. The first part
    of this module says what they find when the files stand for a map, the second what
    they leave.
-/

namespace SymbolGraph

/-! ## Work that succeeds -/

namespace Work

/-- The work succeeds with a result. It keeps the time and leaves files with a
    property. -/
def Gives {α : Type} (x : Work α) (w : Workspace) (a : α) (Q : Files → Prop) : Prop :=
  ∃ w', x.run w = (.ok a, w') ∧ w'.now = w.now ∧ Q w'.files

theorem run_bind {α β : Type} {x : Work α} {w w' : Workspace} {a : α}
    (h : x.run w = (.ok a, w')) (k : α → Work β) : (x >>= k).run w = (k a).run w' := by
  show (match x.run w with
    | (r, w') => ExceptT.bindCont k r w') = _
  rw [h]
  rfl

theorem run_get (w : Workspace) : (get : Work Workspace).run w = (.ok w, w) := rfl

theorem run_record (rs : List Record) (w : Workspace) :
    (record rs).run w = (.ok (), { w with journal := w.journal ++ rs }) := rfl

theorem run_has {path : String} {w : Workspace} {there : Bool}
    (h : w.files.has path = .ok there) : (has path).run w = (.ok there, w) := by
  unfold has
  rw [run_bind (run_get w), h]
  rfl

theorem run_change {f : Files → Except Files.Fault Files} {w : Workspace} {g : Files}
    (h : f w.files = .ok g) : (change f).run w = (.ok (), { w with files := g }) := by
  unfold change
  rw [run_bind (run_get w), h]
  rfl

end Work

namespace Cache

/-! ## Names of entries -/

theorem slash_not_mem_projectHash (p : String) : '/' ∉ (projectHash p).toList := by
  have hdigit : ∀ m < 16, Text.hexDigit m ≠ '/' := by decide
  unfold projectHash Md5.hex
  rw [String.toList_ofList]
  intro h
  obtain ⟨b, _, hb⟩ := List.mem_flatMap.mp h
  obtain ⟨m, hm, heq⟩ := Text.mem_hexDigits hb
  exact hdigit m hm heq.symm

theorem toList_entryName (p : String) :
    (entryName p).toList = "graph_".toList ++ ((projectHash p).toList ++ ".json".toList) := by
  unfold entryName
  rw [String.toList_append, String.toList_append, List.append_assoc]

theorem isName_entryName (p : String) : Files.IsName (entryName p) := by
  have hne : ∀ s : String, s.toList.head? ≠ some 'g' → entryName p ≠ s := by
    rintro s hs rfl
    rw [toList_entryName] at hs
    exact hs rfl
  refine ⟨⟨?_, hne "" (by decide), hne "." (by decide)⟩, hne ".." (by decide)⟩
  rw [toList_entryName, List.mem_append, List.mem_append, not_or, not_or]
  exact ⟨by decide, slash_not_mem_projectHash p, by decide⟩

theorem isEntryName_entryName (p : String) : isEntryName (entryName p) = true := by
  unfold isEntryName
  rw [toList_entryName]
  have hfront : "graph_".toList.isPrefixOf
      ("graph_".toList ++ ((projectHash p).toList ++ ".json".toList)) = true :=
    List.isPrefixOf_iff_prefix.mpr (List.prefix_append _ _)
  have hback : ".json".toList.isSuffixOf
      ("graph_".toList ++ ((projectHash p).toList ++ ".json".toList)) = true := by
    rw [List.isSuffixOf_iff_suffix, ← List.append_assoc]
    exact List.suffix_append _ _
  have hlength : ("graph_".toList ++ ((projectHash p).toList ++ ".json".toList)).length ≥ 11 := by
    have hg : "graph_".toList.length = 6 := rfl
    have hj : ".json".toList.length = 5 := rfl
    rw [List.length_append, List.length_append, hg, hj]
    omega
  rw [Bool.and_eq_true, Bool.and_eq_true, decide_eq_true_iff]
  exact ⟨⟨hfront, hback⟩, hlength⟩

theorem projectHash_of_entryName {p q : String} (h : entryName p = entryName q) :
    projectHash p = projectHash q := by
  unfold entryName at h
  rw [String.append_left_inj, String.append_right_inj] at h
  exact h

/-! ## Files that stand for a map -/

/-- The bytes of the entry of a graph. -/
def entryBytes (s : Store) : List UInt8 :=
  Text.Utf8.encode s.toDocument.pretty

/-- The folder can be made, and is empty then. -/
def IsFresh (c : Cache) (f : Files) : Prop :=
  f.Sound ∧ (f.makeFolder c.folder).map (·.names c.folder) = .ok []

/-- The folder is there, with one file for each entry of a map. -/
structure Stocked (c : Cache) (f : Files) (d : Place) (m : Table String Store) : Prop where
  sound : f.Sound
  place : f.place c.folder = .ok d
  folder : f.at? d = some .folder
  entry : ∀ p s, m.get? p = some s →
    f.at? (d ++ [entryName p]) = some (.file (entryBytes s))
  named : ∀ n, (f.at? (d ++ [n])).isSome = true → ∃ p, m.contains p = true ∧ entryName p = n

/-- The files stand for a map. -/
inductive Holds (c : Cache) (f : Files) (m : Table String Store) : Prop
  /-- Nothing has been saved yet, and the folder may still have to be made. -/
  | fresh (h : IsFresh c f) (hm : m = {})
  | stocked (d : Place) (h : Stocked c f d m)

namespace Stocked

variable {c : Cache} {f : Files} {d : Place} {m : Table String Store}

theorem exists_entry (h : Stocked c f d m) {p : String} (hp : m.contains p = true) :
    ∃ s, m.get? p = some s ∧ f.at? (d ++ [entryName p]) = some (.file (entryBytes s)) := by
  rw [← Table.isSome_get?] at hp
  obtain ⟨s, hs⟩ := Option.isSome_iff_exists.mp hp
  exact ⟨s, hs, h.entry p s hs⟩

/-- No folder is in the folder. -/
theorem no_folder (h : Stocked c f d m) (n : String) : f.at? (d ++ [n]) ≠ some .folder := by
  intro hn
  obtain ⟨p, hp, rfl⟩ := h.named n (by rw [hn]; rfl)
  obtain ⟨s, _, hfile⟩ := h.exists_entry hp
  rw [hn] at hfile
  cases hfile

end Stocked

theorem Stocked.mem_names {c : Cache} {f : Files} {d : Place} {m : Table String Store}
    (h : Stocked c f d m) {n : String} :
    n ∈ f.names c.folder ↔ (f.at? (d ++ [n])).isSome = true := by
  rw [Files.mem_names]
  constructor
  · rintro ⟨d', hd', _, _, hn⟩
    rw [h.place] at hd'
    cases hd'
    exact hn
  · intro hn
    exact ⟨d, h.place, h.folder, h.sound.closed d, hn⟩

theorem IsFresh.stocked {c : Cache} {f : Files} (h : IsFresh c f) :
    ∃ g d, f.makeFolder c.folder = .ok g ∧ Stocked c g d {} ∧
      ∀ n ∈ f.names c.folder, n ∈ g.names c.folder := by
  obtain ⟨hsound, hempty⟩ := h
  obtain ⟨g, hg, hnames⟩ : ∃ g, f.makeFolder c.folder = .ok g ∧ g.names c.folder = [] := by
    cases hg : f.makeFolder c.folder with
    | error e =>
      rw [hg] at hempty
      cases hempty
    | ok g =>
      rw [hg] at hempty
      exact ⟨g, rfl, Except.ok.inj hempty⟩
  obtain ⟨d, hmade⟩ := hsound.makeFolder hg
  refine ⟨g, d, hg, ⟨hmade.sound, hmade.place, hmade.folder, ?_, ?_⟩, ?_⟩
  · intro p s hs
    cases hs
  · intro n hn
    have hmem : n ∈ g.names c.folder :=
      Files.mem_names.mpr ⟨d, hmade.place, hmade.folder, hmade.sound.closed d, hn⟩
    rw [hnames] at hmem
    cases hmem
  · -- what is in the folder now stays there when it is made
    intro n hn
    obtain ⟨d', hplace, hfolder, hopen, hn⟩ := Files.mem_names.mp hn
    obtain ⟨e, he⟩ := Option.isSome_iff_exists.mp hn
    refine Files.mem_names.mpr ⟨d', hmade.kept.place hplace, hmade.kept.folder _ hfolder, ?_, ?_⟩
    · rw [hmade.access, hopen]
    · rw [hmade.stored _ _ he]
      rfl

/-! ## What the operations find -/

namespace Holds

variable {c : Cache} {f : Files} {m : Table String Store}

theorem sound (h : Holds c f m) : f.Sound := by
  cases h with
  | fresh h _ => exact h.1
  | stocked d h => exact h.sound

/-- The folder is there once it has been made. -/
theorem opened (h : Holds c f m) : ∃ g d, f.makeFolder c.folder = .ok g ∧ Stocked c g d m := by
  cases h with
  | fresh h hm =>
    obtain ⟨g, d, hg, hstocked, _⟩ := h.stocked
    rw [hm]
    exact ⟨g, d, hg, hstocked⟩
  | stocked d h => exact ⟨f, d, Files.makeFolder_of_place h.place h.folder, h⟩

/-- The names in the folder are those of the entries. -/
theorem mem_names (h : Holds c f m) {n : String} :
    n ∈ f.names c.folder ↔ ∃ p, m.contains p = true ∧ entryName p = n := by
  cases h with
  | fresh h hm =>
    obtain ⟨g, d, _, hstocked, hsub⟩ := h.stocked
    rw [hm]
    constructor
    · intro hn
      exact hstocked.named n (hstocked.mem_names.mp (hsub n hn))
    · rintro ⟨p, hp, _⟩
      cases hp
  | stocked d h =>
    rw [h.mem_names]
    constructor
    · exact h.named n
    · rintro ⟨p, hp, rfl⟩
      obtain ⟨s, _, hfile⟩ := h.exists_entry hp
      rw [hfile]
      rfl

/-- The entry of a project has the text of its graph. -/
theorem readText_entry (h : Holds c f m) {p : String} {s : Store} (hs : m.get? p = some s) :
    f.readText (c.entryPath p) = .ok s.toDocument.pretty := by
  cases h with
  | fresh h hm =>
    rw [hm] at hs
    cases hs
  | stocked d h =>
    exact Files.readText_of_read (Json.allPlain_pretty _)
      (Files.read_under h.sound.access (isName_entryName p) h.place h.folder (h.entry p s hs))

/-! ### By the name of an entry -/

variable {P : Set String}

/-- A project has an entry exactly if the map has the project. Another project would
    have to have the same digest. -/
theorem has_entry (hP : Set.InjOn projectHash P) (h : Holds c f m)
    (hm : ∀ q, m.contains q = true → q ∈ P) {p : String} (hp : p ∈ P) :
    f.has (c.entryPath p) = .ok (m.contains p) := by
  apply h.sound.has_eq
  unfold entryPath
  rw [Files.find_under_iff h.sound (isName_entryName p), h.mem_names]
  constructor
  · intro hcontains
    exact ⟨p, hcontains, rfl⟩
  · -- the file is the entry of some project, and only this one has its name
    rintro ⟨q, hq, hname⟩
    rw [← hP (hm q hq) hp (projectHash_of_entryName hname)]
    exact hq

end Holds

/-- A graph that can be read from the text of its document. -/
structure Legible (s : Store) : Prop extends Store.Regular s where
  parses : Json.parse s.toDocument.pretty = .ok s.toDocument

theorem Legible.ofText {s : Store} (h : Legible s) :
    Store.ofText s.toDocument.pretty = .ok s.reread := by
  unfold Store.ofText
  rw [h.parses]
  dsimp only
  rw [Store.ofDocument_toDocument h.filable]

/-- Loading gives what is read from the graph of the map. -/
theorem Holds.lookup_eq {c : Cache} {f : Files} {m : Table String Store} {P : Set String}
    (hP : Set.InjOn projectHash P) (h : Holds c f m) (hm : ∀ q, m.contains q = true → q ∈ P)
    {p : String} (hp : p ∈ P) (hlegible : ∀ s, m.get? p = some s → Legible s) :
    c.lookup f p = .ok ((m.get? p).map Store.reread) := by
  unfold lookup
  dsimp only
  rw [h.has_entry hP hm hp]
  cases hget : m.get? p with
  | none =>
    rw [(Table.get?_eq_none_iff m p).mp hget]
    rfl
  | some s =>
    rw [Table.contains_of_get? hget, h.readText_entry hget]
    dsimp only
    rw [(hlegible s hget).ofText]
    rfl

/-! ### By the names in the folder -/

theorem nodup_entryNames (c : Cache) (f : Files) : (c.entryNames f).Nodup :=
  (List.mergeSort_perm _ _).nodup_iff.mpr ((f.nodup_names c.folder).filter _)

/-- The names of the entries are in increasing order. -/
theorem entryNames_increasing (c : Cache) (f : Files) :
    (c.entryNames f).Pairwise fun a b => a < b :=
  Files.increasing_mergeSort ((f.nodup_names c.folder).filter _)

/-- What the entry of a given name tells, if it can be read. -/
def saved? (c : Cache) (f : Files) (name : String) : Option SavedGraph :=
  (c.describe f name).toOption

/-- What the entries tell, as far as they can be read. -/
def listing (c : Cache) (f : Files) : List SavedGraph :=
  (c.entryNames f).filterMap (c.saved? f)

/-- An entry can be read if its bytes spell a text, the text is a document, and the document
    tells something. -/
theorem describe_eq_ok {c : Cache} {f : Files} {name : String} {g : SavedGraph} :
    c.describe f name = .ok g ↔ ∃ text document,
      f.readText (Path.under c.folder name) = .ok text ∧ Json.parse text = .ok document ∧
      SavedGraph.ofDocument name document = .ok g := by
  unfold describe
  cases f.readText (Path.under c.folder name) with
  | error e => simp [bind, Except.bind]
  | ok text =>
    cases hparse : Json.parse text with
    | error e => simp [bind, Except.bind, Except.mapError, hparse]
    | ok document =>
      cases hdoc : SavedGraph.ofDocument name document <;>
        simp [bind, Except.bind, Except.mapError, hparse, hdoc]

theorem saved?_eq_some {c : Cache} {f : Files} {name : String} {g : SavedGraph} :
    c.saved? f name = some g ↔ c.describe f name = .ok g := by
  unfold saved?
  cases c.describe f name <;> simp [Except.toOption]

theorem file_of_document {name : String} {document : Json} {g : SavedGraph}
    (h : SavedGraph.ofDocument name document = .ok g) : g.file = name := by
  cases document with
  | obj fields =>
    rw [SavedGraph.ofDocument] at h
    cases hm : metadataFields fields <;> cases hn : partSize fields "nodes" <;>
      cases he : partSize fields "edges" <;>
        simp [bind, Except.bind, hm, hn, he, pure, Except.pure] at h
    rw [← h]
  | _ => cases h

theorem file_of_saved? {c : Cache} {f : Files} {name : String} {g : SavedGraph}
    (h : c.saved? f name = some g) : g.file = name := by
  obtain ⟨_, _, _, _, hdocument⟩ := describe_eq_ok.mp (saved?_eq_some.mp h)
  exact file_of_document hdocument

theorem listing_increasing (c : Cache) (f : Files) :
    (c.listing f).Pairwise fun a b => a.file < b.file := by
  refine List.Pairwise.filterMap (c.saved? f) ?_ (c.entryNames_increasing f)
  intro a b hab ga hga gb hgb
  rw [file_of_saved? hga, file_of_saved? hgb]
  exact hab

/-- What is told about the graph of a project. -/
def summary (p : String) (s : Store) : SavedGraph :=
  ⟨entryName p, s.metadata.projectPath, s.metadata.createdAt, s.metadata.updatedAt, s.nodes.size,
    s.edgeList.length⟩

theorem partSize_arr {fields : List (String × Json)} {key : String} (items : List Json)
    (h : Json.fieldOrNull key fields = .arr items) : partSize fields key = .ok items.length := by
  unfold partSize
  rw [h]
  cases items <;> rfl

theorem ofDocument_toDocument (file : String) (s : Store) :
    SavedGraph.ofDocument file s.toDocument = .ok ⟨file, s.metadata.projectPath,
      s.metadata.createdAt, s.metadata.updatedAt, s.nodes.size, s.edgeList.length⟩ := by
  unfold Store.toDocument SavedGraph.ofDocument
  dsimp only
  rw [partSize_arr (s.nodes.entries.map _) rfl, partSize_arr (s.edgeList.map _) rfl,
    List.length_map, List.length_map]
  rfl

namespace Holds

variable {c : Cache} {f : Files} {m : Table String Store} {P : Set String}

theorem saved?_entry (h : Holds c f m) {p : String} {s : Store} (hs : m.get? p = some s)
    (hlegible : Legible s) : c.saved? f (entryName p) = some (summary p s) := by
  rw [saved?_eq_some, describe_eq_ok]
  exact ⟨_, _, h.readText_entry hs, hlegible.parses, ofDocument_toDocument _ s⟩

/-- There is one entry for each project. -/
theorem entryNames_perm (hP : Set.InjOn projectHash P) (h : Holds c f m)
    (hm : ∀ q, m.contains q = true → q ∈ P) : (c.entryNames f).Perm (m.keys.map entryName) := by
  have hall : (f.names c.folder).filter isEntryName = f.names c.folder := by
    rw [List.filter_eq_self]
    intro n hn
    obtain ⟨p, _, rfl⟩ := h.mem_names.mp hn
    exact isEntryName_entryName p
  have hnodup : (m.keys.map entryName).Nodup := by
    refine List.pairwise_map.mpr (m.nodup_keys.imp_of_mem ?_)
    intro p q hp hq hne heq
    exact hne (hP (hm p (Table.mem_keys.mp hp)) (hm q (Table.mem_keys.mp hq))
      (projectHash_of_entryName heq))
  have hperm : (f.names c.folder).Perm (m.keys.map entryName) := by
    rw [List.perm_ext_iff_of_nodup (f.nodup_names c.folder) hnodup]
    intro n
    rw [h.mem_names, List.mem_map]
    simp only [Table.mem_keys]
  unfold entryNames
  rw [hall]
  exact (List.mergeSort_perm _ _).trans hperm

/-- What is listed is told about the graphs of the map. -/
theorem listing_perm (hP : Set.InjOn projectHash P) (h : Holds c f m)
    (hm : ∀ q, m.contains q = true → q ∈ P) (hlegible : ∀ q s, m.get? q = some s → Legible s) :
    (c.listing f).Perm (m.entries.map fun e => summary e.1 e.2) := by
  have hsaved : ∀ e ∈ m.entries, c.saved? f (entryName e.1) = some (summary e.1 e.2) := by
    intro e he
    have hget : m.get? e.1 = some e.2 := Table.get?_of_mem he
    exact h.saved?_entry hget (hlegible _ _ hget)
  have hentries : (m.keys.map entryName).filterMap (c.saved? f)
      = m.entries.map fun e => summary e.1 e.2 := by
    unfold Table.keys
    simp only [List.map_map, List.filterMap_map, Function.comp_def]
    rw [← List.filterMap_eq_map', List.filterMap_congr hsaved]
  rw [← hentries]
  exact (h.entryNames_perm hP hm).filterMap _

end Holds

/-! ## What the operations leave -/

namespace Stocked

variable {c : Cache} {f : Files} {d : Place} {m : Table String Store} {P : Set String}

/-- Different projects have different entries. -/
theorem entry_ne (hP : Set.InjOn projectHash P) (d : Place) {p q : String} (hp : p ∈ P)
    (hq : q ∈ P) (hne : q ≠ p) : d ++ [entryName q] ≠ d ++ [entryName p] := by
  intro heq
  have hname : entryName q = entryName p := List.singleton_inj.mp (List.append_cancel_left heq)
  exact hne (hP hq hp (projectHash_of_entryName hname))

/-- Writing the entry of a project sets its graph in the map. -/
theorem write_entry (hP : Set.InjOn projectHash P) (h : Stocked c f d m)
    (hm : ∀ q, m.contains q = true → q ∈ P) {p : String} (hp : p ∈ P) (s : Store) :
    ∃ g, f.write (c.entryPath p) (entryBytes s) = .ok g ∧ Stocked c g d (m.insert p s) := by
  have hfree := h.no_folder (entryName p)
  have hnil : d ++ [entryName p] ≠ [] := by simp
  have hkept := Files.kept_put hnil hfree (.file (entryBytes s))
  refine ⟨_, Files.write_under h.sound.access (isName_entryName p) h.place h.folder hfree _,
    h.sound.put h.folder hfree _, hkept.place h.place, hkept.folder _ h.folder, ?_, ?_⟩
  · -- the new text is under this name, and the other entries are as before
    intro q t ht
    rw [Files.at?_put f hnil]
    rw [Table.get?_insert] at ht
    by_cases hqp : q = p
    · rw [hqp, if_pos (BEq.refl p)] at ht
      cases ht
      rw [hqp, if_pos rfl]
    · rw [if_neg (by simpa using Ne.symm hqp)] at ht
      have hq := hm q (Table.contains_of_get? ht)
      rw [if_neg (entry_ne hP d hp hq hqp)]
      exact h.entry q t ht
  · -- every name is the new one or was there before
    intro n hn
    rw [Files.at?_put f hnil] at hn
    split at hn
    · rename_i heq
      have hname : n = entryName p := List.singleton_inj.mp (List.append_cancel_left heq)
      exact ⟨p, Table.contains_of_get? (Table.get?_insert_self m p s), hname.symm⟩
    · obtain ⟨q, hq, hname⟩ := h.named n hn
      refine ⟨q, ?_, hname⟩
      rw [show (m.insert p s).contains q = _ from Table.contains_alter m p q _, hq, Bool.or_true]

/-- Deleting the entry of a project takes it out of the map. -/
theorem delete_entry (hP : Set.InjOn projectHash P) (h : Stocked c f d m)
    (hm : ∀ q, m.contains q = true → q ∈ P) {p : String} (hp : m.contains p = true) :
    ∃ g, f.delete (c.entryPath p) = .ok g ∧ Stocked c g d (m.filter (· != p)) := by
  obtain ⟨s, _, hfile⟩ := h.exists_entry hp
  have hfree := h.no_folder (entryName p)
  have hnil : d ++ [entryName p] ≠ [] := by simp
  have hkept := h.sound.kept_clear hnil hfree
  refine ⟨_, Files.delete_under h.sound.access (isName_entryName p) h.place h.folder hfile,
    h.sound.clear hnil hfree, hkept.place h.place, hkept.folder _ h.folder, ?_, ?_⟩
  · -- entries of other projects have other names, so they are not cleared
    intro q t ht
    rw [Table.get?_filter] at ht
    split at ht
    · rename_i hqp
      have hqp : q ≠ p := by simpa using hqp
      have hq := hm q (Table.contains_of_get? ht)
      rw [h.sound.at?_clear hnil hfree, if_neg (entry_ne hP d (hm p hp) hq hqp)]
      exact h.entry q t ht
    · cases ht
  · intro n hn
    rw [h.sound.at?_clear hnil hfree] at hn
    split at hn
    · cases hn
    · rename_i hne
      obtain ⟨q, hq, rfl⟩ := h.named n hn
      refine ⟨q, ?_, rfl⟩
      have hqp : q ≠ p := by
        rintro rfl
        exact hne rfl
      rw [Table.contains_filter, hq, Bool.and_true]
      simpa using hqp

end Stocked

section Work

variable {c : Cache} {w : Workspace} {m : Table String Store} {P : Set String}

/-- Saving sets the graph of a project to the graph with its stamps. -/
theorem Holds.save (hP : Set.InjOn projectHash P) (h : Holds c w.files m)
    (hm : ∀ q, m.contains q = true → q ∈ P) {p : String} (hp : p ∈ P) (s : Store) :
    (c.save s p).Gives w (stamped s p w.now, c.entryPath p)
      fun f => Holds c f (m.insert p (stamped s p w.now)) := by
  obtain ⟨g, d, hg, hstocked⟩ := h.opened
  obtain ⟨g', hg', hstocked'⟩ := hstocked.write_entry hP hm hp (stamped s p w.now)
  have hfolder : (Work.change (·.makeFolder c.folder)).run w = (.ok (), { w with files := g }) :=
    Work.run_change hg
  have hwrite : (Work.writeText (c.entryPath p) (stamped s p w.now).toDocument.pretty).run
      { w with files := g } = (.ok (), { w with files := g' }) :=
    Work.run_change hg'
  unfold Cache.save
  unfold Work.Gives
  rw [Work.run_bind hfolder, Work.run_bind (Work.run_get _), Work.run_bind hwrite,
    Work.run_bind (Work.run_record _ _)]
  exact ⟨_, rfl, rfl, .stocked d hstocked'⟩

/-- Loading changes no file. -/
theorem Holds.load (hP : Set.InjOn projectHash P) (h : Holds c w.files m)
    (hm : ∀ q, m.contains q = true → q ∈ P) {p : String} (hp : p ∈ P)
    (hlegible : ∀ s, m.get? p = some s → Legible s) :
    (c.load p).Gives w ((m.get? p).map Store.reread) fun f => f = w.files := by
  unfold Cache.load Work.Gives
  rw [Work.run_bind (Work.run_get _), h.lookup_eq hP hm hp hlegible]
  cases m.get? p with
  | none =>
    dsimp only [Option.map_none]
    rw [Work.run_bind (Work.run_record _ _)]
    exact ⟨_, rfl, rfl, rfl⟩
  | some s =>
    dsimp only [Option.map_some]
    rw [Work.run_bind (Work.run_record _ _)]
    exact ⟨_, rfl, rfl, rfl⟩

/-- Deleting takes a project out of the map, if it is there. -/
theorem Holds.delete (hP : Set.InjOn projectHash P) (h : Holds c w.files m)
    (hm : ∀ q, m.contains q = true → q ∈ P) {p : String} (hp : p ∈ P) :
    (c.delete p).Gives w (m.contains p) fun f => Holds c f (m.filter (· != p)) := by
  unfold Cache.delete Work.Gives
  dsimp only
  rw [Work.run_bind (Work.run_has (h.has_entry hP hm hp))]
  cases hcontains : m.contains p with
  | false =>
    -- there is nothing to take out
    have hsame : m.filter (· != p) = m := by
      apply Table.filter_eq_self
      intro q hq
      rw [bne_iff_ne]
      rintro rfl
      rw [hcontains] at hq
      cases hq
    rw [hsame]
    exact ⟨w, rfl, rfl, h⟩
  | true =>
    cases h with
    | fresh h hm =>
      rw [hm] at hcontains
      cases hcontains
    | stocked d h =>
      obtain ⟨g, hg, hstocked⟩ := h.delete_entry hP hm hcontains
      have hdelete : (Work.change (·.delete (c.entryPath p))).run w
          = (.ok (), { w with files := g }) := Work.run_change hg
      rw [if_neg (by decide), Work.run_bind hdelete, Work.run_bind (Work.run_record _ _)]
      exact ⟨_, rfl, rfl, .stocked d hstocked⟩

/-- Deleting the names of all entries, each once, leaves the empty map. -/
theorem Stocked.deleteNames (hP : Set.InjOn projectHash P) {d : Place} {ns : List String}
    (h : Stocked c w.files d m) (hm : ∀ q, m.contains q = true → q ∈ P) (hnodup : ns.Nodup)
    (hns : ∀ n, n ∈ ns ↔ ∃ p, m.contains p = true ∧ entryName p = n) :
    (c.deleteNames ns).Gives w () fun f => Holds c f {} := by
  -- the map shrinks with the names, and the rest of them are those of the rest of it
  induction ns generalizing w m with
  | nil =>
    have hempty : m = {} := by
      apply Table.eq_empty_of_contains
      intro p
      rw [Bool.eq_false_iff]
      intro hp
      cases (hns (entryName p)).mpr ⟨p, hp, rfl⟩
    rw [hempty] at h
    exact ⟨w, rfl, rfl, .stocked d h⟩
  | cons n ns ih =>
    obtain ⟨p, hp, rfl⟩ := (hns n).mp List.mem_cons_self
    obtain ⟨hnotin, hnodup⟩ := List.nodup_cons.mp hnodup
    obtain ⟨g, hg, hstocked⟩ := h.delete_entry hP hm hp
    have hdelete : (Work.change (·.delete (Path.under c.folder (entryName p)))).run w
        = (.ok (), { w with files := g }) := Work.run_change hg
    have hrest : ∀ q, (m.filter (· != p)).contains q = true ↔ q ≠ p ∧ m.contains q = true := by
      intro q
      rw [Table.contains_filter, Bool.and_eq_true, bne_iff_ne]
    obtain ⟨w', hw', hnow, hholds⟩ := ih (w := { w with files := g }) hstocked
      (fun q hq => hm q ((hrest q).mp hq).2) hnodup (by
        intro n
        constructor
        · intro hn
          obtain ⟨q, hq, rfl⟩ := (hns n).mp (List.mem_cons_of_mem _ hn)
          refine ⟨q, (hrest q).mpr ⟨?_, hq⟩, rfl⟩
          rintro rfl
          exact hnotin hn
        · rintro ⟨q, hq, rfl⟩
          obtain ⟨hne, hq⟩ := (hrest q).mp hq
          refine List.mem_of_ne_of_mem ?_ ((hns _).mpr ⟨q, hq, rfl⟩)
          intro heq
          exact hne (hP (hm q hq) (hm p hp) (projectHash_of_entryName heq)))
    refine ⟨w', ?_, hnow, hholds⟩
    rw [Cache.deleteNames, Work.run_bind hdelete]
    exact hw'

/-- The names of the entries are found, unless the system refuses to look at the folder. -/
theorem run_names {there : Bool} (h : w.files.has c.folder = .ok there) :
    c.names.run w = (.ok (c.entryNames w.files), w) := by
  unfold names
  rw [Work.run_bind (Work.run_has h)]
  cases there with
  | true => rfl
  | false =>
    -- there are no entries without a folder
    have hnone : w.files.names c.folder = [] := by
      apply Files.names_eq_nil
      intro d hd
      obtain ⟨hplace, hat⟩ := Files.folderAt_eq_some.mp hd
      rw [Files.has_eq_true.mpr ⟨_, Files.find_eq_ok.mpr ⟨d, hplace, hat⟩⟩] at h
      cases h
    have hentries : c.entryNames w.files = [] := by
      unfold entryNames
      rw [hnone, List.filter_nil, List.mergeSort_nil]
    rw [hentries]
    rfl

/-- Deleting all entries counts the projects of the map. -/
theorem Holds.deleteAll (hP : Set.InjOn projectHash P) (h : Holds c w.files m)
    (hm : ∀ q, m.contains q = true → q ∈ P) :
    c.deleteAll.Gives w m.size fun f => Holds c f {} := by
  have hperm := h.entryNames_perm hP hm
  have hcount : (c.entryNames w.files).length = m.size := by
    rw [hperm.length_eq, List.length_map]
    exact List.length_map _
  have hdelete : (c.deleteNames (c.entryNames w.files)).Gives w () fun f => Holds c f {} := by
    cases h with
    | fresh h hempty =>
      have hnone : c.entryNames w.files = [] := by
        rw [hempty] at hperm
        exact hperm.eq_nil
      rw [hnone]
      exact ⟨w, rfl, rfl, .fresh h rfl⟩
    | stocked d h =>
      apply h.deleteNames hP hm (c.nodup_entryNames w.files)
      intro n
      rw [hperm.mem_iff, List.mem_map]
      simp only [Table.mem_keys]
  obtain ⟨w', hw', hnow, hholds⟩ := hdelete
  refine ⟨w', ?_, hnow, hholds⟩
  obtain ⟨there, hthere⟩ := h.sound.exists_has c.folder
  unfold Cache.deleteAll
  rw [Work.run_bind (run_names hthere), Work.run_bind hw', hcount]
  rfl

/-- What goes wrong when a file is read as a text is of one of two kinds. -/
theorem kind_of_readText {f : Files} {path : String} {e : Failure}
    (h : f.readText path = .error e) : e.kind = .file ∨ e.kind = .value := by
  unfold Files.readText at h
  cases hread : f.read path with
  | error fault =>
    rw [hread] at h
    cases h
    exact .inl rfl
  | ok bytes =>
    rw [hread] at h
    cases hdecode : Text.Utf8.decode bytes with
    | error fault =>
      simp only [Except.mapError, bind, Except.bind, hdecode] at h
      cases h
      exact .inr rfl
    | ok text =>
      simp only [Except.mapError, bind, Except.bind, hdecode] at h
      cases h

theorem kind_ofReadError (text : String) (e : Json.ReadError) :
    (Failure.ofReadError text e).kind = .value := by
  cases e <;> rfl

/-- A document of the wrong form lacks fields or has no length. -/
theorem kind_of_document {name : String} {document : Json} {fault : Malformed}
    (h : SavedGraph.ofDocument name document = .error fault) :
    fault.kind = .attribute ∨ fault.kind = .type := by
  have hmetadata : ∀ {fields fault}, metadataFields fields = .error fault →
      fault = .fieldless := by
    intro fields fault h
    unfold metadataFields at h
    dsimp only at h
    split at h
    · cases h
    · split at h <;> cases h
      rfl
  have hsize : ∀ {fields key fault}, partSize fields key = .error fault → fault = .unfit := by
    intro fields key fault h
    unfold partSize at h
    dsimp only at h
    split at h
    · cases h
    · split at h <;> cases h
      rfl
  cases document with
  | obj fields =>
    rw [SavedGraph.ofDocument] at h
    cases hm : metadataFields fields with
    | error fault' =>
      simp only [hm, bind, Except.bind] at h
      cases h
      exact .inl (by rw [hmetadata hm]; rfl)
    | ok m =>
      cases hn : partSize fields "nodes" with
      | error fault' =>
        simp only [hm, hn, bind, Except.bind] at h
        cases h
        exact .inr (by rw [hsize hn]; rfl)
      | ok nodes =>
        cases he : partSize fields "edges" with
        | error fault' =>
          simp only [hm, hn, he, bind, Except.bind] at h
          cases h
          exact .inr (by rw [hsize he]; rfl)
        | ok edges =>
          simp only [hm, hn, he, bind, Except.bind] at h
          cases h
  | _ =>
    cases h
    exact .inl rfl

/-- Whatever is wrong with an entry, it is of a kind that is caught. -/
theorem kind_mem_caught {f : Files} {name : String} {e : Failure}
    (h : c.describe f name = .error e) : e.kind ∈ caught := by
  unfold describe at h
  cases htext : f.readText (Path.under c.folder name) with
  | error e' =>
    simp only [htext, bind, Except.bind] at h
    cases h
    rcases kind_of_readText htext with hkind | hkind <;> rw [hkind] <;> decide
  | ok text =>
    cases hparse : Json.parse text with
    | error e' =>
      simp only [htext, hparse, bind, Except.bind, Except.mapError] at h
      cases h
      rw [kind_ofReadError]
      decide
    | ok document =>
      cases hdocument : SavedGraph.ofDocument name document with
      | error fault =>
        simp only [htext, hparse, hdocument, bind, Except.bind, Except.mapError] at h
        cases h
        have hkind : (Failure.malformed fault).kind = fault.kind := rfl
        rcases kind_of_document hdocument with h | h <;> rw [hkind, h] <;> decide
      | ok g =>
        simp only [htext, hparse, hdocument, bind, Except.bind, Except.mapError] at h
        cases h

/-- An entry that cannot be read is left out. -/
theorem tell_gives (c : Cache) (name : String) (w : Workspace) :
    (c.tell name).Gives w (c.saved? w.files name) fun f => f = w.files := by
  unfold Cache.tell Work.Gives saved?
  rw [Work.run_bind (Work.run_get w)]
  cases hname : c.describe w.files name with
  | ok g => exact ⟨w, rfl, rfl, rfl⟩
  | error e =>
    dsimp only
    rw [if_pos (kind_mem_caught hname), Work.run_bind (Work.run_record _ _)]
    exact ⟨_, rfl, rfl, rfl⟩

theorem tellAll_gives (c : Cache) (names : List String) (w : Workspace) :
    (c.tellAll names).Gives w (names.filterMap (c.saved? w.files)) fun f => f = w.files := by
  induction names generalizing w with
  | nil => exact ⟨w, rfl, rfl, rfl⟩
  | cons name names ih =>
    obtain ⟨w₁, hrun₁, hnow₁, hfiles₁⟩ := c.tell_gives name w
    obtain ⟨w₂, hrun₂, hnow₂, hfiles₂⟩ := ih w₁
    rw [hfiles₁] at hrun₂ hfiles₂
    refine ⟨w₂, ?_, hnow₂.trans hnow₁, hfiles₂⟩
    rw [Cache.tellAll, Work.run_bind hrun₁, Work.run_bind hrun₂]
    cases hname : c.saved? w.files name with
    | none => rw [List.filterMap_cons_none hname]; rfl
    | some g => rw [List.filterMap_cons_some hname]; rfl

theorem list_gives {there : Bool} (h : w.files.has c.folder = .ok there) :
    c.list.Gives w (c.listing w.files) fun f => f = w.files := by
  unfold Cache.list Work.Gives
  rw [Work.run_bind (run_names h)]
  exact c.tellAll_gives _ w

end Work

end Cache

end SymbolGraph
