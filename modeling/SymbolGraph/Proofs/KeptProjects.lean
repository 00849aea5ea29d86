import SymbolGraph.Proofs.Homes
import SymbolGraph.Proofs.Recovery

/-! # The file of the current project

    The current project is read from a file that anything may have been written to. A file that
    is no JSON text counts as if there were none, but that is not all that can be wrong with it:
    bytes that spell no text, a number with too many digits, and JSON that is no object make
    reading fail.

    * `CurrentProject.HasText` and `CurrentProject.HasValue` say what the bytes of the file stand
      for. They go by how texts are written (`Text.Utf8.encode`), not by how they are read.
    * `CurrentProject.Keeps` says that a value is kept as the current project, and
      `CurrentProject.Breaks` that the file cannot be read.
    * `CurrentProject.kept_project` is the main result: what is read, for any file, and that a
      project that is set is read back, whatever the file held before.
-/

namespace SymbolGraph

/-! ## Paths that lead to files -/

namespace Files

variable {f g : Files} {path : String}

/-- A path with components leads from the folder that it is in to its last component. -/
theorem follow_parent (f : Files) (hparts : Path.parts path ≠ []) :
    f.follow (f.start path) (Path.parts path)
      = f.follow (f.start (Path.parent path)) (Path.parts (Path.parent path)) >>=
        fun d => f.follow d [(Path.parts path).getLast hparts] := by
  have hstart : f.start (Path.parent path) = f.start path := by
    unfold start
    rw [Path.isAbsolute_parent]
  rw [hstart, Path.parts_parent, ← follow_append, List.dropLast_concat_getLast]

/-- A file is in a folder, and the folder need not be made again. -/
theorem makeFolder_parent_of_file (hf : f.Sound) {bytes : List UInt8}
    (h : f.find path = .ok (.file bytes)) : f.makeFolder (Path.parent path) = .ok f := by
  obtain ⟨p, hplace, hp⟩ := find_eq_ok.mp h
  rw [place_eq_ok] at hplace
  have hparts : Path.parts path ≠ [] := by
    intro hnil
    rw [hnil] at hplace
    have hstart := start_folder hf path
    rw [Except.ok.inj hplace, hp] at hstart
    cases hstart
  rw [follow_parent f hparts] at hplace
  cases hfollow : f.follow (f.start (Path.parent path)) (Path.parts (Path.parent path)) with
  | error e =>
    rw [hfollow] at hplace
    cases hplace
  | ok d =>
    rw [hfollow] at hplace
    -- the path goes on from there, so a folder is there
    have hd : f.at? d = some .folder := by
      have hplace : f.follow d [(Path.parts path).getLast hparts] = .ok p := hplace
      exact (follow_cons.mp hplace).1
    exact makeFolder_of_place (place_eq_ok.mpr hfollow) hd

/-- A file can be replaced by another one. -/
theorem exists_write_of_file (hf : f.access = {}) {bytes : List UInt8}
    (h : f.find path = .ok (.file bytes)) (content : List UInt8) :
    ∃ g, f.write path content = .ok g := by
  obtain ⟨p, hplace, hp⟩ := find_eq_ok.mp h
  exact ⟨_, write_eq_ok.mpr ⟨p, hplace, by rw [hp]; nofun, refuses_of_access hf _ _, rfl⟩⟩

/-- The text of a file is what its bytes spell, with line feeds for line ends. -/
theorem readText_of_find (hf : f.access = {}) {bytes : List UInt8}
    (h : f.find path = .ok (.file bytes)) :
    f.readText path = (Text.Utf8.decode bytes).mapError Failure.encoding >>= fun s =>
      .ok (String.ofList (Text.unifyNewlines s.toList)) := by
  unfold readText
  rw [read_of_access hf h]
  rfl

end Files

namespace CurrentProject

/-! ## What a file holds -/

/-- The bytes are those of a text. A line end of any kind counts as a line feed. -/
def HasText (bytes : List UInt8) (text : String) : Prop :=
  ∃ s, bytes = Text.Utf8.encode s ∧ text = String.ofList (Text.unifyNewlines s.toList)

/-- The bytes are those of the text of a JSON value. -/
def HasValue (bytes : List UInt8) (v : Json) : Prop :=
  ∃ text, HasText bytes text ∧ Json.parse text = .ok v

/-- The bytes are those of an object that names a current project. -/
def Keeps (bytes : List UInt8) (v : Json) : Prop :=
  ∃ fields, HasValue bytes (.obj fields) ∧ Json.field? "current_project" fields = some v

/-- The bytes are those of no text, or of JSON that is no object or has a number with too many
    digits. -/
def Breaks (bytes : List UInt8) : Prop :=
  (¬ ∃ text, HasText bytes text) ∨
  (∃ v, HasValue bytes v ∧ ∀ fields, v ≠ .obj fields) ∨
  ∃ text count, HasText bytes text ∧ Json.parse text = .error (.tooManyDigits count)

theorem hasText_iff {bytes : List UInt8} {s : String} (h : Text.Utf8.decode bytes = .ok s)
    {text : String} :
    HasText bytes text ↔ text = String.ofList (Text.unifyNewlines s.toList) := by
  constructor
  · rintro ⟨s', hs', rfl⟩
    rw [← Text.Utf8.decode_eq_ok_iff, h] at hs'
    rw [Except.ok.inj hs']
  · intro htext
    exact ⟨s, Text.Utf8.decode_eq_ok_iff.mp h, htext⟩

theorem not_hasText {bytes : List UInt8} {fault : Text.Utf8.Fault}
    (h : Text.Utf8.decode bytes = .error fault) : ¬ ∃ text, HasText bytes text := by
  rintro ⟨_, s, hs, _⟩
  rw [← Text.Utf8.decode_eq_ok_iff, h] at hs
  cases hs

/-! ## What is read -/

/-- What is read from a file with some bytes. -/
def ofBytes (bytes : List UInt8) : Except Failure Json :=
  (Text.Utf8.decode bytes).mapError Failure.encoding >>= fun s =>
    ofText (String.ofList (Text.unifyNewlines s.toList))

variable {c : CurrentProject} {f : Files} {w : Workspace} {bytes : List UInt8}

theorem ofBytes_of_fault {fault : Text.Utf8.Fault} (h : Text.Utf8.decode bytes = .error fault) :
    ofBytes bytes = .error (.encoding fault) := by
  unfold ofBytes
  rw [h]
  rfl

theorem ofBytes_of_decode {s : String} (h : Text.Utf8.decode bytes = .ok s) :
    ofBytes bytes = ofText (String.ofList (Text.unifyNewlines s.toList)) := by
  unfold ofBytes
  rw [h]
  rfl

theorem lookup_of_find (hf : f.access = {}) (h : f.find c.file = .ok (.file bytes)) :
    c.lookup f = ofBytes bytes := by
  unfold lookup
  rw [Files.has_eq_true.mpr ⟨_, h⟩, Files.readText_of_find hf h]
  cases hdecode : Text.Utf8.decode bytes with
  | error fault =>
    rw [ofBytes_of_fault hdecode]
    rfl
  | ok s =>
    rw [ofBytes_of_decode hdecode]
    rfl

theorem run_get_eq (c : CurrentProject) (w : Workspace) :
    c.get.run w = (c.lookup w.files, w) := by
  unfold get
  rw [Work.run_bind (Work.run_get w)]
  unfold Work.ofExcept
  cases c.lookup w.files <;> rfl

/-- Reading fails exactly if the file is broken. -/
theorem ofBytes_error_iff : (∃ e, ofBytes bytes = .error e) ↔ Breaks bytes := by
  unfold Breaks HasValue
  cases hdecode : Text.Utf8.decode bytes with
  | error fault =>
    exact ⟨fun _ => .inl (not_hasText hdecode), fun _ => ⟨_, ofBytes_of_fault hdecode⟩⟩
  | ok s =>
    simp only [hasText_iff hdecode, exists_eq_left, exists_eq, ofBytes_of_decode hdecode]
    generalize String.ofList (Text.unifyNewlines s.toList) = text
    unfold ofText
    cases hparse : Json.parse text with
    | error e =>
      cases e with
      | fault kind position => simp [hparse]
      | tooManyDigits count => simp [hparse]
    | ok v => cases v <;> simp [hparse]

/-- What is read beside `null` is what the file keeps. -/
theorem ofBytes_ok_iff {v : Json} (hv : v ≠ .null) : ofBytes bytes = .ok v ↔ Keeps bytes v := by
  unfold Keeps HasValue
  cases hdecode : Text.Utf8.decode bytes with
  | error fault =>
    rw [ofBytes_of_fault hdecode]
    refine ⟨nofun, ?_⟩
    rintro ⟨_, ⟨text, htext, _⟩, _⟩
    exact absurd ⟨text, htext⟩ (not_hasText hdecode)
  | ok s =>
    simp only [hasText_iff hdecode, exists_eq_left, ofBytes_of_decode hdecode]
    generalize String.ofList (Text.unifyNewlines s.toList) = text
    unfold ofText
    cases hparse : Json.parse text with
    | error e => cases e <;> simp [Ne.symm hv]
    | ok u =>
      cases u with
      | obj fields =>
        -- a field that is not there is read as `null`
        unfold Json.fieldOrNull
        cases hfield : Json.field? "current_project" fields with
        | none => simp [Ne.symm hv, hfield]
        | some u => simp [hfield]
      | null | bool | int | real | str | arr => simp

/-- Everything else is read as no project. -/
theorem ofBytes_null_iff :
    ofBytes bytes = .ok .null ↔ ¬ Breaks bytes ∧ ∀ v, Keeps bytes v → v = .null := by
  constructor
  · intro h
    constructor
    · rw [← ofBytes_error_iff, h]
      exact nofun
    · intro v hv
      by_contra hne
      have hread := (ofBytes_ok_iff hne).mpr hv
      rw [h] at hread
      exact hne (Except.ok.inj hread).symm
  · rintro ⟨hreads, hnone⟩
    cases hread : ofBytes bytes with
    | error e => exact absurd (ofBytes_error_iff.mp ⟨e, hread⟩) hreads
    | ok v =>
      by_cases hv : v = .null
      · rw [hv]
      · exact absurd (hnone v ((ofBytes_ok_iff hv).mp hread)) hv

/-! ## Setting the project -/

/-- The file can be written: its folder is there or can be made, and no folder is in its
    place. -/
def CanWrite (c : CurrentProject) (f : Files) : Prop :=
  ∃ f', f.makeFolder (Path.parent c.file) = .ok f' ∧ ∀ bytes, ∃ g, f'.write c.file bytes = .ok g

/-- A file that holds anything can be written. -/
theorem canWrite_of_find (hf : f.Sound) (h : f.find c.file = .ok (.file bytes)) : c.CanWrite f :=
  ⟨f, Files.makeFolder_parent_of_file hf h, Files.exists_write_of_file hf.access h⟩

/-- A project that is set is read back. -/
theorem CanWrite.get_set (hw : w.files.access = {}) (h : c.CanWrite w.files)
    (project : Option String) :
    ∃ w', (c.set project).run w = (.ok (), w') ∧
      c.get.run w' = (.ok (Json.optText project), w') := by
  obtain ⟨f', hmake, hwrite⟩ := h
  obtain ⟨g, hg⟩ := hwrite (CurrentProject.bytes project)
  obtain ⟨w', hrun, _, rfl⟩ := set_gives hmake hg
  have hgrown := Files.grown_of_makeFrom (Files.makeFolder_eq_ok.mp hmake)
  have haccess : w'.files.access = {} :=
    ((Files.access_of_write hg).trans hgrown.access).trans hw
  have hread := Files.read_of_access haccess (Files.find_of_write hg)
  have htext : w'.files.readText c.file = .ok (document project).pretty :=
    Files.readText_of_read (Json.allPlain_pretty _) hread
  refine ⟨w', hrun, ?_⟩
  rw [run_get_eq]
  unfold lookup
  rw [Files.has_of_readText htext, htext]
  exact congrArg (·, w') (ofText_document project)

/-- **The current project.** Without a file there is no current project. A file with any bytes
    is read as follows. A value other than `null` is read exactly if the bytes are the text of an
    object that keeps this value as the current project. Reading fails exactly if the file is
    broken: its bytes are those of no text, or of JSON that is no object or has a number with too
    many digits. Everything else, and so every text that is not JSON, is read as no project.
    Whatever the file holds, a project can be set; where there is no file, it can if the folder
    of the file is there or can be made. The project that was set is then read back. -/
theorem kept_project (c : CurrentProject) (w : Workspace) (hw : w.files.Sound) :
    (w.files.has c.file = .ok false → c.get.run w = (.ok .null, w)) ∧
    (∀ bytes, w.files.find c.file = .ok (.file bytes) →
      (∀ v, v ≠ .null → (c.get.run w = (.ok v, w) ↔ Keeps bytes v)) ∧
      ((∃ e, c.get.run w = (.error e, w)) ↔ Breaks bytes) ∧
      (c.get.run w = (.ok .null, w) ↔ ¬ Breaks bytes ∧ ∀ v, Keeps bytes v → v = .null) ∧
      c.CanWrite w.files) ∧
    (c.CanWrite w.files → ∀ project, ∃ w', (c.set project).run w = (.ok (), w') ∧
      c.get.run w' = (.ok (Json.optText project), w')) := by
  refine ⟨?_, ?_, fun h project => h.get_set hw.access project⟩
  · intro habsent
    rw [run_get_eq]
    unfold lookup
    rw [habsent]
  · intro bytes hfind
    have hget : ∀ r, c.get.run w = (r, w) ↔ ofBytes bytes = r := by
      intro r
      rw [run_get_eq, lookup_of_find hw.access hfind]
      exact ⟨fun h => (Prod.mk.inj h).1, fun h => h ▸ rfl⟩
    simp only [hget]
    exact ⟨fun v hv => ofBytes_ok_iff hv, ofBytes_error_iff, ofBytes_null_iff,
      canWrite_of_find hw hfind⟩

/-- A file of one stray byte cannot be read. It can be written, and then the project is read. -/
theorem kept_project_stray_byte :
    let c : CurrentProject := ⟨"/state.json"⟩
    let w : Workspace := { files := ({} : Files).put ["state.json"] (.file [0xff]), now := "t" }
    Breaks [0xff] ∧ (∃ e, c.get.run w = (.error e, w)) ∧
    ∃ w', (c.set (some "/p")).run w = (.ok (), w') ∧ c.get.run w' = (.ok (.str "/p"), w') := by
  intro c w
  have hsound : w.files.Sound := Files.sound_empty.put (d := []) rfl (by decide) _
  have hfind : w.files.find c.file = .ok (.file [0xff]) := by decide +kernel
  have hbreaks : Breaks [0xff] := .inl (not_hasText Text.Utf8.decode_stray_byte)
  obtain ⟨_, hread, hset⟩ := kept_project c w hsound
  obtain ⟨_, hfails, _, hwrite⟩ := hread [0xff] hfind
  exact ⟨hbreaks, hfails.mpr hbreaks, hset hwrite (some "/p")⟩

/-- Not every file that keeps no project is read as no project: reading fails on a stray byte and
    on an array. -/
theorem get_of_broken_file :
    let c : CurrentProject := ⟨"/state.json"⟩
    let holding (bytes : List UInt8) : Workspace :=
      { files := { entries := Table.ofList [(["state.json"], .file bytes)] }, now := "t" }
    c.get.run (holding [0xff])
      = (.error (.encoding ⟨.invalidStart, 0, 1, 0xff⟩), holding [0xff]) ∧
    c.get.run (holding (Text.Utf8.encode "[]"))
      = (.error (.malformed .fieldless), holding (Text.Utf8.encode "[]")) ∧
    ¬ ∀ bytes, (¬ ∃ v, Keeps bytes v) → c.get.run (holding bytes) = (.ok .null, holding bytes) := by
  intro c holding
  have hfind : ∀ bytes, (holding bytes).files.find c.file = .ok (.file bytes) := by
    intro bytes
    have hparts : Path.parts c.file = ["state.json"] := by decide +kernel
    have hstart : (holding bytes).files.start c.file = [] := if_pos (by decide +kernel)
    refine Files.find_eq_ok.mpr ⟨["state.json"], ?_, rfl⟩
    rw [Files.place_eq_ok, hparts, hstart]
    rfl
  have hread : ∀ bytes, c.get.run (holding bytes) = (ofBytes bytes, holding bytes) := by
    intro bytes
    rw [run_get_eq, lookup_of_find rfl (hfind bytes)]
  have hstray : ofBytes [0xff] = .error (.encoding ⟨.invalidStart, 0, 1, 0xff⟩) :=
    ofBytes_of_fault Text.Utf8.decode_stray_byte
  have harray : ofBytes (Text.Utf8.encode "[]") = .error (.malformed .fieldless) := by
    rw [ofBytes_of_decode (Text.Utf8.decode_eq_ok_iff.mpr rfl)]
    rfl
  refine ⟨by rw [hread, hstray], by rw [hread, harray], ?_⟩
  intro hall
  have hnone := hall [0xff] fun ⟨_, _, ⟨text, htext, _⟩, _⟩ =>
    not_hasText Text.Utf8.decode_stray_byte ⟨text, htext⟩
  rw [hread, hstray] at hnone
  cases (Prod.mk.inj hnone).1

end CurrentProject

end SymbolGraph
