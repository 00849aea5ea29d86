import Mathlib.Data.List.Forall2
import SymbolGraph.Graph.Html
import SymbolGraph.Proofs.Selections

/-! # The markup of pages

    A page is read by a reader that knows what tags, lists and entities are, and nothing about
    graphs. It takes a text apart into tags and characters (`Html.pieces?`) and refuses stray angle
    brackets. Then it finds the tags (`Html.tags?`) and the items with their texts, un-escaped
    (`Html.items?`).

    What is escaped has no angle brackets (`clean_escape`) and is un-escaped to what it was
    (`unescape_escape`). `Shows` says which tags and items a text has, whatever follows it. It is
    proved of the lines of a page one by one, and of the page as their concatenation. So the texts
    of a graph can be read in the page, but add nothing to its markup (`render_markup`).
-/

namespace SymbolGraph.Html

/-! ## The reader -/

/-- What a page is made of: tags, and the characters between them. -/
inductive Piece where
  | tag (name : String)
  | char (c : Char)
deriving DecidableEq, Inhabited, Repr

/-- The name of a tag. -/
def Piece.tag? : Piece → Option String
  | .tag name => some name
  | .char _ => none

/-- A text taken apart into its pieces. A tag goes from one angle bracket to the next, so an
    angle bracket that neither opens nor closes a tag is refused. Inside a tag, the characters of
    its name that have been read are given, the last one first. -/
def pieces? (name : Option (List Char)) : List Char → Option (List Piece)
  | [] => if name.isNone then some [] else none
  | c :: rest =>
    match name with
    | none =>
      if c = '<' then pieces? (some []) rest
      else if c = '>' then none
      else (pieces? none rest).map (.char c :: ·)
    | some cs =>
      if c = '<' then none
      else if c = '>' then (pieces? none rest).map (.tag (String.ofList cs.reverse) :: ·)
      else pieces? (some (c :: cs)) rest

/-- A text with the five entities replaced by the characters that they stand for. -/
def unescape : List Char → List Char
  | '&' :: 'a' :: 'm' :: 'p' :: ';' :: rest => '&' :: unescape rest
  | '&' :: 'l' :: 't' :: ';' :: rest => '<' :: unescape rest
  | '&' :: 'g' :: 't' :: ';' :: rest => '>' :: unescape rest
  | '&' :: 'q' :: 'u' :: 'o' :: 't' :: ';' :: rest => '"' :: unescape rest
  | '&' :: '#' :: 'x' :: '2' :: '7' :: ';' :: rest => '\'' :: unescape rest
  | c :: rest => c :: unescape rest
  | [] => []

/-- The texts before, between and after the tags. -/
def texts : List Piece → List (List Char)
  | [] => [[]]
  | .tag _ :: rest => [] :: texts rest
  | .char c :: rest => (texts rest).modifyHead (c :: ·)

/-- The items of the lists of a page, each with its texts, un-escaped. Inside an item, the pieces
    that have been read are given, the last one first. -/
def items (item : Option (List Piece)) : List Piece → List (List String)
  | [] => []
  | p :: rest =>
    match item with
    | none => if p = .tag "li" then items (some []) rest else items none rest
    | some ps =>
      if p = .tag "/li" then
        (texts ps.reverse).map (fun t => String.ofList (unescape t)) :: items none rest
      else items (some (p :: ps)) rest

/-- The tags of a page. -/
def tags? (page : String) : Option (List String) :=
  (pieces? none page.toList).map (·.filterMap Piece.tag?)

/-- The items of a page. -/
def items? (page : String) : Option (List (List String)) :=
  (pieces? none page.toList).map (items none)

/-! ## Texts that are escaped -/

/-- Only an ampersand can start an entity. -/
theorem unescape_cons {c : Char} (hc : c ≠ '&') (rest : List Char) :
    unescape (c :: rest) = c :: unescape rest := by
  rw [unescape] <;> exact fun _ heq => absurd heq hc

theorem unescape_escapeChar (c : Char) (rest : List Char) :
    unescape (escapeChar c ++ rest) = c :: unescape rest := by
  by_cases hspecial : c ∈ ['&', '<', '>', '"', '\'']
  · simp only [List.mem_cons, List.not_mem_nil, or_false] at hspecial
    rcases hspecial with rfl | rfl | rfl | rfl | rfl <;> rfl
  · simp only [List.mem_cons, List.not_mem_nil, or_false, not_or] at hspecial
    obtain ⟨hand, hopen, hclose, hquote, hsingle⟩ := hspecial
    have hplain : escapeChar c = [c] := by
      simp [escapeChar, hand, hopen, hclose, hquote, hsingle]
    rw [hplain, List.singleton_append, unescape_cons hand]

/-- Un-escaping undoes escaping. -/
theorem unescape_escape (s : String) : String.ofList (unescape (escape s).toList) = s := by
  have hchars : ∀ cs : List Char, unescape (cs.flatMap escapeChar) = cs := by
    intro cs
    induction cs with
    | nil => rfl
    | cons c cs ih => rw [List.flatMap_cons, unescape_escapeChar, ih]
  rw [escape_eq, String.toList_ofList, hchars, String.ofList_toList]

/-- Text that is no markup: it has no angle brackets. -/
def Clean (s : String) : Prop :=
  ∀ c ∈ s.toList, c ≠ '<' ∧ c ≠ '>'

instance (s : String) : Decidable (Clean s) :=
  List.decidableBAll (fun c => c ≠ '<' ∧ c ≠ '>') s.toList

/-- What is escaped is no markup. -/
theorem clean_escape (s : String) : Clean (escape s) := by
  intro c hc
  rw [escape_eq, String.toList_ofList] at hc
  obtain ⟨d, _, hc⟩ := List.mem_flatMap.mp hc
  unfold escapeChar at hc
  -- no entity has an angle bracket, and the other characters are none
  split at hc
  · exact (by decide : Clean "&amp;") c hc
  · split at hc
    · exact (by decide : Clean "&lt;") c hc
    · rename_i hopen
      split at hc
      · exact (by decide : Clean "&gt;") c hc
      · rename_i hclose
        split at hc
        · exact (by decide : Clean "&quot;") c hc
        · split at hc
          · exact (by decide : Clean "&#x27;") c hc
          · rw [List.mem_singleton.mp hc]
            exact ⟨hopen, hclose⟩

theorem clean_toString (n : Nat) : Clean (toString n) := by
  intro c hc
  have hc : c ∈ (String.ofList (Nat.toDigits 10 n)).toList := hc
  rw [String.toList_ofList] at hc
  have hdigit := Nat.isDigit_of_mem_toDigits (by decide) (by decide) hc
  constructor <;> rintro rfl <;> exact absurd hdigit (by decide)

/-! ## Texts with tags -/

/-- A text that is read by itself is read in the same way before another one. -/
theorem pieces?_append {name : Option (List Char)} {cs : List Char} {ps : List Piece}
    (h : pieces? name cs = some ps) (rest : List Char) :
    pieces? name (cs ++ rest) = (pieces? none rest).map (ps ++ ·) := by
  -- the cases in which nothing is read are those of stray brackets and of a tag that does not end
  fun_induction pieces? name cs generalizing ps with
  | case1 name hname =>
    cases h
    rw [Option.isNone_iff_eq_none.mp hname]
    exact Option.map_id'.symm
  | case2 | case4 | case6 => cases h
  | case3 more ih => exact ih h
  | case5 c more hopen hclose ih =>
    obtain ⟨qs, hqs, rfl⟩ := Option.map_eq_some_iff.mp h
    rw [List.cons_append, pieces?]
    simp only [if_neg hopen, if_neg hclose]
    rw [ih hqs, Option.map_map]
    rfl
  | case7 more cs _ ih =>
    obtain ⟨qs, hqs, rfl⟩ := Option.map_eq_some_iff.mp h
    show (pieces? none (more ++ rest)).map _ = _
    rw [ih hqs, Option.map_map]
    rfl
  | case8 c more cs hopen hclose ih =>
    rw [List.cons_append, pieces?]
    simp only [if_neg hopen, if_neg hclose]
    exact ih h

/-- A text outside tags is read character by character. -/
theorem reads_text {s : String} (h : Clean s) :
    Reads (pieces? none) s.toList (s.toList.map .char) := by
  unfold Clean at h
  generalize s.toList = cs at h ⊢
  induction cs with
  | nil => exact Reads.nil
  | cons c cs ih =>
    obtain ⟨⟨hopen, hclose⟩, hcs⟩ := List.forall_mem_cons.mp h
    have hchar : Reads (pieces? none) [c] [.char c] := by
      intro rest
      rw [List.singleton_append, pieces?]
      simp only [if_neg hopen, if_neg hclose]
      rfl
    exact hchar.append (ih hcs)

/-- Inside a tag, its name is read up to the end of the tag. -/
theorem pieces?_inside {cs : List Char} (h : ∀ c ∈ cs, c ≠ '<' ∧ c ≠ '>')
    (before rest : List Char) :
    pieces? (some before) (cs ++ '>' :: rest)
      = (pieces? none rest).map (.tag (String.ofList (before.reverse ++ cs)) :: ·) := by
  induction cs generalizing before with
  | nil =>
    rw [List.append_nil]
    rfl
  | cons c cs ih =>
    obtain ⟨⟨hopen, hclose⟩, hcs⟩ := List.forall_mem_cons.mp h
    rw [List.cons_append, pieces?]
    simp only [if_neg hopen, if_neg hclose]
    rw [ih hcs, List.reverse_cons, List.append_assoc, List.singleton_append]

theorem reads_tag {name : String} (h : Clean name) :
    Reads (pieces? none) ('<' :: (name.toList ++ ['>'])) [.tag name] := by
  intro rest
  have hname := pieces?_inside h [] rest
  rw [List.reverse_nil, List.nil_append, String.ofList_toList] at hname
  rw [List.cons_append, List.append_assoc, List.singleton_append]
  exact hname

/-- A text, and then tags with a text after each of them. -/
def framed (first : String) (tagged : List (String × String)) : List Char :=
  first.toList ++ tagged.flatMap fun x => '<' :: (x.1.toList ++ ['>']) ++ x.2.toList

/-- The pieces of such a text. -/
def framedPieces (first : String) (tagged : List (String × String)) : List Piece :=
  first.toList.map .char ++ tagged.flatMap fun x => .tag x.1 :: x.2.toList.map .char

theorem reads_framed {first : String} {tagged : List (String × String)} (hfirst : Clean first)
    (htagged : ∀ x ∈ tagged, Clean x.1 ∧ Clean x.2) :
    Reads (pieces? none) (framed first tagged) (framedPieces first tagged) := by
  refine (reads_text hfirst).append ?_
  induction tagged with
  | nil => exact Reads.nil
  | cons x tagged ih =>
    obtain ⟨⟨hname, htext⟩, htagged⟩ := List.forall_mem_cons.mp htagged
    exact ((reads_tag hname).append (reads_text htext)).append (ih htagged)

@[simp] theorem filterMap_tag?_char (cs : List Char) :
    (cs.map Piece.char).filterMap Piece.tag? = [] := by
  rw [List.filterMap_map, List.filterMap_eq_nil_iff]
  exact fun _ _ => rfl

theorem filterMap_tag?_framedPieces (first : String) (tagged : List (String × String)) :
    (framedPieces first tagged).filterMap Piece.tag? = tagged.map (·.1) := by
  unfold framedPieces
  rw [List.filterMap_append, filterMap_tag?_char, List.nil_append]
  induction tagged with
  | nil => rfl
  | cons x tagged ih => simp [Piece.tag?, ih]

/-- A tag of a text with tags is one of those that were put there. -/
theorem tag_mem_framedPieces {first name : String} {tagged : List (String × String)} :
    .tag name ∈ framedPieces first tagged ↔ name ∈ tagged.map (·.1) := by
  rw [← filterMap_tag?_framedPieces first, List.mem_filterMap]
  constructor
  · exact fun hmem => ⟨_, hmem, rfl⟩
  · rintro ⟨piece, hmem, hname⟩
    cases piece with
    | tag other => cases hname; exact hmem
    | char => cases hname

theorem texts_append (cs : List Char) (ps : List Piece) :
    texts (cs.map .char ++ ps) = (texts ps).modifyHead (cs ++ ·) := by
  induction cs with
  | nil =>
    show texts ps = (texts ps).modifyHead id
    rw [List.modifyHead_id]
    rfl
  | cons c cs ih =>
    show (texts (cs.map .char ++ ps)).modifyHead (c :: ·) = _
    rw [ih, List.modifyHead_modifyHead]
    rfl

theorem texts_framedPieces (first : String) (tagged : List (String × String)) :
    texts (framedPieces first tagged) = first.toList :: tagged.map (·.2.toList) := by
  unfold framedPieces
  rw [texts_append]
  have htagged : texts (tagged.flatMap fun x => .tag x.1 :: x.2.toList.map .char)
      = [] :: tagged.map (·.2.toList) := by
    induction tagged with
    | nil => rfl
    | cons x tagged ih =>
      rw [List.flatMap_cons, List.cons_append, texts, texts_append, ih]
      simp
  rw [htagged, List.modifyHead_cons, List.append_nil]

/-! ## Items -/

/-- Outside items, only the beginning of an item counts. -/
theorem items_outside {ps : List Piece} (h : .tag "li" ∉ ps) (rest : List Piece) :
    items none (ps ++ rest) = items none rest := by
  induction ps with
  | nil => rfl
  | cons p ps ih =>
    obtain ⟨hp, hps⟩ := not_or.mp (mt List.mem_cons.mpr h)
    rw [List.cons_append, items, if_neg (Ne.symm hp)]
    exact ih hps

/-- Inside an item, its pieces are collected up to the end of the item. -/
theorem items_inside {ps : List Piece} (h : .tag "/li" ∉ ps) (before rest : List Piece) :
    items (some before) (ps ++ .tag "/li" :: rest)
      = (texts (before.reverse ++ ps)).map (fun t => String.ofList (unescape t))
        :: items none rest := by
  induction ps generalizing before with
  | nil =>
    rw [List.append_nil]
    rfl
  | cons p ps ih =>
    obtain ⟨hp, hps⟩ := not_or.mp (mt List.mem_cons.mpr h)
    rw [List.cons_append, items]
    simp only [if_neg (Ne.symm hp)]
    rw [ih hps, List.reverse_cons, List.append_assoc, List.singleton_append]

/-- What a text shows, whatever follows it: its tags, and its items. -/
def Shows (text : String) (shown : List String × List (List String)) : Prop :=
  ∃ ps, Reads (pieces? none) text.toList ps ∧ ps.filterMap Piece.tag? = shown.1 ∧
    ∀ rest, items none (ps ++ rest) = shown.2 ++ items none rest

theorem Shows.append {text other : String} {shown more : List String × List (List String)}
    (h : Shows text shown) (h' : Shows other more) :
    Shows (text ++ other) (shown.1 ++ more.1, shown.2 ++ more.2) := by
  obtain ⟨ps, hreads, htags, hitems⟩ := h
  obtain ⟨ps', hreads', htags', hitems'⟩ := h'
  refine ⟨ps ++ ps', ?_, ?_, ?_⟩
  · rw [String.toList_append]
    exact hreads.append hreads'
  · rw [List.filterMap_append, htags, htags']
  · intro rest
    rw [List.append_assoc, hitems, hitems', List.append_assoc]

theorem shows_text {text : String} (h : Clean text) : Shows text ([], []) := by
  refine ⟨_, reads_text h, filterMap_tag?_char _, ?_⟩
  intro rest
  exact items_outside (by simp) rest

/-- A text that has tags and no items. -/
theorem shows_tags {text : String} (tags : List String) (h : tags? text = some tags)
    (hitem : "li" ∉ tags) : Shows text (tags, []) := by
  obtain ⟨ps, hps, htags⟩ := Option.map_eq_some_iff.mp h
  refine ⟨ps, pieces?_append hps, htags, ?_⟩
  intro rest
  refine items_outside ?_ rest
  intro hmem
  rw [← htags] at hitem
  exact hitem (List.mem_filterMap.mpr ⟨_, hmem, rfl⟩)

/-- A text between two texts that have tags and no items. -/
theorem shows_between {before text after : String} (tags others : List String)
    (htext : Clean text) (hbefore : tags? before = some tags) (hafter : tags? after = some others)
    (hitem : "li" ∉ tags ++ others) : Shows (before ++ text ++ after) (tags ++ others, []) := by
  rw [List.mem_append, not_or] at hitem
  have h := ((shows_tags tags hbefore hitem.1).append (shows_text htext)).append
    (shows_tags others hafter hitem.2)
  simpa using h

/-- An item whose texts are escaped shows these texts. -/
theorem shows_item {line : String} (first text : String) (inner : List (String × String))
    (tags : List String) (hline : line.toList = framed first (("li", escape text)
      :: inner.map (fun x => (x.1, escape x.2)) ++ [("/li", "")]))
    (hfirst : Clean first) (hnames : inner.map (·.1) = tags)
    (htags : ∀ name ∈ tags, Clean name ∧ name ≠ "/li") :
    Shows line ("li" :: tags ++ ["/li"], [text :: inner.map (·.2)]) := by
  subst hnames
  -- names of tags are chosen to be clean, and texts are clean because they are escaped
  have hclean : ∀ x ∈ ("li", escape text) :: inner.map (fun x => (x.1, escape x.2)) ++ [("/li", "")],
      Clean x.1 ∧ Clean x.2 := by
    intro x hx
    rcases List.mem_append.mp hx with hx | hx
    · rcases List.mem_cons.mp hx with rfl | hx
      · exact ⟨(by decide : Clean "li"), clean_escape text⟩
      · obtain ⟨y, hy, rfl⟩ := List.mem_map.mp hx
        exact ⟨(htags y.1 (List.mem_map_of_mem hy)).1, clean_escape y.2⟩
    · rw [List.mem_singleton.mp hx]
      decide
  have hreads := reads_framed hfirst hclean
  rw [← hline] at hreads
  refine ⟨_, hreads, ?_, ?_⟩
  · rw [filterMap_tag?_framedPieces]
    simp
  · intro rest
    -- the item starts after the indentation, and nothing before its end looks like its end
    have hpieces : framedPieces first (("li", escape text)
          :: inner.map (fun x => (x.1, escape x.2)) ++ [("/li", "")]) ++ rest
        = first.toList.map .char ++ .tag "li" :: (framedPieces (escape text)
          (inner.map fun x => (x.1, escape x.2)) ++ .tag "/li" :: rest) := by
      simp [framedPieces]
    have hbefore : .tag "li" ∉ first.toList.map Piece.char := by simp
    have hinside : .tag "/li" ∉ framedPieces (escape text)
        (inner.map fun x => (x.1, escape x.2)) := by
      rw [tag_mem_framedPieces, List.map_map]
      exact fun hmem => (htags "/li" hmem).2 rfl
    rw [hpieces, items_outside hbefore, items, if_pos rfl]
    show items (some []) _ = _
    rw [items_inside hinside, List.reverse_nil, List.nil_append, texts_framedPieces]
    simp [unescape_escape]

/-- Lines show what each of them shows. -/
theorem shows_lines {lines : List String} {shown : List (List String × List (List String))}
    (h : List.Forall₂ Shows lines shown) :
    Shows (String.intercalate "\n" lines) (shown.flatMap (·.1), shown.flatMap (·.2)) := by
  induction h with
  | nil => exact shows_text (by decide)
  | @cons line x lines shown hline hlines ih =>
    cases hlines with
    | nil =>
      rw [String.intercalate_singleton, List.flatMap_singleton, List.flatMap_singleton]
      exact hline
    | cons hnext hrest =>
      have hbreak := hline.append (shows_text (by decide : Clean "\n"))
      rw [List.append_nil, List.append_nil] at hbreak
      rw [String.intercalate_cons_of_ne_nil (List.cons_ne_nil _ _)]
      exact hbreak.append ih

/-- Lines with an item on each of them show the items. -/
theorem shows_items {α : Type} {as : List α} {tags : List String} {texts : α → List String}
    {lines : List String} (h : List.Forall₂ Shows lines (as.map fun a => (tags, [texts a]))) :
    Shows (String.intercalate "\n" lines)
      ((List.replicate as.length tags).flatten, as.map texts) := by
  have hlines := shows_lines h
  rw [List.flatMap_map, List.flatMap_map] at hlines
  rw [← List.map_const', ← List.flatMap_def, List.map_eq_flatMap]
  exact hlines

/-! ## Reading a page -/

/-- Every angle bracket of a text that is read belongs to one of its tags. -/
theorem count_of_pieces? {name : Option (List Char)} {cs : List Char} {ps : List Piece}
    (h : pieces? name cs = some ps) :
    cs.count '<' + (if name.isSome then 1 else 0) = (ps.filterMap Piece.tag?).length ∧
      cs.count '>' = (ps.filterMap Piece.tag?).length := by
  -- inside a tag, its opening bracket has been read, and the tag itself is still to come
  fun_induction pieces? name cs generalizing ps with
  | case1 name hname =>
    cases h
    simp [Option.isNone_iff_eq_none.mp hname]
  | case2 | case4 | case6 => cases h
  | case3 more ih => simpa using ih h
  | case5 c more hopen hclose ih =>
    obtain ⟨qs, hqs, rfl⟩ := Option.map_eq_some_iff.mp h
    simpa [hopen, hclose, List.filterMap_cons, Piece.tag?] using ih hqs
  | case7 more cs _ ih =>
    obtain ⟨qs, hqs, rfl⟩ := Option.map_eq_some_iff.mp h
    simpa [List.filterMap_cons, Piece.tag?] using ih hqs
  | case8 c more cs hopen hclose ih => simpa [hopen, hclose] using ih h

/-- What a page shows is read from it. -/
theorem Shows.read {page : String} {shown : List String × List (List String)}
    (h : Shows page shown) :
    tags? page = some shown.1 ∧ page.toList.count '<' = shown.1.length ∧
      page.toList.count '>' = shown.1.length ∧ items? page = some shown.2 := by
  obtain ⟨ps, hreads, htags, hitems⟩ := h
  have hpieces : pieces? none page.toList = some ps := by
    have hall := hreads []
    rw [List.append_nil] at hall
    rw [hall]
    show (some []).map (ps ++ ·) = _
    rw [Option.map_some, List.append_nil]
  have hlisted := hitems []
  rw [List.append_nil, items, List.append_nil] at hlisted
  obtain ⟨hopen, hclose⟩ := count_of_pieces? hpieces
  rw [htags] at hopen hclose
  refine ⟨?_, hopen, hclose, ?_⟩
  · rw [tags?, hpieces, Option.map_some, htags]
  · rw [items?, hpieces, Option.map_some, hlisted]

/-! ## Pages -/

/-- The tags of the item for an id. -/
def nodeTags : List String :=
  ["li", "code", "/code", "/li"]

/-- The tags of the item for an edge. -/
def edgeTags : List String :=
  ["li", "code", "/code", "em", "/em", "code", "/code", "/li"]

/-- The tags of a page with lists of some ids and some edges. -/
def pageTags (ids edges : Nat) : List String :=
  ["!doctype html", "html", "head", "meta charset=\"utf-8\" /", "title", "/title", "style",
    "/style", "/head", "body", "h1", "/h1", "h2", "/h2", "ul"]
  ++ (List.replicate ids nodeTags).flatten ++ ["/ul", "h2", "/h2", "ul"]
  ++ (List.replicate edges edgeTags).flatten ++ ["/ul", "/body", "/html"]

/-- The texts of the item for an id. -/
def nodeTexts (s : Store) (id : Key) : List String :=
  ["", id.plain, " " ++ label s id]

/-- The texts of the item for an edge. -/
def edgeTexts (e : Edge) : List String :=
  ["", e.src.plain, " ", e.type.plain, " ", e.dst.plain, ""]

theorem exists_nodeItem (s : Store) (id : String) :
    ∃ line, nodeItem s (.str id) = .ok line ∧
      Shows line (nodeTags, [nodeTexts s (.str id)]) := by
  refine ⟨_, rfl, ?_⟩
  refine shows_item "    " "" [("code", id), ("/code", " " ++ label s (.str id))]
    ["code", "/code"] ?_ (by decide) rfl (by decide)
  simp [framed, escape_eq, escapeChar]

theorem exists_edgeItem (src type dst : String) :
    ∃ line, edgeItem ⟨.str src, .str dst, .str type⟩ = .ok line ∧
      Shows line (edgeTags, [edgeTexts ⟨.str src, .str dst, .str type⟩]) := by
  refine ⟨_, rfl, ?_⟩
  refine shows_item "    " "" [("code", src), ("/code", " "), ("em", type), ("/em", " "),
    ("code", dst), ("/code", "")] ["code", "/code", "em", "/em", "code", "/code"]
    ?_ (by decide) rfl (by decide)
  simp [framed, escape_eq, escapeChar]

/-- A page shows the tags of its frame and of the items, and the items. -/
theorem shows_page {title : String} (htitle : Clean title) {nodes edges : List String} {n m : Nat}
    {ids links : List (List String)}
    (hnodes : Shows (String.intercalate "\n" nodes) ((List.replicate n nodeTags).flatten, ids))
    (hedges : Shows (String.intercalate "\n" edges) ((List.replicate m edgeTags).flatten, links)) :
    Shows (page title nodes edges) (pageTags n m, ids ++ links) := by
  -- the lines of the frame are read as they stand, except for the title and the two numbers
  have hlines : Shows (page title nodes edges) _ := shows_lines <|
    .cons (shows_tags ["!doctype html"] rfl (by decide)) <|
    .cons (shows_tags ["html"] rfl (by decide)) <|
    .cons (shows_tags ["head"] rfl (by decide)) <|
    .cons (shows_tags ["meta charset=\"utf-8\" /"] rfl (by decide)) <|
    .cons (shows_between ["title"] ["/title"] htitle rfl rfl (by decide)) <|
    .cons (shows_tags ["style", "/style"] rfl (by decide)) <|
    .cons (shows_tags ["/head"] rfl (by decide)) <|
    .cons (shows_tags ["body"] rfl (by decide)) <|
    .cons (shows_between ["h1"] ["/h1"] htitle rfl rfl (by decide)) <|
    .cons (shows_between ["h2"] ["/h2"] (clean_toString nodes.length) rfl rfl (by decide)) <|
    .cons (shows_tags ["ul"] rfl (by decide)) <|
    .cons hnodes <|
    .cons (shows_tags ["/ul"] rfl (by decide)) <|
    .cons (shows_between ["h2"] ["/h2"] (clean_toString edges.length) rfl rfl (by decide)) <|
    .cons (shows_tags ["ul"] rfl (by decide)) <|
    .cons hedges <|
    .cons (shows_tags ["/ul"] rfl (by decide)) <|
    .cons (shows_tags ["/body"] rfl (by decide)) <|
    .cons (shows_tags ["/html"] rfl (by decide)) <|
    .cons (shows_text (by decide)) .nil
  simpa [pageTags] using hlines

/-! ## Graphs -/

/-- A graph that can be listed: ids and names are texts, and so are the types of edges. -/
structure Listable (s : Store) : Prop extends s.Named where
  type : ∀ e ∈ s.edges.toList, ∃ type, e.type = .str type

/-- The page for a graph shows what is selected. -/
theorem exists_shows_render {s : Store} (h : Listable s) {focus : String} {sel : Selection}
    (hsel : s.selection focus = .ok sel) :
    ∃ page, render s focus = .ok page ∧ Shows page (pageTags sel.ids.length sel.edges.length,
      sel.ids.map (nodeTexts s) ++ sel.edges.map edgeTexts) := by
  obtain ⟨htexts, hedges⟩ := h.toNamed.of_selection hsel
  have hnode : ∀ id ∈ sel.ids, ∃ line, nodeItem s id = .ok line ∧
      Shows line (nodeTags, [nodeTexts s id]) := by
    intro id hid
    obtain ⟨text, rfl⟩ := htexts id hid
    exact exists_nodeItem s text
  have hedge : ∀ e ∈ sel.edges, ∃ line, edgeItem e = .ok line ∧
      Shows line (edgeTags, [edgeTexts e]) := by
    intro e he
    obtain ⟨src, hsrc⟩ := h.src e (hedges e he)
    obtain ⟨dst, hdst⟩ := h.dst e (hedges e he)
    obtain ⟨type, htype⟩ := h.type e (hedges e he)
    obtain ⟨_, _, _⟩ := e
    subst hsrc hdst htype
    exact exists_edgeItem src type dst
  obtain ⟨nodeLines, hnodes, hlisted⟩ := exists_mapM hnode
  obtain ⟨edgeLines, hlinks, hlinked⟩ := exists_mapM hedge
  refine ⟨page (escape (title focus)) nodeLines edgeLines, ?_, ?_⟩
  · unfold render
    rw [hsel]
    simp only [bind, Except.bind, hnodes, hlinks]
    rfl
  · exact shows_page (clean_escape _) (shows_items hlisted) (shows_items hlinked)

/-- **No text of a graph is markup.** Let ids, names and types of edges of a graph be any texts.
    For every focus there is a page. Its tags depend only on how many ids and edges are selected,
    and every angle bracket belongs to one of them. Its items, un-escaped, are the ids that are
    selected with their labels, in order, and then the edges that are selected with their types,
    in order. So the page for another graph and another focus has the same tags, if as many ids
    and edges are selected. -/
theorem render_markup (s : Store) (h : Listable s) (focus : String) :
    ∃ sel page, s.selection focus = .ok sel ∧ render s focus = .ok page ∧
      tags? page = some (pageTags sel.ids.length sel.edges.length) ∧
      page.toList.count '<' = (pageTags sel.ids.length sel.edges.length).length ∧
      page.toList.count '>' = (pageTags sel.ids.length sel.edges.length).length ∧
      items? page = some (sel.ids.map (nodeTexts s) ++ sel.edges.map edgeTexts) ∧
      ∀ (t : Store) (focus' : String) (sel' : Selection) (page' : String), Listable t →
        t.selection focus' = .ok sel' → render t focus' = .ok page' →
        sel'.ids.length = sel.ids.length → sel'.edges.length = sel.edges.length →
        tags? page' = tags? page := by
  obtain ⟨page, hrender, hshows⟩ := exists_shows_render h (h.toNamed.selection_eq focus)
  obtain ⟨htags, hopen, hclose, hitems⟩ := hshows.read
  refine ⟨_, page, h.toNamed.selection_eq focus, hrender, htags, hopen, hclose, hitems, ?_⟩
  intro t focus' sel' page' ht hsel' hrender' hids hedges
  -- the tags of both pages are given by the same two numbers
  obtain ⟨page'', hrender'', hshows'⟩ := exists_shows_render ht hsel'
  rw [hrender', Except.ok.injEq] at hrender''
  rw [hrender'', hshows'.read.1, htags, hids, hedges]

/-- A symbol whose id closes its item and opens a script, with entities and braces in its name, is
    called from a list. The page around the script has the same tags as the page for a call of a
    harmless symbol. -/
theorem render_markup_hostile :
    let f : Symbol := ⟨.str "&lt;\x7btitle\x7d", .str "'\".js", .int 1, .variable (.str "var")⟩
    let id := "</code></li><script>"
    let call : Edge := ⟨.str "<ul>", .str id, .str "<em>"⟩
    let s := ((Store.empty "t0").addNode (.str id) f).addEdge call
    let g : Symbol := ⟨.str "g", .str "a.js", .int 1, .variable (.str "var")⟩
    let other : Edge := ⟨.str "a.js:2", .str "a.js:g:1", .str "calls"⟩
    let t := ((Store.empty "t1").addNode (.str "a.js:g:1") g).addEdge other
    Listable s ∧ Listable t ∧ ∃ page page', render s "<script>" = .ok page ∧ render t "" = .ok page' ∧
      tags? page' = tags? page ∧ items? page = some [
        ["", id, " variable &lt;\x7btitle\x7d at '\".js:1"],
        ["", "<ul>", " (site)"],
        ["", "<ul>", " ", "<em>", " ", id, ""]] := by
  intro f id call s g other t
  have hs : Listable s := by
    have hnodes : s.nodes.entries = [(.str id, f)] := rfl
    have hedges : s.edges.toList = [call] := rfl
    constructor
    · constructor <;> simp [hnodes, hedges, f, call]
    · simp [hedges, call]
  have ht : Listable t := by
    have hnodes : t.nodes.entries = [(.str "a.js:g:1", g)] := rfl
    have hedges : t.edges.toList = [other] := rfl
    constructor
    · constructor <;> simp [hnodes, hedges, g, other]
    · simp [hedges, other]
  obtain ⟨sel, page, hsel, hrender, _, _, _, hitems, hsame⟩ := render_markup s hs "<script>"
  obtain ⟨sel', page', hsel', hrender', _⟩ := render_markup t ht ""
  have hfocused : s.focused "<script>" = [.str id] := by decide +kernel
  have hsorted : [id, "<ul>"].mergeSort (· ≤ ·) = [id, "<ul>"] :=
    List.mergeSort_of_pairwise (by decide)
  have hpart : s.selection "<script>" = .ok ⟨[id, "<ul>"].map .str, [call]⟩ := by
    rw [hs.toNamed.selection_eq, hfocused, if_neg (List.cons_ne_nil _ _), ← hsorted]
    rfl
  have hwhole' : t.selection "" = .ok ⟨[.str "a.js:g:1", .str "a.js:2"], [other]⟩ := rfl
  have htags := hsame t "" sel' page' ht hsel' hrender'
  rw [hpart, Except.ok.injEq] at hsel
  rw [hwhole', Except.ok.injEq] at hsel'
  rw [← hsel] at hitems htags
  rw [← hsel'] at htags
  exact ⟨hs, ht, page, page', hrender, hrender', htags rfl rfl, hitems⟩

end SymbolGraph.Html
