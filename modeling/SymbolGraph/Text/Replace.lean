/-! # Replacing characters -/

namespace SymbolGraph.Text

/-- What takes the place of a character if `old` is replaced by a text. -/
def replaceChar (old : Char) (new : String) (c : Char) : List Char :=
  if c = old then new.toList else [c]

/-- Other characters stay. -/
theorem replaceChar_of_ne {old c : Char} (new : String) (h : c ≠ old) :
    replaceChar old new c = [c] :=
  if_neg h

/-- A text in which a character is replaced by another text wherever it occurs. -/
def replace (old : Char) (new s : String) : String :=
  String.ofList (s.toList.flatMap (replaceChar old new))

/-- A text that is made character by character can have characters replaced in one pass. -/
theorem replace_ofList (old : Char) (new : String) (cs : List Char) (f : Char → List Char) :
    replace old new (String.ofList (cs.flatMap f))
      = String.ofList (cs.flatMap fun c => (f c).flatMap (replaceChar old new)) := by
  unfold replace
  rw [String.toList_ofList, List.flatMap_assoc]

end SymbolGraph.Text
