/-! # Options and arguments

    A command line is a list of words. A word that starts with a dash and is not just
    a dash gives options; the others are arguments. Long options start with two dashes
    and may have their value after an equals sign. Short options have one letter, and
    several may share a dash; the letters after one that takes a value are its value.
    Otherwise an option's value is the next word, whatever it looks like. After a word
    of two dashes there are no more options.
-/

namespace SymbolGraph.Command

/-- Why a command line is not understood. -/
inductive UsageError where
  /-- There are no words at all. -/
  | noArguments
  | noSuchOption (name : String)
  /-- An option lacks its value, or has one that it does not take. -/
  | badOptionUsage (name : String)
  | missingParameter (name : String)
  /-- A value is not one of those allowed. -/
  | badParameter (name : String)
  | noSuchCommand (name : String)
  | missingCommand
  | extraArguments
deriving DecidableEq, Inhabited, Repr

/-- An option of a command. -/
structure OptionSpec where
  key : String
  /-- The spellings of the option. -/
  names : List String
  takesValue : Bool := false
deriving Inhabited, Repr

/-- What a command line gives: options with their values, in order, and arguments. -/
structure Given where
  options : List (String × String) := []
  arguments : List String := []
deriving DecidableEq, Inhabited, Repr

namespace Given

/-- Whether an option was given. -/
def has (g : Given) (key : String) : Bool :=
  g.options.any (·.1 == key)

/-- The value of an option. The last one counts. -/
def value? (g : Given) (key : String) : Option String :=
  (g.options.reverse.find? (·.1 == key)).map (·.2)

/-- What is given with more before it. -/
def prepend (options : List (String × String)) (arguments : List String) (g : Given) : Given :=
  ⟨options ++ g.options, arguments ++ g.arguments⟩

end Given

/-- The option with a spelling. -/
def findOption? (specs : List OptionSpec) (name : String) : Option OptionSpec :=
  specs.find? (·.names.contains name)

/-- Options that were read, and the words that are left. -/
abbrev Read := List (String × String) × List String

/-- The value of an option from the next word. -/
def valueFromNext (spec : OptionSpec) (name : String) : List String → Except UsageError Read
  | value :: rest => .ok ([(spec.key, value)], rest)
  | [] => .error (.badOptionUsage name)

/-- Read the letters of short options. -/
def readShort (specs : List OptionSpec) (rest : List String) :
    List Char → Except UsageError Read
  | [] => .ok ([], rest)
  | c :: more =>
    let name := String.ofList ['-', c]
    match findOption? specs name with
    | none => .error (.noSuchOption name)
    | some spec =>
      if !spec.takesValue then do
        let (options, rest) ← readShort specs rest more
        return ((spec.key, "") :: options, rest)
      else if more.isEmpty then valueFromNext spec name rest
      else .ok ([(spec.key, String.ofList more)], rest)

/-- Read a long option. -/
def readLong (specs : List OptionSpec) (word : List Char) (rest : List String) :
    Except UsageError Read :=
  let name := String.ofList (word.takeWhile (· ≠ '='))
  let explicit := match word.dropWhile (· ≠ '=') with
    | _ :: value => some (String.ofList value)
    | [] => none
  match findOption? specs name, explicit with
  | none, _ => .error (.noSuchOption name)
  | some spec, some value =>
    if spec.takesValue then .ok ([(spec.key, value)], rest) else .error (.badOptionUsage name)
  | some spec, none =>
    if spec.takesValue then valueFromNext spec name rest else .ok ([(spec.key, "")], rest)

/-- Read the options of a word. -/
def readOptions (specs : List OptionSpec) (word : String) (rest : List String) :
    Except UsageError Read :=
  match word.toList with
  | '-' :: '-' :: _ => readLong specs word.toList rest
  | _ :: letters => readShort specs rest letters
  | [] => .ok ([], rest)

/-- Whether a word gives options. -/
def givesOptions (word : String) : Bool :=
  word.toList.head? == some '-' && word.length > 1

/-- Read a command line. If options and arguments do not mix, the first argument ends
    the options. Every step takes a word, so the number of words is enough `fuel`. -/
def readWords (specs : List OptionSpec) (mixed : Bool) :
    (fuel : Nat) → List String → Except UsageError Given
  | 0, _ => .ok {}
  | _, [] => .ok {}
  | fuel + 1, word :: rest =>
    if word = "--" then .ok { arguments := rest }
    else if givesOptions word then do
      let (options, rest) ← readOptions specs word rest
      return (← readWords specs mixed fuel rest).prepend options []
    else if mixed then do
      return (← readWords specs mixed fuel rest).prepend [] [word]
    else .ok { arguments := word :: rest }

/-- What a command line gives. -/
def given (specs : List OptionSpec) (mixed : Bool) (words : List String) :
    Except UsageError Given :=
  readWords specs mixed words.length words

end SymbolGraph.Command
