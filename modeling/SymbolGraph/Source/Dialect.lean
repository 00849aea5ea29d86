/-! # Dialects of the source language

    A source file is read in one of three dialects, chosen by the suffix of its
    name: the plain language, in which markup elements may stand for expressions;
    the language with type annotations; and the one with both.
-/

namespace SymbolGraph.Source

/-- A dialect of the source language. -/
inductive Dialect where
  | javascript
  | typescript
  | tsx
deriving DecidableEq, Inhabited, Repr

namespace Dialect

/-- Whether declarations may carry types. -/
def hasTypes : Dialect → Bool
  | .javascript => false
  | .typescript | .tsx => true

/-- Whether an angle bracket may open a markup element. -/
def hasMarkup : Dialect → Bool
  | .typescript => false
  | .javascript | .tsx => true

/-- The dialect's name. -/
def name : Dialect → String
  | .javascript => "javascript"
  | .typescript => "typescript"
  | .tsx => "tsx"

/-- The package that has to be installed to read the dialect. -/
def package : Dialect → String
  | .javascript => "tree_sitter_javascript"
  | .typescript | .tsx => "tree_sitter_typescript"

/-- The dialect of files with a given suffix. -/
def ofSuffix? (suffix : String) : Option Dialect :=
  if suffix = ".js" ∨ suffix = ".jsx" ∨ suffix = ".mjs" then some .javascript
  else if suffix = ".ts" then some .typescript
  else if suffix = ".tsx" then some .tsx
  else none

end Dialect

end SymbolGraph.Source
