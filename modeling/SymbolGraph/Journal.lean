/-! # Log records

    What the parts of the program have to say while they work is kept as records. A
    record has a level and names the part that wrote it.
-/

namespace SymbolGraph

/-- How important a record is. -/
inductive Level where
  | debug
  | info
  | warning
  | error
deriving DecidableEq, Inhabited, Repr

namespace Level

/-- The name of a level. -/
def name : Level → String
  | .debug => "DEBUG"
  | .info => "INFO"
  | .warning => "WARNING"
  | .error => "ERROR"

/-- Levels by importance. -/
def rank : Level → Nat
  | .debug => 0
  | .info => 1
  | .warning => 2
  | .error => 3

end Level

/-- A log record. -/
structure Record where
  level : Level
  /-- The part of the program that wrote the record. -/
  source : String
  text : String
deriving DecidableEq, Inhabited, Repr

namespace Record

/-- A record as a line of text. -/
def line (r : Record) : String :=
  s!"{r.level.name} jsgraph.{r.source}: {r.text}"

/-- Whether a record is at least as important as a level. -/
def reaches (least : Level) (r : Record) : Bool :=
  least.rank ≤ r.level.rank

end Record

/-- The lines of the records that reach a level. -/
def recordLines (least : Level) (rs : List Record) : List String :=
  (rs.filter (·.reaches least)).map (·.line)

end SymbolGraph
