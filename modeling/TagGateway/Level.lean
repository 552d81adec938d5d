/-!
# Levels of notices

What the program tells its operator has one of five levels.
-/

namespace TagGateway

/-- The levels of notices, from the least to the most urgent. -/
inductive Level
  | debug | info | warning | error | critical
deriving DecidableEq, Repr

/-- The name of a level. -/
def Level.name : Level → String
  | debug => "DEBUG"
  | info => "INFO"
  | warning => "WARNING"
  | error => "ERROR"
  | critical => "CRITICAL"

/-- The number of a level; levels are compared by it. -/
def Level.number : Level → Nat
  | debug => 10
  | info => 20
  | warning => 30
  | error => 40
  | critical => 50

end TagGateway
