/-!
# Baggage.Selection.Strategy

The **strategies** by which the pieces to keep are chosen, and their names.
-/

namespace Baggage.Selection

/-- How the pieces to keep are chosen. -/
inductive Strategy where
  /-- Relax the choice to fractions, solve the linear program, keep what exceeds a half. -/
  | relaxation
  /-- Solve the choice itself, over weights in whole steps. -/
  | exact
  deriving DecidableEq, Repr

namespace Strategy

/-- The name by which a strategy is asked for. -/
def keyword : Strategy → String
  | relaxation => "relaxation"
  | exact => "exact"

/-- The name under which a strategy is reported. -/
def label : Strategy → String
  | relaxation => "Relaxation"
  | exact => "Exact"

/-- The strategy with a given keyword. -/
def ofKeyword? (word : String) : Option Strategy :=
  [relaxation, exact].find? fun strategy => strategy.keyword == word

end Strategy

end Baggage.Selection
