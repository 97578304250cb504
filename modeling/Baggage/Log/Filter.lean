import Baggage.Log.Directive

/-!
# Baggage.Log.Filter

**Which records are shown.** A filter is written as directives between commas. Of the directives
that apply to a record the most specific one decides, and of equally specific ones the last. Without
any directive errors alone are shown; without one that applies, nothing.
-/

namespace Baggage.Log

/-- The directives in force, first to last. -/
structure Filter where
  /-- The directives. -/
  directives : List Directive

namespace Filter

/-- The filter that shows errors alone. -/
def errors : Filter := ⟨[{ target := "", verbosity := Level.error.verbosity }]⟩

/-- The filter of some directives. -/
def ofDirectives (directives : List Directive) : Filter :=
  if directives.isEmpty then errors else ⟨directives⟩

/-- The texts between the commas, as far as they are not empty. -/
def pieces (text : String) : List String := (text.splitOn ",").filter fun piece => !piece.isEmpty

/-- The filter that a text describes, if each of its pieces is a directive. -/
def parse? (text : String) : Option Filter :=
  match (pieces text).mapM Directive.parse with
  | .ok directives => some (ofDirectives directives)
  | .error _ => none

/-- The filter that the directives of a text describe, its other pieces left out. -/
def parse (text : String) : Filter :=
  ofDirectives ((pieces text).filterMap fun piece => (Directive.parse piece).toOption)

/-- The pieces of a text that are no directives, and why. -/
def rejected (text : String) : List (String × Directive.Fault) :=
  (pieces text).filterMap fun piece =>
    match Directive.parse piece with
    | .ok _ => none
    | .error fault => some (piece, fault)

/-- Of two directives the more specific one, or the later one. -/
def prefer (found : Option Directive) (d : Directive) : Option Directive :=
  match found with
  | none => some d
  | some best => if d.compareScope best == .lt then some best else some d

/-- The directive that decides on a record. -/
def deciding? (f : Filter) (r : Record) : Option Directive :=
  (f.directives.filter fun d => d.appliesTo r).foldl prefer none

/-- Whether a record is shown. -/
def shows (f : Filter) (r : Record) : Bool :=
  (f.deciding? r).any fun d => r.level.verbosity ≤ d.verbosity

end Filter

end Baggage.Log
