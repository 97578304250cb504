import Baggage.Event
import Baggage.LinearProgram.Tableau

/-!
# Baggage.LinearProgram.Walk

A **walk** makes moves of the tableau for as long as one improves the costs. Every move takes one
pivot from a budget, on which the recursion descends. A walk keeps the exchanges of row and column
that it made; `Walk.pivots` turns them into events, numbered on from the pivots before the walk.
-/

namespace Baggage.LinearProgram

/-- How a walk ends. -/
inductive Ending (s : Shape) where
  /-- No move improves the costs. -/
  | optimal
  /-- A column could enter without bound. -/
  | unbounded (column : Fin s.columns)
  /-- A move would exceed the budget. -/
  | exhausted

/-- A sequence of moves: where it led, the exchanges of row and column on the way, and why it
ended. -/
structure Walk (α : Type) (s : Shape) where
  /-- The last tableau. -/
  tableau : Tableau α s
  /-- The exchanges, first to last. -/
  exchanges : List (Fin s.rows × Fin s.columns)
  /-- Why there are no more. -/
  ending : Ending s

variable {α : Type} [Arithmetic α] {s : Shape}

/-- Makes moves for as long as one improves the costs and the budget allows it; only columns below
`limit` may enter. `made` holds the exchanges so far, the last one in front. -/
@[specialize] def walk (tolerance : α) (limit : Nat) (made : List (Fin s.rows × Fin s.columns)) :
    (budget : Nat) → Tableau α s → Walk α s
  | 0, t =>
    match t.move tolerance limit with
    | .optimal => ⟨t, made.reverse, .optimal⟩
    | _ => ⟨t, made.reverse, .exhausted⟩
  | budget + 1, t =>
    match t.move tolerance limit with
    | .optimal => ⟨t, made.reverse, .optimal⟩
    | .unbounded column => ⟨t, made.reverse, .unbounded column⟩
    | .pivot row column =>
      walk tolerance limit ((row, column) :: made) budget (t.pivot row column)

/-- The events of a walk that begins after `before` pivots. -/
def Walk.pivots (w : Walk α s) (before : Nat) : List (Event α) :=
  w.exchanges.mapIdx fun i (row, column) => .pivot (before + i) (row + 1) column

end Baggage.LinearProgram
