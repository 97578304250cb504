import Baggage.Proofs.LinearProgram.Solver

/-!
# Baggage.Proofs.LinearProgram.Shared

**Problems that share their starting tableau.** Once a problem is accepted, the solver looks at its
tableau only: `Solver.run` makes both phases from a tableau of any shape, and `solve_eq_run` says
that a solve is such a run between the check of the problem and the reading of its solution.

So two problems that begin from the same tableau come to the same end, in every arithmetic
(`Solver.solve_of_sharesTableau`). Their shapes are equal but written differently, hence a tableau
of the one is `Tableau.cast` to the other; the casts are all removed here.
-/

namespace Baggage.LinearProgram

variable {α : Type}

/-! ### Tableaus of equal shapes -/

theorem Equation.eq_of_parts {n : Nat} {e e' : Equation α n}
    (hcoefficients : ∀ j : Fin n, e'.coefficients.get j = e.coefficients.get j)
    (hbound : e'.bound = e.bound) : e' = e := by
  obtain ⟨coefficients, bound⟩ := e
  obtain ⟨coefficients', bound'⟩ := e'
  obtain rfl : coefficients' = coefficients := Vector.ext fun j hj => hcoefficients ⟨j, hj⟩
  obtain rfl : bound' = bound := hbound
  rfl

namespace Tableau

/-- A tableau, its shape written in another way. -/
def cast {s s' : Shape} (h : s = s') (t : Tableau α s) : Tableau α s' := h ▸ t

section Cast

variable {s s' : Shape} (h : s = s') (t : Tableau α s)

theorem values_cast [Arithmetic α] (tolerance : α) :
    (t.cast h).values tolerance = t.values tolerance := by
  subst h
  rfl

theorem bound_costs_cast : (t.cast h).costs.bound = t.costs.bound := by
  subst h
  rfl

theorem coefficients_costs_cast {j : Fin s.columns} {j' : Fin s'.columns} (hj : j'.val = j.val) :
    (t.cast h).costs.coefficients.get j' = t.costs.coefficients.get j := by
  subst h
  obtain rfl : j' = j := Fin.ext hj
  rfl

/-- A tableau is another one cast to its shape if they agree cell by cell. -/
theorem eq_cast [Arithmetic α] {t : Tableau α s} {u : Tableau α s'}
    (hcosts : ∀ (j : Fin s.columns) (j' : Fin s'.columns), j'.val = j.val →
      u.costs.coefficients.get j' = t.costs.coefficients.get j)
    (hcorner : u.costs.bound = t.costs.bound)
    (hentry : ∀ (i : Fin s.rows) (i' : Fin s'.rows), i'.val = i.val →
      ∀ (j : Fin s.columns) (j' : Fin s'.columns), j'.val = j.val → u.entry i' j' = t.entry i j)
    (hbound : ∀ (i : Fin s.rows) (i' : Fin s'.rows), i'.val = i.val → u.bound i' = t.bound i)
    (hbasis : ∀ (i : Fin s.rows) (i' : Fin s'.rows), i'.val = i.val →
      (u.basicColumn i').val = (t.basicColumn i).val) :
    u = t.cast h := by
  subst h
  obtain ⟨costs, equations, basis⟩ := t
  obtain ⟨costs', equations', basis'⟩ := u
  obtain rfl : costs' = costs := Equation.eq_of_parts (fun j => hcosts j j rfl) hcorner
  obtain rfl : equations' = equations := Vector.ext fun i hi =>
    Equation.eq_of_parts (fun j => hentry ⟨i, hi⟩ ⟨i, hi⟩ rfl j j rfl)
      (hbound ⟨i, hi⟩ ⟨i, hi⟩ rfl)
  obtain rfl : basis' = basis := Vector.ext fun i hi => Fin.ext (hbasis ⟨i, hi⟩ ⟨i, hi⟩ rfl)
  rfl

end Cast

end Tableau

/-! ### Runs -/

variable [Arithmetic α] {s : Shape}

/-- The costs under which the artificial columns of a shape add up to the objective. -/
def Shape.artificialCosts (s : Shape) : Equation α s.columns :=
  { coefficients := Vector.ofFn fun column =>
      if column.val < s.proper then Arithmetic.zero else Arithmetic.one
    bound := Arithmetic.zero }

namespace Solver

variable (solver : Solver α) (budget : Nat)

/-- The first phase from a tableau, if its shape needs one. -/
def reach (t : Tableau α s) : Except (SolveError α) (Tableau α s × Nat) :=
  if s.artificials = 0 then .ok (t, 0)
  else (solver.findFeasible budget s.artificialCosts t.costs t).result

/-- The second phase from a tableau that was reached with `before` pivots. -/
def finish (t : Tableau α s) (before : Nat) : Except (SolveError α) (Tableau α s × Nat) :=
  let w := walk solver.tolerance s.proper [] (budget - before) t
  match w.ending with
  | .unbounded column => .error (.unbounded column)
  | .exhausted => .error (.didNotConverge (before + w.exchanges.length))
  | .optimal => .ok (w.tableau, before + w.exchanges.length)

/-- Both phases: the last tableau, and the number of pivots on the way to it. -/
def run (t : Tableau α s) : Except (SolveError α) (Tableau α s × Nat) :=
  (solver.reach budget t).bind fun found => solver.finish budget found.1 found.2

/-- A run does not depend on how a shape is written. -/
theorem run_cast {s' : Shape} (h : s = s') (t : Tableau α s) :
    solver.run budget (t.cast h)
      = (solver.run budget t).map fun found => (found.1.cast h, found.2) := by
  subst h
  show solver.run budget t = (solver.run budget t).map fun found => (found.1, found.2)
  cases solver.run budget t <;> rfl

variable {p q : Problem α}

theorem prepare_result : (solver.prepare p).result = solver.reach (solver.budget p) p.start := by
  unfold prepare reach
  split <;> rfl

theorem optimize_result (t : Tableau α p.shape) (before : Nat) :
    (solver.optimize p t before).result = (solver.finish (solver.budget p) t before).map
      fun found => p.solution solver.tolerance found.1 found.2 := by
  unfold optimize finish
  generalize walk solver.tolerance p.shape.proper [] (solver.budget p - before) t = w
  dsimp only
  cases w.ending <;> rfl

/-- **A solve is a run**, between the check of the problem and the reading of its solution. -/
theorem solve_eq_run : (solver.solve p).result = match p.fault? solver.phaseOne with
    | some fault => .error (.invalid fault)
    | none => (solver.run (solver.budget p) p.start).map
        fun found => p.solution solver.tolerance found.1 found.2 := by
  rcases solver.solve_cases p with
    ⟨fault, hfault, hsolve⟩ | ⟨e, hfault, hprepare, hsolve⟩ | ⟨t, before, hfault, hprepare, hsolve⟩
  · rw [hsolve, hfault]
  · rw [hsolve, hfault]
    rw [prepare_result] at hprepare
    dsimp only
    rw [run, hprepare]
    rfl
  · rw [hsolve, hfault, optimize_result]
    rw [prepare_result] at hprepare
    dsimp only
    rw [run, hprepare]
    rfl

end Solver

/-! ### Two problems with one tableau -/

/-- A problem begins from the tableau of another one. -/
structure Problem.SharesTableau (p q : Problem α) : Prop where
  shape_eq : p.shape = q.shape
  start_eq : q.start = p.start.cast shape_eq

namespace Solver

variable {solver : Solver α} {p q : Problem α}

theorem budget_eq_of_shape_eq (h : p.shape = q.shape) : solver.budget q = solver.budget p := by
  have hvariables : p.variableCount = q.variableCount := congrArg Shape.variableCount h
  have hrows : p.rows.length = q.rows.length := congrArg Shape.rows h
  rw [budget, budget, hvariables, hrows]

/-- **Problems that share a tableau come to the same end**, up to the way in which a solution is
read from the last tableau. -/
theorem solve_of_sharesTableau (h : p.SharesTableau q)
    (hfault : q.fault? solver.phaseOne = p.fault? solver.phaseOne)
    {f : Solution α → Solution α}
    (hread : ∀ t iterations, q.solution solver.tolerance (t.cast h.shape_eq) iterations
      = f (p.solution solver.tolerance t iterations)) :
    (solver.solve q).result = (solver.solve p).result.map f := by
  rw [solve_eq_run, solve_eq_run, hfault]
  cases p.fault? solver.phaseOne with
  | some fault => rfl
  | none =>
      dsimp only
      rw [budget_eq_of_shape_eq h.shape_eq, h.start_eq, run_cast]
      cases solver.run (solver.budget p) p.start with
      | error e => rfl
      | ok found => exact congrArg Except.ok (hread found.1 found.2)

end Solver

end Baggage.LinearProgram
