import Baggage.LinearProgram.Solver
import Baggage.Proofs.LinearProgram.Move
import Baggage.Proofs.LinearProgram.Start

/-!
# Baggage.Proofs.LinearProgram.Solver

**What a result of the solver tells of its walks.** The solver makes at most two walks, the
`Solver.firstWalk` over the artificial costs and the `Solver.secondWalk` from the tableau that the
first one prepared. `prepare_cases` and `optimize_cases` list how each of them can end and with
which result, and `solve_cases` how they make up a run. From these, `solve_eq_ok`,
`solve_eq_unbounded` and `solve_eq_infeasible` read a result of the run backwards.

None of this depends on the tolerance.
-/

namespace Baggage.LinearProgram

namespace Solver

variable (solver : Solver ℚ) (p : Problem ℚ)

/-- The walk of the first phase. -/
def firstWalk : Walk ℚ p.shape :=
  walk solver.tolerance p.shape.proper [] (solver.budget p) (p.start.repriced p.artificialCosts)

/-- The sum of the artificial columns at the end of the first phase. -/
def infeasibility : ℚ := -(solver.firstWalk p).tableau.costs.bound

/-- The tableau that the first phase hands on. -/
def prepared : Tableau ℚ p.shape :=
  ((solver.firstWalk p).tableau.driveOut solver.tolerance).repriced p.startCosts

/-- The walk of the second phase. -/
def secondWalk (t : Tableau ℚ p.shape) (before : Nat) : Walk ℚ p.shape :=
  walk solver.tolerance p.shape.proper [] (solver.budget p - before) t

/-! ### How the phases end -/

theorem firstWalk_fits : (solver.firstWalk p).ending.Fits
    ((solver.firstWalk p).tableau.move solver.tolerance p.shape.proper) := walk_fits _ _ _

theorem secondWalk_fits (t : Tableau ℚ p.shape) (before : Nat) :
    (solver.secondWalk p t before).ending.Fits
      ((solver.secondWalk p t before).tableau.move solver.tolerance p.shape.proper) :=
  walk_fits _ _ _

/-- Without artificial columns nothing is to be done first. -/
theorem prepare_of_artificials_eq_zero (h : p.shape.artificials = 0) :
    (solver.prepare p).result = .ok (p.start, 0) := by
  rw [prepare, if_pos h]
  rfl

/-- The first phase, by the end of its walk. -/
theorem prepare_of_artificials_ne_zero (h : p.shape.artificials ≠ 0) :
    (solver.prepare p).result = match (solver.firstWalk p).ending with
      | .unbounded _ => .error .infeasible
      | .exhausted => .error (.didNotConverge (solver.firstWalk p).exchanges.length)
      | .optimal =>
        if feasibilityTolerance < solver.infeasibility p then .error .infeasible
        else .ok (solver.prepared p, (solver.firstWalk p).exchanges.length) := by
  have hprepare : solver.prepare p = solver.findFeasible (solver.budget p) p.artificialCosts
      p.startCosts p.start := if_neg h
  have hwalk : walk solver.tolerance p.shape.proper [] (solver.budget p)
      { p.start with costs := p.start.priceArtificial p.artificialCosts } = solver.firstWalk p := by
    rw [p.isSolved_start.priceArtificial_eq p.coefficient_artificialCosts]
    rfl
  rw [hprepare, findFeasible]
  dsimp only
  rw [hwalk]
  cases (solver.firstWalk p).ending with
  | unbounded c => rfl
  | exhausted => rfl
  | optimal =>
      have hlt : Arithmetic.lt feasibilityTolerance (-(solver.firstWalk p).tableau.costs.bound)
          = decide (feasibilityTolerance < solver.infeasibility p) := rfl
      simp only [hlt, decide_eq_true_eq]
      split
      · rfl
      · rfl

/-- **The ways in which the first phase ends.** -/
theorem prepare_cases :
    (p.shape.artificials = 0 ∧ (solver.prepare p).result = .ok (p.start, 0)) ∨
    (∃ c, (solver.firstWalk p).ending = .unbounded c ∧
      (solver.prepare p).result = .error .infeasible) ∨
    (∃ n, (solver.prepare p).result = .error (.didNotConverge n)) ∨
    ((solver.firstWalk p).ending = .optimal ∧
      feasibilityTolerance < solver.infeasibility p ∧
      (solver.prepare p).result = .error .infeasible) ∨
    ((solver.firstWalk p).ending = .optimal ∧
      solver.infeasibility p ≤ feasibilityTolerance ∧
      (solver.prepare p).result
        = .ok (solver.prepared p, (solver.firstWalk p).exchanges.length)) := by
  by_cases h : p.shape.artificials = 0
  · exact Or.inl ⟨h, solver.prepare_of_artificials_eq_zero p h⟩
  · rw [solver.prepare_of_artificials_ne_zero p h]
    right
    cases hending : (solver.firstWalk p).ending with
    | unbounded c => exact Or.inl ⟨c, rfl, rfl⟩
    | exhausted => exact Or.inr (Or.inl ⟨_, rfl⟩)
    | optimal =>
        by_cases hlt : feasibilityTolerance < solver.infeasibility p
        · exact Or.inr (Or.inr (Or.inl ⟨rfl, hlt, if_pos hlt⟩))
        · exact Or.inr (Or.inr (Or.inr ⟨rfl, not_lt.mp hlt, if_neg hlt⟩))

/-- The ways in which the second phase ends. -/
theorem optimize_cases (t : Tableau ℚ p.shape) (before : Nat) :
    ((solver.secondWalk p t before).ending = .optimal ∧ ∃ iterations,
      (solver.optimize p t before).result
        = .ok (p.solution solver.tolerance (solver.secondWalk p t before).tableau iterations)) ∨
    (∃ c, (solver.secondWalk p t before).ending = .unbounded c ∧
      (solver.optimize p t before).result = .error (.unbounded c)) ∨
    (∃ n, (solver.optimize p t before).result = .error (.didNotConverge n)) := by
  have hwalk : walk solver.tolerance p.shape.proper [] (solver.budget p - before) t
      = solver.secondWalk p t before := rfl
  rw [optimize]
  dsimp only
  rw [hwalk]
  cases (solver.secondWalk p t before).ending with
  | optimal => exact Or.inl ⟨rfl, _, rfl⟩
  | unbounded c => exact Or.inr (Or.inl ⟨c, rfl, rfl⟩)
  | exhausted => exact Or.inr (Or.inr ⟨_, rfl⟩)

/-! ### Reading a result backwards -/

/-- **The ways to a result**, in every arithmetic: the problem is refused, or the first phase
already fails, or the second phase decides. -/
theorem solve_cases {α : Type} [Arithmetic α] (solver : Solver α) (p : Problem α) :
    (∃ fault, p.fault? solver.phaseOne = some fault ∧
      (solver.solve p).result = .error (.invalid fault)) ∨
    (∃ e, p.fault? solver.phaseOne = none ∧ (solver.prepare p).result = .error e ∧
      (solver.solve p).result = .error e) ∨
    (∃ t before, p.fault? solver.phaseOne = none ∧
      (solver.prepare p).result = .ok (t, before) ∧
      (solver.solve p).result = (solver.optimize p t before).result) := by
  rw [solve]
  cases hfault : p.fault? solver.phaseOne with
  | some fault => exact Or.inl ⟨fault, rfl, rfl⟩
  | none =>
      right
      dsimp only
      rw [Logged.result_precededBy, solveAccepted, Logged.result_andThen]
      cases hprepare : (solver.prepare p).result with
      | error e => exact Or.inl ⟨e, rfl, rfl, rfl⟩
      | ok found =>
          obtain ⟨t, before⟩ := found
          exact Or.inr ⟨t, before, rfl, rfl, rfl⟩

variable {solver p}

/-- The first phase fails for want of a feasible point, or of pivots, in every arithmetic. -/
theorem prepare_eq_error {α : Type} [Arithmetic α] {solver : Solver α} {p : Problem α}
    {e : SolveError α} (h : (solver.prepare p).result = .error e) :
    e = .infeasible ∨ ∃ n, e = .didNotConverge n := by
  unfold prepare at h
  split at h
  · cases h
  · unfold findFeasible at h
    dsimp only at h
    split at h
    · exact Or.inl (Except.error.inj h).symm
    · exact Or.inr ⟨_, (Except.error.inj h).symm⟩
    · split at h
      · exact Or.inl (Except.error.inj h).symm
      · cases h

/-- The second phase starts from the problem itself, or from what the first one prepared. -/
theorem prepare_eq_ok {t : Tableau ℚ p.shape} {before : Nat}
    (h : (solver.prepare p).result = .ok (t, before)) :
    (p.shape.artificials = 0 ∧ t = p.start) ∨
      ((solver.firstWalk p).ending = .optimal ∧
        solver.infeasibility p ≤ feasibilityTolerance ∧ t = solver.prepared p) := by
  rcases solver.prepare_cases p with
    ⟨hnone, hok⟩ | ⟨c, -, herror⟩ | ⟨n, herror⟩ | ⟨-, -, herror⟩ | ⟨hending, hle, hok⟩
  · exact Or.inl ⟨hnone, (Prod.mk.inj (Except.ok.inj (h.symm.trans hok))).1⟩
  · cases herror.symm.trans h
  · cases herror.symm.trans h
  · cases herror.symm.trans h
  · exact Or.inr ⟨hending, hle, (Prod.mk.inj (Except.ok.inj (h.symm.trans hok))).1⟩

/-- A solution is that of the tableau in which the second walk found its optimum. -/
theorem solve_eq_ok {solution : Solution ℚ} (h : (solver.solve p).result = .ok solution) :
    p.fault? solver.phaseOne = none ∧
      ∃ t before iterations, (solver.prepare p).result = .ok (t, before) ∧
        (solver.secondWalk p t before).ending = .optimal ∧
        solution = p.solution solver.tolerance (solver.secondWalk p t before).tableau
          iterations := by
  rcases solver.solve_cases p with
    ⟨fault, -, hsolve⟩ | ⟨e, -, -, hsolve⟩ | ⟨t, before, hfault, hprepare, hsolve⟩
  · cases hsolve.symm.trans h
  · cases hsolve.symm.trans h
  · rw [hsolve] at h
    rcases solver.optimize_cases p t before with
      ⟨hending, iterations, hok⟩ | ⟨c, -, herror⟩ | ⟨n, herror⟩
    · exact ⟨hfault, t, before, iterations, hprepare, hending,
        Except.ok.inj (h.symm.trans hok)⟩
    · cases herror.symm.trans h
    · cases herror.symm.trans h

/-- An unbounded column is the one at which the second walk ended. -/
theorem solve_eq_unbounded {column : Nat}
    (h : (solver.solve p).result = .error (.unbounded column)) :
    p.fault? solver.phaseOne = none ∧
      ∃ t before, ∃ c : Fin p.shape.columns, c.val = column ∧
        (solver.prepare p).result = .ok (t, before) ∧
        (solver.secondWalk p t before).ending = .unbounded c := by
  rcases solver.solve_cases p with
    ⟨fault, -, hsolve⟩ | ⟨e, -, hprepare, hsolve⟩ | ⟨t, before, hfault, hprepare, hsolve⟩
  · cases hsolve.symm.trans h
  · obtain rfl := Except.error.inj (hsolve.symm.trans h)
    rcases prepare_eq_error hprepare with he | ⟨n, he⟩
    · cases he
    · cases he
  · rw [hsolve] at h
    rcases solver.optimize_cases p t before with
      ⟨-, iterations, hok⟩ | ⟨c, hending, herror⟩ | ⟨n, herror⟩
    · cases hok.symm.trans h
    · have hcolumn : c.val = column :=
        SolveError.unbounded.inj (Except.error.inj (herror.symm.trans h))
      exact ⟨hfault, t, before, c, hcolumn, hprepare, hending⟩
    · cases herror.symm.trans h

/-- Infeasibility is found by the first phase. -/
theorem solve_eq_infeasible (h : (solver.solve p).result = .error .infeasible) :
    (solver.prepare p).result = .error .infeasible := by
  rcases solver.solve_cases p with
    ⟨fault, -, hsolve⟩ | ⟨e, -, hprepare, hsolve⟩ | ⟨t, before, -, -, hsolve⟩
  · cases hsolve.symm.trans h
  · obtain rfl := Except.error.inj (hsolve.symm.trans h)
    exact hprepare
  · rw [hsolve] at h
    rcases solver.optimize_cases p t before with ⟨-, iterations, hok⟩ | ⟨c, -, herror⟩ | ⟨n, herror⟩
    · cases hok.symm.trans h
    · cases herror.symm.trans h
    · cases herror.symm.trans h

end Solver

end Baggage.LinearProgram
