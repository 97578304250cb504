import Baggage.Proofs.LinearProgram.TwoPhase

/-!
# Baggage.Proofs.LinearProgram.Verdicts

**The other verdicts are sound**, with a tolerance of zero. A problem that is found infeasible has
no feasible point, because the first phase always finds one if there is any. A problem that is
found unbounded has feasible points of any objective whatever: the ray of the entering column stays
feasible, and the objective changes along it at the column's cost.
-/

namespace Baggage.LinearProgram

namespace Problem

/-- Two rows that no point meets at once. -/
def contradictory : Problem ℚ where
  objective := [1, 1]
  maximize := true
  rows := [⟨"most", [1, 1], .atMost, 1⟩, ⟨"least", [1, 0], .atLeast, 2⟩]

/-- Rows that only bound the difference of the variables, one of them twice as much as needed. -/
def runaway : Problem ℚ where
  objective := [3, 2]
  maximize := true
  rows := [⟨"least", [1, -1], .atLeast, 1⟩, ⟨"exact", [2, -2], .equal, 4⟩]

end Problem

namespace Solver

variable {solver : Solver ℚ} {p : Problem ℚ}

/-- **No feasible problem is found infeasible**, whatever the budget. In particular the first phase
never ends at an unbounded column, which would count as infeasible too. -/
theorem solve_infeasible_sound (htol : solver.tolerance = 0) :
    ((solver.solve p).result = .error .infeasible → ¬ ∃ x, p.IsFeasible x) ∧
      ∀ c, (solver.firstWalk p).ending ≠ .unbounded c := by
  refine ⟨?_, firstWalk_ending_ne htol⟩
  rintro h ⟨x, hx⟩
  have hprepare := solve_eq_infeasible h
  rcases solver.prepare_cases p with
    ⟨-, hok⟩ | ⟨c, hending, -⟩ | ⟨n, herror⟩ | ⟨hending, hlt, -⟩ | ⟨-, -, hok⟩
  · cases hok.symm.trans hprepare
  · exact firstWalk_ending_ne htol c hending
  · cases herror.symm.trans hprepare
  · -- any tolerance that is not negative would do here: the sum is zero
    have htolerance : (0 : ℚ) ≤ feasibilityTolerance := Arithmetic.rat_ofDecimal_nonneg rfl
    exact absurd (infeasibility_nonpos htol hending hx)
      (not_le.mpr (lt_of_le_of_lt htolerance hlt))
  · cases hok.symm.trans hprepare

theorem solve_contradictory_sound :
    (solve ⟨none, 0, true⟩ Problem.contradictory).result = .error .infeasible ∧
      ¬ ∃ x, Problem.contradictory.IsFeasible x := by
  have hsolve : (solve ⟨none, 0, true⟩ Problem.contradictory).result = .error .infeasible := by
    decide +kernel
  exact ⟨hsolve, (solve_infeasible_sound rfl).1 hsolve⟩

/-- An accepted problem in standard form has a feasible point, and so has one in general form that
is given to have one. -/
theorem exists_isFeasible (haccepted : p.fault? solver.phaseOne = none)
    (hfeas : solver.phaseOne = true → ∃ x, p.IsFeasible x) : ∃ x, p.IsFeasible x := by
  cases hmode : solver.phaseOne with
  | true => exact hfeas hmode
  | false =>
      rw [hmode] at haccepted
      exact ⟨_, Problem.isFeasible_origin haccepted⟩

/-- **The objective of a problem that is found unbounded has no bound** on the feasible points,
whatever the budget. Only in general form is it an assumption that there are any. -/
theorem solve_unbounded_sound (htol : solver.tolerance = 0)
    (hfeas : solver.phaseOne = true → ∃ x, p.IsFeasible x) {column : Nat}
    (h : (solver.solve p).result = .error (.unbounded column)) (m : ℚ) :
    ∃ x, p.IsFeasible x ∧ if p.maximize then m < p.evaluate x else p.evaluate x < -m := by
  have hpoint := exists_isFeasible (solve_eq_unbounded h).1 hfeas
  obtain ⟨t, c, -, hphase, hidle, hproper, hcost, hentry⟩ := solve_unbounded_spec htol hpoint h
  have hsolved : t.IsSolved := hphase.isFormOf.solved
  obtain ⟨x, hx, hlt⟩ := hphase.prices.exists_ray_lt hsolved hcost (-m)
  have hsolves : p.start.Solves (t.ray c x) :=
    hphase.isFormOf.solves_iff.mp (hsolved.solves_ray c x)
  have hadmissible : p.shape.IsAdmissible (t.ray c x) :=
    hidle.isAdmissible_ray hphase.isFeasible hproper hentry hx
  refine ⟨_, p.isFeasible_point hsolves hadmissible, ?_⟩
  rw [Problem.excess_startCosts, Problem.sign] at hlt
  split
  · next hmax =>
      rw [if_pos hmax, neg_one_mul] at hlt
      exact neg_lt_neg_iff.mp hlt
  · next hmax =>
      rw [if_neg hmax, one_mul] at hlt
      exact hlt

theorem solve_runaway_sound :
    (solve ⟨none, 0, true⟩ Problem.runaway).result = .error (.unbounded 1) ∧
      ∃ x, Problem.runaway.IsFeasible x ∧ 1000 < Problem.runaway.evaluate x := by
  have hsolve : (solve ⟨none, 0, true⟩ Problem.runaway).result = .error (.unbounded 1) := by
    decide +kernel
  have hfeas : Problem.runaway.IsFeasible [2, 0] := by decide +kernel
  exact ⟨hsolve, solve_unbounded_sound rfl (fun _ => ⟨_, hfeas⟩) hsolve 1000⟩

/-- **A problem whose objective is bounded on its feasible points is not found unbounded.** -/
theorem solve_ne_unbounded (htol : solver.tolerance = 0) (hfeas : ∃ x, p.IsFeasible x) {m : ℚ}
    (hbounded : ∀ x, p.IsFeasible x → m ≤ p.sign * p.evaluate x) (column : Nat) :
    (solver.solve p).result ≠ .error (.unbounded column) := by
  intro h
  obtain ⟨t, c, -, hphase, hidle, hproper, hcost, hentry⟩ := solve_unbounded_spec htol hfeas h
  obtain ⟨x, hx, hlt⟩ := hphase.prices.exists_ray_lt hphase.isFormOf.solved hcost m
  rw [Problem.excess_startCosts] at hlt
  exact absurd (hbounded _ (hphase.isFeasible_ray hidle hproper hentry hx)) (not_le.mpr hlt)

end Solver

end Baggage.LinearProgram
