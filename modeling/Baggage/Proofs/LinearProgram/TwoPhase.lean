import Baggage.Proofs.LinearProgram.Idle
import Baggage.Proofs.LinearProgram.Solver

/-!
# Baggage.Proofs.LinearProgram.TwoPhase

**Both phases together**, with a tolerance of zero. The first phase minimises the sum of the
artificial columns. It cannot be unbounded, because that sum is never negative, and at its end no
feasible point is left out: if there is one, the sum is zero (`infeasibility_nonpos`). The second
phase then starts from an idle tableau and stays within idle ones.

`solve_ok_isFinal` and `solve_unbounded_spec` say what is known of the last tableau of the second
phase; everything about solutions is derived from that.
-/

namespace Baggage.LinearProgram

/-- What is known of the tableau that a solution is read from. -/
structure Problem.IsFinal (p : Problem ℚ) (t : Tableau ℚ p.shape) : Prop where
  /-- It belongs to the second phase. -/
  isPhase : p.IsPhase p.startCosts t
  /-- Artificial columns have no influence. -/
  isIdle : t.IsIdle
  /-- No proper column has a negative cost. -/
  cost_nonneg : ∀ j : Fin p.shape.columns, j.val < p.shape.proper → 0 ≤ t.cost j

/-! ### Idle tableaus to start from -/

namespace Tableau

variable {s : Shape} {t : Tableau ℚ s}

theorem IsIdle.repriced (h : t.IsIdle) (objective : Equation ℚ s.columns) :
    (t.repriced objective).IsIdle := ⟨h.hasNoArtificials, h.isIdleAt⟩

/-- Where there are no artificial columns, every tableau is idle. -/
theorem isIdle_of_artificials_eq_zero (h : s.artificials = 0) (t : Tableau ℚ s) : t.IsIdle := by
  have hproper : ∀ i, (t.basicColumn i).val < s.proper := by
    intro i
    have hlt : (t.basicColumn i).val < s.proper + s.artificials := (t.basicColumn i).isLt
    rwa [h, add_zero] at hlt
  exact ⟨fun i hbasic => absurd (hproper i) (not_lt.mpr hbasic),
    fun i hbasic => absurd (hproper i) (not_lt.mpr hbasic)⟩

end Tableau

/-- At the least possible sum of the artificial columns all of them are zero. -/
theorem Problem.IsPhase.hasNoArtificials {p : Problem ℚ} {t : Tableau ℚ p.shape}
    (h : p.IsPhase p.artificialCosts t) (hle : -t.costs.bound ≤ 0) : t.HasNoArtificials := by
  intro i hbasic
  have hsolved : t.IsSolved := h.isFormOf.solved
  have hsum : p.artificialCosts.excess t.vertex ≤ 0 :=
    le_of_eq_of_le (h.prices.excess_vertex hsolved) hle
  rw [← hsolved.vertex_basicColumn]
  exact p.eq_zero_of_excess_artificialCosts h.vertex_nonneg hsum hbasic

namespace Solver

variable {solver : Solver ℚ} {p : Problem ℚ}

/-! ### The first phase -/

/-- All tableaus of the first walk belong to the phase of the artificial costs. -/
theorem isPhase_firstWalk (htol : solver.tolerance = 0) :
    p.IsPhase p.artificialCosts (solver.firstWalk p).tableau := by
  rw [firstWalk, htol]
  exact (p.isPhase_start.repriced _).walk _ _ _

/-- **The first phase is bounded**: along a ray the sum of the artificial columns would become
negative, but no column does. -/
theorem firstWalk_ending_ne (htol : solver.tolerance = 0) (c : Fin p.shape.columns) :
    (solver.firstWalk p).ending ≠ .unbounded c := by
  intro hending
  have hphase := isPhase_firstWalk (p := p) htol
  obtain ⟨-, hcost, hentry⟩ := Walk.unbounded_spec (solver.firstWalk_fits p) hending
  rw [htol] at hcost hentry
  obtain ⟨x, hx, hlt⟩ := hphase.prices.exists_ray_lt hphase.isFormOf.solved
    (lt_of_lt_of_eq hcost neg_zero) 0
  have hnonneg : ∀ j, 0 ≤ (solver.firstWalk p).tableau.ray c x j :=
    Tableau.ray_nonneg hphase.isFeasible hentry hx
  exact absurd hlt (not_lt.mpr (p.excess_artificialCosts_nonneg hnonneg))

/-- **At the end of the first phase no feasible point is left out**: if there is one, the
artificial columns have no positive sum. -/
theorem infeasibility_nonpos (htol : solver.tolerance = 0)
    (hending : (solver.firstWalk p).ending = .optimal) {x : List ℚ} (hx : p.IsFeasible x) :
    solver.infeasibility p ≤ 0 := by
  have hphase := isPhase_firstWalk (p := p) htol
  have hcost := Walk.optimal_spec (solver.firstWalk_fits p) hending
  rw [htol] at hcost
  -- the feasible point has no artificial columns, and the vertex is no worse
  have hle := hphase.prices.le_excess hcost (hphase.solves_lift hx) hx.isAdmissible_lift
  rwa [p.excess_artificialCosts_of_isAdmissible hx.isAdmissible_lift, zero_mul, sub_zero] at hle

/-- Where there is a feasible point, the second phase starts from an idle tableau. -/
theorem prepare_ok_spec (htol : solver.tolerance = 0) (hfeas : ∃ x, p.IsFeasible x)
    {t : Tableau ℚ p.shape} {before : Nat}
    (h : (solver.prepare p).result = .ok (t, before)) :
    p.IsPhase p.startCosts t ∧ t.IsIdle := by
  rcases prepare_eq_ok h with ⟨hnone, rfl⟩ | ⟨hending, -, rfl⟩
  · exact ⟨p.isPhase_start, Tableau.isIdle_of_artificials_eq_zero hnone _⟩
  · -- the artificial columns are zero before they are exchanged, so no pivot there moves the vertex
    obtain ⟨x, hx⟩ := hfeas
    have hphase := isPhase_firstWalk (p := p) htol
    obtain ⟨hdriven, hidle⟩ :=
      hphase.driveOut (hphase.hasNoArtificials (infeasibility_nonpos htol hending hx))
    rw [prepared, htol]
    exact ⟨hdriven.repriced _, hidle.repriced _⟩

/-! ### The second phase -/

/-- All tableaus of the second walk belong to its phase and are idle. -/
theorem secondWalk_spec (htol : solver.tolerance = 0) (hfeas : ∃ x, p.IsFeasible x)
    {t : Tableau ℚ p.shape} {before : Nat}
    (h : (solver.prepare p).result = .ok (t, before)) :
    p.IsPhase p.startCosts (solver.secondWalk p t before).tableau ∧
      (solver.secondWalk p t before).tableau.IsIdle := by
  obtain ⟨hphase, hidle⟩ := prepare_ok_spec htol hfeas h
  rw [secondWalk, htol]
  exact ⟨hphase.walk _ _ _, hidle.walk _ _⟩

/-- **A solution is read from a final tableau.** -/
theorem solve_ok_isFinal (htol : solver.tolerance = 0) (hfeas : ∃ x, p.IsFeasible x)
    {solution : Solution ℚ} (h : (solver.solve p).result = .ok solution) :
    ∃ t iterations, p.IsFinal t ∧ solution = p.solution 0 t iterations := by
  obtain ⟨-, t, before, iterations, hprepare, hending, hsolution⟩ := solve_eq_ok h
  obtain ⟨hphase, hidle⟩ := secondWalk_spec htol hfeas hprepare
  have hcost := Walk.optimal_spec (solver.secondWalk_fits p t before) hending
  rw [htol, neg_zero] at hcost
  rw [htol] at hsolution
  exact ⟨_, iterations, ⟨hphase, hidle, hcost⟩, hsolution⟩

/-- **An unbounded column** is a proper one of negative cost in which no equation has a positive
entry. -/
theorem solve_unbounded_spec (htol : solver.tolerance = 0) (hfeas : ∃ x, p.IsFeasible x)
    {column : Nat} (h : (solver.solve p).result = .error (.unbounded column)) :
    ∃ (t : Tableau ℚ p.shape) (c : Fin p.shape.columns), c.val = column ∧
      p.IsPhase p.startCosts t ∧ t.IsIdle ∧ c.val < p.shape.proper ∧ t.cost c < 0 ∧
      ∀ i, t.entry i c ≤ 0 := by
  obtain ⟨-, t, before, c, hcolumn, hprepare, hending⟩ := solve_eq_unbounded h
  obtain ⟨hphase, hidle⟩ := secondWalk_spec htol hfeas hprepare
  obtain ⟨hproper, hcost, hentry⟩ :=
    Walk.unbounded_spec (solver.secondWalk_fits p t before) hending
  rw [htol, neg_zero] at hcost
  rw [htol] at hentry
  exact ⟨_, c, hcolumn, hphase, hidle, hproper, hcost, hentry⟩

end Solver

end Baggage.LinearProgram
