import Baggage.Proofs.LinearProgram.Multipliers
import Baggage.Proofs.LinearProgram.Optimality
import Baggage.Proofs.LinearProgram.Shared

/-!
# Baggage.Proofs.LinearProgram.Reformulation

**Two ways to write one problem.** A maximum is the negated minimum of the negated objective, and a
row may be negated on both sides if its relation is reversed. Neither changes the starting tableau:
the objective enters the costs with a sign, rows are turned so that their bound is not negative, and
both undo the change (`Problem.TurnsLike.sharesTableau`). This fails only for a row whose bound is
zero, which is not turned in either form.

What is read from the last tableau keeps the signs of the problem as it was written. All numbers are
the same but for the objective, the activities and the shadow prices, and `TurnsLike.shadowPrice_eq`
says how the signs of the latter go.
-/

namespace Baggage

theorem Arithmetic.rat_dot_neg (coefficients xs : List ℚ) :
    dot (coefficients.map fun a => -a) xs = -dot coefficients xs := by
  simp only [dot, rat_sum]
  show (List.zipWith (· * ·) (coefficients.map fun a => -a) xs).sum
    = -(List.zipWith (· * ·) coefficients xs).sum
  induction coefficients generalizing xs with
  | nil => simp
  | cons a rest ih =>
      cases xs with
      | nil => simp
      | cons x later =>
          rw [List.map_cons, List.zipWith_cons_cons, List.sum_cons, ih, List.zipWith_cons_cons,
            List.sum_cons]
          ring

namespace LinearProgram

/-! ### Rows that turn alike -/

theorem getD_map_neg (coefficients : List ℚ) (j : Nat) :
    (coefficients.map fun a => -a).getD j 0 = -coefficients.getD j 0 := by
  have hmap := List.getD_map (n := j) coefficients 0 fun a => -a
  rwa [neg_zero] at hmap

theorem findSome?_eq_of_forall₂ {β γ : Type} {f : β → Option γ} {l l' : List β}
    (h : List.Forall₂ (fun b b' => f b' = f b) l l') : l'.findSome? f = l.findSome? f := by
  induction h with
  | nil => rfl
  | cons hhead _ ih => rw [List.findSome?_cons, List.findSome?_cons, hhead, ih]

theorem Relation.reverse_reverse (relation : Relation) : relation.reverse.reverse = relation := by
  cases relation <;> rfl

namespace Row

/-- The row with both sides negated. -/
def negated (row : Row ℚ) : Row ℚ :=
  { row with
    coefficients := row.coefficients.map fun a => -a
    relation := row.relation.reverse
    bound := -row.bound }

/-- Whether the slack at a point is so small that the row counts as binding. -/
def isBinding (row : Row ℚ) (x : List ℚ) : Bool :=
  Arithmetic.le (Arithmetic.abs (row.slack x))
    (bindingTolerance * (Arithmetic.one + Arithmetic.abs row.bound))

theorem activity_negated (row : Row ℚ) (x : List ℚ) :
    row.negated.activity x = -row.activity x := Arithmetic.rat_dot_neg _ _

theorem slack_negated (row : Row ℚ) (x : List ℚ) : row.negated.slack x = row.slack x := by
  unfold slack
  rw [activity_negated]
  cases hrel : row.relation <;> simp only [negated, hrel, Relation.reverse] <;> ring

theorem isBinding_negated (row : Row ℚ) (x : List ℚ) :
    row.negated.isBinding x = row.isBinding x := by
  have hbound : |row.negated.bound| = |row.bound| := abs_neg _
  simp only [isBinding, slack_negated, Arithmetic.rat_abs, hbound]

/-- Two rows whose turned forms are the same. -/
structure TurnsLike (row other : Row ℚ) : Prop where
  turnedRelation_eq : other.turnedRelation = row.turnedRelation
  turn_mul_coefficient : ∀ j,
    other.turn * other.coefficients.getD j 0 = row.turn * row.coefficients.getD j 0
  turn_mul_bound : other.turn * other.bound = row.turn * row.bound

theorem TurnsLike.refl (row : Row ℚ) : row.TurnsLike row := ⟨rfl, fun _ => rfl, rfl⟩

theorem TurnsLike.needsArtificial_eq {row other : Row ℚ} (h : row.TurnsLike other) :
    other.needsArtificial = row.needsArtificial := by
  rw [needsArtificial, needsArtificial, h.turnedRelation_eq]

theorem TurnsLike.slackCoefficient_eq {row other : Row ℚ} (h : row.TurnsLike other) :
    other.slackCoefficient = row.slackCoefficient := by
  rw [slackCoefficient, slackCoefficient, h.turnedRelation_eq]

/-- Of a row with a bound other than zero and the negated one, exactly one is turned. -/
theorem isTurned_negated {row : Row ℚ} (h : row.bound ≠ 0) :
    row.negated.isTurned = !row.isTurned := by
  show decide (-row.bound < 0) = !decide (row.bound < 0)
  rcases lt_or_gt_of_ne h with hneg | hpos
  · simp [hneg, hneg.le]
  · simp [hpos, hpos.le]

theorem turn_negated {row : Row ℚ} (h : row.bound ≠ 0) : row.negated.turn = -row.turn := by
  rw [turn, turn, isTurned_negated h]
  cases row.isTurned
  · rfl
  · exact (neg_neg (1 : ℚ)).symm

theorem turnedRelation_negated {row : Row ℚ} (h : row.bound ≠ 0) :
    row.negated.turnedRelation = row.turnedRelation := by
  rw [turnedRelation, turnedRelation, isTurned_negated h]
  cases row.isTurned
  · exact Relation.reverse_reverse row.relation
  · rfl

/-- **A row with a bound other than zero turns like the negated one.** -/
theorem turnsLike_negated {row : Row ℚ} (h : row.bound ≠ 0) : row.TurnsLike row.negated := by
  refine ⟨turnedRelation_negated h, fun j => ?_, ?_⟩
  · have hcoefficient : row.negated.coefficients.getD j 0 = -row.coefficients.getD j 0 :=
      getD_map_neg row.coefficients j
    rw [turn_negated h, hcoefficient, neg_mul_neg]
  · have hbound : row.negated.bound = -row.bound := rfl
    rw [turn_negated h, hbound, neg_mul_neg]

theorem countP_needsArtificial {rows others : List (Row ℚ)}
    (h : List.Forall₂ TurnsLike rows others) :
    others.countP needsArtificial = rows.countP needsArtificial := by
  induction h with
  | nil => rfl
  | cons hrow _ ih => rw [List.countP_cons, List.countP_cons, ih, hrow.needsArtificial_eq]

end Row

/-! ### Problems that turn alike -/

namespace Problem

/-- Two problems whose objectives are to be minimised with the same costs, and whose rows turn
alike. -/
structure TurnsLike (p q : Problem ℚ) : Prop where
  variableCount_eq : q.variableCount = p.variableCount
  sign_mul_objective : ∀ j, q.sign * q.objective.getD j 0 = p.sign * p.objective.getD j 0
  rows : List.Forall₂ Row.TurnsLike p.rows q.rows

namespace TurnsLike

variable {p q : Problem ℚ} (h : p.TurnsLike q) {i : Fin p.shape.rows} {i' : Fin q.shape.rows}
include h

theorem row (hi : i'.val = i.val) : (p.row i).TurnsLike (q.row i') := by
  obtain ⟨k, hk⟩ := i
  obtain ⟨k', hk'⟩ := i'
  obtain rfl : k' = k := hi
  exact h.rows.get hk hk'

theorem shape_eq : p.shape = q.shape := by
  rw [shape, shape, h.variableCount_eq, h.rows.length_eq, Row.countP_needsArtificial h.rows]

theorem artificialsBefore_eq (k : Nat) : q.artificialsBefore k = p.artificialsBefore k :=
  Row.countP_needsArtificial (List.forall₂_take k h.rows)

theorem val_startColumn_eq (hi : i'.val = i.val) :
    (q.startColumn i').val = (p.startColumn i).val := by
  have hneeds : (q.rows.get i').needsArtificial = (p.rows.get i).needsArtificial :=
    (h.row hi).needsArtificial_eq
  have hproper : q.shape.proper = p.shape.proper :=
    congrArg₂ (· + ·) h.variableCount_eq h.rows.length_eq.symm
  rw [val_startColumn, val_startColumn, hneeds, hproper, h.variableCount_eq, hi,
    h.artificialsBefore_eq]

theorem coefficient_startEquation_eq (hi : i'.val = i.val) {j : Fin p.shape.columns}
    {j' : Fin q.shape.columns} (hj : j'.val = j.val) :
    (q.startEquation i').coefficient j' = (p.startEquation i).coefficient j := by
  have hslack : j' = q.shape.slackColumn i' ↔ j = p.shape.slackColumn i := by
    rw [Fin.ext_iff, Fin.ext_iff, Shape.val_slackColumn, Shape.val_slackColumn, hj, hi]
    exact iff_of_eq (congrArg (fun n => j.val = n + i.val) h.variableCount_eq)
  have hstart : j' = q.startColumn i' ↔ j = p.startColumn i := by
    rw [Fin.ext_iff, Fin.ext_iff, hj, h.val_startColumn_eq hi]
  have hrow := h.row hi
  rw [coefficient_startEquation, coefficient_startEquation, hj, h.variableCount_eq,
    hrow.turn_mul_coefficient, hrow.slackCoefficient_eq]
  simp only [hslack, hstart]

/-- **Problems that turn alike share their starting tableau.** -/
theorem sharesTableau : p.SharesTableau q := by
  refine ⟨h.shape_eq, Tableau.eq_cast h.shape_eq ?_ rfl ?_ ?_ ?_⟩
  · intro j j' hj
    show q.startCosts.coefficient j' = p.startCosts.coefficient j
    rw [coefficient_startCosts, coefficient_startCosts, hj, h.variableCount_eq,
      h.sign_mul_objective]
  · intro i i' hi j j' hj
    rw [Tableau.entry_eq_coefficient, Tableau.entry_eq_coefficient, equation_start,
      equation_start, h.coefficient_startEquation_eq hi hj]
  · intro i i' hi
    rw [Tableau.bound_eq_bound, Tableau.bound_eq_bound, equation_start, equation_start,
      bound_startEquation, bound_startEquation, (h.row hi).turn_mul_bound]
  · intro i i' hi
    rw [basicColumn_start, basicColumn_start, h.val_startColumn_eq hi]

/-! ### What is read from the last tableau -/

/-- The shadow prices are read from the same column, and the factors differ as the turns do. -/
theorem dual_eq (hi : i'.val = i.val) : (q.dual i').1.val = (p.dual i).1.val ∧
    (q.dual i').2 = (p.row i).turn * (q.row i').turn * (p.dual i).2 := by
  have hrel := (h.row hi).turnedRelation_eq
  have hslack : (q.shape.slackColumn i').val = (p.shape.slackColumn i).val := by
    rw [Shape.val_slackColumn, Shape.val_slackColumn, hi]
    exact congrArg (· + i.val) h.variableCount_eq
  have hturn : (p.row i).turn * (q.row i').turn * (p.row i).turn = (q.row i').turn := by
    rw [mul_right_comm, Row.turn_mul_turn, one_mul]
  cases hcase : (p.row i).turnedRelation with
  | atMost =>
      rw [dual_of_atMost hcase, dual_of_atMost (hrel.trans hcase)]
      exact ⟨hslack, hturn.symm⟩
  | atLeast =>
      rw [dual_of_atLeast hcase, dual_of_atLeast (hrel.trans hcase)]
      exact ⟨hslack, by rw [mul_neg, hturn]⟩
  | equal =>
      rw [dual_of_equal hcase, dual_of_equal (hrel.trans hcase)]
      exact ⟨h.val_startColumn_eq hi, hturn.symm⟩

/-- **The shadow prices are the same**, but for the signs of the objectives and the turns of the
rows. -/
theorem shadowPrice_eq (hi : i'.val = i.val) (t : Tableau ℚ p.shape) (x : List ℚ) :
    (q.rowReport (t.cast h.shape_eq).costs x i').shadowPrice
      = p.sign * q.sign * ((p.row i).turn * (q.row i').turn)
        * (p.rowReport t.costs x i).shadowPrice := by
  obtain ⟨hcolumn, hfactor⟩ := h.dual_eq hi
  have hcost : (t.cast h.shape_eq).costs.coefficient (q.dual i').1
      = t.costs.coefficient (p.dual i).1 := Tableau.coefficients_costs_cast h.shape_eq t hcolumn
  rw [shadowPrice_rowReport, shadowPrice_rowReport, hcost, hfactor]
  -- the sign of `p` stands twice on the right
  linear_combination
    q.sign * ((p.row i).turn * (q.row i').turn)
      * (t.costs.coefficient (p.dual i).1 * (p.dual i).2) * p.sign_mul_sign

end TurnsLike

/-- The report on a row, by what the row itself says of a point. -/
theorem rowReport_eq (p : Problem ℚ) (costs : Equation ℚ p.shape.columns) (x : List ℚ)
    (i : Fin p.shape.rows) : p.rowReport costs x i =
      { name := (p.row i).name
        activity := (p.row i).activity x
        slack := (p.row i).slack x
        shadowPrice := (p.rowReport costs x i).shadowPrice
        binding := (p.row i).isBinding x } := rfl

/-- The reports of a problem with as many rows, row by row. -/
theorem map_rowReport_eq {p q : Problem ℚ} (hrows : q.rows.length = p.rows.length)
    {costs : Equation ℚ q.shape.columns} {x : List ℚ} {report : Fin p.shape.rows → RowReport ℚ}
    (hreport : ∀ (i : Fin p.shape.rows) (i' : Fin q.shape.rows), i'.val = i.val →
      q.rowReport costs x i' = report i) :
    (List.finRange q.shape.rows).map (q.rowReport costs x)
      = (List.finRange p.shape.rows).map report := by
  refine List.ext_getElem (by simp [hrows]) fun i _ _ => ?_
  rw [List.getElem_map, List.getElem_map, List.getElem_finRange, List.getElem_finRange]
  exact hreport ⟨i, _⟩ ⟨i, _⟩ rfl

end Problem

/-! ### The opposite objective -/

/-- The problem with the negated objective, to be minimised if this one is to be maximised. -/
def Problem.opposite (p : Problem ℚ) : Problem ℚ :=
  { p with
    objective := p.objective.map fun c => -c
    maximize := !p.maximize }

/-- The report with the negated shadow price. -/
def RowReport.opposite (report : RowReport ℚ) : RowReport ℚ :=
  { report with shadowPrice := -report.shadowPrice }

/-- The solution with the objective and all shadow prices negated. -/
def Solution.opposite (solution : Solution ℚ) : Solution ℚ :=
  { solution with
    objective := -solution.objective
    rows := solution.rows.map RowReport.opposite }

namespace Problem

variable (p : Problem ℚ)

theorem sign_opposite : p.opposite.sign = -p.sign := by
  unfold sign opposite
  cases p.maximize
  · rfl
  · exact (neg_neg (1 : ℚ)).symm

theorem turnsLike_opposite : p.TurnsLike p.opposite where
  variableCount_eq := List.length_map _
  sign_mul_objective j := by
    have hobjective : p.opposite.objective.getD j 0 = -p.objective.getD j 0 := getD_map_neg _ j
    rw [sign_opposite, hobjective, neg_mul_neg]
  rows := List.forall₂_same.mpr fun row _ => Row.TurnsLike.refl row

theorem fault?_opposite (general : Bool) : p.opposite.fault? general = p.fault? general := by
  have hfinite : ∀ objective : List ℚ,
      objective.findIdx? (fun c => !Arithmetic.isFinite c) = none := by simp
  unfold fault?
  rw [hfinite, hfinite, p.turnsLike_opposite.variableCount_eq]
  rfl

theorem rowReport_opposite (t : Tableau ℚ p.shape) (x : List ℚ) {i : Fin p.shape.rows}
    {i' : Fin p.opposite.shape.rows} (hi : i'.val = i.val) :
    p.opposite.rowReport (t.cast p.turnsLike_opposite.shape_eq).costs x i'
      = (p.rowReport t.costs x i).opposite := by
  have hrow : p.opposite.row i' = p.row i := congrArg p.rows.get (Fin.ext hi)
  have hprice : (p.opposite.rowReport (t.cast p.turnsLike_opposite.shape_eq).costs x i').shadowPrice
      = -(p.rowReport t.costs x i).shadowPrice := by
    rw [p.turnsLike_opposite.shadowPrice_eq hi, hrow, Row.turn_mul_turn, sign_opposite, mul_neg,
      sign_mul_sign, mul_one, neg_one_mul]
  rw [rowReport_eq, hprice, hrow, rowReport_eq p]
  rfl

/-- The last tableau holds the opposite solution. -/
theorem solution_opposite (tolerance : ℚ) (t : Tableau ℚ p.shape) (iterations : Nat) :
    p.opposite.solution tolerance (t.cast p.turnsLike_opposite.shape_eq) iterations
      = (p.solution tolerance t iterations).opposite := by
  have hobjective : ∀ corner : ℚ, (if !p.maximize then corner else -corner) + 0
      = -((if p.maximize then corner else -corner) + 0) := by
    intro corner
    cases p.maximize <;> simp
  have hrows : (List.finRange p.opposite.shape.rows).map
      (p.opposite.rowReport (t.cast p.turnsLike_opposite.shape_eq).costs (t.values tolerance))
      = ((List.finRange p.shape.rows).map (p.rowReport t.costs (t.values tolerance))).map
        RowReport.opposite := by
    rw [List.map_map]
    exact map_rowReport_eq rfl fun i i' hi => p.rowReport_opposite t _ hi
  unfold solution Solution.opposite
  simp only [Tableau.values_cast, Tableau.bound_costs_cast]
  rw [hrows]
  exact congrArg (fun objective => Solution.mk _ objective _ _) (hobjective _)

end Problem

/-! ### Negated rows -/

/-- The problem with some of its rows negated on both sides. -/
def Problem.negateRows (chosen : Nat → Bool) (p : Problem ℚ) : Problem ℚ :=
  { p with rows := p.rows.mapIdx fun i row => if chosen i then row.negated else row }

/-- The report with the activity and the shadow price negated. -/
def RowReport.negated (report : RowReport ℚ) : RowReport ℚ :=
  { report with
    activity := -report.activity
    shadowPrice := -report.shadowPrice }

/-- The solution with the activities and the shadow prices of some rows negated. -/
def Solution.negateRows (chosen : Nat → Bool) (solution : Solution ℚ) : Solution ℚ :=
  { solution with
    rows := solution.rows.mapIdx fun i report => if chosen i then report.negated else report }

namespace Problem

variable {p : Problem ℚ} {chosen : Nat → Bool}

theorem row_negateRows {i : Fin p.shape.rows} {i' : Fin (p.negateRows chosen).shape.rows}
    (hi : i'.val = i.val) :
    (p.negateRows chosen).row i' = if chosen i then (p.row i).negated else p.row i := by
  obtain ⟨k, hk⟩ := i
  obtain ⟨k', hk'⟩ := i'
  obtain rfl : k' = k := hi
  exact List.getElem_mapIdx

theorem forall₂_negateRows {related : Row ℚ → Row ℚ → Prop}
    (hkept : ∀ row ∈ p.rows, related row row)
    (hnegated : ∀ i (hi : i < p.rows.length), chosen i = true →
      related p.rows[i] p.rows[i].negated) :
    List.Forall₂ related p.rows (p.negateRows chosen).rows := by
  refine List.forall₂_iff_get.mpr ⟨List.length_mapIdx.symm, fun i hi hi' => ?_⟩
  have hrow : (p.negateRows chosen).rows.get ⟨i, hi'⟩
      = if chosen i then p.rows[i].negated else p.rows[i] := List.getElem_mapIdx
  rw [hrow]
  split
  · next hchosen => exact hnegated i hi hchosen
  · exact hkept _ (List.getElem_mem hi)

/-- In general form a row and the negated one have the same faults. -/
theorem rowFault?_negated (count : Nat) (row : Row ℚ) :
    rowFault? true count row.negated = rowFault? true count row := by
  simp [rowFault?, Row.negated]

theorem fault?_negateRows : (p.negateRows chosen).fault? true = p.fault? true := by
  have hsame : List.Forall₂ (fun row other => rowFault? true p.variableCount other
      = rowFault? true p.variableCount row) p.rows (p.negateRows chosen).rows :=
    forall₂_negateRows (fun _ _ => rfl) fun i _ _ => rowFault?_negated _ _
  have hcount : (p.negateRows chosen).variableCount = p.variableCount := rfl
  unfold fault?
  rw [hcount, findSome?_eq_of_forall₂ hsame]
  rfl

variable (hbound : ∀ i (hi : i < p.rows.length), chosen i = true → p.rows[i].bound ≠ 0)
include hbound

theorem turnsLike_negateRows : p.TurnsLike (p.negateRows chosen) where
  variableCount_eq := rfl
  sign_mul_objective _ := rfl
  rows := forall₂_negateRows (fun row _ => Row.TurnsLike.refl row)
    fun i hi hchosen => Row.turnsLike_negated (hbound i hi hchosen)

theorem rowReport_negateRows (t : Tableau ℚ p.shape) (x : List ℚ) {i : Fin p.shape.rows}
    {i' : Fin (p.negateRows chosen).shape.rows} (hi : i'.val = i.val) :
    (p.negateRows chosen).rowReport (t.cast (turnsLike_negateRows hbound).shape_eq).costs x i'
      = if chosen i then (p.rowReport t.costs x i).negated else p.rowReport t.costs x i := by
  have hrow : (p.negateRows chosen).row i'
      = if chosen i then (p.row i).negated else p.row i := row_negateRows hi
  have hsign : p.sign * (p.negateRows chosen).sign = 1 := p.sign_mul_sign
  have hprice := (turnsLike_negateRows hbound).shadowPrice_eq hi t x
  rw [hsign, one_mul, hrow] at hprice
  rw [rowReport_eq, hprice, hrow]
  split
  · next hchosen =>
      have hturn : (p.row i).negated.turn = -(p.row i).turn :=
        Row.turn_negated (hbound i i.isLt hchosen)
      rw [hturn, mul_neg, Row.turn_mul_turn, neg_one_mul, Row.activity_negated,
        Row.slack_negated, Row.isBinding_negated, rowReport_eq p]
      rfl
  · rw [Row.turn_mul_turn, one_mul, ← rowReport_eq]

/-- The last tableau holds the solution for the rows as they were written. -/
theorem solution_negateRows (tolerance : ℚ) (t : Tableau ℚ p.shape) (iterations : Nat) :
    (p.negateRows chosen).solution tolerance (t.cast (turnsLike_negateRows hbound).shape_eq)
      iterations = (p.solution tolerance t iterations).negateRows chosen := by
  have hrows : (List.finRange (p.negateRows chosen).shape.rows).map
      ((p.negateRows chosen).rowReport (t.cast (turnsLike_negateRows hbound).shape_eq).costs
        (t.values tolerance))
      = ((List.finRange p.shape.rows).map (p.rowReport t.costs (t.values tolerance))).mapIdx
        fun i report => if chosen i then report.negated else report := by
    rw [map_rowReport_eq List.length_mapIdx fun i i' hi => rowReport_negateRows hbound t _ hi]
    refine List.ext_getElem (by simp) fun i _ _ => ?_
    simp
  unfold solution Solution.negateRows
  simp only [Tableau.values_cast, Tableau.bound_costs_cast]
  rw [hrows]
  rfl

end Problem

namespace Solver

/-- **Two ways to write a problem, one answer.** For every tolerance and every budget, the opposite
problem has the same error, or the opposite solution. If problems in general form are accepted,
negating rows with bounds other than zero changes nothing either but the activities and the shadow
prices of just these rows. -/
theorem solve_reformulated (solver : Solver ℚ) (p : Problem ℚ) :
    (solver.solve p.opposite).result = (solver.solve p).result.map Solution.opposite ∧
    (solver.phaseOne = true → ∀ chosen : Nat → Bool,
      (∀ i (hi : i < p.rows.length), chosen i = true → p.rows[i].bound ≠ 0) →
      (solver.solve (p.negateRows chosen)).result
        = (solver.solve p).result.map (Solution.negateRows chosen)) := by
  refine ⟨?_, fun hgeneral chosen hbound => ?_⟩
  · exact solve_of_sharesTableau p.turnsLike_opposite.sharesTableau (p.fault?_opposite _)
      (p.solution_opposite _)
  · refine solve_of_sharesTableau (Problem.turnsLike_negateRows hbound).sharesTableau ?_
      (Problem.solution_negateRows hbound _)
    rw [hgeneral]
    exact Problem.fault?_negateRows

/-- The opposite problem, and the problem with its equation and its row of negative bound
negated. -/
theorem solve_mixed_reformulated :
    (solve ⟨none, 0, true⟩ Problem.mixed.opposite).result = .ok
      { values := [4, 0]
        objective := -12
        iterations := 4
        rows := [⟨"most", 4, 0, 0, true⟩, ⟨"least", 4, 2, 0, false⟩,
          ⟨"exact", 8, 0, -3 / 2, true⟩, ⟨"negative", -4, 3, 0, false⟩] } ∧
    (solve ⟨none, 0, true⟩ (Problem.mixed.negateRows fun i => decide (2 ≤ i))).result = .ok
      { values := [4, 0]
        objective := 12
        iterations := 4
        rows := [⟨"most", 4, 0, 0, true⟩, ⟨"least", 4, 2, 0, false⟩,
          ⟨"exact", -8, 0, -3 / 2, true⟩, ⟨"negative", 4, 3, 0, false⟩] } := by
  have hsolve : (solve ⟨none, 0, true⟩ Problem.mixed).result = .ok
      { values := [4, 0]
        objective := 12
        iterations := 4
        rows := [⟨"most", 4, 0, 0, true⟩, ⟨"least", 4, 2, 0, false⟩, ⟨"exact", 8, 0, 3 / 2, true⟩,
          ⟨"negative", -4, 3, 0, false⟩] } := by decide +kernel
  have hbound : ∀ i (hi : i < Problem.mixed.rows.length), decide (2 ≤ i) = true →
      Problem.mixed.rows[i].bound ≠ 0 := by decide +kernel
  obtain ⟨hopposite, hnegated⟩ := solve_reformulated ⟨none, 0, true⟩ Problem.mixed
  rw [hopposite, hnegated rfl _ hbound, hsolve]
  exact ⟨by decide +kernel, by decide +kernel⟩

end Solver

end LinearProgram

end Baggage
