import Baggage.Proofs.LinearProgram.Solver
import Baggage.Proofs.LinearProgram.Start

/-!
# Baggage.Proofs.LinearProgram.Support

**Few values differ from zero**, in every arithmetic. A value is read off a tableau only where the
column is basic, and each row has one basic column. So no more values than there are rows pass a
test that zero does not pass (`Solver.countP_values_le`), whatever the operations do and however the
walk went: floating-point numbers are no exception.
-/

namespace Baggage.LinearProgram

variable {α : Type} [Arithmetic α]

namespace Tableau

variable {s : Shape}

/-- A column that is not basic has the value zero. -/
theorem value_eq_zero_or_basic (tolerance : α) (t : Tableau α s) (j : Fin s.columns) :
    t.value tolerance j = Arithmetic.zero ∨ ∃ i, t.basicColumn i = j := by
  unfold value
  split
  · next i _ =>
      by_cases hbasic : t.basicColumn i = j
      · exact Or.inr ⟨i, hbasic⟩
      · exact Or.inl (if_neg hbasic)
  · exact Or.inl rfl

/-- Each value that passes the test takes up the basic column of a row. -/
theorem countP_values_le (tolerance : α) (t : Tableau α s) {test : α → Bool}
    (hzero : test Arithmetic.zero = false) : (t.values tolerance).countP test ≤ s.rows := by
  let columns := (List.finRange s.variableCount).map s.variableColumn
  let basic := (List.finRange s.rows).map t.basicColumn
  have hvalues : t.values tolerance = columns.map (t.value tolerance) := by
    simp [columns, values, Function.comp_def]
  have hnodup : (columns.filter (test ∘ t.value tolerance)).Nodup :=
    ((List.nodup_finRange _).map s.variableColumn_injective).filter _
  have hsubset : columns.filter (test ∘ t.value tolerance) ⊆ basic := by
    intro j hj
    have htest : test (t.value tolerance j) = true := (List.mem_filter.mp hj).2
    rcases t.value_eq_zero_or_basic tolerance j with hvalue | ⟨i, rfl⟩
    · rw [hvalue, hzero] at htest
      cases htest
    · exact List.mem_map_of_mem (List.mem_finRange i)
  calc (t.values tolerance).countP test
      = (columns.filter (test ∘ t.value tolerance)).length := by
        rw [hvalues, List.countP_map, List.countP_eq_length_filter]
    _ ≤ basic.length := (List.subperm_of_subset hnodup hsubset).length_le
    _ = s.rows := by simp [basic]

end Tableau

namespace Solver

variable {solver : Solver α} {p : Problem α} {solution : Solution α}

/-- The values of a solution are read off a tableau. -/
theorem solve_ok_values (h : (solver.solve p).result = .ok solution) :
    ∃ t : Tableau α p.shape, solution.values = t.values solver.tolerance := by
  rcases solver.solve_cases p with ⟨_, -, hsolve⟩ | ⟨_, -, -, hsolve⟩ | ⟨t, before, -, -, hsolve⟩
  · cases hsolve.symm.trans h
  · cases hsolve.symm.trans h
  · rw [hsolve, optimize] at h
    dsimp only at h
    split at h
    · cases h
    · cases h
    · obtain rfl := Except.ok.inj h
      exact ⟨_, rfl⟩

/-- **A solution has at most one value other than zero for each row.** -/
theorem countP_values_le (h : (solver.solve p).result = .ok solution) {test : α → Bool}
    (hzero : test Arithmetic.zero = false) : solution.values.countP test ≤ p.rows.length := by
  obtain ⟨t, hvalues⟩ := solve_ok_values h
  rw [hvalues]
  exact t.countP_values_le solver.tolerance hzero

end Solver

end Baggage.LinearProgram
