import Baggage.Proofs.LinearProgram.Optimality
import Baggage.Proofs.LinearProgram.Progress

/-!
# Baggage.Proofs.LinearProgram.Redundant

**Rows that keep their artificial column**, with a tolerance of zero. After the first phase such a
row has zeros in all proper columns and on its right-hand side: what it said is said by the other
rows. Nothing can enter in it, since its entries are not positive, and nothing is subtracted from
it, since its entry in the entering column is zero (`IsIdleAt.spares`). So the second phase leaves
it as it is (`Solver.secondWalk_spares`), and all its tableaus have artificial columns of value zero
and no negative right-hand side (`Solver.artificials_stay_zero`).
-/

namespace Baggage.LinearProgram

namespace Tableau

variable {s : Shape} {t : Tableau ℚ s} {r i : Fin s.rows} {c : Fin s.columns}

/-- A pivot is not in a row and does not change it. -/
structure Spares (i : Fin s.rows) (t : Tableau ℚ s) (r : Fin s.rows) (c : Fin s.columns) :
    Prop where
  /-- The pivot is in another row. -/
  ne : r ≠ i
  /-- The equation of the row stays as it is. -/
  equation_eq : (t.pivot r c).equation i = t.equation i
  /-- So does its basic column. -/
  basicColumn_eq : (t.pivot r c).basicColumn i = t.basicColumn i

/-- **A row that keeps its artificial column is spared** by every pivot in a proper column. -/
theorem IsIdleAt.spares (h : t.IsIdleAt i) (hbasic : s.proper ≤ (t.basicColumn i).val)
    (hc : c.val < s.proper) (hne : t.entry r c ≠ 0) : Spares i t r c := by
  have hzero : t.entry i c = 0 := h hbasic c hc
  have hother : i ≠ r := by
    rintro rfl
    exact hne hzero
  refine ⟨hother.symm, ?_, basicColumn_pivot_of_ne t r c hother⟩
  rw [equation_pivot_of_ne t r c hother, hzero, Equation.eliminate_zero]

section Along

variable {exchanges : List (Fin s.rows × Fin s.columns)}

/-- A row that is spared by all exchanges is in none of them. -/
theorem Along.forall_mem_ne (h : Along (Spares i) t exchanges) :
    ∀ exchange ∈ exchanges, exchange.1 ≠ i :=
  Along.forall_mem (h.mono fun _ _ _ hspares => hspares.ne)

/-- It is the same row at every stage. -/
theorem Along.forall_mem_stages_eq (h : Along (Spares i) t exchanges) :
    ∀ u ∈ t.stages exchanges, u.equation i = t.equation i ∧ u.basicColumn i = t.basicColumn i :=
  h.forall_mem_stages
    (motive := fun u => u.equation i = t.equation i ∧ u.basicColumn i = t.basicColumn i)
    (fun _ _ _ hu hspares =>
      ⟨hspares.equation_eq.trans hu.1, hspares.basicColumn_eq.trans hu.2⟩) ⟨rfl, rfl⟩

end Along

end Tableau

namespace Problem

/-- An equation that another one already implies. -/
def redundant : Problem ℚ where
  objective := [3, 2]
  maximize := true
  rows := mixed.rows ++ [⟨"again", [1, 1], .equal, 4⟩]

end Problem

namespace Solver

variable {solver : Solver ℚ} {p : Problem ℚ} {t : Tableau ℚ p.shape} {before : Nat}

/-- From an idle tableau on, no pivot of the second walk touches a row with an artificial column. -/
theorem secondWalk_spares (before : Nat) (htol : solver.tolerance = 0) (hidle : t.IsIdle)
    {i : Fin p.shape.rows} (hbasic : p.shape.proper ≤ (t.basicColumn i).val) :
    Tableau.Along (Tableau.Spares i) t (solver.secondWalk p t before).exchanges := by
  have hspares : ∀ (u : Tableau ℚ p.shape) r c,
      u.IsIdle ∧ p.shape.proper ≤ (u.basicColumn i).val →
      Tableau.IsPivot 0 p.shape.proper u r c → Tableau.Spares i u r c := by
    rintro u r c ⟨hu, hui⟩ hpivot
    exact (hu.isIdleAt i).spares hui hpivot.column_lt (hpivot.entry_ne_zero le_rfl)
  -- the row keeps its artificial column because the pivots before have spared it
  refine (secondWalk_isPivot htol t before).imp
    (motive := fun u => u.IsIdle ∧ p.shape.proper ≤ (u.basicColumn i).val)
    (fun u r c hu hpivot => ⟨hu.1.pivot hpivot.column_lt, ?_⟩) hspares ⟨hidle, hbasic⟩
  rw [(hspares u r c hu hpivot).basicColumn_eq]
  exact hu.2

/-- Every tableau of the second walk belongs to its phase and is idle, if the first one does. -/
theorem forall_stages_isIdle (before : Nat) (htol : solver.tolerance = 0)
    (hphase : p.IsPhase p.startCosts t) (hidle : t.IsIdle) :
    ∀ u ∈ t.stages (solver.secondWalk p t before).exchanges,
      p.IsPhase p.startCosts u ∧ u.IsIdle :=
  (secondWalk_isPivot htol t before).forall_mem_stages
    (motive := fun u => p.IsPhase p.startCosts u ∧ u.IsIdle)
    (fun _ _ _ hu hpivot => ⟨hu.1.pivot hpivot, hu.2.pivot hpivot.column_lt⟩) ⟨hphase, hidle⟩

/-- **Artificial columns stay at zero.** If there is a feasible point, the first phase hands on a
tableau without negative right-hand sides, in which every row that keeps its artificial column has
zeros in all proper columns and on its right-hand side. No pivot of the second walk is in such a row
or changes it, and in all tableaus of that walk the artificial columns are zero at the vertex and no
right-hand side is negative. -/
theorem artificials_stay_zero (htol : solver.tolerance = 0) (hfeas : ∃ x, p.IsFeasible x)
    (h : (solver.prepare p).result = .ok (t, before)) :
    t.IsFeasible ∧
    (∀ i, p.shape.proper ≤ (t.basicColumn i).val →
      t.bound i = 0 ∧ (∀ j : Fin p.shape.columns, j.val < p.shape.proper → t.entry i j = 0) ∧
      (∀ exchange ∈ (solver.secondWalk p t before).exchanges, exchange.1 ≠ i) ∧
      ∀ u ∈ t.stages (solver.secondWalk p t before).exchanges,
        u.equation i = t.equation i ∧ u.basicColumn i = t.basicColumn i) ∧
    ∀ u ∈ t.stages (solver.secondWalk p t before).exchanges,
      u.IsFeasible ∧ ∀ j : Fin p.shape.columns, p.shape.proper ≤ j.val → u.vertex j = 0 := by
  obtain ⟨hphase, hidle⟩ := prepare_ok_spec htol hfeas h
  refine ⟨hphase.isFeasible, fun i hi => ?_, fun u hu => ?_⟩
  · have hspares := secondWalk_spares before htol hidle hi
    exact ⟨hidle.hasNoArtificials i hi, hidle.isIdleAt i hi, hspares.forall_mem_ne,
      hspares.forall_mem_stages_eq⟩
  · obtain ⟨huphase, huidle⟩ := forall_stages_isIdle before htol hphase hidle u hu
    have hadmissible := huidle.isAdmissible_vertex huphase.isFeasible
    exact ⟨huphase.isFeasible, hadmissible.artificial_eq_zero⟩

theorem prepare_redundant : (prepare ⟨none, 0, true⟩ Problem.redundant).result
    = .ok (prepared ⟨none, 0, true⟩ Problem.redundant, 3) := by
  have hok : (prepare ⟨none, 0, true⟩ Problem.redundant).result.isOk = true := by decide +kernel
  have hlength : (firstWalk ⟨none, 0, true⟩ Problem.redundant).exchanges.length = 3 := by
    decide +kernel
  rcases prepare_cases ⟨none, 0, true⟩ Problem.redundant with
    ⟨hnone, -⟩ | ⟨c, -, herror⟩ | ⟨n, herror⟩ | ⟨-, -, herror⟩ | ⟨-, -, hprepare⟩
  · exact absurd hnone (by decide +kernel)
  · rw [herror] at hok
    cases hok
  · rw [herror] at hok
    cases hok
  · rw [herror] at hok
    cases hok
  · rw [hprepare, hlength]

/-- The third row is solved for a slack on a negative entry, the last one keeps its artificial
column, and the second phase makes a pivot in the second row. -/
theorem redundant_artificials_stay_zero :
    ∃ (t : Tableau ℚ Problem.redundant.shape) (i : Fin Problem.redundant.shape.rows),
      (prepare ⟨none, 0, true⟩ Problem.redundant).result = .ok (t, 3) ∧
      (List.finRange Problem.redundant.shape.rows).map (fun k => (t.basicColumn k).val)
        = [3, 1, 2, 0, 10] ∧
      (secondWalk ⟨none, 0, true⟩ Problem.redundant t 3).exchanges.map (fun e => e.1.val) = [1] ∧
      i.val = 4 ∧ t.bound i = 0 ∧
      ∀ u ∈ t.stages (secondWalk ⟨none, 0, true⟩ Problem.redundant t 3).exchanges,
        u.equation i = t.equation i ∧ u.basicColumn i = t.basicColumn i := by
  have htol : (⟨none, 0, true⟩ : Solver ℚ).tolerance = 0 := rfl
  have hfeas : Problem.redundant.IsFeasible [4, 0] := by decide +kernel
  have hcolumns : (List.finRange Problem.redundant.shape.rows).map (fun k =>
      ((prepared ⟨none, 0, true⟩ Problem.redundant).basicColumn k).val) = [3, 1, 2, 0, 10] := by
    decide +kernel
  have hexchanges : (secondWalk ⟨none, 0, true⟩ Problem.redundant
      (prepared ⟨none, 0, true⟩ Problem.redundant) 3).exchanges.map (fun e => e.1.val) = [1] := by
    decide +kernel
  have hbasic : Problem.redundant.shape.proper
      ≤ ((prepared ⟨none, 0, true⟩ Problem.redundant).basicColumn ⟨4, by decide⟩).val := by
    decide +kernel
  obtain ⟨-, hrows, -⟩ := artificials_stay_zero htol ⟨_, hfeas⟩ prepare_redundant
  obtain ⟨hbound, -, -, hsame⟩ := hrows _ hbasic
  exact ⟨_, ⟨4, by decide⟩, prepare_redundant, hcolumns, hexchanges, rfl, hbound, hsame⟩

end Solver

end Baggage.LinearProgram
