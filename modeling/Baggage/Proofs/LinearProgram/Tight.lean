import Baggage.Proofs.LinearProgram.Nearly
import Baggage.Proofs.LinearProgram.Optimality
import Baggage.Proofs.LinearProgram.Scale

/-!
# Baggage.Proofs.LinearProgram.Tight

**Standard form with a tolerance above zero.** The ratio test passes over rows whose entry in the
entering column is positive but does not exceed the tolerance. If such a row had the least ratio of
all, the pivot makes its right-hand side negative, and the solution misses the row, by as much as
one likes (`solve_skewed_not_isFeasible`).

The exchanges of a walk are replayed from its first tableau (`walk_replay`). As long as every one of
them is in the tightest row of all, every tableau is feasible, so the solution is. It comes to that
for every problem whose determinants are no further apart than the tolerance allows, since then no
entry of a tableau is small without being zero.
-/

namespace Baggage.LinearProgram

namespace Tableau

variable {s : Shape}

instance (t : Tableau ℚ s) (r : Fin s.rows) (c : Fin s.columns) : Decidable (t.IsTightest r c) :=
  inferInstanceAs
    (Decidable (∀ i, 0 < t.entry i c → t.bound r / t.entry r c ≤ t.bound i / t.entry i c))

/-! ### Replaying exchanges -/

/-- The tableau after some exchanges. -/
def replay : Tableau ℚ s → List (Fin s.rows × Fin s.columns) → Tableau ℚ s
  | t, [] => t
  | t, (r, c) :: rest => (t.pivot r c).replay rest

/-- Whether every exchange is of a kind, in the tableau in which it is made. -/
def Along (kind : Tableau ℚ s → Fin s.rows → Fin s.columns → Prop) :
    Tableau ℚ s → List (Fin s.rows × Fin s.columns) → Prop
  | _, [] => True
  | t, (r, c) :: rest => kind t r c ∧ Along kind (t.pivot r c) rest

instance decidableAlong {kind : Tableau ℚ s → Fin s.rows → Fin s.columns → Prop}
    [∀ t r c, Decidable (kind t r c)] :
    (t : Tableau ℚ s) → (exchanges : List (Fin s.rows × Fin s.columns)) →
      Decidable (Along kind t exchanges)
  | _, [] => isTrue trivial
  | t, (r, c) :: rest =>
    have : Decidable (Along kind (t.pivot r c) rest) := decidableAlong (t.pivot r c) rest
    inferInstanceAs (Decidable (kind t r c ∧ Along kind (t.pivot r c) rest))

section Along

variable {kind : Tableau ℚ s → Fin s.rows → Fin s.columns → Prop} {motive : Tableau ℚ s → Prop}
  {exchanges : List (Fin s.rows × Fin s.columns)} {t : Tableau ℚ s}

/-- A property that every exchange of a kind keeps holds after the last one. -/
theorem Along.replay_induction (h : Along kind t exchanges)
    (step : ∀ u r c, motive u → kind u r c → motive (u.pivot r c)) (ht : motive t) :
    motive (t.replay exchanges) := by
  induction exchanges generalizing t with
  | nil => exact ht
  | cons exchange rest ih =>
      obtain ⟨r, c⟩ := exchange
      obtain ⟨hkind, hrest⟩ := h
      exact ih hrest (step t r c ht hkind)

/-- Exchanges are of another kind too, if an invariant of theirs says so. -/
theorem Along.imp {other : Tableau ℚ s → Fin s.rows → Fin s.columns → Prop}
    (h : Along kind t exchanges) (step : ∀ u r c, motive u → kind u r c → motive (u.pivot r c))
    (himp : ∀ u r c, motive u → kind u r c → other u r c) (ht : motive t) :
    Along other t exchanges := by
  induction exchanges generalizing t with
  | nil => trivial
  | cons exchange rest ih =>
      obtain ⟨r, c⟩ := exchange
      obtain ⟨hkind, hrest⟩ := h
      exact ⟨himp t r c ht hkind, ih hrest (step t r c ht hkind)⟩

theorem Along.and {other : Tableau ℚ s → Fin s.rows → Fin s.columns → Prop}
    (h : Along kind t exchanges) (hother : Along other t exchanges) :
    Along (fun u r c => kind u r c ∧ other u r c) t exchanges := by
  induction exchanges generalizing t with
  | nil => trivial
  | cons exchange rest ih =>
      obtain ⟨r, c⟩ := exchange
      exact ⟨⟨h.1, hother.1⟩, ih h.2 hother.2⟩

end Along

end Tableau

/-- **A walk replays its exchanges**, each of which is the move that its tableau calls for. -/
theorem walk_replay {s : Shape} (tolerance : ℚ) (limit : Nat)
    (made : List (Fin s.rows × Fin s.columns)) (budget : Nat) (t : Tableau ℚ s) :
    ∃ later, (walk tolerance limit made budget t).exchanges = made.reverse ++ later ∧
      (walk tolerance limit made budget t).tableau = t.replay later ∧
      Tableau.Along (fun u r c => u.move tolerance limit = .pivot r c) t later := by
  induction budget generalizing made t with
  | zero =>
      refine ⟨[], ?_⟩
      unfold walk
      split
      · exact ⟨(List.append_nil _).symm, rfl, trivial⟩
      · exact ⟨(List.append_nil _).symm, rfl, trivial⟩
  | succ budget ih =>
      unfold walk
      split
      · exact ⟨[], (List.append_nil _).symm, rfl, trivial⟩
      · exact ⟨[], (List.append_nil _).symm, rfl, trivial⟩
      · next r c hmove =>
          obtain ⟨later, hexchanges, htableau, hmoves⟩ := ih ((r, c) :: made) (t.pivot r c)
          -- the walk keeps its exchanges last one first, so this one goes behind those made
          refine ⟨(r, c) :: later, ?_, htableau, hmove, hmoves⟩
          rw [hexchanges, List.reverse_cons, List.append_assoc]
          rfl

/-- So it does from its first exchange on. -/
theorem walk_nil_replay {s : Shape} (tolerance : ℚ) (limit budget : Nat) (t : Tableau ℚ s) :
    (walk tolerance limit [] budget t).tableau
        = t.replay (walk tolerance limit [] budget t).exchanges ∧
      Tableau.Along (fun u r c => u.move tolerance limit = .pivot r c) t
        (walk tolerance limit [] budget t).exchanges := by
  obtain ⟨later, hexchanges, htableau, hmoves⟩ := walk_replay tolerance limit [] budget t
  rw [List.reverse_nil, List.nil_append] at hexchanges
  rw [hexchanges]
  exact ⟨htableau, hmoves⟩

/-! ### Standard form -/

namespace Problem

variable {p : Problem ℚ}

/-- What standard form allows, the general form allows too. -/
theorem fault?_eq_none_of_standard (h : p.fault? false = none) (general : Bool) :
    p.fault? general = none := by
  refine fault?_eq_none_iff.mpr fun row hrow => ?_
  obtain ⟨hlength, hstandard⟩ := fault?_eq_none_iff.mp h row hrow
  simp only [Bool.false_eq_true, false_or] at hstandard
  exact ⟨hlength, Or.inr hstandard⟩

/-- Where no entry is small without being zero, the ratio test passes over no row. -/
theorem HasScaledEntries.isTightest {tolerance : ℚ} (hscaled : p.HasScaledEntries tolerance)
    {t : Tableau ℚ p.shape} (hform : t.IsFormOf p.start) {limit : Nat} {r : Fin p.shape.rows}
    {c : Fin p.shape.columns} (h : Tableau.IsPivot tolerance limit t r c) : t.IsTightest r c := by
  intro i hpos
  -- the ratio test compares the row, since its entry exceeds the tolerance
  have hlt := (hscaled c).lt_abs_entry hform p.isSolved_start hpos.ne'
  rw [abs_of_pos hpos] at hlt
  exact h.ratio_le i hlt

/-- A row with a coefficient below the standard tolerance, and one that allows a huge value. -/
def skewed : Problem ℚ where
  objective := [1]
  maximize := true
  rows := [⟨"fine", [1 / 2 ^ 31], .atMost, 1⟩, ⟨"coarse", [1], .atMost, 10 ^ 10⟩]

/-- Two upper bounds that meet in a corner. -/
def corner : Problem ℚ where
  objective := [2, 3]
  maximize := true
  rows := [⟨"sum", [1, 1], .atMost, 4⟩, ⟨"mix", [1, 3], .atMost, 6⟩]

end Problem

namespace Solver

variable {solver : Solver ℚ} {p : Problem ℚ}

/-- A problem in standard form is solved by the second phase alone, from the origin. -/
theorem solve_of_standard (hstandard : p.fault? false = none) :
    solver.solve p = (solver.optimize p p.start 0).precededBy
      (.solving p.shape.variableCount p.shape.rows p.shape.artificials (solver.budget p)) := by
  rw [solve, p.fault?_eq_none_of_standard hstandard, solveAccepted, prepare,
    if_pos (Problem.artificials_eq_zero hstandard)]
  rfl

/-- So it is neither refused nor found infeasible. -/
theorem solve_standard_cases (hstandard : p.fault? false = none) :
    (∃ solution, (solver.solve p).result = .ok solution) ∨
    (∃ column, (solver.solve p).result = .error (.unbounded column)) ∨
    ∃ n, (solver.solve p).result = .error (.didNotConverge n) := by
  rw [solve_of_standard hstandard, Logged.result_precededBy]
  rcases solver.optimize_cases p p.start 0 with
    ⟨-, iterations, hok⟩ | ⟨c, -, herror⟩ | ⟨n, herror⟩
  · exact Or.inl ⟨_, hok⟩
  · exact Or.inr (Or.inl ⟨_, herror⟩)
  · exact Or.inr (Or.inr ⟨n, herror⟩)

/-- Whether every exchange from the origin is in the tightest row of all. -/
def WalksTightly (solver : Solver ℚ) (p : Problem ℚ) : Prop :=
  Tableau.Along Tableau.IsTightest p.start (solver.secondWalk p p.start 0).exchanges

instance (solver : Solver ℚ) (p : Problem ℚ) : Decidable (solver.WalksTightly p) :=
  inferInstanceAs
    (Decidable (Tableau.Along Tableau.IsTightest p.start (solver.secondWalk p p.start 0).exchanges))

theorem firstWalk_replay (solver : Solver ℚ) (p : Problem ℚ) :
    (solver.firstWalk p).tableau
        = (p.start.repriced p.artificialCosts).replay (solver.firstWalk p).exchanges ∧
      Tableau.Along (fun u r c => u.move solver.tolerance p.shape.proper = .pivot r c)
        (p.start.repriced p.artificialCosts) (solver.firstWalk p).exchanges :=
  walk_nil_replay _ _ _ _

theorem secondWalk_replay (solver : Solver ℚ) (p : Problem ℚ) (t : Tableau ℚ p.shape)
    (before : Nat) :
    (solver.secondWalk p t before).tableau
        = t.replay (solver.secondWalk p t before).exchanges ∧
      Tableau.Along (fun u r c => u.move solver.tolerance p.shape.proper = .pivot r c) t
        (solver.secondWalk p t before).exchanges :=
  walk_nil_replay _ _ _ _

theorem walksTightly_of_hasScaledEntries (hnonneg : 0 ≤ solver.tolerance)
    (hscaled : p.HasScaledEntries solver.tolerance) : solver.WalksTightly p := by
  refine (solver.secondWalk_replay p p.start 0).2.imp (motive := fun u => u.IsFormOf p.start)
    ?_ ?_ p.isSolved_start.isFormOf
  · intro u r c hform hmove
    exact hform.pivot ((Tableau.isPivot_of_move hmove).entry_ne_zero hnonneg)
  · intro u r c hform hmove
    exact hscaled.isTightest hform (Tableau.isPivot_of_move hmove)

/-- A tight walk stays within the second phase, whatever its tolerance. -/
theorem WalksTightly.isPhase (h : solver.WalksTightly p) (hnonneg : 0 ≤ solver.tolerance) :
    p.IsPhase p.startCosts (solver.secondWalk p p.start 0).tableau := by
  obtain ⟨htableau, hmoves⟩ := solver.secondWalk_replay p p.start 0
  rw [htableau]
  refine (hmoves.and h).replay_induction (motive := fun u => p.IsPhase p.startCosts u) ?_
    p.isPhase_start
  rintro u r c hphase ⟨hmove, htight⟩
  have hpos : 0 < u.entry r c :=
    lt_of_le_of_lt hnonneg (Tableau.isPivot_of_move hmove).lt_entry
  exact hphase.pivot_of_isFeasible hpos.ne'
    ((Tableau.isFeasible_pivot_iff hphase.isFeasible hpos).mpr htight)

/-- **Solutions in standard form are feasible** for every tolerance below one, provided that the
ratio test never passes over the tightest row. It never does if the entries are scaled: if no two
determinants that differ in one column are further apart than the tolerance. -/
theorem solve_standard_isFeasible {solution : Solution ℚ} (hstandard : p.fault? false = none)
    (hnonneg : 0 ≤ solver.tolerance) (hlt : solver.tolerance < 1)
    (htight : solver.WalksTightly p ∨ p.HasScaledEntries solver.tolerance)
    (h : (solver.solve p).result = .ok solution) : p.IsFeasible solution.values := by
  obtain ⟨-, t, before, iterations, hprepare, -, rfl⟩ := solve_eq_ok h
  have hnone : p.shape.artificials = 0 := Problem.artificials_eq_zero hstandard
  rw [solver.prepare_of_artificials_eq_zero p hnone] at hprepare
  obtain ⟨rfl, rfl⟩ := Prod.mk.inj (Except.ok.inj hprepare)
  have hphase := (htight.elim id (walksTightly_of_hasScaledEntries hnonneg)).isPhase hnonneg
  show p.IsFeasible ((solver.secondWalk p p.start 0).tableau.values solver.tolerance)
  rw [Problem.values_eq_point hphase.isFormOf.solved hnonneg hlt]
  exact hphase.isFeasible_vertex (Tableau.isIdle_of_artificials_eq_zero hnone _)

theorem solve_corner_isFeasible : ∃ solution,
    ((standard : Solver ℚ).solve Problem.corner).result = .ok solution ∧
      solution.values = [3, 1] ∧ Problem.corner.IsFeasible solution.values := by
  have hsolve : ((standard : Solver ℚ).solve Problem.corner).result = .ok
      { values := [3, 1]
        objective := 9
        iterations := 2
        rows := [⟨"sum", 4, 0, 3 / 2, true⟩, ⟨"mix", 6, 0, 1 / 2, true⟩] } := by decide +kernel
  have hstandard : Problem.corner.fault? false = none := by decide +kernel
  have hnonneg : (0 : ℚ) ≤ (standard : Solver ℚ).tolerance := by decide +kernel
  have hlt : (standard : Solver ℚ).tolerance < (1 : ℚ) := by decide +kernel
  have hscaled : Problem.corner.HasScaledEntries (standard : Solver ℚ).tolerance :=
    Problem.hasScaledEntries_of_whole (by decide +kernel) (by decide +kernel)
  exact ⟨_, hsolve, rfl, solve_standard_isFeasible hstandard hnonneg hlt (Or.inr hscaled) hsolve⟩

/-- **A row with a tiny coefficient is passed over**, and the solution misses it by far. -/
theorem solve_skewed_not_isFeasible : Problem.skewed.fault? false = none ∧ ∃ solution,
    ((standard : Solver ℚ).solve Problem.skewed).result = .ok solution ∧
      ¬ Problem.skewed.IsFeasibleWithin (1 / 10 ^ 6) solution.values := by
  have hstandard : Problem.skewed.fault? false = none := by decide +kernel
  have hsolve : ((standard : Solver ℚ).solve Problem.skewed).result = .ok
      { values := [10 ^ 10]
        objective := 10 ^ 10
        iterations := 1
        rows := [⟨"fine", 10 ^ 10 / 2 ^ 31, 1 - 10 ^ 10 / 2 ^ 31, 0, false⟩,
          ⟨"coarse", 10 ^ 10, 0, 1, true⟩] } := by decide +kernel
  exact ⟨hstandard, _, hsolve, by decide +kernel⟩

end Solver

end Baggage.LinearProgram
